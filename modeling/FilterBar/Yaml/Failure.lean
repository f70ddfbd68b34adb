import FilterBar.Fault

/-!
# Failures of reading a document

Reading a document fails by an error if the text is no document, or no document of values. It may
also come across a fault, which is not about documents at all.
-/

namespace FilterBar.Yaml

inductive Error where
  | unprintable (c : Char)
  /-- No token begins with this character. -/
  | noToken (c : Char)
  | openQuotation
  | unknownEscape
  | markInQuotation
  /-- A mark of a collection stands where its line allows none. -/
  | misplacedMark (mark : Char)
  /-- A line that has to be a key has no colon. -/
  | missingColon
  /-- An anchor or an alias without a name, or with more than a name. -/
  | badAnchor
  | badTag
  | badDirective
  /-- What stands after the mark of a block scalar is no header of one. -/
  | badHeader
  | unexpectedToken
  | unexpectedEnd
  | unknownAlias (name : Text)
  | repeatedAnchor (name : Text)
  | unknownHandle (handle : Text)
  | unknownTag
  /-- A value is not of the kind that its tag says. -/
  | unfitTag
  /-- What is merged into a mapping is no mapping. -/
  | badMerge
  | badBase64
  | unfitKey
  | secondDocument
deriving DecidableEq

def Error.message : Error → Text
  | unprintable _ => "the text holds a character that cannot be printed"
  | noToken c => "no token begins with " ++ [c]
  | openQuotation => "a quotation is left open"
  | unknownEscape => "unknown escape in a quotation"
  | markInQuotation => "a document mark stands in a quotation"
  | misplacedMark mark => [mark] ++ " is not allowed here"
  | missingColon => "a key has no colon after it"
  | badAnchor => "an anchor or an alias needs a name"
  | badTag => "a tag is not complete"
  | badDirective => "a directive is not complete"
  | badHeader => "a block scalar has an unknown header"
  | unexpectedToken => "a value or the end of a collection was expected"
  | unexpectedEnd => "the document ends too early"
  | unknownAlias name => "no anchor has the name " ++ name
  | repeatedAnchor name => "two anchors have the name " ++ name
  | unknownHandle handle => "the tag handle is not declared: " ++ handle
  | unknownTag => "a tag is not known"
  | unfitTag => "a value does not fit its tag"
  | badMerge => "only mappings can be merged into a mapping"
  | badBase64 => "a text in base 64 is not complete"
  | unfitKey => "a collection cannot be a key"
  | secondDocument => "there is more than one document"

inductive Failure where
  | error (e : Error)
  | fault (f : Fault)
deriving DecidableEq

abbrev Result := Except Failure

def refuse {α : Type} (e : Error) : Result α := .error (.error e)

end FilterBar.Yaml
