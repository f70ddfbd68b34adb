import FilterBar.Query.Filter

/-!
# The canonical form of a token

Two spellings of one filter have the same canonical form: the key in lower case and under its
listed name, the value without quotes.
-/

namespace FilterBar.Query

/-- The listed name of a lower-case key. Without a sign `source` is a key of its own. -/
def listedKey (sign : Option Sign) (key : Text) : Text :=
  if key = "id" then "node"
  else if key = "source" then if sign.isSome then "location" else key
  else if key = "subgraph" then "focus"
  else key

def canonical (token : Text) : Text :=
  let (sign, body) := Sign.split token
  match Text.cut? ':' body with
  | none => token
  | some (key, written) =>
    Sign.written sign ++ listedKey sign (Text.lower key) ++ ":" ++ unquote written

end FilterBar.Query
