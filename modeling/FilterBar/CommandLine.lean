import FilterBar.Fault
import FilterBar.Text.Numeral

/-!
# Command lines

An option has a long name with two dashes and may have a letter with one. It takes a value or
none. A long name may be shortened as long as it stays unique, and takes its value after an equals
sign or from the next argument. A letter takes its value from the rest of its argument or from the
next one, and letters without a value may be run together. Nothing else is expected on a command
line.

- `shapeOf`: what an argument is, by itself.
- `read`: the options of a command line with their values.
-/

namespace FilterBar.CommandLine

structure Spec where
  letter : Option Char := none
  name : Text
  takesValue : Bool
deriving DecidableEq

/-- The option that asks for help and ends the program. -/
def help : Spec := ⟨some 'h', "help", false⟩

/-- Why a command line ends the program. -/
inductive Exit where
  | help
  | usage
deriving DecidableEq

def Exit.code : Exit → Nat
  | .help => 0
  | .usage => 2

/-! ## Arguments by themselves -/

inductive Attachment where
  | nothing
  | joined (t : Text)
  | afterEquals (t : Text)
deriving DecidableEq

/-- An option as an argument names it. -/
structure Use where
  spec : Spec
  /-- Whether it is named by its letter. -/
  byLetter : Bool
  attached : Attachment
deriving DecidableEq

inductive Shape where
  | operand
  | option (u : Use)
  | unknownOption
deriving DecidableEq

def Spec.isLetter (s : Spec) (t : Text) : Bool :=
  match s.letter with
  | some c => t == ['-', c]
  | none => false

def Spec.written (s : Spec) : Text := "--" ++ s.name

def named? (specs : List Spec) (t : Text) (attached : Attachment) : Option Use :=
  match specs.find? (·.isLetter t) with
  | some s => some ⟨s, true, attached⟩
  | none => (specs.find? fun s => s.written == t).map fun s => ⟨s, false, attached⟩

/-- Whether an argument that begins with a dash is a number. A line feed at its end does not
matter. -/
def isNegativeNumber (t : Text) : Bool :=
  let isDigit (c : Char) := (Text.digitValue? c).isSome
  match if t.getLast? = some '\n' then t.dropLast else t with
  | '-' :: r =>
    let fraction := (r.dropWhile isDigit).drop 1
    (!r.isEmpty && r.all isDigit) ||
      ((r.dropWhile isDigit).head? == some '.' && !fraction.isEmpty && fraction.all isDigit)
  | _ => false

/-- The options that a shortened name could stand for, or that begin with a letter. -/
def approximate (specs : List Spec) (t : Text) : List Use :=
  match t with
  | '-' :: '-' :: _ =>
    let (stem, attached) := match Text.cut? '=' t with
      | some (a, b) => (a, Attachment.afterEquals b)
      | none => (t, .nothing)
    (specs.filter fun s => stem.isPrefixOf s.written).map fun s => ⟨s, false, attached⟩
  | '-' :: c :: r =>
    (specs.filter fun s => s.letter == some c).map fun s => ⟨s, true, .joined r⟩
  | _ => []

/-- What an argument is. A shortened name that could stand for several options is a mistake. -/
def shapeOf (specs : List Spec) (t : Text) : Except Exit Shape :=
  if t.head? ≠ some '-' then .ok .operand
  else match named? specs t .nothing with
    | some u => .ok (.option u)
    | none =>
      if t.length = 1 then .ok .operand
      else match (Text.cut? '=' t).bind fun (a, b) => named? specs a (.afterEquals b) with
        | some u => .ok (.option u)
        | none =>
          match approximate specs t with
          | _ :: _ :: _ => .error .usage
          | [u] => .ok (.option u)
          | [] =>
            if isNegativeNumber t || t.contains ' ' then .ok .operand else .ok .unknownOption

/-- The arguments with their shapes. After two dashes no argument is an option. -/
def shapes (specs : List Spec) : List Text → Except Exit (List (Text × Shape))
  | [] => .ok []
  | t :: ts =>
    if t = "--" then .ok ((t, .unknownOption) :: ts.map fun t => (t, .operand))
    else do
      let s ← shapeOf specs t
      let rest ← shapes specs ts
      .ok ((t, s) :: rest)

/-! ## Options with their values -/

/-- The options that were given, by name and with their values. -/
abbrev Given := List (Text × Text)

/-- What an argument, together with those after it, gives. -/
structure Taken where
  given : Given
  rest : List (Text × Shape)

/-- An option without anything after its name in its own argument. -/
def separate (s : Spec) (rest : List (Text × Shape)) : Except Exit Taken :=
  if !s.takesValue then .ok { given := [(s.name, [])], rest := rest }
  else match rest with
    | (t, .operand) :: rest => .ok { given := [(s.name, t)], rest := rest }
    | _ => .error .usage

/-- An option with text after its name in its own argument. The text is its value, or else letters
that are run together with its own, the first of which may stand after an equals sign. -/
def joined (specs : List Spec) (s : Spec) (byLetter : Bool) (rest : List (Text × Shape)) :
    Text → Except Exit Taken
  | [] =>
    if s.takesValue then .ok { given := [(s.name, [])], rest := rest } else .error .usage
  | c :: r =>
    if s.takesValue then .ok { given := [(s.name, c :: r)], rest := rest }
    else if !byLetter then .error .usage
    else match specs.find? fun s => s.letter == some c with
      | none => .error .usage
      | some next => do
        let more ← if r.isEmpty then separate next rest else joined specs next true rest r
        .ok { more with given := (s.name, []) :: more.given }

def Use.take (specs : List Spec) (u : Use) (rest : List (Text × Shape)) : Except Exit Taken :=
  match u.attached with
  | .nothing => separate u.spec rest
  | .joined t | .afterEquals t => joined specs u.spec u.byLetter rest t

/-- Reads the arguments in order. Help ends the reading where it is asked for; what is left over is
a mistake only at the end. -/
def readShapes (specs : List Spec) (leftOver : Bool) :
    Nat → List (Text × Shape) → Except Exit Given
  | 0, _ => .error .usage
  | _ + 1, [] => if leftOver then .error .usage else .ok []
  | fuel + 1, (_, .option u) :: rest => do
    let taken ← u.take specs rest
    if taken.given.any fun g => g.1 == help.name then .error .help
    else
      let more ← readShapes specs leftOver fuel taken.rest
      .ok (taken.given ++ more)
  | fuel + 1, _ :: rest => readShapes specs true fuel rest

def read (specs : List Spec) (args : List Text) : Except Exit Given := do
  let ss ← shapes specs args
  readShapes specs false (ss.length + 1) ss

/-- The value of an option. The last one that was given counts. -/
def Given.last? (g : Given) (name : Text) : Option Text := List.lookup name g.reverse

/-- The value of an option that cannot do without one. Two dashes are no value. -/
def Given.value? (g : Given) (name : Text) : Except Fault (Option Text) :=
  match g.last? name with
  | some ['-', '-'] => .error (.missingValue name)
  | value => .ok value

def Given.has (g : Given) (name : Text) : Bool := (g.last? name).isSome

/-! ## Help -/

def Spec.line (s : Spec) : Text :=
  let letter : Text := match s.letter with
    | some c => ['-', c, ',', ' ']
    | none => []
  "  " ++ letter ++ s.written ++ (if s.takesValue then " VALUE" else "" : Text)

def usage (program : Text) (specs : List Spec) : List Text :=
  ("usage: " ++ program ++ " [OPTION]...") :: specs.map Spec.line

end FilterBar.CommandLine
