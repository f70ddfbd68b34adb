import FilterBar.Fault

/-!
# Paths and files

A disk is a snapshot of the files that a program may read. Looking a path up walks it step by
step, as a file system does: every step but the last has to be a directory, and neither a name nor
the whole path may be too long. A path that holds a zero character is not even looked up.

- `Path`: the names of a path, without the steps that stay where they are.
- `Disk.locate`: where a path leads.
- `Disk.has`, `Disk.read`, `Disk.openLog`: looking for a file, reading one, opening one to append
  to it.
-/

namespace FilterBar

/-- The name that bytes stand for. Where they are no UTF-8, each byte beyond ASCII stands for the
replacement character. -/
def Text.ofBytes (bs : List UInt8) : Text :=
  match String.fromUTF8? ⟨bs.toArray⟩ with
  | some s => s.toList
  | none => bs.map fun b => if b < 0x80 then Char.ofNat b.toNat else '\uFFFD'

/-! ## Paths -/

/-- A path. The root is empty if the path starts at the working directory. -/
structure Path where
  root : Text := []
  names : List Text
deriving DecidableEq

namespace Path

/-- Reads a path. Empty steps and single points stay where they are and are dropped. Two slashes
at the beginning are a root of their own; any other number of them counts as one. -/
def ofText (t : Text) : Path :=
  let slashes := (t.takeWhile (· == '/')).length
  { root := if slashes = 0 then [] else if slashes = 2 then "//" else "/"
    names := (Text.splitAll '/' t).filter fun n => n ≠ [] ∧ n ≠ "." }

def text (p : Path) : Text :=
  if p.root.isEmpty && p.names.isEmpty then "." else p.root ++ Text.joinWith "/" p.names

def isAbsolute (p : Path) : Bool := !p.root.isEmpty

/-- Whether a path can be looked up at all. -/
def holdsZero (p : Path) : Bool := p.names.any fun n => n.contains '\x00'

/-- The names from the root on, with each step up taken back against the name before it. -/
def normalize (names : List Text) : List Text :=
  names.foldl (fun (up : List Text) (n : Text) => if n = ".." then up.dropLast else up ++ [n]) []

/-- The path seen from a directory, without steps up. -/
def absolute (p directory : Path) : Path :=
  if p.isAbsolute then { p with names := normalize p.names }
  else { directory with names := normalize (directory.names ++ p.names) }

end Path

/-! ## Disks -/

/-- Why a path cannot be opened. -/
inductive OpenFailure where
  | notFound
  | notADirectory
  | isADirectory
  | nameTooLong
deriving DecidableEq

/-- A failure as the system words it, with the path that was asked for. -/
def OpenFailure.message (path : Text) : OpenFailure → Text
  | .notFound => "[Errno 2] No such file or directory: " ++ path
  | .notADirectory => "[Errno 20] Not a directory: " ++ path
  | .isADirectory => "[Errno 21] Is a directory: " ++ path
  | .nameTooLong => "[Errno 36] File name too long: " ++ path

abbrev Location := List Text

structure Disk where
  workingDirectory : Path
  files : List (Location × Text) := []
  /-- Directories other than those that files are in. -/
  directories : List Location := []

namespace Disk

def file? (d : Disk) (l : Location) : Option Text := d.files.lookup l

/-- Whether something is in the directory, or it is listed itself. -/
def isDirectory (d : Disk) (l : Location) : Bool :=
  l.isEmpty || l.isPrefixOf d.workingDirectory.names || d.directories.any l.isPrefixOf ||
    d.files.any fun f => l.isPrefixOf f.1 && f.1 != l

def byteLength (t : Text) : Nat := t.foldl (fun n c => n + c.utf8Size) 0

def longestName : Nat := 255

def longestPath : Nat := 4095

/-- Where names lead from a location. The last one need not exist. -/
def walk (d : Disk) (l : Location) : List Text → Except OpenFailure Location
  | [] => .ok l
  | n :: ns =>
    if d.isDirectory l then
      if longestName < byteLength n then .error .nameTooLong
      else d.walk (if n = ".." then l.dropLast else l ++ [n]) ns
    else .error (if (d.file? l).isSome then .notADirectory else .notFound)

def locate (d : Disk) (p : Path) : Except OpenFailure Location :=
  if longestPath < byteLength p.text then .error .nameTooLong
  else d.walk (if p.isAbsolute then [] else d.workingDirectory.names) p.names

def has (d : Disk) (p : Path) : Except Fault Bool :=
  if p.holdsZero then .ok false
  else match d.locate p with
    | .ok l => .ok (d.isDirectory l || (d.file? l).isSome)
    | .error .nameTooLong => .error (.pathTooLong p.text)
    | .error _ => .ok false

/-- Every line break as a line feed: a carriage return counts as one, alone or before a line
feed. -/
def unifyBreaks : Text → Text
  | [] => []
  | '\r' :: '\n' :: r => '\n' :: unifyBreaks r
  | c :: r => (if c == '\r' then '\n' else c) :: unifyBreaks r

def read (d : Disk) (p : Path) : Except OpenFailure Text := do
  let l ← d.locate p
  match d.file? l with
  | some t => .ok (unifyBreaks t)
  | none => .error (if d.isDirectory l then .isADirectory else .notFound)

/-- Opens a file to append to it. A file that is not there is created. -/
def openLog (d : Disk) (p : Path) : Except OpenFailure (Location × Disk) := do
  let l ← d.locate p
  if d.isDirectory l then .error .isADirectory
  else if (d.file? l).isSome then .ok (l, d)
  else .ok (l, { d with files := d.files ++ [(l, [])] })

/-- Appends to a file that is there. -/
def append (d : Disk) (l : Location) (t : Text) : Disk :=
  { d with files := d.files.map fun f => if f.1 = l then (l, f.2 ++ t) else f }

end Disk

end FilterBar
