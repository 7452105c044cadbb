import IconPress.Text.Pieces
import IconPress.Text.Quoted

/-!
# Paths

A path is read once into its parts and compared, shown and extended as such.  Repeated separators
and single dots carry no meaning and are dropped; a double dot does, because the part before it
may be a link.

Main definitions:

- `Path.parse` and `Path.text`: reading and writing.
- `Path.name?`, `Path.stem?`, `Path.suffix`: the last part and its halves.
- `Path.parent`, `Path.withName`, `Path.child`: neighbours of a path.
-/

namespace IconPress

/-- Where a path starts. -/
inductive Anchor where
  /-- At the working directory. -/
  | here
  /-- At the root. -/
  | root
  /-- At the root, spelled with exactly two separators, a spelling that is kept. -/
  | doubleRoot
deriving DecidableEq, Repr

/-- The spelling of a start. -/
def Anchor.text : Anchor → String
  | .here => ""
  | .root => "/"
  | .doubleRoot => "//"

/-- The start that a number of leading separators stands for. -/
def Anchor.ofSeparators : Nat → Anchor
  | 0 => .here
  | 2 => .doubleRoot
  | _ => .root

/-- A path: its start and its parts, none of which is empty, a single dot or holds a separator. -/
structure Path where
  anchor : Anchor
  parts : List String
deriving DecidableEq, Repr

namespace Path

/-- The parts of a path's text that carry meaning. -/
def meaningfulParts (text : List Char) : List String :=
  ((Text.pieces '/' text).map String.ofList).filter fun part => part != "" && part != "."

/-- The path that a text denotes. -/
def parse (text : String) : Path :=
  let chars := text.toList
  ⟨Anchor.ofSeparators (chars.takeWhile (· = '/')).length, meaningfulParts chars⟩

/-- The text of a path; the working directory itself is a single dot. -/
def text (path : Path) : String :=
  match path.anchor, path.parts with
  | .here, [] => "."
  | anchor, parts => anchor.text ++ "/".intercalate parts

/-- The last part. -/
def name? (path : Path) : Option String :=
  path.parts.getLast?

/-- The path without its last part; a path without parts is its own parent. -/
def parent (path : Path) : Path :=
  { path with parts := path.parts.dropLast }

/-- The path of something in this directory. -/
def child (path : Path) (name : String) : Path :=
  { path with parts := path.parts ++ [name] }

/-- The path of something else in the same directory. -/
def withName (path : Path) (name : String) : Path :=
  path.parent.child name

/--
A name cut before its last dot.  A dot at the front or at the end does not count, and without
one that counts the second half is empty.
-/
def splitName (name : List Char) : List Char × List Char :=
  let tail := (name.reverse.takeWhile (· ≠ '.')).reverse
  let stemLength := name.length - tail.length - 1
  if tail.length < name.length && 0 < stemLength && 0 < tail.length then
    (name.take stemLength, name.drop stemLength)
  else
    (name, [])

/-- The last part up to its last dot. -/
def stem (name : String) : String :=
  String.ofList (splitName name.toList).1

/-- The last part from its last dot on. -/
def suffix (name : String) : String :=
  String.ofList (splitName name.toList).2

/-- Whether a null character occurs, which no file system accepts in a name. -/
def hasNull (path : Path) : Bool :=
  path.parts.any fun part => part.toList.contains '\x00'

/-- The path as a message quotes it. -/
def quoted (path : Path) : String :=
  Text.quote path.text

end Path
end IconPress
