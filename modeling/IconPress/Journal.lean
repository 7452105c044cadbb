/-!
# The journal

While it works the program notes what it does.  A record has a level, the part of the program it
comes from and a message.

Main definitions:

- `Level`: how much a record matters, and how much a reader asks to see.
- `Record`: one note.
-/

namespace IconPress

/-- A level, under one of its names; two pairs of names stand for the same rank. -/
inductive Level where
  | critical
  | fatal
  | error
  | warn
  | warning
  | info
  | debug
  | notset
deriving DecidableEq, Repr

namespace Level

/-- The name of a level. -/
def name : Level → String
  | critical => "CRITICAL"
  | fatal => "FATAL"
  | error => "ERROR"
  | warn => "WARN"
  | warning => "WARNING"
  | info => "INFO"
  | debug => "DEBUG"
  | notset => "NOTSET"

/-- All levels. -/
def all : List Level :=
  [critical, fatal, error, warn, warning, info, debug, notset]

/-- The level of a name. -/
def ofName? (name : String) : Option Level :=
  all.find? fun level => level.name == name

/-- Greater ranks matter more. -/
def rank : Level → Nat
  | critical | fatal => 50
  | error => 40
  | warn | warning => 30
  | info => 20
  | debug => 10
  | notset => 0

end Level

/-- The parts of the program that note something. -/
inductive Part where
  | header
  | extractor
  | packer
  | pipeline
  | emitter
deriving DecidableEq, Repr

/-- The name under which a part notes. -/
def Part.name : Part → String
  | header => "glyphpack.header"
  | extractor => "glyphpack.extractor"
  | packer => "glyphpack.packer"
  | pipeline => "glyphpack.pipeline"
  | emitter => "glyphpack.emitter"

/-- One note. -/
structure Record where
  level : Level
  part : Part
  message : String
deriving DecidableEq, Repr

namespace Record

/-- The line that shows a record. -/
def line (record : Record) : String :=
  s!"{record.level.name} {record.part.name}: {record.message}"

/-- Whether a reader who asks for records from a level on sees this one. -/
def isShownAt (record : Record) (level : Level) : Bool :=
  level.rank ≤ record.level.rank

end Record
end IconPress
