import IconPress.Files.Path

/-!
# What a file operation can fail with
-/

namespace IconPress

/-- Why the file system refuses an operation. -/
inductive Obstacle where
  | missing
  | denied
  | busy
  | occupied
  | notDirectory
  | isDirectory
  | noSpace
  | readOnly
  | nameTooLong
  | notEmpty
  | tooManyLinks
deriving DecidableEq, Repr

namespace Obstacle

/-- The system's number for an obstacle. -/
def code : Obstacle → Nat
  | missing => 2
  | denied => 13
  | busy => 16
  | occupied => 17
  | notDirectory => 20
  | isDirectory => 21
  | noSpace => 28
  | readOnly => 30
  | nameTooLong => 36
  | notEmpty => 39
  | tooManyLinks => 40

/-- The system's wording for an obstacle. -/
def wording : Obstacle → String
  | missing => "No such file or directory"
  | denied => "Permission denied"
  | busy => "Device or resource busy"
  | occupied => "File exists"
  | notDirectory => "Not a directory"
  | isDirectory => "Is a directory"
  | noSpace => "No space left on device"
  | readOnly => "Read-only file system"
  | nameTooLong => "File name too long"
  | notEmpty => "Directory not empty"
  | tooManyLinks => "Too many levels of symbolic links"

/-- All obstacles, by number. -/
def all : List Obstacle :=
  [missing, denied, busy, occupied, notDirectory, isDirectory, noSpace, readOnly, nameTooLong,
    notEmpty, tooManyLinks]

/-- The obstacle with a number. -/
def ofCode? (code : Nat) : Option Obstacle :=
  all.find? fun obstacle => obstacle.code == code

/--
Obstacles on the way to a path that leave only one answer to the question whether something is
there: nothing is.
-/
def meansAbsent : Obstacle → Bool
  | missing | notDirectory | tooManyLinks => true
  | _ => false

end Obstacle

/-- A failed file operation. -/
inductive DiskError where
  /-- The file system refused, for a path or for a pair of paths. -/
  | refused (obstacle : Obstacle) (path : Path) (target : Option Path)
  /-- The operation failed for a reason known by its text only. -/
  | reported (text : String)
  /-- The path cannot be handed to the file system, because it holds a null character. -/
  | nullInPath
deriving DecidableEq, Repr

namespace DiskError

/-- The wording of a failure. -/
def message : DiskError → String
  | refused obstacle path target =>
    let start := s!"[Errno {obstacle.code}] {obstacle.wording}: {path.quoted}"
    match target with
    | none => start
    | some other => start ++ " -> " ++ other.quoted
  | reported text => text
  | nullInPath => "embedded null byte"

/-- Whether the failure says that a directory on the way is missing. -/
def isMissing : DiskError → Bool
  | refused .missing _ _ => true
  | _ => false

end DiskError
end IconPress
