import IconPress.Command
import Std.Time.DateTime

/-!
# The executable

The command on the machine that it is started on.
-/

namespace IconPress
namespace Executable

/-- Programs with effects that show records from a level on. -/
abbrev Shell :=
  ReaderT Level IO

/-- The number that an error carries, where it carries one. -/
def rawCode? : IO.Error → Option UInt32
  | .alreadyExists _ code _ | .interrupted _ code _ | .noFileOrDirectory _ code _
  | .invalidArgument _ code _ | .permissionDenied _ code _ | .resourceExhausted _ code _
  | .inappropriateType _ code _ | .noSuchThing _ code _ => some code
  | .otherError code _ | .resourceBusy code _ | .resourceVanished code _
  | .unsupportedOperation code _ | .hardwareFault code _ | .unsatisfiedConstraints code _
  | .illegalOperation code _ | .protocolError code _ | .timeExpired code _ => some code
  | .unexpectedEof | .userError _ => none

/-- The system's number for an error; some operations give it with the opposite sign. -/
def systemCode? (error : IO.Error) : Option Nat :=
  (rawCode? error).map fun code => min code.toNat (0 - code).toNat

/-- A failed operation on a path, or from one path to another. -/
def diskError (path : Path) (target : Option Path) (error : IO.Error) : DiskError :=
  match (systemCode? error).bind Obstacle.ofCode? with
  | some obstacle => .refused obstacle path target
  | none => .reported (toString error)

/-- The result of an operation on a path that holds no null character. -/
def attempt {α : Type} (path : Path) (target : Option Path) (operation : IO α) :
    Shell (Except DiskError α) := do
  if path.hasNull || target.any Path.hasNull then
    return .error .nullInPath
  else
    try
      return .ok (← operation)
    catch error =>
      return .error (diskError path target error)

/-- What is known about the thing that a path leads to, if it leads to something. -/
def look {α : Type} (path : Path) (absent : α) (known : IO.FS.Metadata → α) :
    Shell (Except DiskError α) := do
  if path.hasNull then
    return .ok absent
  else
    match ← attempt path none (System.mkFilePath [path.text]).metadata with
    | .ok metadata => return .ok (known metadata)
    | .error (.refused obstacle refused target) =>
      if obstacle.meansAbsent then return .ok absent
      else return .error (.refused obstacle refused target)
    | .error cause => return .error cause

instance : Host Shell where
  note record := do
    if record.isShownAt (← read) then
      IO.eprintln record.line
  read path := do
    let bytes ← attempt path none (IO.FS.readBinFile path.text)
    return bytes.map fun content => content.data.toList
  present path := look path false fun _ => true
  isDirectory path := look path false fun metadata => metadata.type == .dir
  makeDirectory path := attempt path none (IO.FS.createDir path.text)
  rename path newName :=
    let target := path.withName newName
    attempt path (some target) (IO.FS.rename path.text target.text)
  writeNew path text := do
    match ← attempt path none (IO.FS.Handle.mk path.text .writeNew) with
    | .error cause => return .refused cause
    | .ok handle =>
      match ← attempt path none (do handle.putStr text; handle.flush) with
      | .error cause => return .cutShort cause
      | .ok () => return .complete
  remove path := attempt path none (IO.FS.removeFile path.text)

/-- The current time, in UTC. -/
def currentInstant : IO Instant := do
  let clock ← Std.Time.Timestamp.now
  let wall := Std.Time.Timestamp.toWallTime clock Std.Time.TimeZone.UTC.offset
  let now := Std.Time.PlainDateTime.ofWallTime wall
  return {
    year := now.year.toInt.toNat
    month := now.month.val.toNat
    day := now.day.val.toNat
    hour := now.hour.val.toNat
    minute := now.minute.val.toNat
    second := now.second.val.toNat }

/-- The variable that a line of the process environment sets. -/
def variableOf (line : List Char) : String × String :=
  (String.ofList (line.takeWhile (· ≠ '=')), String.ofList ((line.dropWhile (· ≠ '=')).drop 1))

/-- The environment of the process, or nothing where the system does not list it. -/
def currentEnvironment : IO (List (String × String)) := do
  try
    let bytes ← IO.FS.readBinFile "/proc/self/environ"
    match Text.Utf8.decode bytes.data.toList with
    | .ok chars => return (Text.pieces '\x00' chars).map variableOf
    | .error _ => return []
  catch _ =>
    return []

/-- Print an answer; the result is the exit code. -/
def deliver (answer : Command.Answer) : IO UInt32 := do
  IO.print answer.stdout
  IO.eprint answer.stderr
  match answer.exit with
  | .ok code => return code.toUInt32
  | .error failure => do
    IO.eprintln failure.message
    return 1

/-- A call of the command. -/
def start (arguments : List String) : IO UInt32 := do
  match Command.prepare arguments (← currentEnvironment) with
  | .error complaint => deliver (Command.reject complaint)
  | .ok settings =>
    let run : ExceptT Failure Shell Document := produce settings none (← currentInstant)
    deliver (Command.conclude (← run.run settings.logLevel))

end Executable
end IconPress

/-- The entry point. -/
def main (arguments : List String) : IO UInt32 :=
  IconPress.Executable.start arguments
