import IconPress.Files.Machine
import IconPress.Session
import IconPress.Settings.Resolve

/-!
# The command

The command takes a path to read and a directory to write to, both optional.  It exits with 2 when
it is called wrongly, with 1 when the run fails in a foreseen way, and with 0 otherwise.

Main definitions:

- `Command.prepare`: the settings of a call, or the answer to a wrong one.
- `Command.conclude`: the answer to a run.
- `Command.execute`: a whole call on a machine in memory.
-/

namespace IconPress
namespace Command

/-- What a call answers: how it exits and what it prints. -/
structure Answer where
  /-- The exit code, or the failure that nobody foresaw. -/
  exit : Except Failure Nat
  stdout : String
  stderr : String

/-- A text in the colour of success. -/
def inGreen (text : String) : String :=
  "\x1b[92m" ++ text ++ "\x1b[0m"

/-- A text in the colour of failure. -/
def inRed (text : String) : String :=
  "\x1b[91m" ++ text ++ "\x1b[0m"

/-- How the command is called. -/
def usage : String :=
  "Usage: glyphpack [INPUT [OUTPUT_DIR]]"

/-- The settings that arguments stand for. -/
def keywords : List String → Option (List (String × Settings.Supplied))
  | [] => some []
  | [input] => some [(Settings.Field.name .inputPath, .text input)]
  | [input, output] =>
    some [(Settings.Field.name .inputPath, .text input),
      (Settings.Field.name .outputDir, .text output)]
  | _ => none

/-- The settings of a call, or the complaint about it. -/
def prepare (arguments : List String) (environment : List (String × String)) :
    Except String Settings :=
  match keywords arguments with
  | none => .error usage
  | some given =>
    match Settings.resolve ⟨given, environment⟩ with
    | .ok settings => .ok settings
    | .error refusal => .error (inRed ("Invalid settings: " ++ refusal.message))

/-- The answer to a wrong call. -/
def reject (complaint : String) : Answer :=
  ⟨.ok 2, "", complaint ++ "\n"⟩

/-- The answer to a run, apart from its records. -/
def conclude : Except Failure Document → Answer
  | .ok document =>
    ⟨.ok 0, inGreen s!"{document.structName} -> {document.path.text}" ++ "\n", ""⟩
  | .error failure =>
    match failure.kind? with
    | some kind => ⟨.ok 1, "", inRed s!"{kind.name}: {failure.message}" ++ "\n"⟩
    | none => ⟨.error failure, "", ""⟩

/-- The lines of the records that are shown from a level on. -/
def shownRecords (level : Level) (journal : List Record) : String :=
  String.join ((journal.filter (·.isShownAt level)).map fun record => record.line ++ "\n")

/-- A call on a machine in memory, whose records so far are not part of the answer. -/
def execute (machine : Machine) (arguments : List String)
    (environment : List (String × String)) (now : Instant) : Answer × Machine :=
  match prepare arguments environment with
  | .error complaint => (reject complaint, machine)
  | .ok settings =>
    let started := { machine with journal := [] }
    let (result, ended) := started.run (produce settings machine.faults.preview now)
    let answer := conclude result
    ({ answer with stderr := shownRecords settings.logLevel ended.journal ++ answer.stderr },
      { ended with journal := machine.journal ++ ended.journal })

end Command
end IconPress
