import IconPress.Settings
import IconPress.Text.Blank
import IconPress.Text.Quoted
import IconPress.Text.Uppercase

/-!
# Where settings come from

A value is taken from a keyword, else from the environment, else from the defaults; then it is
checked and brought into its final form.  All bad values are reported together.

Main definitions:

- `Settings.Sources`: where values come from, and which one counts.
- `Settings.Complaint`: what is wrong with a value.
- `Settings.resolve`: the settings of some sources, or all that is wrong with them.
-/

namespace IconPress
namespace Settings

/-! ## Sources of values -/

/--
A value as it is given: a text, or something else that no choice accepts, such as a number, a truth
value, a list or nothing at all.  Bytes and members of enumerations are left out: they are not texts
and would yet be accepted, as the text that they stand for.
-/
inductive Supplied where
  | text (value : String)
  | other
deriving DecidableEq, Repr

/--
The values given by keyword and those of the environment, each with its name.  A keyword whose name
begins with an underscore is left out: it gives no value but changes where the values come from,
for instance what the names of the environment begin with.
-/
structure Sources where
  keywords : List (String × Supplied)
  environment : List (String × String)
deriving Repr

/--
A name without regard to case.  The Kelvin sign is the one capital outside the ASCII range whose
small letter is in it.
-/
def foldName (name : String) : List Char :=
  name.toList.map fun c => if c = '\u212a' then 'k' else c.toLower

/-- The values listed under a name, in whatever case it is spelled. -/
def valuesNamed {α : Type} (listed : List (String × α)) (name : String) : List α :=
  (listed.filter fun item => foldName item.1 = foldName name).map Prod.snd

/-- The value that a keyword gives: one that is spelled exactly counts before any other. -/
def Sources.keyword? (sources : Sources) (field : Field) : Option Supplied :=
  match sources.keywords.lookup field.name with
  | some value => some value
  | none => (valuesNamed sources.keywords field.name).head?

/-- The value that the environment gives: of several spellings, the last one listed counts. -/
def Sources.variable? (sources : Sources) (field : Field) : Option String :=
  (valuesNamed sources.environment field.environmentName).getLast?

/-- The value that counts for a choice: a keyword, else the environment, else the default. -/
def Sources.supplied (sources : Sources) (field : Field) : Supplied :=
  match sources.keyword? field with
  | some value => value
  | none =>
    match sources.variable? field with
    | some value => .text value
    | none => .text field.standard

/-! ## Checks -/

/-- What is wrong with a value. -/
inductive Complaint where
  /-- It is not a text. -/
  | notText
  /-- It is blank. -/
  | blankPixel
  /-- It does not have exactly one character. -/
  | notOneChar (value : String)
  /-- It is not the name of a level. -/
  | unknownLevel (value : String)
deriving DecidableEq, Repr

/-- The wording of a complaint. -/
def Complaint.message : Complaint → String
  | notText => "Input should be a valid string"
  | blankPixel => "Value error, pixel literal must not be empty"
  | notOneChar value => "Value error, expected exactly one character, got " ++ Text.quote value
  | unknownLevel value => "Value error, unknown log level " ++ Text.quote value

/-- What is wrong with a set of values. -/
inductive Refusal where
  /-- Some values are bad, each with its complaint. -/
  | badFields (complaints : List (Field × Complaint))
  /-- Every value is good, but the two kinds of pixels are written alike. -/
  | sameLiterals
deriving DecidableEq, Repr

/-- The wording of the complaint about two kinds of pixels written alike. -/
def sameLiteralsMessage : String :=
  "Value error, OPAQUE_PIXEL and TRANSPARENT_PIXEL must differ"

/-- Any text is good. -/
def checkText : Supplied → Except Complaint String
  | .text value => .ok value
  | .other => .error .notText

/-- A pixel literal counts without the blanks at its ends and must not be blank. -/
def checkPixel (given : Supplied) : Except Complaint String := do
  let value ← checkText given
  let literal := Text.trim value.toList
  if literal.isEmpty then .error .blankPixel else .ok (String.ofList literal)

/-- A text of one character is good. -/
def checkChar (given : Supplied) : Except Complaint Char := do
  let value ← checkText given
  match value.toList with
  | [c] => .ok c
  | _ => .error (.notOneChar value)

/-- The name of a level counts without the blanks at its ends and in upper case. -/
def checkLevel (given : Supplied) : Except Complaint Level := do
  let value ← checkText given
  let name := String.ofList (Text.upper (Text.trim value.toList))
  match Level.ofName? name with
  | some level => .ok level
  | none => .error (.unknownLevel name)

/-- A value together with others: the complaints about all of them are collected in order. -/
def alongWith {α β : Type} (build : Except (List (Field × Complaint)) (α → β))
    (field : Field) (checked : Except Complaint α) : Except (List (Field × Complaint)) β :=
  match build, checked with
  | .ok f, .ok value => .ok (f value)
  | .ok _, .error complaint => .error [(field, complaint)]
  | .error complaints, .ok _ => .error complaints
  | .error complaints, .error complaint => .error (complaints ++ [(field, complaint)])

/-- The settings of some sources as far as every value is looked at by itself. -/
def collect (sources : Sources) : Except (List (Field × Complaint)) Settings :=
  let supplied := sources.supplied
  alongWith (alongWith (alongWith (alongWith (alongWith (alongWith (alongWith (alongWith (alongWith
    (.ok Settings.mk)
    .inputPath (checkText (supplied .inputPath)))
    .outputDir (checkText (supplied .outputDir)))
    .opaquePixel (checkPixel (supplied .opaquePixel)))
    .clearPixel (checkPixel (supplied .clearPixel)))
    .markerChar (checkChar (supplied .markerChar)))
    .blankChar (checkChar (supplied .blankChar)))
    .borderChar (checkChar (supplied .borderChar)))
    .macroImport (checkText (supplied .macroImport)))
    .logLevel (checkLevel (supplied .logLevel))

/-- The settings of some sources, or what is wrong with them. -/
def resolve (sources : Sources) : Except Refusal Settings :=
  match collect sources with
  | .error complaints => .error (.badFields complaints)
  | .ok settings =>
    if settings.opaquePixel = settings.clearPixel then .error .sameLiterals else .ok settings

/-! ## Wording of a refusal -/

/-- The complaints of a refusal, each with the choice it is about, if it is about one. -/
def Refusal.items : Refusal → List (Option Field × String)
  | badFields complaints => complaints.map fun item => (some item.1, item.2.message)
  | sameLiterals => [(none, sameLiteralsMessage)]

/-- The line that counts the complaints. -/
def Refusal.summary (refusal : Refusal) : String :=
  let count := refusal.items.length
  let word := if count = 1 then "error" else "errors"
  s!"{count} validation {word} for Settings"

/-- The text of a refusal: the count, then each choice with its complaint. -/
def Refusal.message (refusal : Refusal) : String :=
  let lines := refusal.items.flatMap fun item =>
    match item.1 with
    | some field => [field.name, "  " ++ item.2]
    | none => ["  " ++ item.2]
  "\n".intercalate (refusal.summary :: lines)

end Settings
end IconPress
