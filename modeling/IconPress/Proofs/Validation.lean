import IconPress.Proofs.DeclarationLines
import IconPress.Proofs.Outcomes
import IconPress.Proofs.Settings
import IconPress.Proofs.Sources

/-!
# Validation of settings

Every choice asks something of its raw value and has a form in which the value counts.  This module
states these demands apart from the checks, and shows that the checks are exactly that: settings
come out if and only if all raw values suit and the pixel literals differ, in their final form, and
otherwise every value that does not suit is reported, in order.

Main definitions:

- `Settings.Field.Suits`: what a choice asks of its raw value.
- `Settings.Field.normalize`: the form in which a text counts.
- `Settings.Sources.badFields`: the choices whose raw values do not suit.
- `Settings.Reports`: a collection that fails with all complaints so far.

Main results:

- `Settings.Field.check_of_suits` and `Settings.Field.check_of_not_suits`: each check is exact.
- `Settings.reports_collect`: all complaints are collected, in order.
- `Settings.resolve_keywords`: settings that are given as keywords come out again.
- `Settings.resolve_exact`: the settings of some sources, or what is wrong with these.
-/

namespace IconPress
namespace Settings

/-! ## What choices ask for -/

namespace Field

/-- All choices, in their order. -/
def all : List Field :=
  [inputPath, outputDir, opaquePixel, clearPixel, markerChar, blankChar, borderChar, macroImport,
    logLevel]

theorem mem_all (field : Field) : field ∈ all := by
  cases field <;> decide

/-- The form in which a text for a choice counts. -/
def normalize (field : Field) (text : String) : String :=
  match field with
  | opaquePixel | clearPixel => String.ofList (Text.trim text.toList)
  | logLevel => String.ofList (Text.upper (Text.trim text.toList))
  | inputPath | outputDir | markerChar | blankChar | borderChar | macroImport => text

/-- What a choice asks of its raw value: a text, and of some choices not any text. -/
def Suits (field : Field) : Supplied → Prop
  | .other => False
  | .text text =>
    match field with
    | opaquePixel | clearPixel => ∃ c ∈ text.toList, Text.isBlank c = false
    | markerChar | blankChar | borderChar => text.length = 1
    | logLevel => ∃ level ∈ Level.all, level.name = field.normalize text
    | inputPath | outputDir | macroImport => True

instance (field : Field) (given : Supplied) : Decidable (field.Suits given) :=
  match given with
  | .other => inferInstanceAs (Decidable False)
  | .text text =>
    match field with
    | opaquePixel | clearPixel => List.decidableBEx (Text.isBlank · = false) text.toList
    | markerChar | blankChar | borderChar => inferInstanceAs (Decidable (text.length = 1))
    | logLevel => List.decidableBEx (Level.name · = logLevel.normalize text) Level.all
    | inputPath | outputDir | macroImport => inferInstanceAs (Decidable True)

/-- What is wrong with a raw value that does not suit.  Paths and imports may be any texts. -/
def complaint (field : Field) : Supplied → Complaint
  | .other => .notText
  | .text text =>
    match field with
    | opaquePixel | clearPixel => .blankPixel
    | markerChar | blankChar | borderChar => .notOneChar text
    | logLevel => .unknownLevel (field.normalize text)
    | inputPath | outputDir | macroImport => .notText

/-- The check of a choice, its result written as a text. -/
def check : Field → Supplied → Except Complaint String
  | inputPath | outputDir | macroImport => checkText
  | opaquePixel | clearPixel => checkPixel
  | markerChar | blankChar | borderChar => fun given => (checkChar given).map Char.toString
  | logLevel => fun given => (checkLevel given).map Level.name

end Field

/-- The value of a choice in some settings, written as a text. -/
def value (settings : Settings) : Field → String
  | .inputPath => settings.inputPath
  | .outputDir => settings.outputDir
  | .opaquePixel => settings.opaquePixel
  | .clearPixel => settings.clearPixel
  | .markerChar => settings.markerChar.toString
  | .blankChar => settings.blankChar.toString
  | .borderChar => settings.borderChar.toString
  | .macroImport => settings.macroImport
  | .logLevel => settings.logLevel.name

/-! ## Each check -/

section Checks

variable {field : Field} {given : Supplied} {text : String}

theorem checkPixel_of_suits (h : ∃ c ∈ text.toList, Text.isBlank c = false) :
    checkPixel (.text text) = .ok (String.ofList (Text.trim text.toList)) := by
  refine checkPixel_eq_ok_iff.2 ⟨by simp, ?_⟩
  rcases h with ⟨c, hc, hblank⟩
  rw [Ne, String.ofList_eq_empty_iff, trim_eq_nil_iff]
  intro hall
  simp [hall c hc] at hblank

theorem checkPixel_of_not_suits (h : ¬∃ c ∈ text.toList, Text.isBlank c = false) :
    checkPixel (.text text) = .error .blankPixel := by
  have hnone : Text.trim text.toList = [] := trim_eq_nil_iff.2 (by simpa using h)
  simp [checkPixel, checkText, bind, Except.bind, hnone]

theorem checkChar_of_suits (h : text.length = 1) :
    (checkChar (.text text)).map Char.toString = .ok text := by
  rw [← String.length_toList, List.length_eq_one_iff] at h
  rcases h with ⟨c, hc⟩
  rw [checkChar_eq_ok_iff.2 hc]
  exact congrArg _ (String.toList_inj.1 (by simp [hc]))

theorem checkChar_of_not_suits (h : text.length ≠ 1) :
    (checkChar (.text text)).map Char.toString = .error (.notOneChar text) := by
  have hmany : ∀ c, text.toList = [c] → False := by
    intro c hc
    rw [← String.length_toList, hc] at h
    exact h rfl
  rw [map_eq_error_iff]
  -- By `hmany` the text falls to the second case of the check.
  simp only [checkChar, checkText, bind, Except.bind]

theorem checkLevel_of_suits (h : ∃ level ∈ Level.all, level.name = Field.logLevel.normalize text) :
    (checkLevel (.text text)).map Level.name = .ok (Field.logLevel.normalize text) := by
  rcases h with ⟨level, -, hname⟩
  have hlevel : checkLevel (.text text) = .ok level :=
    checkLevel_eq_ok_iff.2 (by simp [hname, Field.normalize])
  rw [hlevel, ← hname]
  rfl

theorem checkLevel_of_not_suits
    (h : ¬∃ level ∈ Level.all, level.name = Field.logLevel.normalize text) :
    (checkLevel (.text text)).map Level.name =
      .error (.unknownLevel (Field.logLevel.normalize text)) := by
  have hnone : Level.ofName? (Field.logLevel.normalize text) = none := by
    simpa [Level.ofName?] using h
  rw [Field.normalize] at hnone
  rw [map_eq_error_iff]
  simp only [checkLevel, checkText, bind, Except.bind, hnone]
  rfl

namespace Field

/-- A text that suits passes its check in the form in which it counts. -/
theorem check_of_suits (h : field.Suits (.text text)) :
    field.check (.text text) = .ok (field.normalize text) := by
  cases field with
  | inputPath | outputDir | macroImport => rfl
  | opaquePixel | clearPixel =>
      rw [check, normalize]
      exact checkPixel_of_suits h
  | markerChar | blankChar | borderChar =>
      rw [check, normalize]
      exact checkChar_of_suits h
  | logLevel =>
      rw [check]
      exact checkLevel_of_suits h

/-- A value that does not suit is reported. -/
theorem check_of_not_suits (h : ¬field.Suits given) :
    field.check given = .error (field.complaint given) := by
  cases given with
  | other => cases field <;> rfl
  | text text =>
      cases field with
      | inputPath | outputDir | macroImport => exact absurd trivial h
      | opaquePixel | clearPixel =>
          rw [check, complaint]
          exact checkPixel_of_not_suits h
      | markerChar | blankChar | borderChar =>
          rw [check, complaint]
          exact checkChar_of_not_suits h
      | logLevel =>
          rw [check, complaint]
          exact checkLevel_of_not_suits h

/-- Only texts suit. -/
theorem Suits.exists_text (h : field.Suits given) : ∃ text, given = .text text := by
  cases given with
  | other => exact absurd h id
  | text text => exact ⟨text, rfl⟩

/-- What passes a check is a text that suits, in the form in which it counts. -/
theorem exists_text_of_check {final : String} (h : field.check given = .ok final) :
    field.Suits given ∧ ∃ text, given = .text text ∧ final = field.normalize text := by
  by_cases hsuits : field.Suits given
  · rcases hsuits.exists_text with ⟨text, rfl⟩
    rw [check_of_suits hsuits, Except.ok.injEq] at h
    exact ⟨hsuits, text, rfl, h.symm⟩
  · rw [check_of_not_suits hsuits] at h
    simp at h

/-- A text that suits passes its check unchanged when it is given in its final form. -/
theorem check_normalize (h : field.Suits (.text text)) :
    field.check (.text (field.normalize text)) = .ok (field.normalize text) := by
  cases field with
  | inputPath | outputDir | macroImport => rfl
  | markerChar | blankChar | borderChar => exact checkChar_of_suits h
  | opaquePixel | clearPixel =>
      have hpasses := checkPixel_eq_ok_iff.1 (checkPixel_of_suits h)
      refine checkPixel_eq_ok_iff.2 ⟨?_, hpasses.2⟩
      rw [normalize, String.toList_ofList, trim_trim]
  | logLevel =>
      rcases h with ⟨level, hlevel, hname⟩
      have hsame : logLevel.normalize level.name = level.name := by cases level <;> rfl
      rw [← hname]
      exact (checkLevel_of_suits ⟨level, hlevel, hsame.symm⟩).trans (congrArg _ hsame)

end Field
end Checks

/-! ## All checks together -/

/-- A collection ends in a value when there are no complaints, and otherwise with all of these. -/
def Reports {α : Type} (complaints : List (Field × Complaint)) :
    Except (List (Field × Complaint)) α → Prop
  | .ok _ => complaints = []
  | .error reported => reported = complaints ∧ complaints ≠ []

/-- The complaint about a checked value, if there is one. -/
def complaintsAbout {α : Type} (field : Field) : Except Complaint α → List (Field × Complaint)
  | .ok _ => []
  | .error complaint => [(field, complaint)]

/-- The choices whose raw values do not suit, in order. -/
def Sources.badFields (sources : Sources) : List Field :=
  Field.all.filter fun field => ¬field.Suits (sources.supplied field)

/-- What is wrong with the raw values, each by itself. -/
def Sources.complaints (sources : Sources) : List (Field × Complaint) :=
  sources.badFields.map fun field => (field, field.complaint (sources.supplied field))

section Collection

variable {sources : Sources} {settings : Settings}

theorem complaintsAbout_map {α β : Type} (field : Field) (checked : Except Complaint α)
    (change : α → β) :
    complaintsAbout field (checked.map change) = complaintsAbout field checked := by
  cases checked <;> rfl

/-- One more value adds what is wrong with it. -/
theorem Reports.alongWith {α β : Type} {complaints : List (Field × Complaint)}
    {build : Except (List (Field × Complaint)) (α → β)} (h : Reports complaints build)
    (field : Field) (checked : Except Complaint α) :
    Reports (complaints ++ complaintsAbout field checked)
      (Settings.alongWith build field checked) := by
  cases build with
  | ok f =>
      have hnone : complaints = [] := h
      cases checked with
      | ok value => simp [Settings.alongWith, Reports, complaintsAbout, hnone]
      | error complaint => simp [Settings.alongWith, Reports, complaintsAbout, hnone]
  | error reported =>
      obtain ⟨rfl, hsome⟩ : reported = complaints ∧ complaints ≠ [] := h
      cases checked with
      | ok value => simp [Settings.alongWith, Reports, complaintsAbout, hsome]
      | error complaint => simp [Settings.alongWith, Reports, complaintsAbout]

/-- What the checks of some choices complain about is what does not suit these. -/
theorem flatMap_complaintsAbout (sources : Sources) (fields : List Field) :
    (fields.flatMap fun field => complaintsAbout field (field.check (sources.supplied field))) =
      (fields.filter fun field => ¬field.Suits (sources.supplied field)).map fun field =>
        (field, field.complaint (sources.supplied field)) := by
  induction fields with
  | nil => rfl
  | cons field rest ih =>
      rw [List.flatMap_cons, ih]
      by_cases h : field.Suits (sources.supplied field)
      · rcases h.exists_text with ⟨text, htext⟩
        rw [List.filter_cons_of_neg (by simpa using h)]
        rw [htext] at h ⊢
        rw [Field.check_of_suits h]
        rfl
      · rw [Field.check_of_not_suits h, List.filter_cons_of_pos (by simpa using h)]
        rfl

/-- All complaints are collected, in the order of the choices. -/
theorem reports_collect (sources : Sources) : Reports sources.complaints (collect sources) := by
  have hstart : Reports [] (.ok Settings.mk : Except (List (Field × Complaint)) _) := rfl
  -- The checks have results of different types, so the steps are taken one by one.
  have hall := hstart.alongWith .inputPath (checkText (sources.supplied .inputPath))
    |>.alongWith .outputDir (checkText (sources.supplied .outputDir))
    |>.alongWith .opaquePixel (checkPixel (sources.supplied .opaquePixel))
    |>.alongWith .clearPixel (checkPixel (sources.supplied .clearPixel))
    |>.alongWith .markerChar (checkChar (sources.supplied .markerChar))
    |>.alongWith .blankChar (checkChar (sources.supplied .blankChar))
    |>.alongWith .borderChar (checkChar (sources.supplied .borderChar))
    |>.alongWith .macroImport (checkText (sources.supplied .macroImport))
    |>.alongWith .logLevel (checkLevel (sources.supplied .logLevel))
  have hchecks := flatMap_complaintsAbout sources Field.all
  simp only [Field.all, List.flatMap_cons, List.flatMap_nil, Field.check, complaintsAbout_map,
    List.append_nil] at hchecks
  rw [Sources.complaints, Sources.badFields, Field.all, ← hchecks]
  simp only [List.nil_append, List.append_assoc] at hall
  exact hall

/-- What is collected has passed the check of each choice. -/
theorem collect_eq_ok_iff_check :
    collect sources = .ok settings ↔
      ∀ field : Field, field.check (sources.supplied field) = .ok (settings.value field) := by
  have hchar : Function.Injective Char.toString := fun c d heq => by
    simpa using congrArg String.toList heq
  have hlevel : Function.Injective Level.name := fun level other heq =>
    Option.some.inj ((Level.ofName?_eq_some_iff.2 heq).symm.trans
      (Level.ofName?_eq_some_iff.2 rfl))
  rw [collect_eq_ok_iff]
  constructor
  · intro h field
    cases field with
    | inputPath => exact h.inputPath
    | outputDir => exact h.outputDir
    | opaquePixel => exact h.opaquePixel
    | clearPixel => exact h.clearPixel
    | markerChar => exact congrArg (Except.map Char.toString) h.markerChar
    | blankChar => exact congrArg (Except.map Char.toString) h.blankChar
    | borderChar => exact congrArg (Except.map Char.toString) h.borderChar
    | macroImport => exact h.macroImport
    | logLevel => exact congrArg (Except.map Level.name) h.logLevel
  · intro h
    exact
      { inputPath := h .inputPath
        outputDir := h .outputDir
        opaquePixel := h .opaquePixel
        clearPixel := h .clearPixel
        markerChar := (map_eq_ok_iff_of_injective hchar).1 (h .markerChar)
        blankChar := (map_eq_ok_iff_of_injective hchar).1 (h .blankChar)
        borderChar := (map_eq_ok_iff_of_injective hchar).1 (h .borderChar)
        macroImport := h .macroImport
        logLevel := (map_eq_ok_iff_of_injective hlevel).1 (h .logLevel) }

end Collection

/-! ## Settings as keywords -/

/-- The values of some settings as keywords. -/
def keywords (settings : Settings) : List (String × Supplied) :=
  Field.all.map fun field => (field.name, .text (settings.value field))

section Resolution

variable {sources : Sources} {settings : Settings} {environment : List (String × String)}

/-- Keywords for all choices count, whatever the environment is. -/
theorem supplied_settings_keywords (field : Field) :
    Sources.supplied ⟨settings.keywords, environment⟩ field = .text (settings.value field) := by
  have hlookup : (Field.all.map fun field => (field, Supplied.text (settings.value field))).lookup
      field = some (.text (settings.value field)) := by
    cases field <;> rfl
  refine supplied_of_keyword? ?_
  rw [← hlookup, ← keyword?_named _ environment, List.map_map]
  rfl

theorem resolve_eq_ok_iff_check :
    resolve sources = .ok settings ↔
      (∀ field : Field, field.check (sources.supplied field) = .ok (settings.value field)) ∧
        settings.opaquePixel ≠ settings.clearPixel := by
  rw [← collect_eq_ok_iff_check]
  constructor
  · intro h
    rcases resolve_eq_ok h with ⟨hchecked, hdiffer⟩
    exact ⟨collect_eq_ok_iff.2 hchecked, hdiffer⟩
  · rintro ⟨hcollect, hdiffer⟩
    simp [resolve, hcollect, hdiffer]

/-- Settings come out again when their values are given as keywords. -/
theorem resolve_keywords (h : resolve sources = .ok settings) :
    resolve ⟨settings.keywords, environment⟩ = .ok settings := by
  rcases resolve_eq_ok_iff_check.1 h with ⟨hchecks, hdiffer⟩
  refine resolve_eq_ok_iff_check.2 ⟨fun field => ?_, hdiffer⟩
  rcases Field.exists_text_of_check (hchecks field) with ⟨hsuits, text, htext, hvalue⟩
  rw [supplied_settings_keywords, hvalue]
  exact Field.check_normalize (htext ▸ hsuits)

theorem badFields_eq_nil_iff :
    sources.badFields = [] ↔ ∀ field : Field, field.Suits (sources.supplied field) := by
  simp [Sources.badFields, Field.mem_all]

/-- When all raw values suit, they are collected. -/
theorem exists_collect_eq_ok (h : sources.badFields = []) :
    ∃ settings, collect sources = .ok settings := by
  have hreports := reports_collect sources
  cases hcollect : collect sources with
  | ok settings => exact ⟨settings, rfl⟩
  | error complaints =>
      rw [hcollect] at hreports
      exact absurd (List.map_eq_nil_iff.2 h) hreports.2

/-- When some do not, just these are reported. -/
theorem collect_eq_error {complaints : List (Field × Complaint)}
    (h : collect sources = .error complaints) :
    complaints = sources.complaints ∧ sources.badFields ≠ [] := by
  have hreports := reports_collect sources
  rw [h] at hreports
  exact ⟨hreports.1, fun hnone => hreports.2 (List.map_eq_nil_iff.2 hnone)⟩

/-- The literals of collected settings are compared without the blanks at their ends. -/
theorem literals_differ_iff
    (h : ∀ field : Field, field.check (sources.supplied field) = .ok (settings.value field)) :
    settings.opaquePixel ≠ settings.clearPixel ↔
      ∀ inked empty, sources.supplied .opaquePixel = .text inked →
        sources.supplied .clearPixel = .text empty →
        Text.trim inked.toList ≠ Text.trim empty.toList := by
  rcases Field.exists_text_of_check (h .opaquePixel) with ⟨-, inked, hinked, hopaque⟩
  rcases Field.exists_text_of_check (h .clearPixel) with ⟨-, empty, hempty, hclear⟩
  have hopaque : settings.opaquePixel = String.ofList (Text.trim inked.toList) := hopaque
  have hclear : settings.clearPixel = String.ofList (Text.trim empty.toList) := hclear
  rw [hinked, hempty, hopaque, hclear, Ne, String.ofList_inj]
  constructor
  · rintro hdiffer _ _ ⟨⟩ ⟨⟩
    exact hdiffer
  · exact fun hdiffer => hdiffer _ _ rfl rfl

/-- Settings come out exactly when all raw values suit and the literals differ. -/
theorem exists_resolve_eq_ok_iff :
    (∃ settings, resolve sources = .ok settings) ↔
      (∀ field : Field, field.Suits (sources.supplied field)) ∧
      ∀ inked empty, sources.supplied .opaquePixel = .text inked →
        sources.supplied .clearPixel = .text empty →
        Text.trim inked.toList ≠ Text.trim empty.toList := by
  constructor
  · rintro ⟨settings, hresolve⟩
    rcases resolve_eq_ok_iff_check.1 hresolve with ⟨hchecks, hdiffer⟩
    exact ⟨fun field => (Field.exists_text_of_check (hchecks field)).1,
      (literals_differ_iff hchecks).1 hdiffer⟩
  · rintro ⟨hsuits, hdiffer⟩
    rcases exists_collect_eq_ok (badFields_eq_nil_iff.2 hsuits) with ⟨settings, hcollect⟩
    have hchecks := collect_eq_ok_iff_check.1 hcollect
    exact ⟨settings, resolve_eq_ok_iff_check.2 ⟨hchecks, (literals_differ_iff hchecks).2 hdiffer⟩⟩

/-- A refusal is about the raw values that do not suit, or else about the literals alone. -/
theorem items_of_resolve_eq_error {refusal : Refusal} (h : resolve sources = .error refusal) :
    (sources.badFields ≠ [] ∧ refusal.items = sources.badFields.map fun field =>
      (some field, (field.complaint (sources.supplied field)).message)) ∨
    sources.badFields = [] ∧ refusal.items = [(none, sameLiteralsMessage)] := by
  unfold resolve at h
  cases hcollect : collect sources with
  | error complaints =>
      obtain rfl : .badFields complaints = refusal := by simpa [hcollect] using h
      rcases collect_eq_error hcollect with ⟨rfl, hsome⟩
      exact .inl ⟨hsome, by simp [Refusal.items, Sources.complaints]⟩
  | ok settings =>
      have hsuits := fun field : Field =>
        (Field.exists_text_of_check (collect_eq_ok_iff_check.1 hcollect field)).1
      simp only [hcollect] at h
      split at h
      · cases h
        exact .inr ⟨badFields_eq_nil_iff.2 hsuits, rfl⟩
      · cases h

end Resolution

/--
What comes out of some sources.  The raw value of a choice is that of its keyword, else of the
environment, else the default, and settled sources give no other one.  Settings come out exactly
when all raw values suit and the two literals differ without the blanks at their ends; they have
the raw values in their final form, and come out again when they are given as keywords in whatever
environment.  Otherwise the choices whose raw values do not suit are reported in order, each with
its complaint; that the literals are alike is reported alone and when there is nothing else.
-/
theorem resolve_exact (sources : Sources) :
    (∀ field, RawValue sources field (sources.supplied field) ∧
      (sources.Settled field →
        ∀ value, RawValue sources field value → value = sources.supplied field)) ∧
    ((∃ settings, resolve sources = .ok settings) ↔
      (∀ field : Field, field.Suits (sources.supplied field)) ∧
      ∀ inked empty, sources.supplied .opaquePixel = .text inked →
        sources.supplied .clearPixel = .text empty →
        Text.trim inked.toList ≠ Text.trim empty.toList) ∧
    (∀ settings, resolve sources = .ok settings →
      (∀ field, ∃ text, sources.supplied field = .text text ∧
        settings.value field = field.normalize text) ∧
      ∀ environment, resolve ⟨settings.keywords, environment⟩ = .ok settings) ∧
    ∀ refusal, resolve sources = .error refusal →
      (sources.badFields ≠ [] ∧ refusal.items = sources.badFields.map fun field =>
        (some field, (field.complaint (sources.supplied field)).message)) ∨
      sources.badFields = [] ∧ refusal.items = [(none, sameLiteralsMessage)] := by
  refine ⟨fun field => ⟨rawValue_supplied sources field, fun hsettled value hvalue =>
    hvalue.eq_supplied hsettled⟩, exists_resolve_eq_ok_iff, ?_, ?_⟩
  · intro settings hresolve
    have hchecks := (resolve_eq_ok_iff_check.1 hresolve).1
    exact ⟨fun field => (Field.exists_text_of_check (hchecks field)).2,
      fun environment => resolve_keywords hresolve⟩
  · exact fun refusal hresolve => items_of_resolve_eq_error hresolve

/-- A keyword, one in another spelling and a variable are complained about in order. -/
theorem resolve_exact_threeComplaints :
    let sources : Sources := ⟨[("log_level", .text " loud"), ("MARKER_CHAR", .text "##")],
      [("glyphpack_opaque_pixel", " ")]⟩
    ∃ refusal, resolve sources = .error refusal ∧ refusal.items =
      [(some .opaquePixel, "Value error, pixel literal must not be empty"),
        (some .markerChar, "Value error, expected exactly one character, got '##'"),
        (some .logLevel, "Value error, unknown log level 'LOUD'")] := by
  intro sources
  have hresolve : resolve sources = .error (.badFields [(.opaquePixel, .blankPixel),
      (.markerChar, .notOneChar "##"), (.logLevel, .unknownLevel "LOUD")]) := by rfl
  refine ⟨_, hresolve, ?_⟩
  rcases (resolve_exact sources).2.2.2 _ hresolve with ⟨-, hitems⟩ | ⟨hnone, -⟩
  · exact hitems.trans (by rfl)
  · exact absurd hnone (by decide)

end Settings
end IconPress
