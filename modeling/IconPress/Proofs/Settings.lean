import IconPress.Settings.Resolve

/-!
# Settings that pass their checks

The values of the settings are checked one by one and collected in order.  This module says what
the settings that come out have passed, and which texts pass.

Main definitions:

- `Settings.Valid`: the settings that some sources give.
- `Settings.Passes`: the settings that a text for every choice gives.

Main results:

- `Settings.collect_eq_ok`: every value has passed its own check.
- `Settings.Valid.literals_differ` and `Settings.Valid.opaquePixel_ne`: what the pixel literals
  of valid settings are not.
- `Settings.resolve_eq_ok_iff`: texts that pass give settings, and no others do.
-/

namespace IconPress

theorem Level.ofName?_eq_some_iff {name : String} {level : Level} :
    Level.ofName? name = some level ↔ level.name = name := by
  constructor
  · intro h
    simpa using List.find?_some h
  · rintro rfl
    cases level <;> rfl

namespace Settings

/-- The settings that some sources give. -/
def Valid (settings : Settings) : Prop :=
  ∃ sources, resolve sources = .ok settings

/-- Values are collected when the ones before are and the last one passes its check. -/
theorem alongWith_eq_ok {α β : Type} {build : Except (List (Field × Complaint)) (α → β)}
    {field : Field} {checked : Except Complaint α} {result : β}
    (h : alongWith build field checked = .ok result) :
    ∃ f value, build = .ok f ∧ checked = .ok value ∧ f value = result := by
  cases build with
  | error complaints => cases checked <;> simp [alongWith] at h
  | ok f =>
      cases checked with
      | error complaint => simp [alongWith] at h
      | ok value => exact ⟨f, value, rfl, rfl, Except.ok.inj h⟩

/-- Each of the collected values has passed its own check. -/
structure Checked (sources : Sources) (settings : Settings) : Prop where
  inputPath : checkText (sources.supplied .inputPath) = .ok settings.inputPath
  outputDir : checkText (sources.supplied .outputDir) = .ok settings.outputDir
  opaquePixel : checkPixel (sources.supplied .opaquePixel) = .ok settings.opaquePixel
  clearPixel : checkPixel (sources.supplied .clearPixel) = .ok settings.clearPixel
  markerChar : checkChar (sources.supplied .markerChar) = .ok settings.markerChar
  blankChar : checkChar (sources.supplied .blankChar) = .ok settings.blankChar
  borderChar : checkChar (sources.supplied .borderChar) = .ok settings.borderChar
  macroImport : checkText (sources.supplied .macroImport) = .ok settings.macroImport
  logLevel : checkLevel (sources.supplied .logLevel) = .ok settings.logLevel

theorem collect_eq_ok {sources : Sources} {settings : Settings}
    (h : collect sources = .ok settings) : Checked sources settings := by
  rcases alongWith_eq_ok h with ⟨_, _, h1, hlevel, rfl⟩
  rcases alongWith_eq_ok h1 with ⟨_, _, h2, himport, rfl⟩
  rcases alongWith_eq_ok h2 with ⟨_, _, h3, hborder, rfl⟩
  rcases alongWith_eq_ok h3 with ⟨_, _, h4, hblank, rfl⟩
  rcases alongWith_eq_ok h4 with ⟨_, _, h5, hmarker, rfl⟩
  rcases alongWith_eq_ok h5 with ⟨_, _, h6, hclear, rfl⟩
  rcases alongWith_eq_ok h6 with ⟨_, _, h7, hopaque, rfl⟩
  rcases alongWith_eq_ok h7 with ⟨_, _, h8, houtput, rfl⟩
  rcases alongWith_eq_ok h8 with ⟨_, _, h9, hinput, rfl⟩
  cases h9
  exact ⟨hinput, houtput, hopaque, hclear, hmarker, hblank, hborder, himport, hlevel⟩

/-- A pixel literal that passes its check is not empty. -/
theorem checkPixel_ne_nil {given : Supplied} {literal : String}
    (h : checkPixel given = .ok literal) : literal.toList ≠ [] := by
  unfold checkPixel at h
  cases hvalue : checkText given with
  | error complaint => simp [hvalue, bind, Except.bind] at h
  | ok value =>
      simp only [hvalue, bind, Except.bind] at h
      split at h
      · simp at h
      · rename_i hblank
        cases h
        simpa using hblank

/-- Settings that come out of some sources have passed all checks, the last one included. -/
theorem resolve_eq_ok {sources : Sources} {settings : Settings}
    (h : resolve sources = .ok settings) :
    Checked sources settings ∧ settings.opaquePixel ≠ settings.clearPixel := by
  unfold resolve at h
  cases hcollect : collect sources with
  | error complaints => simp [hcollect] at h
  | ok collected =>
      simp only [hcollect] at h
      split at h
      · simp at h
      · rename_i hdiffer
        cases h
        exact ⟨collect_eq_ok hcollect, hdiffer⟩

/-- The two pixel literals of valid settings differ. -/
theorem Valid.literals_differ {settings : Settings} (h : settings.Valid) :
    settings.opaquePixel ≠ settings.clearPixel := by
  rcases h with ⟨sources, hsources⟩
  exact (resolve_eq_ok hsources).2

/-- The literal of an inked pixel is not empty. -/
theorem Valid.opaquePixel_ne {settings : Settings} (h : settings.Valid) :
    settings.opaquePixel.toList ≠ [] := by
  rcases h with ⟨sources, hsources⟩
  exact checkPixel_ne_nil (resolve_eq_ok hsources).1.opaquePixel

/-- The literal of an empty pixel is not empty either. -/
theorem Valid.clearPixel_ne {settings : Settings} (h : settings.Valid) :
    settings.clearPixel.toList ≠ [] := by
  rcases h with ⟨sources, hsources⟩
  exact checkPixel_ne_nil (resolve_eq_ok hsources).1.clearPixel

/-! ## Texts that pass -/

/-- What the texts for the choices have to be, and the form in which they count. -/
structure Passes (texts : Field → String) (settings : Settings) : Prop where
  inputPath : texts .inputPath = settings.inputPath
  outputDir : texts .outputDir = settings.outputDir
  opaquePixel : Text.trim (texts .opaquePixel).toList = settings.opaquePixel.toList
  clearPixel : Text.trim (texts .clearPixel).toList = settings.clearPixel.toList
  markerChar : (texts .markerChar).toList = [settings.markerChar]
  blankChar : (texts .blankChar).toList = [settings.blankChar]
  borderChar : (texts .borderChar).toList = [settings.borderChar]
  macroImport : texts .macroImport = settings.macroImport
  logLevel : Text.upper (Text.trim (texts .logLevel).toList) = settings.logLevel.name.toList
  opaquePixel_ne : settings.opaquePixel ≠ ""
  clearPixel_ne : settings.clearPixel ≠ ""
  literals_differ : settings.opaquePixel ≠ settings.clearPixel

section Checks

variable {value : String}

theorem checkText_eq_ok_iff {result : String} :
    checkText (.text value) = .ok result ↔ value = result := by
  simp [checkText]

theorem checkPixel_eq_ok_iff {literal : String} :
    checkPixel (.text value) = .ok literal ↔
      Text.trim value.toList = literal.toList ∧ literal ≠ "" := by
  simp only [checkPixel, checkText, bind, Except.bind]
  split
  · rename_i hblank
    rw [List.isEmpty_iff] at hblank
    refine ⟨by simp, fun ⟨heq, hne⟩ => absurd ?_ hne⟩
    rw [← String.toList_inj, ← heq, hblank]
    rfl
  · rename_i hblank
    rw [List.isEmpty_iff] at hblank
    rw [Except.ok.injEq, ← String.toList_inj, String.toList_ofList]
    refine ⟨fun heq => ⟨heq, ?_⟩, And.left⟩
    rintro rfl
    exact hblank heq

theorem checkChar_eq_ok_iff {c : Char} :
    checkChar (.text value) = .ok c ↔ value.toList = [c] := by
  simp only [checkChar, checkText, bind, Except.bind]
  split
  · rename_i other hvalue
    simp [hvalue]
  · rename_i hlength
    simpa using hlength c

theorem checkLevel_eq_ok_iff {level : Level} :
    checkLevel (.text value) = .ok level ↔
      Text.upper (Text.trim value.toList) = level.name.toList := by
  simp only [checkLevel, checkText, bind, Except.bind]
  have hname : Level.ofName? (String.ofList (Text.upper (Text.trim value.toList))) = some level ↔
      Text.upper (Text.trim value.toList) = level.name.toList := by
    rw [Level.ofName?_eq_some_iff, ← String.toList_inj, String.toList_ofList, eq_comm]
  rw [← hname]
  split
  · rename_i other hother
    rw [hother, Except.ok.injEq, Option.some.injEq]
  · rename_i hnone
    simp [hnone]

end Checks

/-- Values that pass their checks are collected. -/
theorem collect_eq_ok_iff {sources : Sources} {settings : Settings} :
    collect sources = .ok settings ↔ Checked sources settings := by
  refine ⟨collect_eq_ok, fun h => ?_⟩
  simp only [collect, h.inputPath, h.outputDir, h.opaquePixel, h.clearPixel, h.markerChar,
    h.blankChar, h.borderChar, h.macroImport, h.logLevel, alongWith]

/-- Sources that give a text for every choice give the settings of which the texts pass. -/
theorem resolve_eq_ok_iff {sources : Sources} {texts : Field → String} {settings : Settings}
    (htexts : ∀ field, sources.supplied field = .text (texts field)) :
    resolve sources = .ok settings ↔ Passes texts settings := by
  constructor
  · intro h
    rcases resolve_eq_ok h with ⟨hchecked, hdiffer⟩
    have hopaque := checkPixel_eq_ok_iff.1 (htexts .opaquePixel ▸ hchecked.opaquePixel)
    have hclear := checkPixel_eq_ok_iff.1 (htexts .clearPixel ▸ hchecked.clearPixel)
    exact
      { inputPath := checkText_eq_ok_iff.1 (htexts .inputPath ▸ hchecked.inputPath)
        outputDir := checkText_eq_ok_iff.1 (htexts .outputDir ▸ hchecked.outputDir)
        opaquePixel := hopaque.1
        clearPixel := hclear.1
        markerChar := checkChar_eq_ok_iff.1 (htexts .markerChar ▸ hchecked.markerChar)
        blankChar := checkChar_eq_ok_iff.1 (htexts .blankChar ▸ hchecked.blankChar)
        borderChar := checkChar_eq_ok_iff.1 (htexts .borderChar ▸ hchecked.borderChar)
        macroImport := checkText_eq_ok_iff.1 (htexts .macroImport ▸ hchecked.macroImport)
        logLevel := checkLevel_eq_ok_iff.1 (htexts .logLevel ▸ hchecked.logLevel)
        opaquePixel_ne := hopaque.2
        clearPixel_ne := hclear.2
        literals_differ := hdiffer }
  · intro h
    have hchecked : Checked sources settings := by
      constructor <;> rw [htexts]
      · exact checkText_eq_ok_iff.2 h.inputPath
      · exact checkText_eq_ok_iff.2 h.outputDir
      · exact checkPixel_eq_ok_iff.2 ⟨h.opaquePixel, h.opaquePixel_ne⟩
      · exact checkPixel_eq_ok_iff.2 ⟨h.clearPixel, h.clearPixel_ne⟩
      · exact checkChar_eq_ok_iff.2 h.markerChar
      · exact checkChar_eq_ok_iff.2 h.blankChar
      · exact checkChar_eq_ok_iff.2 h.borderChar
      · exact checkText_eq_ok_iff.2 h.macroImport
      · exact checkLevel_eq_ok_iff.2 h.logLevel
    rw [resolve, collect_eq_ok_iff.2 hchecked]
    exact if_neg h.literals_differ

-- Without any source every text is the standard one.
example : resolve ⟨[], []⟩ = .ok standard :=
  rfl

end Settings
end IconPress
