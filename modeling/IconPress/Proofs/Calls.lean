import IconPress.Command
import IconPress.Proofs.Effects
import IconPress.Proofs.Header
import IconPress.Proofs.Settings
import IconPress.Proofs.Sources

/-!
# What a call answers

A call is wrong, or it runs.  A run first makes its document out of the sheet, which changes no
file, and then publishes it.  This module ties the exit code of a call, what it prints and what it
leaves to these parts.

Main definitions:

- `Command.textFor`: the text that counts for a choice.
- `draft`: the document of a run, before anything is written.

Main results:

- `Command.prepare_eq_ok_iff`: which calls run, and with which settings.
- `run_produce`: a run makes its document and publishes it.
- `Command.execute_answer`: what a call answers.
-/

namespace IconPress

open Settings (Field Sources Supplied Passes)

namespace Command

/-! ## Calls that run -/

/-- The text that counts for a choice: an argument, else the environment, else the default. -/
def textFor (arguments : List String) (environment : List (String × String)) (field : Field) :
    String :=
  match field, arguments with
  | .inputPath, input :: _ => input
  | .outputDir, _ :: output :: _ => output
  | _, _ => ((Settings.valuesNamed environment field.environmentName).getLast?).getD field.standard

theorem keywords_eq_none_iff {arguments : List String} :
    keywords arguments = none ↔ 2 < arguments.length := by
  rcases arguments with _ | ⟨input, _ | ⟨output, _ | ⟨other, rest⟩⟩⟩ <;> simp [keywords]

section Prepare

variable {arguments : List String} {environment : List (String × String)}
  {given : List (String × Supplied)}

/-- A choice that no keyword is about has the value of the environment, or else the default. -/
theorem supplied_named (choices : List (Field × Supplied)) (field : Field) :
    Sources.supplied ⟨choices.map fun choice => (choice.1.name, choice.2), environment⟩ field =
      (choices.lookup field).getD (.text (textFor [] environment field)) := by
  have htext : textFor [] environment field =
      (Settings.valuesNamed environment field.environmentName).getLast?.getD field.standard := by
    cases field <;> rfl
  rw [Sources.supplied, Sources.variable?, Settings.keyword?_named, htext]
  cases choices.lookup field with
  | some value => rfl
  | none => cases (Settings.valuesNamed environment field.environmentName).getLast? <;> rfl

/-- The arguments come before the environment. -/
theorem supplied_keywords (h : keywords arguments = some given) (field : Field) :
    Sources.supplied ⟨given, environment⟩ field =
      .text (textFor arguments environment field) := by
  rcases arguments with _ | ⟨input, _ | ⟨output, _ | ⟨other, rest⟩⟩⟩
  · cases h
    exact supplied_named [] field
  · cases h
    refine (supplied_named [(.inputPath, .text input)] field).trans ?_
    cases field <;> rfl
  · cases h
    refine (supplied_named [(.inputPath, .text input), (.outputDir, .text output)] field).trans ?_
    cases field <;> rfl
  · simp [keywords] at h

theorem prepare_eq_ok_iff {settings : Settings} :
    prepare arguments environment = .ok settings ↔
      arguments.length ≤ 2 ∧ Passes (textFor arguments environment) settings := by
  unfold prepare
  cases hgiven : keywords arguments with
  | none =>
      have := keywords_eq_none_iff.1 hgiven
      simp only [reduceCtorEq, false_iff]
      omega
  | some given =>
      have hlength : arguments.length ≤ 2 := by
        rw [← Nat.not_lt, ← keywords_eq_none_iff, hgiven]
        simp
      have hresolve : Settings.resolve ⟨given, environment⟩ = .ok settings ↔
          Passes (textFor arguments environment) settings :=
        Settings.resolve_eq_ok_iff (supplied_keywords hgiven)
      simp only [hlength, true_and, ← hresolve]
      cases Settings.resolve ⟨given, environment⟩ <;> simp

end Prepare

end Command

/-! ## Runs -/

namespace Machine

/-- Noting records changes nothing else. -/
theorem noteAll_eq (records : List Record) (machine : Machine) :
    (Host.noteAll records : StateM Machine Unit) machine =
      ((), { machine with journal := machine.journal ++ records }) := by
  induction records generalizing machine with
  | nil =>
      rw [List.append_nil]
      rfl
  | cons record rest ih =>
      change (Host.noteAll rest : StateM Machine Unit)
        { machine with journal := machine.journal ++ [record] } = _
      rw [ih, List.append_assoc]
      rfl

/-- A traced computation ends on a machine as it ends anywhere. -/
@[simp]
theorem run_replay {α : Type} (machine : Machine) (traced : Traced α) :
    machine.run (Host.replay traced) =
      (traced.outcome, { machine with journal := machine.journal ++ traced.journal }) := by
  unfold Host.replay
  rw [run_bind, run_lift, noteAll_eq]
  cases traced.outcome <;> rfl

/-- A value in place of that of a run. -/
theorem run_bind_pure {α β : Type} (machine : Machine) (value : β)
    (program : ExceptT Failure (StateM Machine) α) :
    machine.run (program >>= fun _ => pure value) =
      ((machine.run program).1.map fun _ => value, (machine.run program).2) := by
  rw [run_bind]
  rcases machine.run program with ⟨failure | result, after⟩ <;> rfl

@[simp]
theorem host_read (machine : Machine) (path : Path) :
    (Host.read path : StateM Machine _) machine = (machine.read path, machine) :=
  rfl

end Machine

/-- The sheet that the settings name, its size taken from its header. -/
def sheetOn (machine : Machine) (settings : Settings) : Except Failure Sheet := do
  let path := Path.parse settings.inputPath
  let bytes ← (machine.read path).mapError (Machine.failureOf (.unreadable path))
  let text ← textOfBytes path bytes
  let size ← declaredSize text.toList
  return ⟨text, size, path.text⟩

/-- The document of that sheet. -/
def draft (machine : Machine) (settings : Settings) : Except Failure Document := do
  let sheet ← sheetOn machine settings
  (compile settings machine.faults.preview sheet).outcome

section Runs

variable {machine : Machine} {settings : Settings} {now : Instant}

theorem Sheet.outcome_ofText (path : Path) (text : String) :
    (Sheet.ofText path text).outcome = (do
      let size ← declaredSize text.toList
      return ⟨text, size, path.text⟩) := by
  simp only [Sheet.ofText, Traced.outcome_bind, Traced.outcome_pure, outcome_scanSize]
  rfl

/-- Reading a sheet changes nothing but the journal. -/
theorem run_readSheet (machine : Machine) (settings : Settings) :
    ∃ journal, machine.run (readSheet settings) =
      (sheetOn machine settings, { machine with journal := journal }) := by
  unfold readSheet sheetOn
  simp only [Machine.run_bind, Machine.run_require, Machine.host_read, Machine.run_liftM]
  cases (machine.read (Path.parse settings.inputPath)).mapError
    (Machine.failureOf (.unreadable (Path.parse settings.inputPath))) with
  | error failure => exact ⟨machine.journal, rfl⟩
  | ok bytes =>
      simp only [ok_bind]
      cases textOfBytes (Path.parse settings.inputPath) bytes with
      | error failure => exact ⟨machine.journal, rfl⟩
      | ok text =>
          simp only [ok_bind, Machine.run_replay, Sheet.outcome_ofText]
          exact ⟨_, rfl⟩

/-- A run makes its document, which changes nothing but the journal, and publishes it. -/
theorem run_produce (machine : Machine) (settings : Settings) (now : Instant) :
    ∃ journal, machine.run (produce settings machine.faults.preview now) =
      match draft machine settings with
      | .error failure => (.error failure, { machine with journal := journal })
      | .ok document =>
        let published := Machine.run { machine with journal := journal } (publish document now)
        (published.1.map fun _ => document, published.2) := by
  rcases run_readSheet machine settings with ⟨noted, hread⟩
  unfold produce draft
  rw [Machine.run_bind, hread]
  cases sheetOn machine settings with
  | error failure => exact ⟨noted, rfl⟩
  | ok sheet =>
      simp only [ok_bind]
      rw [Machine.run_bind, Machine.run_announce]
      simp only
      rw [Machine.run_bind, Machine.run_replay]
      cases (compile settings machine.faults.preview sheet).outcome with
      | error failure => exact ⟨_, rfl⟩
      | ok document =>
          exact ⟨_, Machine.run_bind_pure _ _ _⟩

/-- The path of the document of a run has no single dots. -/
theorem dot_not_mem_of_draft {document : Document} (h : draft machine settings = .ok document) :
    "." ∉ document.path.parts := by
  rcases bind_eq_ok_iff.1 h with ⟨sheet, -, hcompile⟩
  rw [path_of_compile hcompile]
  exact dot_not_mem_outputPath settings sheet.size

/-- A document that has been published stands at its path. -/
theorem read_of_run_publish {document : Document} {archive : Option Path}
    (hdot : "." ∉ document.path.parts)
    (h : (machine.run (publish document now)).1 = .ok archive) :
    (machine.run (publish document now)).2.tree.read document.path =
      .ok (Text.Utf8.encode document.text.toList) := by
  rcases run_publish machine document now with ⟨result, after, journal, hrun, hends⟩
  rw [hrun] at h ⊢
  subst h
  rcases hends with ⟨failure, hfailure, -⟩ | ⟨aside, middle, written, -, hwrites, hresult⟩
  · simp at hfailure
  · cases hwrites with
    | written _ hcreate => exact FileTree.read_of_create hcreate (Path.name?_ne_dot hdot)
    | unwritten => simp [Except.map] at hresult
    | partly => simp [Except.map] at hresult
    | escaped => simp [Except.map] at hresult

/-- A run whose document cannot be made ends with the reason and changes no file. -/
theorem run_produce_of_draft_error {failure : Failure}
    (h : draft machine settings = .error failure) :
    let run := machine.run (produce settings machine.faults.preview now)
    run.1 = .error failure ∧ run.2.tree = machine.tree := by
  intro run
  rcases run_produce machine settings now with ⟨journal, hrun⟩
  rw [h] at hrun
  have hrun : run = _ := hrun
  rw [hrun]
  exact ⟨rfl, rfl⟩

/-- A run that ends well has published its document. -/
theorem draft_of_run_produce {document : Document}
    (h : (machine.run (produce settings machine.faults.preview now)).1 = .ok document) :
    draft machine settings = .ok document ∧
      (machine.run (produce settings machine.faults.preview now)).2.tree.read document.path =
        .ok (Text.Utf8.encode document.text.toList) := by
  rcases run_produce machine settings now with ⟨journal, hrun⟩
  rw [hrun] at h ⊢
  cases hdraft : draft machine settings with
  | error failure => simp [hdraft] at h
  | ok made =>
      simp only [hdraft] at h ⊢
      cases hpublish : (Machine.run { machine with journal := journal } (publish made now)).1 with
      | error failure => simp [hpublish, Except.map] at h
      | ok archive =>
          obtain rfl : made = document := by simpa [hpublish, Except.map] using h
          exact ⟨rfl, read_of_run_publish (dot_not_mem_of_draft hdraft) hpublish⟩

end Runs

namespace Command

section Conclude

variable {result : Except Failure Document}

theorem conclude_exit_eq_zero_iff :
    (conclude result).exit = .ok 0 ↔ ∃ document, result = .ok document := by
  cases result with
  | ok document => simp [conclude]
  | error failure => cases hkind : failure.kind? <;> simp [conclude, hkind]

theorem conclude_exit_eq_one_iff :
    (conclude result).exit = .ok 1 ↔
      ∃ failure kind, result = .error failure ∧ failure.kind? = some kind := by
  cases result with
  | ok document => simp [conclude]
  | error failure => cases hkind : failure.kind? <;> simp [conclude, hkind]

theorem conclude_exit_eq_error_iff {failure : Failure} :
    (conclude result).exit = .error failure ↔
      result = .error failure ∧ failure.kind? = none := by
  cases result with
  | ok document => simp [conclude]
  | error other =>
      cases hkind : other.kind? with
      | none =>
          simp only [conclude, hkind, Except.error.injEq]
          exact ⟨fun heq => ⟨heq, heq ▸ hkind⟩, And.left⟩
      | some kind =>
          simp only [conclude, hkind, Except.error.injEq, reduceCtorEq, false_iff, not_and]
          rintro rfl
          simp [hkind]

theorem conclude_exit_ne_two : (conclude result).exit ≠ .ok 2 := by
  cases result with
  | ok document => simp [conclude]
  | error failure => cases hkind : failure.kind? <;> simp [conclude, hkind]

end Conclude

section Execute

variable {machine : Machine} {arguments : List String} {environment : List (String × String)}
  {now : Instant}

theorem execute_of_complaint {complaint : String}
    (h : prepare arguments environment = .error complaint) :
    execute machine arguments environment now = (reject complaint, machine) := by
  simp [execute, h]

/-- A call that runs is answered with the end of the run, after its records. -/
theorem execute_of_settings {settings : Settings}
    (h : prepare arguments environment = .ok settings) :
    let call := execute machine arguments environment now
    let run := Machine.run { machine with journal := [] }
      (produce settings machine.faults.preview now)
    call.1.exit = (conclude run.1).exit ∧ call.1.stdout = (conclude run.1).stdout ∧
      call.1.stderr = shownRecords settings.logLevel run.2.journal ++ (conclude run.1).stderr ∧
      call.2.tree = run.2.tree := by
  simp [execute, h]

theorem execute_exit_eq_two_iff :
    (execute machine arguments environment now).1.exit = .ok 2 ↔
      2 < arguments.length ∨ ∀ settings, ¬Passes (textFor arguments environment) settings := by
  cases hprepare : prepare arguments environment with
  | error complaint =>
      rw [execute_of_complaint hprepare]
      refine ⟨fun _ => ?_, fun _ => rfl⟩
      by_cases hlength : arguments.length ≤ 2
      · refine .inr fun settings hpasses => ?_
        rw [prepare_eq_ok_iff.2 ⟨hlength, hpasses⟩] at hprepare
        simp at hprepare
      · exact .inl (Nat.lt_of_not_le hlength)
  | ok settings =>
      rcases prepare_eq_ok_iff.1 hprepare with ⟨hlength, hpasses⟩
      rw [(execute_of_settings hprepare).1]
      refine ⟨fun hexit => absurd hexit conclude_exit_ne_two, ?_⟩
      rintro (hmany | hnever)
      · exact absurd hlength (Nat.not_le.2 hmany)
      · exact absurd hpasses (hnever settings)

theorem execute_of_exit_eq_two
    (h : (execute machine arguments environment now).1.exit = .ok 2) :
    (execute machine arguments environment now).1.stdout = "" ∧
      (execute machine arguments environment now).2.tree = machine.tree := by
  cases hprepare : prepare arguments environment with
  | error complaint =>
      rw [execute_of_complaint hprepare]
      exact ⟨rfl, rfl⟩
  | ok settings =>
      rw [(execute_of_settings hprepare).1] at h
      exact absurd h conclude_exit_ne_two

end Execute

/--
What a call answers.  It exits with 2 exactly when there are too many arguments or the texts that
count do not pass, and then prints nothing as its output and changes no file.  Otherwise it exits
as its run ends.  A run that ends well is answered with the name of the set and its path, where the
document of the sheet as it was before stands now.  A run that ends with a failure of a class is
answered with the class and the failure, after the records; where already the document cannot be
made, no file has changed.
-/
theorem execute_answer (machine : Machine) (arguments : List String)
    (environment : List (String × String)) (now : Instant) :
    let call := execute machine arguments environment now
    let texts := textFor arguments environment
    (call.1.exit = .ok 2 ↔ 2 < arguments.length ∨ ∀ settings, ¬Passes texts settings) ∧
    (call.1.exit = .ok 2 → call.1.stdout = "" ∧ call.2.tree = machine.tree) ∧
    ∀ settings, arguments.length ≤ 2 → Passes texts settings →
      let run := Machine.run { machine with journal := [] }
        (produce settings machine.faults.preview now)
      (call.1.exit = .ok 0 ↔ ∃ document, run.1 = .ok document) ∧
      (call.1.exit = .ok 1 ↔ ∃ failure kind, run.1 = .error failure ∧ failure.kind? = some kind) ∧
      (∀ failure, call.1.exit = .error failure ↔
        run.1 = .error failure ∧ failure.kind? = none) ∧
      (∀ document, run.1 = .ok document →
        draft machine settings = .ok document ∧
        call.1.stdout = inGreen s!"{document.structName} -> {document.path.text}" ++ "\n" ∧
        call.2.tree.read document.path = .ok (Text.Utf8.encode document.text.toList)) ∧
      (∀ failure kind, run.1 = .error failure → failure.kind? = some kind →
        call.1.stdout = "" ∧ ∃ records,
          call.1.stderr = records ++ (inRed s!"{kind.name}: {failure.message}" ++ "\n")) ∧
      ∀ failure, draft machine settings = .error failure →
        run.1 = .error failure ∧ call.2.tree = machine.tree := by
  intro call texts
  refine ⟨execute_exit_eq_two_iff, execute_of_exit_eq_two, ?_⟩
  intro settings hlength hpasses run
  obtain ⟨hexit, hstdout, hstderr, htree⟩ : call.1.exit = (conclude run.1).exit ∧
      call.1.stdout = (conclude run.1).stdout ∧
      call.1.stderr = shownRecords settings.logLevel run.2.journal ++ (conclude run.1).stderr ∧
      call.2.tree = run.2.tree :=
    execute_of_settings (prepare_eq_ok_iff.2 ⟨hlength, hpasses⟩)
  -- From here on everything is about the end of the run and the answer to it.
  rw [hexit, hstdout, hstderr, htree]
  refine ⟨conclude_exit_eq_zero_iff, conclude_exit_eq_one_iff,
    fun failure => conclude_exit_eq_error_iff, ?_, ?_, ?_⟩
  · intro document hdocument
    rcases draft_of_run_produce hdocument with ⟨hdraft, hread⟩
    exact ⟨hdraft, by rw [hdocument, conclude], hread⟩
  · intro failure kind hfailure hkind
    have hanswer : conclude run.1 =
        ⟨.ok 1, "", inRed s!"{kind.name}: {failure.message}" ++ "\n"⟩ := by
      simp only [hfailure, conclude, hkind]
    rw [hanswer]
    exact ⟨rfl, _, rfl⟩
  · exact fun failure hdraft => run_produce_of_draft_error hdraft

/-- A machine with an output and a sheet. -/
def readyMachine : Machine :=
  let sheet : Entry := .file (Text.Utf8.encode smallHeader.toList)
  { tidyMachine with tree := ⟨(["in.c"], sheet) :: tidyMachine.tree.entries, []⟩ }

/-- A call that runs well leaves the document of its sheet where it says. -/
theorem execute_answer_readyMachine :
    let call := execute readyMachine ["in.c", "out"] [] midnight
    ∃ document, draft readyMachine
        { Settings.standard with inputPath := "in.c", outputDir := "out" } = .ok document ∧
      call.1.stdout = inGreen s!"{document.structName} -> {document.path.text}" ++ "\n" ∧
      call.2.tree.read document.path = .ok (Text.Utf8.encode document.text.toList) := by
  have hprepare : prepare ["in.c", "out"] [] =
      .ok { Settings.standard with inputPath := "in.c", outputDir := "out" } := rfl
  have hexit : (execute readyMachine ["in.c", "out"] [] midnight).1.exit = .ok 0 := by
    decide +kernel
  have hruns := (execute_answer readyMachine ["in.c", "out"] [] midnight).2.2 _ (by decide)
    (prepare_eq_ok_iff.1 hprepare).2
  exact (hruns.1.1 hexit).imp hruns.2.2.2.1

end Command
end IconPress
