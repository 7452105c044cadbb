import IconPress.Files.Machine
import IconPress.Proofs.Changes
import IconPress.Publish

/-!
# What publishing does to a machine

Publishing is a run of file operations, each of which may fail.  This module follows the run on a
machine in memory once and says, for each of the two steps, how it can end and which tree it
leaves.  All that is proved of publishing comes from these cases.

Main definitions:

- `SetsAside`: how the first step can end.
- `Writes`: how the second step can end.

Main results:

- `run_setAside`, `run_writeText`: these are all the ways.
- `run_publish`: both steps.
-/

namespace IconPress

open FileTree (Grows)

/-! ## Runs -/

namespace Machine

variable {α β : Type} (machine : Machine)

@[simp]
theorem run_pure (value : α) :
    machine.run (pure value) = (.ok value, machine) :=
  rfl

@[simp]
theorem run_throw (failure : Failure) :
    machine.run (throw failure : ExceptT Failure (StateM Machine) α) = (.error failure, machine) :=
  rfl

/-- A run goes on with the value of its first part, if there is one. -/
theorem run_bind (first : ExceptT Failure (StateM Machine) α)
    (next : α → ExceptT Failure (StateM Machine) β) :
    machine.run (first >>= next) =
      match machine.run first with
      | (.ok value, after) => after.run (next value)
      | (.error failure, after) => (.error failure, after) := by
  simp only [run, bind, ExceptT.bind, ExceptT.mk, StateT.bind, ExceptT.bindCont]
  rcases first machine with ⟨failure | value, after⟩ <;> rfl

@[simp]
theorem run_lift (operation : StateM Machine α) :
    machine.run (ExceptT.lift operation) = (.ok (operation machine).1, (operation machine).2) :=
  rfl

@[simp]
theorem run_announce (level : Level) (part : Part) (message : String) :
    machine.run (Host.announce level part message) =
      (.ok (), { machine with journal := machine.journal ++ [⟨level, part, message⟩] }) :=
  rfl

@[simp]
theorem run_liftM (outcome : Except Failure α) :
    machine.run (liftM outcome) = (outcome, machine) := by
  cases outcome <;> rfl

/-- What a failed file operation ends a run with. -/
def failureOf (wrap : DiskError → Failure) (cause : DiskError) : Failure :=
  if cause = .nullInPath then .disk .nullInPath else wrap cause

/-- A failed operation that is not wrapped is not reported under a class. -/
theorem kind?_failureOf_disk (cause : DiskError) : (failureOf .disk cause).kind? = none := by
  unfold failureOf
  split <;> rfl

@[simp]
theorem run_giveUp (wrap : DiskError → Failure) (cause : DiskError) :
    machine.run (Host.giveUp wrap cause : ExceptT Failure (StateM Machine) α) =
      (.error (failureOf wrap cause), machine) := by
  unfold Host.giveUp failureOf
  split <;> rfl

/-- A run that requires a file operation ends where the operation fails. -/
@[simp]
theorem run_require (wrap : DiskError → Failure) (operation : StateM Machine (Except DiskError α)) :
    machine.run (Host.require wrap operation) =
      ((operation machine).1.mapError (failureOf wrap), (operation machine).2) := by
  unfold Host.require
  rw [run_bind, run_lift]
  simp only
  cases (operation machine).1 with
  | error cause => simp [Except.mapError]
  | ok value => simp [Except.mapError]

/-- Looking at something changes nothing. -/
@[simp]
theorem host_present (path : Path) :
    (Host.present path : StateM Machine _) machine = (machine.present path, machine) :=
  rfl

@[simp]
theorem host_rename (path : Path) (newName : String) :
    (Host.rename path newName : StateM Machine _) machine = machine.rename path newName :=
  rfl

/-- What renaming that succeeds does to the tree. -/
theorem rename_eq_ok {machine : Machine} {path : Path} {newName : String} {after : FileTree}
    (h : machine.rename path newName = (.ok (), { machine with tree := after })) :
    (path.hasNull || (path.withName newName).hasNull) = false ∧
      machine.tree.rename path newName = .ok after := by
  unfold rename at h
  split at h
  · simp at h
  · simp only at h
    split at h
    · simp at h
    · rename_i hnull
      unfold change at h
      cases hrename : machine.tree.rename path newName with
      | error obstacle => simp [hrename] at h
      | ok other =>
          simp only [hrename, Prod.mk.injEq, true_and] at h
          exact ⟨by simpa using hnull, congrArg (fun machine => Except.ok machine.tree) h⟩

/-- Where no null character occurs, the tree says what is present. -/
theorem present_of_not_hasNull {machine : Machine} {path : Path} {answer : Bool}
    (hnull : path.hasNull = false) :
    machine.present path = .ok answer ↔ machine.tree.present path = .ok answer := by
  unfold present observe
  rw [hnull, if_neg (by simp)]
  cases machine.tree.present path <;> simp [Except.mapError]

/-- What renaming does depends on the tree and the faults; it fails or gives another tree. -/
theorem rename_cases (path : Path) (newName : String) :
    (∃ after, ∀ journal, rename ⟨machine.tree, machine.faults, journal⟩ path newName =
      (.ok (), ⟨after, machine.faults, journal⟩)) ∨
    (∃ cause, ∀ journal, rename ⟨machine.tree, machine.faults, journal⟩ path newName =
      (.error cause, ⟨machine.tree, machine.faults, journal⟩)) := by
  unfold rename
  simp only
  cases machine.faults.rename with
  | some reason => exact .inr ⟨_, fun _ => rfl⟩
  | none =>
      simp only
      split
      · exact .inr ⟨_, fun _ => rfl⟩
      · unfold change
        cases machine.tree.rename path newName with
        | error obstacle => exact .inr ⟨_, fun _ => rfl⟩
        | ok after => exact .inl ⟨after, fun _ => rfl⟩

end Machine

/-! ## The first step -/

/-- The failure to find an archive name is not reported under a class. -/
theorem Path.kind?_archiveName {path : Path} {now : Instant} {failure : Failure}
    (h : path.archiveName now = .error failure) : failure.kind? = none := by
  unfold Path.archiveName at h
  split at h
  · simp at h
  · cases h
    rfl

/-- An archive name is the stamped name of a path. -/
theorem Path.archiveName_eq_ok {path : Path} {now : Instant} {newName : String}
    (h : path.archiveName now = .ok newName) :
    ∃ name, path.name? = some name ∧ newName = stampedName name now := by
  unfold Path.archiveName at h
  split at h
  · rename_i name hname
    exact ⟨name, hname, (Except.ok.inj h).symm⟩
  · simp at h

theorem mem_stampedName (name : String) (now : Instant) : '_' ∈ (stampedName name now).toList := by
  simp [stampedName]

/-- How the first step can end, and the tree that it leaves. -/
inductive SetsAside (machine : Machine) (path : Path) (now : Instant) :
    Except Failure (Option Path) → FileTree → Prop where
  | absent (habsent : machine.present path = .ok false) :
      SetsAside machine path now (.ok none) machine.tree
  | archived {newName : String} {after : FileTree}
      (hpresent : machine.present path = .ok true) (hname : path.archiveName now = .ok newName)
      (hfree : machine.present (path.withName newName) = .ok false)
      (hrename : machine.rename path newName = (.ok (), { machine with tree := after })) :
      SetsAside machine path now (.ok (some (path.withName newName))) after
  | taken {newName : String} (hpresent : machine.present path = .ok true)
      (hname : path.archiveName now = .ok newName)
      (htaken : machine.present (path.withName newName) = .ok true) :
      SetsAside machine path now (.error (.archiveTaken (path.withName newName))) machine.tree
  | refused {newName : String} {cause : DiskError} (hpresent : machine.present path = .ok true)
      (hname : path.archiveName now = .ok newName)
      (hfree : machine.present (path.withName newName) = .ok false)
      (hrename : machine.rename path newName = (.error cause, machine)) :
      SetsAside machine path now (.error (.notArchived path cause)) machine.tree
  | escaped {failure : Failure} (hkind : failure.kind? = none) :
      SetsAside machine path now (.error failure) machine.tree

/-- A first step that fails leaves the tree as it was. -/
theorem SetsAside.tree_eq {machine : Machine} {path : Path} {now : Instant} {failure : Failure}
    {after : FileTree} (h : SetsAside machine path now (.error failure) after) :
    after = machine.tree := by
  cases h <;> rfl

/-- What an archive is called and where the output went that it holds. -/
theorem SetsAside.renamed {machine : Machine} {path archive : Path} {now : Instant}
    {after : FileTree} (h : SetsAside machine path now (.ok (some archive)) after) :
    ∃ newName directory name, path.archiveName now = .ok newName ∧
      archive = path.withName newName ∧ machine.tree.present archive = .ok false ∧
      machine.tree.Renamed path newName directory name after := by
  cases h with
  | @archived newName _ hpresent hname hfree hrename =>
      have hstamped := Path.archiveName_eq_ok hname
      have hother : ∀ other : String, '_' ∉ other.toList → newName ≠ other := by
        rintro other hmem rfl
        rcases hstamped with ⟨name, -, rfl⟩
        exact hmem (mem_stampedName name now)
      rcases Machine.rename_eq_ok hrename with ⟨hnull, hrename⟩
      rw [Bool.or_eq_false_iff] at hnull
      rw [Machine.present_of_not_hasNull hnull.1] at hpresent
      rw [Machine.present_of_not_hasNull hnull.2] at hfree
      obtain ⟨directory, name, hrenamed⟩ := FileTree.rename_eq_ok hpresent hfree
        (hother "." (by decide)) (hother ".." (by decide)) hrename
      exact ⟨newName, directory, name, hname, rfl, hfree, hrenamed⟩

/-- What gets an archive name is what its path leads to. -/
theorem SetsAside.exists_found {machine : Machine} {path archive : Path} {now : Instant}
    {after : FileTree} (h : SetsAside machine path now (.ok (some archive)) after) :
    ∃ entry, machine.tree.find path = .ok entry := by
  cases h with
  | archived hpresent _ _ hrename =>
      have hnull := (Machine.rename_eq_ok hrename).1
      rw [Bool.or_eq_false_iff] at hnull
      rw [Machine.present_of_not_hasNull hnull.1] at hpresent
      cases hfind : machine.tree.find path with
      | ok entry => exact ⟨entry, rfl⟩
      | error obstacle =>
          rw [FileTree.present, hfind] at hpresent
          simp only at hpresent
          split at hpresent <;> simp at hpresent

/-- The first step ends in one of the ways described. -/
theorem run_setAside (machine : Machine) (path : Path) (now : Instant) :
    ∃ result after journal, machine.run (setAside path now) =
        (result, ⟨after, machine.faults, journal⟩) ∧
      SetsAside machine path now result after := by
  unfold setAside
  simp only [Machine.run_bind, Machine.run_require, Machine.host_present]
  cases hpresent : machine.present path with
  | error cause =>
      exact ⟨_, _, _, rfl, .escaped (Machine.kind?_failureOf_disk cause)⟩
  | ok answer =>
      cases answer with
      | false => exact ⟨_, _, _, rfl, .absent hpresent⟩
      | true =>
          simp only [Except.mapError, if_true, Machine.run_bind, Machine.run_liftM]
          cases hname : path.archiveName now with
          | error failure =>
              exact ⟨_, _, _, rfl, .escaped (Path.kind?_archiveName hname)⟩
          | ok newName =>
              simp only [Machine.run_require, Machine.host_present]
              cases hfree : machine.present (path.withName newName) with
              | error cause =>
                  exact ⟨_, _, _, rfl, .escaped (Machine.kind?_failureOf_disk cause)⟩
              | ok taken =>
                  cases taken with
                  | true => exact ⟨_, _, _, rfl, .taken hpresent hname hfree⟩
                  | false =>
                      simp only [Except.mapError, Bool.false_eq_true, if_false, Machine.run_bind,
                        Machine.run_announce, Machine.run_require, Machine.host_rename]
                      rcases machine.rename_cases path newName with
                        ⟨after, hrename⟩ | ⟨cause, hrename⟩
                      · simp only [hrename, Machine.run_pure]
                        exact ⟨_, _, _, rfl, .archived hpresent hname hfree (hrename _)⟩
                      · simp only [hrename]
                        by_cases hnull : cause = .nullInPath
                        · refine ⟨_, _, _, rfl, .escaped ?_⟩
                          rw [Machine.failureOf, if_pos hnull]
                          rfl
                        · refine ⟨_, _, _, rfl, ?_⟩
                          rw [Machine.failureOf, if_neg hnull]
                          exact .refused hpresent hname hfree (hrename _)

/-! ## New directories -/

/-- An operation that does nothing but make directories, which paths of a kind name. -/
def GrowsOnly {α : Type} (allowed : Path → Prop) (operation : StateM Machine α) : Prop :=
  ∀ machine : Machine, ∃ value after,
    operation machine = (value, { machine with tree := after }) ∧ Grows allowed machine.tree after

namespace GrowsOnly

variable {α β : Type} {allowed : Path → Prop}

theorem pure (value : α) : GrowsOnly allowed (pure value : StateM Machine α) :=
  fun machine => ⟨value, machine.tree, rfl, .refl⟩

theorem bind {first : StateM Machine α} {next : α → StateM Machine β}
    (hfirst : GrowsOnly allowed first) (hnext : ∀ value, GrowsOnly allowed (next value)) :
    GrowsOnly allowed (first >>= next) := by
  intro machine
  rcases hfirst machine with ⟨value, middle, hvalue, hmiddle⟩
  rcases hnext value { machine with tree := middle } with ⟨result, after, hresult, hafter⟩
  refine ⟨result, after, ?_, hmiddle.trans hafter⟩
  change next (first machine).1 (first machine).2 = _
  rw [hvalue]
  exact hresult

theorem isDirectory (path : Path) :
    GrowsOnly allowed (Host.isDirectory path : StateM Machine _) :=
  fun machine => ⟨machine.isDirectory path, machine.tree, rfl, .refl⟩

theorem makeDirectory {path : Path} (hallowed : allowed path) :
    GrowsOnly allowed (Host.makeDirectory path : StateM Machine _) := by
  intro machine
  change ∃ value after, machine.makeDirectory path = _ ∧ _
  unfold Machine.makeDirectory Machine.change
  split
  · exact ⟨_, machine.tree, rfl, .refl⟩
  · cases hmake : machine.tree.makeDirectory path with
    | error obstacle => exact ⟨_, machine.tree, rfl, .refl⟩
    | ok after => exact ⟨_, after, rfl, .single ⟨path, hallowed, hmake⟩⟩

theorem acceptDirectory (path : Path) (cause : DiskError) :
    GrowsOnly allowed (Host.acceptDirectory path cause : StateM Machine _) := by
  unfold Host.acceptDirectory
  split
  · exact .pure _
  · refine .bind (.isDirectory path) fun answer => ?_
    rcases answer with other | answer
    · exact .pure _
    · cases answer
      · exact .pure _
      · exact .pure _

theorem makeMissing {path : Path} (hallowed : allowed path) :
    GrowsOnly allowed (Host.makeMissing path : StateM Machine _) := by
  unfold Host.makeMissing
  refine .bind (.makeDirectory hallowed) fun made => ?_
  rcases made with cause | _
  · simp only
    split
    · exact .pure _
    · exact .acceptDirectory path cause
  · exact .pure _

/-- Directories are made for the path and for the paths above it. -/
theorem ensureParts (anchor : Anchor) (reversed : List String)
    (hallowed : ∀ parts, parts <+: reversed.reverse → allowed ⟨anchor, parts⟩) :
    GrowsOnly allowed (Host.ensureParts anchor reversed : StateM Machine _) := by
  induction reversed with
  | nil => exact .makeMissing (hallowed [] List.nil_prefix)
  | cons part above ih =>
      have hself : allowed ⟨anchor, (part :: above).reverse⟩ :=
        hallowed _ (List.prefix_refl _)
      have habove := ih fun parts hparts => by
        apply hallowed
        rw [List.reverse_cons]
        exact hparts.trans (List.prefix_append _ _)
      unfold Host.ensureParts
      refine .bind (.makeDirectory hself) fun made => ?_
      rcases made with cause | _
      · simp only
        split
        · refine .bind habove fun ensured => ?_
          rcases ensured with other | _
          · exact .pure _
          · exact .makeMissing hself
        · exact .acceptDirectory _ cause
      · exact .pure _

end GrowsOnly

/-- A path is one of the directories on the way to another one, as this is written. -/
def Path.IsAbove (ancestor path : Path) : Prop :=
  ancestor.anchor = path.anchor ∧ ancestor.parts <+: path.parts.dropLast

/-- Where the directory of a path is made sure of, directories on the way to the path are made. -/
theorem GrowsOnly.ensureParent (path : Path) :
    GrowsOnly (·.IsAbove path) (Host.ensureDirectory path.parent : StateM Machine _) := by
  apply GrowsOnly.ensureParts
  intro parts hparts
  rw [List.reverse_reverse] at hparts
  exact ⟨rfl, hparts⟩

/-! ## The second step -/

namespace Machine

variable (machine : Machine)

@[simp]
theorem host_writeNew (path : Path) (text : String) :
    (Host.writeNew path text : StateM Machine _) machine = machine.writeNew path text :=
  rfl

@[simp]
theorem host_remove (path : Path) :
    (Host.remove path : StateM Machine _) machine = machine.remove path :=
  rfl

/-- A file is made whole, or it is made empty, or nothing changes. -/
theorem writeNew_cases (path : Path) (text : String) :
    (∃ cause, machine.writeNew path text = (.refused cause, machine)) ∨
    (∃ after, machine.tree.create path (Text.Utf8.encode text.toList) = .ok after ∧
      machine.writeNew path text = (.complete, { machine with tree := after })) ∨
    (∃ after reason, machine.faults.write = some reason ∧ path.hasNull = false ∧
      machine.tree.create path [] = .ok after ∧
      machine.writeNew path text =
        (.cutShort (.reported reason), { machine with tree := after })) := by
  unfold writeNew
  cases machine.faults.create with
  | some reason => exact .inl ⟨_, rfl⟩
  | none =>
      simp only
      by_cases hnull : path.hasNull = true
      · rw [if_pos hnull]
        exact .inl ⟨_, rfl⟩
      · rw [if_neg hnull]
        cases machine.faults.write with
        | none =>
            simp only
            cases machine.tree.create path (Text.Utf8.encode text.toList) with
            | error obstacle => exact .inl ⟨_, rfl⟩
            | ok after => exact .inr (.inl ⟨after, rfl, rfl⟩)
        | some reason =>
            simp only
            cases machine.tree.create path [] with
            | error obstacle => exact .inl ⟨_, rfl⟩
            | ok after => exact .inr (.inr ⟨after, reason, rfl, by simpa using hnull, rfl, rfl⟩)

/-- A file that has just been made is taken away, unless that is made to fail. -/
theorem run_discard {before : FileTree} {path : Path} {bytes : List UInt8}
    (hnull : path.hasNull = false) (hcreate : before.create path bytes = .ok machine.tree) :
    ∃ after journal, machine.run (discard path) = (.ok (), ⟨after, machine.faults, journal⟩) ∧
      (after = before ∨ (after = machine.tree ∧ machine.faults.remove.isSome)) := by
  unfold discard
  rw [run_bind, run_lift, host_remove]
  cases hremove : machine.faults.remove with
  | some reason =>
      have hkept : machine.remove path = (.error (.reported reason), machine) := by
        unfold remove
        rw [hremove]
      simp only [hkept, run_announce]
      exact ⟨_, _, rfl, .inr ⟨rfl, rfl⟩⟩
  | none =>
      have htaken : machine.remove path = (.ok (), { machine with tree := before }) := by
        unfold remove
        rw [hremove]
        simp [hnull, FileTree.remove_of_create hcreate, change]
      simp only [htaken, run_pure]
      exact ⟨_, _, rfl, .inl rfl⟩

end Machine

/-- How the second step can end, and the tree that it leaves. -/
inductive Writes (faults : Faults) (tree : FileTree) (path : Path) (text : String)
    (archive : Option Path) : Except Failure Unit → FileTree → Prop where
  | written {middle after : FileTree} (hgrows : Grows (·.IsAbove path) tree middle)
      (hcreate : middle.create path (Text.Utf8.encode text.toList) = .ok after) :
      Writes faults tree path text archive (.ok ()) after
  | unwritten {middle : FileTree} {cause : DiskError}
      (hgrows : Grows (·.IsAbove path) tree middle) :
      Writes faults tree path text archive (.error (.notWritten path cause archive)) middle
  | partly {middle after : FileTree} {cause : DiskError}
      (hgrows : Grows (·.IsAbove path) tree middle) (hcreate : middle.create path [] = .ok after)
      (hwrite : faults.write.isSome) (hremove : faults.remove.isSome) :
      Writes faults tree path text archive (.error (.notWritten path cause archive)) after
  | escaped {middle : FileTree} {failure : Failure} (hgrows : Grows (·.IsAbove path) tree middle)
      (hkind : failure.kind? = none) :
      Writes faults tree path text archive (.error failure) middle

/-- A failed operation of the second step ends it, under the class of the step or under none. -/
theorem Writes.of_failure {faults : Faults} {tree middle : FileTree} {path : Path} {text : String}
    {archive : Option Path} (hgrows : Grows (·.IsAbove path) tree middle) (cause : DiskError) :
    Writes faults tree path text archive
      (.error (Machine.failureOf (.notWritten path · archive) cause)) middle := by
  unfold Machine.failureOf
  split
  · exact .escaped hgrows rfl
  · exact .unwritten hgrows

/-- The second step ends in one of the ways described. -/
theorem run_writeText (machine : Machine) (path : Path) (text : String) (archive : Option Path) :
    ∃ result after journal, machine.run (writeText path text archive) =
        (result, ⟨after, machine.faults, journal⟩) ∧
      Writes machine.faults machine.tree path text archive result after := by
  unfold writeText
  rcases GrowsOnly.ensureParent path machine with ⟨made, middle, hmade, hgrows⟩
  simp only [Machine.run_bind, Machine.run_require, hmade]
  cases made with
  | error cause => exact ⟨_, _, _, rfl, .of_failure hgrows cause⟩
  | ok _ =>
      simp only [Except.mapError, Machine.run_lift, Machine.host_writeNew]
      rcases Machine.writeNew_cases { machine with tree := middle } path text with
        ⟨cause, hnew⟩ | ⟨after, hcreate, hnew⟩ | ⟨after, reason, hwrite, hnull, hcreate, hnew⟩
      · simp only [hnew, Machine.run_giveUp]
        exact ⟨_, _, _, rfl, .of_failure hgrows cause⟩
      · simp only [hnew, Machine.run_pure]
        exact ⟨_, _, _, rfl, .written hgrows hcreate⟩
      · simp only [hnew, Machine.run_bind]
        obtain ⟨left, journal, hdiscard, hleft⟩ :=
          Machine.run_discard { machine with tree := after } hnull hcreate
        simp only [hdiscard, Machine.run_giveUp]
        refine ⟨_, _, _, rfl, ?_⟩
        rcases hleft with rfl | ⟨rfl, hremove⟩
        · exact .unwritten hgrows
        · exact .partly hgrows hcreate (Option.isSome_iff_exists.2 ⟨reason, hwrite⟩) hremove

/-! ## Both steps -/

/-- Publishing is the first step and, where that ends well, the second one. -/
theorem run_publish (machine : Machine) (document : Document) (now : Instant) :
    ∃ result after journal, machine.run (publish document now) =
        (result, ⟨after, machine.faults, journal⟩) ∧
      ((∃ failure, result = .error failure ∧
        SetsAside machine document.path now (.error failure) after) ∨
      (∃ archive middle written, SetsAside machine document.path now (.ok archive) middle ∧
        Writes machine.faults middle document.path document.text archive written after ∧
        result = written.map fun _ => archive)) := by
  unfold publish
  rcases run_setAside machine document.path now with ⟨aside, middle, journal, hrun, haside⟩
  simp only [Machine.run_bind, hrun]
  cases aside with
  | error failure => exact ⟨_, _, _, rfl, .inl ⟨failure, rfl, haside⟩⟩
  | ok archive =>
      obtain ⟨written, after, journal, hrun, hwrites⟩ :=
        run_writeText ⟨middle, machine.faults, journal⟩ document.path document.text archive
      simp only [hrun]
      cases written with
      | error failure => exact ⟨_, _, _, rfl, .inr ⟨_, _, _, haside, hwrites, rfl⟩⟩
      | ok _ => exact ⟨_, _, _, rfl, .inr ⟨_, _, _, haside, hwrites, rfl⟩⟩

end IconPress
