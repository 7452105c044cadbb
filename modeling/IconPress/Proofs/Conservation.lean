import IconPress.Proofs.Publish

/-!
# No output is ever lost

However often documents are published on a machine, at whatever times and whatever operations
fail, the files that were there are still there, each with its bytes.  Some may bear another name.

Main definitions:

- `FileTree.Keeps`: another tree holds the files of a tree.
- `Call` and `serve`: one document to publish, and the machine afterwards.

Main results:

- `keeps_publish`: one run.
- `keeps_serve`: any number of runs, one after another.
-/

namespace IconPress
namespace FileTree

/-- The number of files with some bytes. -/
def copies (tree : FileTree) (bytes : List UInt8) : Nat :=
  tree.entries.countP fun listed => listed.2 = .file bytes

/-- Another tree holds every file of a tree, if not at its place then where it has moved. -/
structure Keeps (before after : FileTree) : Prop where
  copies_le : ∀ bytes, before.copies bytes ≤ after.copies bytes
  moved : ∃ move : Location → Location,
    (∀ location bytes, before.at? location = some (.file bytes) →
      after.at? (move location) = some (.file bytes)) ∧
    ∀ first second firstBytes secondBytes, before.at? first = some (.file firstBytes) →
      before.at? second = some (.file secondBytes) → move first = move second → first = second

namespace Keeps

variable {before middle after : FileTree}

theorem refl (tree : FileTree) : tree.Keeps tree :=
  ⟨fun _ => Nat.le_refl _, id, fun _ _ h => h, fun _ _ _ _ _ _ h => h⟩

theorem trans (hfirst : before.Keeps middle) (hsecond : middle.Keeps after) :
    before.Keeps after := by
  rcases hfirst.moved with ⟨first, hfirstMoved, hfirstApart⟩
  rcases hsecond.moved with ⟨second, hsecondMoved, hsecondApart⟩
  refine ⟨fun bytes => Nat.le_trans (hfirst.copies_le bytes) (hsecond.copies_le bytes),
    second ∘ first, ?_, ?_⟩
  · intro location bytes h
    exact hsecondMoved _ _ (hfirstMoved _ _ h)
  · intro one other oneBytes otherBytes hone hother heq
    apply hfirstApart one other oneBytes otherBytes hone hother
    exact hsecondApart _ _ _ _ (hfirstMoved _ _ hone) (hfirstMoved _ _ hother) heq

/-- A new entry costs no file. -/
theorem of_add {path : Path} {entry : Entry} (h : before.add path entry = .ok after) :
    before.Keeps after := by
  have hextends := extends_of_add h
  rcases add_eq_ok_iff.1 h with ⟨directory, name, -, -, rfl⟩
  refine ⟨?_, id, fun location bytes hfile => hextends.kept _ _ hfile, fun _ _ _ _ _ _ h => h⟩
  intro bytes
  rw [copies, copies, put, List.countP_cons]
  exact Nat.le_add_right _ _

/-- New directories cost no file. -/
theorem of_grows {allowed : Path → Prop} (h : Grows allowed before after) :
    before.Keeps after := by
  induction h with
  | refl => exact .refl before
  | tail _ hstep ih =>
      rcases hstep with ⟨path, -, hmake⟩
      exact ih.trans (.of_add hmake)

/-- An entry that is no file costs no file. -/
theorem copies_eraseAt (hwell : before.WellFormed) {location : Location}
    (hother : ∀ bytes, before.at? location ≠ some (.file bytes)) (bytes : List UInt8) :
    (before.eraseAt location).copies bytes = before.copies bytes := by
  rw [copies, copies, hwell.entries_eraseAt, List.countP_filter]
  apply List.countP_congr
  intro listed hlisted
  simp only [ne_eq, Bool.and_eq_true, decide_eq_true_eq, and_iff_left_iff_imp]
  intro hfile heq
  apply hother bytes
  rw [← heq, hwell.at?_of_mem hlisted, hfile]

/-- Another name that leads to nothing costs no file. -/
theorem of_renamed {path : Path} {newName name : String} {directory : Location}
    (hwell : before.WellFormed) (h : before.Renamed path newName directory name after) :
    before.Keeps after := by
  have hother : ∀ bytes, before.at? (directory ++ [newName]) ≠ some (.file bytes) := by
    intro bytes
    rcases h.target with hempty | ⟨link, hlink⟩
    · simp [hempty]
    · simp [hlink]
  have hne : ∀ location bytes, before.at? location = some (.file bytes) →
      location ≠ directory ++ [newName] := by
    rintro _ bytes hfile rfl
    exact hother bytes hfile
  refine ⟨?_, shift (directory ++ [name]) (directory ++ [newName]), ?_, ?_⟩
  · intro bytes
    have hrelocate : after.copies bytes =
        (before.eraseAt (directory ++ [newName])).copies bytes := by
      rw [h.after_eq, copies, copies, relocate, List.countP_map]
      rfl
    exact Nat.le_of_eq (hrelocate.trans (copies_eraseAt hwell hother bytes)).symm
  · intro location bytes hfile
    exact h.at?_shift hwell (hne location bytes hfile) hfile
  · intro first second firstBytes secondBytes hfirst hsecond heq
    have hcleared := hwell.eraseAt h.target_ne_directory
    have hempty : (before.eraseAt (directory ++ [newName])).at? (directory ++ [newName]) = none :=
      hwell.at?_eraseAt_self (by simp)
    have hstill : ∀ location bytes, before.at? location = some (.file bytes) →
        (before.eraseAt (directory ++ [newName])).at? location = some (.file bytes) := by
      intro location bytes hfile
      rw [hwell.at?_eraseAt_of_ne (hne location bytes hfile), hfile]
    exact shift_inj (hcleared.not_below_of_empty hempty (hstill first firstBytes hfirst))
      (hcleared.not_below_of_empty hempty (hstill second secondBytes hsecond)) heq

end Keeps
end FileTree

/-! ## Runs -/

/-- The first step keeps all files. -/
theorem SetsAside.keeps {machine : Machine} {path : Path} {now : Instant}
    {result : Except Failure (Option Path)} {after : FileTree}
    (hwell : machine.tree.WellFormed) (h : SetsAside machine path now result after) :
    after.WellFormed ∧ machine.tree.Keeps after := by
  cases result with
  | error failure =>
      rw [h.tree_eq]
      exact ⟨hwell, .refl _⟩
  | ok archive =>
      cases archive with
      | none =>
          cases h with
          | absent => exact ⟨hwell, .refl _⟩
      | some archive =>
          rcases h.renamed with ⟨newName, directory, name, -, -, -, hrenamed⟩
          exact ⟨hrenamed.wellFormed hwell, .of_renamed hwell hrenamed⟩

/-- The second step keeps all files. -/
theorem Writes.keeps {faults : Faults} {tree after : FileTree} {path : Path} {text : String}
    {archive : Option Path} {result : Except Failure Unit} (hwell : tree.WellFormed)
    (h : Writes faults tree path text archive result after) :
    after.WellFormed ∧ tree.Keeps after := by
  have hgrown : ∀ {middle : FileTree}, FileTree.Grows (·.IsAbove path) tree middle →
      middle.WellFormed ∧ tree.Keeps middle :=
    fun hgrows => ⟨(hgrows.extends_and_wellFormed hwell).2, .of_grows hgrows⟩
  cases h with
  | written hgrows hcreate =>
      rcases hgrown hgrows with ⟨hmiddle, hkeeps⟩
      exact ⟨hmiddle.add hcreate, hkeeps.trans (.of_add hcreate)⟩
  | unwritten hgrows => exact hgrown hgrows
  | partly hgrows hcreate _ _ =>
      rcases hgrown hgrows with ⟨hmiddle, hkeeps⟩
      exact ⟨hmiddle.add hcreate, hkeeps.trans (.of_add hcreate)⟩
  | escaped hgrows _ => exact hgrown hgrows

/-- Publishing keeps all files, however it ends. -/
theorem keeps_publish (machine : Machine) (hwell : machine.tree.WellFormed) (document : Document)
    (now : Instant) :
    let after := (machine.run (publish document now)).2.tree
    after.WellFormed ∧ machine.tree.Keeps after := by
  rcases run_publish machine document now with ⟨result, after, journal, hrun, hends⟩
  rw [hrun]
  rcases hends with ⟨failure, -, haside⟩ | ⟨archive, middle, written, haside, hwrites, -⟩
  · exact haside.keeps hwell
  · rcases haside.keeps hwell with ⟨hmiddle, hfirst⟩
    rcases hwrites.keeps hmiddle with ⟨hafter, hsecond⟩
    exact ⟨hafter, hfirst.trans hsecond⟩

/-- A document to publish, the time and the operations that fail meanwhile. -/
structure Call where
  document : Document
  now : Instant
  faults : Faults

/-- The machine after a document was published, whether or not that succeeded. -/
def serve (machine : Machine) (call : Call) : Machine :=
  (Machine.run { machine with faults := call.faults } (publish call.document call.now)).2

/--
No output is ever lost.  After any number of documents, one more leaves all files that there were
before it, and all that there were at first, with their bytes; and there are at least as many
copies of every content.
-/
theorem keeps_serve {machine : Machine} (hwell : machine.tree.WellFormed) (earlier : List Call)
    (call : Call) :
    let before := earlier.foldl serve machine
    let after := serve before call
    before.tree.WellFormed ∧ before.tree.Keeps after.tree ∧ machine.tree.Keeps after.tree := by
  have hearlier : (earlier.foldl serve machine).tree.WellFormed ∧
      machine.tree.Keeps (earlier.foldl serve machine).tree := by
    induction earlier generalizing machine with
    | nil => exact ⟨hwell, .refl _⟩
    | cons first rest ih =>
        obtain ⟨hserved, hkeeps⟩ :=
          keeps_publish { machine with faults := first.faults } hwell first.document first.now
        rcases ih hserved with ⟨hlast, hrest⟩
        exact ⟨hlast, hkeeps.trans hrest⟩
  intro before after
  have hkeeps :=
    (keeps_publish { before with faults := call.faults } hearlier.1 call.document call.now).2
  exact ⟨hearlier.1, hkeeps, hearlier.2.trans hkeeps⟩

/-- A machine with an output. -/
def usedMachine : Machine :=
  ⟨⟨[(["icons1.rs"], .file [1, 2])], []⟩, .none, []⟩

/-- A document that takes the place of that output; its file cannot be written whole. -/
def brokenCall : Call :=
  ⟨⟨⟨.here, ["icons1.rs"]⟩, "Icons1", "new", []⟩, ⟨2024, 1, 31, 12, 0, 0⟩,
    { Faults.none with write := some "disk full" }⟩

/-- The output outlives two documents that are published at the same time and not written. -/
theorem keeps_serve_usedMachine :
    usedMachine.tree.WellFormed ∧
      usedMachine.tree.Keeps (serve (serve usedMachine brokenCall) brokenCall).tree := by
  have hwell : usedMachine.tree.WellFormed := ⟨by decide, by decide, by decide⟩
  exact ⟨hwell, (keeps_serve hwell [brokenCall] brokenCall).2.2⟩

end IconPress
