import IconPress.Proofs.Compile
import IconPress.Proofs.Publish

/-!
# The effects of publishing

Publishing a document either leaves the tree alone, or puts the earlier output aside and the
document in its place, or ends in between, with the earlier output aside and no document.  Nothing
else changes, apart from directories on the way to the document that were missing.

Main definitions:

- `FileTree.Moved`: a tree whose entries have moved.
- `FileTree.Effect`: entries that have moved, new directories and at most one new file.
- `FileTree.SetAsideAs`: how the earlier output moves.

Main results:

- `publish_effects`: the three effects.
-/

namespace IconPress

/-! ## Paths of compiled documents -/

/-- A compiled document is meant for the path that its settings and its size give. -/
theorem path_of_compile {settings : Settings} {obstacle : Option String} {sheet : Sheet}
    {document : Document} (h : (compile settings obstacle sheet).outcome = .ok document) :
    document.path = outputPath settings sheet.size := by
  rcases document_of_compile h with ⟨-, icons, rfl⟩
  rfl

/-- No part of a path that is read from a text is a single dot. -/
theorem Path.dot_not_mem_parse (text : String) : "." ∉ (Path.parse text).parts := by
  simp [Path.parse, Path.meaningfulParts]

/-- No part of the path of a document is a single dot. -/
theorem dot_not_mem_outputPath (settings : Settings) (size : Int) :
    "." ∉ (outputPath settings size).parts := by
  have hname : s!"icons{size}.rs" ≠ "." := by
    intro heq
    have hletter : 'i' ∈ ("icons" ++ toString size ++ ".rs").toList := by simp
    change "icons" ++ toString size ++ ".rs" = "." at heq
    rw [heq] at hletter
    simp at hletter
  intro hmem
  rw [outputPath, Path.child, List.mem_append, List.mem_singleton] at hmem
  rcases hmem with hmem | heq
  · exact Path.dot_not_mem_parse settings.outputDir hmem
  · exact hname heq.symm

/-- A path without a single dot has no name that is one. -/
theorem Path.name?_ne_dot {path : Path} (h : "." ∉ path.parts) : path.name? ≠ some "." :=
  fun heq => h (List.mem_of_getLast? heq)

/-- The directories on the way to a path without a single dot have no name that is one. -/
theorem Path.IsAbove.name?_ne_dot {ancestor path : Path} (h : "." ∉ path.parts)
    (habove : ancestor.IsAbove path) : ancestor.name? ≠ some "." :=
  Path.name?_ne_dot fun hmem =>
    h (List.dropLast_subset path.parts (habove.2.subset hmem))

namespace FileTree

/-! ## Moved entries and new ones -/

/-- All entries have moved as their locations say, and there are no others. -/
structure Moved (move : Location → Location) (before after : FileTree) : Prop where
  kept : ∀ location entry, before.at? location = some entry →
    after.at? (move location) = some entry
  origin : ∀ location entry, after.at? location = some entry →
    ∃ old, before.at? old = some entry ∧ location = move old

/--
All entries have moved as their locations say.  What else there is now are directories on the way
to a path and, if anything was written to the path, a file with these bytes.
-/
structure Effect (move : Location → Location) (path : Path) (written : Option (List UInt8))
    (before after : FileTree) : Prop where
  kept : ∀ location entry, before.at? location = some entry →
    after.at? (move location) = some entry
  origin : ∀ location entry, after.at? location = some entry →
    (∃ old, before.at? old = some entry ∧ location = move old) ∨
    (entry = .directory ∧ ∃ ancestor : Path, ancestor.IsAbove path ∧
      after.resolve ancestor = .ok location) ∨
    (∃ bytes, written = some bytes ∧ entry = .file bytes ∧ after.resolve path = .ok location)
  written : ∀ bytes, written = some bytes → after.read path = .ok bytes ∧
    ∃ directory name, after.slot path = .ok (.named directory name) ∧
      after.at? (directory ++ [name]) = some (.file bytes)

/-- How the entry that a path names is put aside, with all that is below it. -/
structure SetAsideAs (path : Path) (newName : String) (move : Location → Location)
    (before after : FileTree) : Prop where
  places : ∃ directory name, before.slot path = .ok (.named directory name) ∧
    before.slot (path.withName newName) = .ok (.named directory newName) ∧
    (∃ entry, before.at? (directory ++ [name]) = some entry) ∧
    before.at? (directory ++ [newName]) = none ∧
    move = shift (directory ++ [name]) (directory ++ [newName]) ∧
    after.at? (directory ++ [newName]) = before.at? (directory ++ [name])
  reached : after.slot path = before.slot path →
    after.slot (path.withName newName) = before.slot (path.withName newName)
  reached_of_file : ∀ directory name bytes, before.slot path = .ok (.named directory name) →
    before.at? (directory ++ [name]) = some (.file bytes) → after.slot path = before.slot path

section Effect

variable {move : Location → Location} {path : Path} {before middle after : FileTree}

theorem Moved.refl (tree : FileTree) : Moved id tree tree :=
  ⟨fun _ _ h => h, fun location _ h => ⟨location, h, rfl⟩⟩

/-- Renaming to a name where nothing stands moves entries. -/
theorem Moved.of_renamed {newName name : String} {directory : Location}
    (hwell : before.WellFormed) (hempty : before.at? (directory ++ [newName]) = none)
    (h : before.Renamed path newName directory name after) :
    Moved (shift (directory ++ [name]) (directory ++ [newName])) before after := by
  constructor
  · intro location entry hentry
    apply h.at?_shift hwell _ hentry
    rintro rfl
    rw [hempty] at hentry
    simp at hentry
  · intro location entry hentry
    rcases h.exists_of_at? hwell hentry with ⟨old, hold, -, hlocation⟩
    exact ⟨old, hold, hlocation⟩

/-- New directories after a move. -/
theorem Moved.effect_of_grows (hmoved : Moved move before middle) (hwell : middle.WellFormed)
    (hdot : "." ∉ path.parts) (hgrows : Grows (·.IsAbove path) middle after) :
    Effect move path none before after := by
  have hextends := (hgrows.extends_and_wellFormed hwell).1
  refine ⟨?_, ?_, by simp⟩
  · intro location entry hentry
    exact hextends.kept _ _ (hmoved.kept _ _ hentry)
  · intro location entry hentry
    rcases hgrows.cases_at? (fun ancestor habove => habove.name?_ne_dot hdot) hentry with
      hold | hnew
    · exact .inl (hmoved.origin _ _ hold)
    · exact .inr (.inl hnew)

/-- A new file after that. -/
theorem Effect.of_create {bytes : List UInt8} (h : Effect move path none before middle)
    (hdot : "." ∉ path.parts) (hcreate : middle.create path bytes = .ok after) :
    Effect move path (some bytes) before after := by
  have hextends := extends_of_add hcreate
  have hread := read_of_create hcreate (Path.name?_ne_dot hdot)
  obtain ⟨directory, name, -, rfl, hslot, hresolve, -⟩ :=
    find_of_add hcreate (Path.name?_ne_dot hdot) (by simp)
  refine ⟨?_, ?_, ?_⟩
  · intro location entry hentry
    exact hextends.kept _ _ (h.kept _ _ hentry)
  · intro location entry hentry
    rcases at?_put_cases hentry with ⟨rfl, rfl⟩ | hbefore
    · exact .inr (.inr ⟨bytes, rfl, rfl, hresolve⟩)
    · rcases h.origin _ _ hbefore with hold | ⟨rfl, ancestor, habove, habefore⟩ | ⟨_, hnone, _⟩
      · exact .inl hold
      · exact .inr (.inl ⟨rfl, ancestor, habove, hextends.resolve_eq hbefore habefore⟩)
      · simp at hnone
  · rintro _ ⟨⟩
    exact ⟨hread, directory, name, hslot, at?_put_self (by simp)⟩

/-- Further entries do not change how an entry was put aside. -/
theorem SetAsideAs.of_renamed {newName name : String} {directory : Location}
    (hwell : before.WellFormed) (hempty : before.at? (directory ++ [newName]) = none)
    (h : before.Renamed path newName directory name middle) (hextends : middle.Extends after) :
    SetAsideAs path newName (shift (directory ++ [name]) (directory ++ [newName])) before
      after := by
  have hmoved := Moved.of_renamed hwell hempty h
  rcases h.moved with ⟨entry, hentry⟩
  refine ⟨⟨directory, name, h.slot_eq, h.newSlot_eq, ⟨entry, hentry⟩, hempty, rfl, ?_⟩, ?_, ?_⟩
  · have hplace := hextends.kept _ _ (hmoved.kept _ _ hentry)
    rw [shift_self] at hplace
    rw [hplace, hentry]
  · intro hsame
    rw [h.slot_eq] at hsame
    rcases slot_eq_named_iff.1 h.newSlot_eq with ⟨hlength, -, hdots, hshort, -, -⟩
    rw [h.newSlot_eq]
    exact slot_withName hsame hlength hdots hshort
  · intro otherDirectory otherName bytes hslot hfile
    rw [h.slot_eq, Except.ok.injEq, Slot.named.injEq] at hslot
    rcases hslot with ⟨rfl, rfl⟩
    rw [h.slot_eq]
    exact hextends.slot_eq (h.slot_eq_of_file hwell hempty hfile)

end Effect

/-- A path names a link that leads to nothing. -/
def IsDangling (tree : FileTree) (path : Path) : Prop :=
  tree.present path = .ok false ∧ ∃ directory name link,
    tree.slot path = .ok (.named directory name) ∧
      tree.at? (directory ++ [name]) = some (.link link)

theorem not_isDangling_of_empty {tree : FileTree} {path : Path} {directory : Location}
    {name : String} (hslot : tree.slot path = .ok (.named directory name))
    (hempty : tree.at? (directory ++ [name]) = none) : ¬tree.IsDangling path := by
  rintro ⟨-, otherDirectory, otherName, link, hother, hlink⟩
  rw [hslot, Except.ok.injEq, Slot.named.injEq] at hother
  rcases hother with ⟨rfl, rfl⟩
  rw [hempty] at hlink
  simp at hlink

end FileTree

/-! ## The three effects -/

/-- Something is there that cannot be put aside: its archive name is taken, or renaming fails. -/
def CannotSetAside (machine : Machine) (path : Path) (newName : String) : Prop :=
  machine.present path = .ok true ∧ (machine.present (path.withName newName) = .ok true ∨
    ∃ cause next, machine.rename path newName = (.error cause, next))

/-- What was there has been put aside, and the archive is the one that is named. -/
structure AsideAfter (machine : Machine) (path : Path) (newName : String)
    (move : Location → Location) (archive : Option Path) (after : FileTree) : Prop where
  present : machine.present path = .ok true → archive = some (path.withName newName) ∧
    FileTree.SetAsideAs path newName move machine.tree after
  absent : machine.present path ≠ .ok true → archive = none ∧ move = id

/-- The first step, where it ends well, moves what was there and changes nothing else. -/
theorem SetsAside.asideAfter {machine : Machine} {path : Path} {now : Instant} {newName : String}
    {archive : Option Path} {middle : FileTree} (hwell : machine.tree.WellFormed)
    (hname : path.archiveName now = .ok newName)
    (hlink : ¬machine.tree.IsDangling (path.withName newName))
    (h : SetsAside machine path now (.ok archive) middle) :
    middle.WellFormed ∧ ¬CannotSetAside machine path newName ∧
      ∃ move, FileTree.Moved move machine.tree middle ∧
        ∀ after, middle.Extends after → AsideAfter machine path newName move archive after := by
  cases archive with
  | none =>
      cases h with
      | absent habsent =>
          have hother : machine.present path ≠ .ok true := by simp [habsent]
          refine ⟨hwell, fun hcannot => hother hcannot.1, id, .refl _, fun after _ => ⟨?_, ?_⟩⟩
          · exact fun hpresent => absurd hpresent hother
          · exact fun _ => ⟨rfl, rfl⟩
  | some archive =>
      have hwhich := h.renamed
      cases h with
      | @archived usedName _ hpresent hused hfree hrename =>
          rcases hwhich with ⟨otherName, directory, name, hother, -, habsent, hrenamed⟩
          rw [hname, Except.ok.injEq] at hused hother
          subst hused
          subst hother
          have hempty : machine.tree.at? (directory ++ [newName]) = none := by
            rcases hrenamed.target with hempty | ⟨link, hat⟩
            · exact hempty
            · exact absurd ⟨habsent, directory, newName, link, hrenamed.newSlot_eq, hat⟩ hlink
          refine ⟨hrenamed.wellFormed hwell, ?_, _, .of_renamed hwell hempty hrenamed, ?_⟩
          · rintro ⟨-, htaken | ⟨cause, next, hfails⟩⟩
            · rw [hfree] at htaken
              simp at htaken
            · rw [hrename] at hfails
              simp at hfails
          · intro after hextends
            refine ⟨fun _ => ⟨rfl, ?_⟩, fun habsent => absurd hpresent habsent⟩
            exact .of_renamed hwell hempty hrenamed hextends

/-- Where the first step fails under a class, something is there that cannot be put aside. -/
theorem SetsAside.cannotSetAside {machine : Machine} {path : Path} {now : Instant}
    {newName : String} {failure : Failure} {after : FileTree}
    (hname : path.archiveName now = .ok newName) (hkind : failure.kind? ≠ none)
    (h : SetsAside machine path now (.error failure) after) :
    CannotSetAside machine path newName := by
  cases h with
  | taken hpresent hused htaken =>
      rw [hname, Except.ok.injEq] at hused
      subst hused
      exact ⟨hpresent, .inl htaken⟩
  | refused hpresent hused _ hrename =>
      rw [hname, Except.ok.injEq] at hused
      subst hused
      exact ⟨hpresent, .inr ⟨_, _, hrename⟩⟩
  | escaped hnone => exact absurd hnone hkind

section Writes

variable {faults : Faults} {move : Location → Location} {path : Path} {text : String}
  {archive : Option Path} {before middle after : FileTree}

/-- A second step that ends well writes the document. -/
theorem Writes.effect_of_ok (hmoved : FileTree.Moved move before middle)
    (hmiddle : middle.WellFormed) (hdot : "." ∉ path.parts)
    (h : Writes faults middle path text archive (.ok ()) after) :
    middle.Extends after ∧
      FileTree.Effect move path (some (Text.Utf8.encode text.toList)) before after := by
  cases h with
  | written hgrows hcreate =>
      have hgrown := (hgrows.extends_and_wellFormed hmiddle).1
      have heffect := hmoved.effect_of_grows hmiddle hdot hgrows
      exact ⟨hgrown.trans (FileTree.extends_of_add hcreate), heffect.of_create hdot hcreate⟩

/-- A second step that fails under a class leaves no document, or an empty one. -/
theorem Writes.effect_of_error {failure : Failure} (hmoved : FileTree.Moved move before middle)
    (hmiddle : middle.WellFormed) (hdot : "." ∉ path.parts) (hkind : failure.kind? ≠ none)
    (h : Writes faults middle path text archive (.error failure) after) :
    middle.Extends after ∧ (∃ cause, failure = .notWritten path cause archive) ∧
      (FileTree.Effect move path none before after ∨ (faults.write.isSome ∧
        faults.remove.isSome ∧ FileTree.Effect move path (some []) before after)) := by
  cases h with
  | unwritten hgrows =>
      have hgrown := (hgrows.extends_and_wellFormed hmiddle).1
      exact ⟨hgrown, ⟨_, rfl⟩, .inl (hmoved.effect_of_grows hmiddle hdot hgrows)⟩
  | partly hgrows hcreate hwrite hremove =>
      have hgrown := (hgrows.extends_and_wellFormed hmiddle).1
      have heffect := hmoved.effect_of_grows hmiddle hdot hgrows
      exact ⟨hgrown.trans (FileTree.extends_of_add hcreate), ⟨_, rfl⟩,
        .inr ⟨hwrite, hremove, heffect.of_create hdot hcreate⟩⟩
  | escaped _ hnone => exact absurd hnone hkind

end Writes

/--
Publishing a compiled document has one of three effects, unless it ends with a failure that is not
reported under a class.  If there is an earlier output that cannot be put aside, it fails and the
tree is the same.  If it returns, the earlier output is aside, the archive is returned, and the
document is written.  If it fails otherwise, the earlier output is aside as well, but there is no
document: at most an empty file, where neither writing nor removing it succeeds.
-/
theorem publish_effects {settings : Settings} {obstacle : Option String} {sheet : Sheet}
    {document : Document} (hdocument : (compile settings obstacle sheet).outcome = .ok document)
    {machine : Machine} (hwell : machine.tree.WellFormed) {now : Instant} {newName : String}
    (hname : document.path.archiveName now = .ok newName)
    (hlink : ¬machine.tree.IsDangling (document.path.withName newName))
    {result : Except Failure (Option Path)} {after : Machine}
    (hrun : machine.run (publish document now) = (result, after))
    (hkind : ∀ failure, result = .error failure → failure.kind? = some .filesystem) :
    (CannotSetAside machine document.path newName →
      (∃ failure, result = .error failure ∧ failure.kind? = some .filesystem) ∧
        after.tree = machine.tree) ∧
    (∀ archive, result = .ok archive → ∃ move,
      AsideAfter machine document.path newName move archive after.tree ∧
        FileTree.Effect move document.path (some (Text.Utf8.encode document.text.toList))
          machine.tree after.tree) ∧
    (∀ failure, result = .error failure → ¬CannotSetAside machine document.path newName →
      ∃ move archive, (∃ cause, failure = .notWritten document.path cause archive) ∧
        AsideAfter machine document.path newName move archive after.tree ∧
        (FileTree.Effect move document.path none machine.tree after.tree ∨
          (machine.faults.write.isSome ∧ machine.faults.remove.isSome ∧
            FileTree.Effect move document.path (some []) machine.tree after.tree))) := by
  have hdot : "." ∉ document.path.parts := by
    rw [path_of_compile hdocument]
    exact dot_not_mem_outputPath settings sheet.size
  rcases run_publish machine document now with ⟨_, tree, journal, hends, hcases⟩
  rw [hrun, Prod.mk.injEq] at hends
  rcases hends with ⟨rfl, rfl⟩
  rcases hcases with ⟨failure, rfl, haside⟩ | ⟨archive, middle, written, haside, hwrites, rfl⟩
  · have hclass := hkind failure rfl
    have hcannot := haside.cannotSetAside hname (by simp [hclass])
    refine ⟨fun _ => ⟨⟨failure, rfl, hclass⟩, haside.tree_eq⟩, by simp, ?_⟩
    exact fun _ _ hcan => absurd hcannot hcan
  · rcases haside.asideAfter hwell hname hlink with ⟨hmiddle, hcan, move, hmoved, hafter⟩
    refine ⟨fun hcannot => absurd hcannot hcan, ?_, ?_⟩
    · intro returned hreturned
      cases written with
      | error failure => simp [Except.map] at hreturned
      | ok value =>
          obtain rfl : archive = returned := Except.ok.inj hreturned
          rcases hwrites.effect_of_ok hmoved hmiddle hdot with ⟨hextends, heffect⟩
          exact ⟨move, hafter _ hextends, heffect⟩
    · intro failure hfailure _
      have hclass := hkind failure hfailure
      cases written with
      | ok value => simp [Except.map] at hfailure
      | error other =>
          obtain rfl : other = failure := Except.error.inj hfailure
          obtain ⟨hextends, hnamed, heffect⟩ :=
            hwrites.effect_of_error hmoved hmiddle hdot (by simp [hclass])
          exact ⟨move, archive, hnamed, hafter _ hextends, heffect⟩

/-- A sheet without icons. -/
def emptySheet : Sheet :=
  ⟨"", 5, unknownSource⟩

/-- The document of `emptySheet` for a directory. -/
def emptyDocument (outputDir : String) : Document :=
  let settings := { Settings.standard with outputDir := outputDir }
  ⟨outputPath settings 5, structName 5, documentText settings 5 [], []⟩

/-- Midnight of a day. -/
def midnight : Instant :=
  ⟨2024, 1, 1, 0, 0, 0⟩

/-- The name of the archive of an output for `emptySheet` that gives way at `midnight`. -/
def midnightName : String :=
  "icons5_2024-01-01T00:00:00.old.rs"

/-- A machine with an output in a directory. -/
def tidyMachine : Machine :=
  ⟨⟨[(["out", "icons5.rs"], .file [1, 2]), (["out"], .directory)], []⟩, .none, []⟩

/-- The document that takes the place of that output. -/
def tidyDocument : Document :=
  emptyDocument "out"

/-- An earlier output and the document that takes its place. -/
theorem publish_effects_tidyMachine :
    ∃ move after, (tidyMachine.run (publish tidyDocument midnight)).2 = after ∧
      AsideAfter tidyMachine tidyDocument.path midnightName move
        (some (tidyDocument.path.withName midnightName)) after.tree ∧
      FileTree.Effect move tidyDocument.path (some (Text.Utf8.encode tidyDocument.text.toList))
        tidyMachine.tree after.tree := by
  have hcompile : (compile { Settings.standard with outputDir := "out" } none emptySheet).outcome =
      .ok tidyDocument := rfl
  have hwell : tidyMachine.tree.WellFormed := ⟨by decide, by decide, by decide⟩
  have hname : tidyDocument.path.archiveName midnight = .ok midnightName := by decide +kernel
  have hlink : ¬tidyMachine.tree.IsDangling (tidyDocument.path.withName midnightName) :=
    FileTree.not_isDangling_of_empty
      (by decide +kernel : tidyMachine.tree.slot _ = .ok (.named ["out"] midnightName))
      (by decide +kernel)
  have hresult : (tidyMachine.run (publish tidyDocument midnight)).1 =
      .ok (some (tidyDocument.path.withName midnightName)) := by decide +kernel
  generalize hrun : tidyMachine.run (publish tidyDocument midnight) = ended at hresult ⊢
  rcases ended with ⟨result, after⟩
  subst hresult
  rcases publish_effects hcompile hwell hname hlink hrun (by simp) with ⟨-, hreturned, -⟩
  rcases hreturned _ rfl with ⟨move, haside, heffect⟩
  exact ⟨move, after, rfl, haside, heffect⟩

/-- A tree where the way to the output leads through the output, a directory with a link back. -/
def loopedTree : FileTree :=
  ⟨[(["a"], .directory), (["a", "icons5.rs"], .directory),
    (["a", "icons5.rs", "link"], .link "..")], []⟩

/--
Where the way to an output leads through the output, the path of its archive leads to nothing
afterwards, although it is the path that is returned.
-/
theorem archive_out_of_reach :
    let settings := { Settings.standard with outputDir := "a/icons5.rs/link" }
    let document := emptyDocument "a/icons5.rs/link"
    let archive := document.path.withName midnightName
    let run := Machine.run ⟨loopedTree, .none, []⟩ (publish document midnight)
    (compile settings none emptySheet).outcome = .ok document ∧
      ".." ∉ (Path.parse settings.outputDir).parts ∧ loopedTree.WellFormed ∧
      ¬loopedTree.IsDangling archive ∧ loopedTree.find document.path = .ok .directory ∧
      document.path.archivedAt midnight = .ok archive ∧ run.1 = .ok (some archive) ∧
      run.2.tree.find archive = .error .missing := by
  intro settings document archive run
  have hlink : ¬loopedTree.IsDangling archive :=
    FileTree.not_isDangling_of_empty
      (by decide +kernel : loopedTree.slot _ = .ok (.named ["a"] midnightName))
      (by decide +kernel)
  exact ⟨rfl, by decide +kernel, ⟨by decide, by decide, by decide⟩, hlink, by decide +kernel,
    by decide +kernel, by decide +kernel, by decide +kernel⟩

end IconPress
