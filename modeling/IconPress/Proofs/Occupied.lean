import IconPress.Proofs.Conservation
import IconPress.Proofs.Reported

/-!
# Archive names that are taken

When something already bears the name that the previous output should get, publishing fails and
the tree stays as it is.  There is one exception.  Whether the name is taken is found out by going
where it leads, but renaming acts on the name itself: a link that leads to nothing does not count as
something that is there, and it gives way to the previous output.

Main definitions:

- `LinkGivesWay`: the exception.

Main results:

- `FileTree.rename_over_link`: what renaming does where a link bears the new name.
- `publish_occupied`: what publishing does where anything bears the archive name.
-/

namespace IconPress

open FileTree (nameLimit linkLimit checkLength)

namespace FileTree

variable {tree : FileTree} {path : Path} {newName name : String} {directory : Location}

/-- The directory of the place that a path names is the one that its parent leads to. -/
theorem slot_directory_eq {found : Location} (hparent : tree.resolve path.parent = .ok directory)
    (hslot : tree.slot path = .ok (.named found name)) : found = directory := by
  rcases bind_eq_ok_iff.1 hparent with ⟨_, -, hwalk⟩
  have hfound := (slot_eq_named_iff.1 hslot).2.2.2.2.2
  exact Except.ok.inj (hfound.symm.trans hwalk)

/-- A path and a path with another name lead on from the same directory. -/
theorem resolve_pair (hslot : tree.slot path = .ok (.named directory name)) :
    ∃ left, tree.resolve path = tree.walk left directory [name] ∧
      ∀ other, checkLength (path.withName other) = .ok () →
        tree.resolve (path.withName other) = tree.walk left directory [other] := by
  rcases leads_of_slot hslot with ⟨left, hway⟩
  have hstep : ∀ other, checkLength (path.withName other) = .ok () →
      tree.resolve (path.withName other) = tree.walk left directory [other] := by
    intro other hlength
    rw [resolve, hlength]
    exact hway.walk_append [other]
  refine ⟨left, ?_, hstep⟩
  have hself := hstep name
  rw [withName_of_slot hslot] at hself
  exact hself (slot_eq_named_iff.1 hslot).1

/-- A name that leads to nothing, as far as there is an answer, is short enough. -/
theorem slot_withName_of_absent (hslot : tree.slot path = .ok (.named directory name))
    (habsent : tree.present (path.withName newName) = .ok false) (hdot : newName ≠ ".")
    (hdots : newName ≠ "..") :
    tree.slot (path.withName newName) = .ok (.named directory newName) := by
  have hanswered := find_ne_of_present habsent
  have hlength : checkLength (path.withName newName) = .ok () := by
    unfold checkLength
    split
    · rfl
    · rename_i hlong
      refine absurd ?_ hanswered
      simp only [find, resolve, checkLength, if_neg hlong, bind, Except.bind]
  refine slot_withName hslot hlength hdots (Nat.not_lt.1 fun hlong => hanswered ?_)
  rcases resolve_pair hslot with ⟨left, -, hother⟩
  rw [find, hother newName hlength, walk_long (at?_of_slot hslot) left [] hdot hdots hlong]
  rfl

/-- Renaming where a link bears the new name: the link gives way, unless to a directory. -/
theorem rename_over_link {moved : Entry} {link : String}
    (hslot : tree.slot path = .ok (.named directory name))
    (hnew : tree.slot (path.withName newName) = .ok (.named directory newName))
    (hmoved : tree.at? (directory ++ [name]) = some moved)
    (hlink : tree.at? (directory ++ [newName]) = some (.link link)) (hne : name ≠ newName) :
    tree.rename path newName =
      if moved = .directory then .error .notDirectory
      else .ok ((tree.eraseAt (directory ++ [newName])).relocate (directory ++ [name])
        (directory ++ [newName])) := by
  rcases slot_eq_named_iff.1 hnew with ⟨hlength, -, -, hshort, -, -⟩
  have hplaces : directory ++ [name] ≠ directory ++ [newName] := by simpa using hne
  simp only [rename, hslot, bind, Except.bind, hlength, hmoved, if_neg (Nat.not_lt.2 hshort),
    if_neg hplaces, hlink]
  cases moved <;> simp [mayReplace]

/-- Two links alike in one directory lead to the same. -/
theorem find_eq_of_same_link {link : String}
    (hslot : tree.slot path = .ok (.named directory name))
    (hnew : tree.slot (path.withName newName) = .ok (.named directory newName))
    (hdot : name ≠ ".") (hnewDot : newName ≠ ".")
    (hlink : tree.at? (directory ++ [name]) = some (.link link))
    (hother : tree.at? (directory ++ [newName]) = some (.link link)) :
    tree.find path = tree.find (path.withName newName) := by
  rcases slot_eq_named_iff.1 hslot with ⟨-, -, hdots, hshort, hdirectory, -⟩
  rcases slot_eq_named_iff.1 hnew with ⟨hlength, -, hnewDots, hnewShort, -, -⟩
  have hname : IsProper name := ⟨hdot, hdots, hshort⟩
  have hnewName : IsProper newName := ⟨hnewDot, hnewDots, hnewShort⟩
  rcases resolve_pair hslot with ⟨left, hself, hpair⟩
  have hsame : tree.resolve path = tree.resolve (path.withName newName) := by
    rw [hself, hpair newName hlength]
    cases left with
    | zero =>
        rw [walk_link_zero hdirectory [] hname hlink, walk_link_zero hdirectory [] hnewName hother]
    | succ left =>
        rw [walk_link hdirectory left [] hname hlink, walk_link hdirectory left [] hnewName hother]
  rw [find, find, hsame]

end FileTree

/-! ## Links that give way -/

/--
The exception: what bears the archive name leads to nothing, renaming is not made to fail, and what
gets the archive name is not a directory itself.
-/
structure LinkGivesWay (machine : Machine) (path : Path) (newName : String) (directory : Location)
    (moved : Entry) : Prop where
  absent : machine.tree.present (path.withName newName) = .ok false
  renames : machine.faults.rename = none
  place : ∃ name, machine.tree.slot path = .ok (.named directory name) ∧
    machine.tree.at? (directory ++ [name]) = some moved
  plain : moved ≠ .directory

section Occupied

variable {machine : Machine} {path : Path} {now : Instant} {newName : String}
  {directory : Location} {entry : Entry}

/-- A name that a path leads to something with is not a name that it leads to nothing with. -/
theorem name_ne_of_absent {name : String}
    (hthere : machine.tree.present path = .ok true)
    (habsent : machine.tree.present (path.withName newName) = .ok false)
    (hslot : machine.tree.slot path = .ok (.named directory name)) : name ≠ newName := by
  rintro rfl
  rw [FileTree.withName_of_slot hslot, hthere] at habsent
  simp at habsent

theorem newName_ne_dots (hname : path.archiveName now = .ok newName) :
    newName ≠ "." ∧ newName ≠ ".." := by
  rcases Path.archiveName_eq_ok hname with ⟨name, -, rfl⟩
  have hmem := mem_stampedName name now
  constructor
  · intro heq
    rw [heq] at hmem
    simp at hmem
  · intro heq
    rw [heq] at hmem
    simp at hmem

/-- Where the archive name is borne by something, renaming succeeds only over a link. -/
theorem SetsAside.linkGivesWay (hwell : machine.tree.WellFormed) {archive : Path}
    {middle : FileTree}
    (hparent : machine.tree.resolve path.parent = .ok directory)
    (hname : path.archiveName now = .ok newName)
    (hentry : machine.tree.at? (directory ++ [newName]) = some entry)
    (h : SetsAside machine path now (.ok (some archive)) middle) :
    ∃ moved, LinkGivesWay machine path newName directory moved ∧
      middle.at? (directory ++ [newName]) = some moved := by
  obtain ⟨other, found, name, hother, harchive, habsent, hrenamed⟩ := h.renamed
  rw [hname, Except.ok.injEq] at hother
  subst hother
  obtain rfl := FileTree.slot_directory_eq hparent hrenamed.slot_eq
  rcases hrenamed.moved with ⟨moved, hmoved⟩
  obtain ⟨link, hlink⟩ := hrenamed.target.resolve_left (by simp [hentry])
  have hover := FileTree.rename_over_link hrenamed.slot_eq hrenamed.newSlot_eq hmoved hlink
    hrenamed.name_ne
  have hplace := hrenamed.at?_shift hwell (by simpa using hrenamed.name_ne) hmoved
  rw [FileTree.shift_self] at hplace
  refine ⟨moved, ⟨harchive ▸ habsent, ?_, ⟨name, hrenamed.slot_eq, hmoved⟩, ?_⟩, hplace⟩
  · cases h with
    | archived _ _ _ hrename =>
        unfold Machine.rename at hrename
        cases hfault : machine.faults.rename with
        | none => rfl
        | some reason => simp [hfault] at hrename
  · rintro rfl
    cases h with
    | archived _ hused _ hrename =>
        rw [hname, Except.ok.injEq] at hused
        subst hused
        have hfails := (Machine.rename_eq_ok hrename).2
        rw [hover, if_pos rfl] at hfails
        simp at hfails

/-- What gives way is a link. -/
theorem LinkGivesWay.exists_link {moved : Entry} (hname : path.archiveName now = .ok newName)
    (hentry : machine.tree.at? (directory ++ [newName]) = some entry)
    (h : LinkGivesWay machine path newName directory moved) : ∃ link, entry = .link link := by
  rcases newName_ne_dots hname with ⟨hdot, hdots⟩
  rcases h.place with ⟨name, hslot, -⟩
  have hnew := FileTree.slot_withName_of_absent hslot h.absent hdot hdots
  rcases FileTree.empty_or_link_of_absent hnew hdot h.absent with hempty | ⟨link, hlink⟩
  · rw [hempty] at hentry
    simp at hentry
  · exact ⟨link, Option.some.inj (hentry.symm.trans hlink)⟩

/-- What leads to something is not a link alike. -/
theorem LinkGivesWay.moved_ne {moved : Entry} (hname : path.archiveName now = .ok newName)
    (hdot : path.name? ≠ some ".") (hthere : machine.tree.present path = .ok true)
    (hentry : machine.tree.at? (directory ++ [newName]) = some entry)
    (h : LinkGivesWay machine path newName directory moved) : moved ≠ entry := by
  rintro rfl
  obtain ⟨link, rfl⟩ := h.exists_link hname hentry
  rcases newName_ne_dots hname with ⟨hnewDot, hnewDots⟩
  rcases h.place with ⟨name, hslot, hmoved⟩
  have hnew := FileTree.slot_withName_of_absent hslot h.absent hnewDot hnewDots
  have hlast : name ≠ "." := by
    rintro rfl
    exact hdot (FileTree.slot_eq_named_iff.1 hslot).2.1
  have hfind := FileTree.find_eq_of_same_link hslot hnew hlast hnewDot hmoved hentry
  have habsent := h.absent
  rw [FileTree.present, ← hfind, ← FileTree.present, hthere] at habsent
  simp at habsent

/-- Renaming succeeds where a link gives way. -/
theorem LinkGivesWay.rename_eq_ok {moved : Entry} (hname : path.archiveName now = .ok newName)
    (hnull : path.hasNull = false) (hthere : machine.tree.present path = .ok true)
    (hentry : machine.tree.at? (directory ++ [newName]) = some entry)
    (h : LinkGivesWay machine path newName directory moved) :
    (machine.rename path newName).1 = .ok () := by
  obtain ⟨link, rfl⟩ := h.exists_link hname hentry
  rcases newName_ne_dots hname with ⟨hdot, hdots⟩
  rcases h.place with ⟨name, hslot, hmoved⟩
  have hnew := FileTree.slot_withName_of_absent hslot h.absent hdot hdots
  have hover := FileTree.rename_over_link hslot hnew hmoved hentry
    (name_ne_of_absent hthere h.absent hslot)
  rw [if_neg h.plain] at hover
  simp [Machine.rename, h.renames, hnull, Path.hasNull_archive hnull hname, hover,
    Machine.change]

/-- Where a link gives way, the first step fails without a class, if at all. -/
theorem LinkGivesWay.kind?_eq_none {moved : Entry} (hname : path.archiveName now = .ok newName)
    (hnull : path.hasNull = false) (hthere : machine.tree.present path = .ok true)
    (hentry : machine.tree.at? (directory ++ [newName]) = some entry)
    (h : LinkGivesWay machine path newName directory moved) {failure : Failure} {after : FileTree}
    (haside : SetsAside machine path now (.error failure) after) : failure.kind? = none := by
  cases haside with
  | taken _ hused htaken =>
      rw [hname, Except.ok.injEq] at hused
      subst hused
      rw [Machine.present_of_not_hasNull (Path.hasNull_archive hnull hname), h.absent] at htaken
      simp at htaken
  | refused _ hused _ hrename =>
      rw [hname, Except.ok.injEq] at hused
      subst hused
      have hsucceeds := h.rename_eq_ok hname hnull hthere hentry
      rw [hrename] at hsucceeds
      simp at hsucceeds
  | escaped hkind => exact hkind

/-- What gives way is given way to by what the path names. -/
theorem LinkGivesWay.unique {moved other : Entry}
    (h : LinkGivesWay machine path newName directory moved)
    (hother : LinkGivesWay machine path newName directory other) : moved = other := by
  rcases h.place with ⟨name, hslot, hmoved⟩
  rcases hother.place with ⟨otherName, hotherSlot, hotherMoved⟩
  rw [hslot, Except.ok.injEq, Slot.named.injEq] at hotherSlot
  rcases hotherSlot with ⟨-, rfl⟩
  exact Option.some.inj (hmoved.symm.trans hotherMoved)

end Occupied

/-- The second step leaves what there is. -/
theorem Writes.tree_extends {faults : Faults} {tree after : FileTree} {path : Path} {text : String}
    {archive : Option Path} {result : Except Failure Unit} (hwell : tree.WellFormed)
    (h : Writes faults tree path text archive result after) : tree.Extends after := by
  cases h with
  | written hgrows hcreate =>
      exact (hgrows.extends_and_wellFormed hwell).1.trans (FileTree.extends_of_add hcreate)
  | unwritten hgrows => exact (hgrows.extends_and_wellFormed hwell).1
  | partly hgrows hcreate _ _ =>
      exact (hgrows.extends_and_wellFormed hwell).1.trans (FileTree.extends_of_add hcreate)
  | escaped hgrows _ => exact (hgrows.extends_and_wellFormed hwell).1

/--
Where anything bears the archive name of an output that is there, publishing fails and leaves the
tree as it is, unless it is a link that gives way.  The failure is reported, except where the name
is that of a link of which nobody can say whether it leads to something.  A link that gives way is
lost: afterwards the output bears its name.
-/
theorem publish_occupied {machine : Machine} (hwell : machine.tree.WellFormed)
    {document : Document} (hdot : "." ∉ document.path.parts) {now : Instant} {newName : String}
    {directory : Location} {entry : Entry} (hthere : machine.present document.path = .ok true)
    (hname : document.path.archiveName now = .ok newName)
    (hparent : machine.tree.resolve document.path.parent = .ok directory)
    (hentry : machine.tree.at? (directory ++ [newName]) = some entry) :
    let run := machine.run (publish document now)
    let archive := document.path.withName newName
    ((∀ moved, ¬LinkGivesWay machine document.path newName directory moved) →
      run.2.tree = machine.tree ∧ ∃ failure, run.1 = .error failure ∧
        (failure.kind? = some .filesystem ∨
          machine.tree.find archive = .error .nameTooLong ∧
            failure = .disk (.refused .nameTooLong archive none))) ∧
    ∀ moved, LinkGivesWay machine document.path newName directory moved →
      (∃ link, entry = .link link) ∧ moved ≠ entry ∧
        run.2.tree.at? (directory ++ [newName]) = some moved := by
  intro run archive
  rcases Machine.present_eq_true_iff.1 hthere with ⟨hnull, found, hfound⟩
  have hpresent := (Machine.present_of_not_hasNull hnull).1 hthere
  have hreported : ∀ failure, run.1 = .error failure →
      machine.tree.find archive ≠ .error .nameTooLong → failure.kind? = some .filesystem := by
    intro failure hfailure hanswered
    refine kind?_of_run_publish hname hnull (fun asked hasked => ?_) hfailure
    cases hasked with
    | target hlong => simp [hfound] at hlong
    | archive _ hlong => exact hanswered hlong
  rcases run_publish machine document now with ⟨result, after, journal, hrun, hends⟩
  have hrun : run = (result, ⟨after, machine.faults, journal⟩) := hrun
  rw [hrun] at hreported ⊢
  constructor
  · intro hstays
    rcases hends with ⟨failure, rfl, haside⟩ | ⟨archived, middle, -, haside, -, -⟩
    · refine ⟨haside.tree_eq, failure, rfl, ?_⟩
      by_cases hlong : machine.tree.find archive = .error .nameTooLong
      · have hbare := run_publish_unanswered hname hnull (.archive hfound hlong)
        exact .inr ⟨hlong, Except.error.inj (congrArg Prod.fst (hrun.symm.trans hbare))⟩
      · exact .inl (hreported failure rfl hlong)
    · cases archived with
      | none =>
          cases haside with
          | absent habsent => simp [hthere] at habsent
      | some archived =>
          rcases haside.linkGivesWay hwell hparent hname hentry with ⟨moved, hgives, -⟩
          exact absurd hgives (hstays moved)
  · intro moved hgives
    refine ⟨hgives.exists_link hname hentry, hgives.moved_ne hname (Path.name?_ne_dot hdot)
      hpresent hentry, ?_⟩
    have hanswered := FileTree.find_ne_of_present hgives.absent
    rcases hends with ⟨failure, rfl, haside⟩ | ⟨archived, middle, written, haside, hwrites, -⟩
    · have hnone := hgives.kind?_eq_none hname hnull hpresent hentry haside
      rw [hreported failure rfl hanswered] at hnone
      simp at hnone
    · cases archived with
      | none =>
          cases haside with
          | absent habsent => simp [hthere] at habsent
      | some archived =>
          rcases haside.linkGivesWay hwell hparent hname hentry with ⟨other, hother, hplace⟩
          obtain rfl := hgives.unique hother
          have hmiddle := (haside.keeps hwell).1
          exact (hwrites.tree_extends hmiddle).kept _ _ hplace

/-- A machine with an output, whose archive name at `midnight` is that of a link. -/
def linkedMachine (target : String) : Machine :=
  ⟨⟨[(["out", midnightName], .link target), (["out", "icons5.rs"], .file [1, 2]),
    (["out"], .directory)], []⟩, .none, []⟩

/-- A link to the output itself does not give way. -/
theorem publish_occupied_linkedMachine :
    let run := (linkedMachine "icons5.rs").run (publish tidyDocument midnight)
    run.2.tree = (linkedMachine "icons5.rs").tree ∧
      ∃ failure, run.1 = .error failure ∧ failure.kind? = some .filesystem := by
  intro run
  have hwell : (linkedMachine "icons5.rs").tree.WellFormed := ⟨by decide, by decide, by decide⟩
  have hthere : (linkedMachine "icons5.rs").present tidyDocument.path = .ok true := by
    decide +kernel
  have hname : tidyDocument.path.archiveName midnight = .ok midnightName := by decide +kernel
  have hparent : (linkedMachine "icons5.rs").tree.resolve tidyDocument.path.parent =
      .ok ["out"] := by decide +kernel
  have hpresent : (linkedMachine "icons5.rs").tree.present
      (tidyDocument.path.withName midnightName) = .ok true := by decide +kernel
  obtain ⟨hstays, -⟩ := publish_occupied hwell (by decide +kernel) hthere hname hparent
    (by decide : (linkedMachine "icons5.rs").tree.at? ["out", midnightName] =
      some (.link "icons5.rs"))
  obtain ⟨htree, failure, hfailure, hkind | ⟨hlong, -⟩⟩ := hstays fun moved hgives => by
    have habsent := hgives.absent
    rw [hpresent] at habsent
    simp at habsent
  · exact ⟨htree, failure, hfailure, hkind⟩
  · exact absurd hlong (FileTree.find_ne_of_present hpresent)

/-- A link that leads nowhere is overwritten: the output bears its name afterwards. -/
theorem link_overwritten :
    let machine := linkedMachine "nowhere"
    let run := machine.run (publish tidyDocument midnight)
    machine.present tidyDocument.path = .ok true ∧
      tidyDocument.path.archiveName midnight = .ok midnightName ∧
      machine.tree.at? ["out", midnightName] = some (.link "nowhere") ∧
      run.1 = .ok (some (tidyDocument.path.withName midnightName)) ∧
      run.2.tree.at? ["out", midnightName] = some (.file [1, 2]) := by
  exact ⟨by decide +kernel, by decide +kernel, by decide, by decide +kernel, by decide +kernel⟩

end IconPress
