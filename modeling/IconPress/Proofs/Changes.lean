import IconPress.Proofs.Walks
import IconPress.Proofs.WellFormed
import Mathlib.Logic.Relation

/-!
# What the changes of a file tree change

The program changes a tree in few ways.  It makes entries where nothing stands, it takes away a
file that it has just made, and it gives an entry a name that leads to nothing.  This module says
what each of these does to a tree.

Main definitions:

- `FileTree.Extends`: a tree with further entries.
- `FileTree.Grows`: a tree with further directories, which some paths name.

Main results:

- `FileTree.add_eq_ok_iff`: how an entry is made.
- `FileTree.remove_of_create`: a file that has just been made can be taken away, and nothing else
  changes.
- `FileTree.rename_eq_ok`: how an entry gets a name that leads to nothing.
-/

namespace IconPress
namespace FileTree

/-! ## Further entries -/

/-- Another tree holds all that a tree holds, at the same locations. -/
structure Extends (tree after : FileTree) : Prop where
  here_eq : after.here = tree.here
  kept : ∀ location entry, tree.at? location = some entry → after.at? location = some entry

namespace Extends

variable {tree middle after : FileTree}

theorem refl (tree : FileTree) : tree.Extends tree :=
  ⟨rfl, fun _ _ h => h⟩

theorem trans (hfirst : tree.Extends middle) (hsecond : middle.Extends after) :
    tree.Extends after :=
  ⟨hsecond.here_eq.trans hfirst.here_eq,
    fun location entry h => hsecond.kept location entry (hfirst.kept location entry h)⟩

/-- A new entry where nothing stood. -/
theorem of_put {location : Location} (hempty : tree.at? location = none) (entry : Entry) :
    tree.Extends (tree.put location entry) :=
  ⟨rfl, fun _ _ hold => at?_put_of_some hempty hold⟩

theorem passable (h : tree.Extends after) : tree.Passable after :=
  fun location entry hentry _ => h.kept location entry hentry

/-- The place that a path names stays the same. -/
theorem slot_eq {path : Path} {directory : Location} {name : String} (h : tree.Extends after)
    (hslot : tree.slot path = .ok (.named directory name)) :
    after.slot path = .ok (.named directory name) :=
  slot_of_passable h.passable h.here_eq hslot

/-- A path that leads to a directory still leads there. -/
theorem resolve_eq {path : Path} {location : Location} (h : tree.Extends after)
    (hdirectory : tree.at? location = some .directory)
    (hresolve : tree.resolve path = .ok location) : after.resolve path = .ok location := by
  unfold resolve at hresolve ⊢
  cases hlength : checkLength path with
  | error obstacle => simp [hlength, bind, Except.bind] at hresolve
  | ok =>
      rw [hlength] at hresolve
      rcases leads_of_walk hresolve hdirectory with ⟨left, hway⟩
      rw [startOf_congr h.here_eq]
      exact (hway.of_passable h.passable hdirectory).walk_eq

end Extends

section Change

variable {tree after : FileTree} {path : Path} {entry : Entry}

/-- An entry is made at the place that its path names, where nothing stands. -/
theorem add_eq_ok_iff :
    tree.add path entry = .ok after ↔ ∃ directory name,
      tree.slot path = .ok (.named directory name) ∧ tree.at? (directory ++ [name]) = none ∧
        after = tree.put (directory ++ [name]) entry := by
  unfold add
  cases hslot : tree.slot path with
  | error obstacle => simp [bind, Except.bind]
  | ok slot =>
      cases slot with
      | nameless => simp [bind, Except.bind]
      | named directory name =>
          cases hempty : tree.at? (directory ++ [name]) with
          | none => simp [bind, Except.bind, hempty, put, eq_comm]
          | some other => simp [bind, Except.bind, hempty]

theorem extends_of_add (h : tree.add path entry = .ok after) : tree.Extends after := by
  rcases add_eq_ok_iff.1 h with ⟨directory, name, -, hempty, rfl⟩
  exact .of_put hempty entry

/-- A new entry leaves a tree. -/
theorem WellFormed.add (hwell : tree.WellFormed) (h : tree.add path entry = .ok after) :
    after.WellFormed := by
  rcases add_eq_ok_iff.1 h with ⟨directory, name, hslot, hempty, rfl⟩
  exact hwell.put (at?_of_slot hslot) hempty entry

/-- A file that has just been made can be taken away, and then all is as it was. -/
theorem remove_of_create {bytes : List UInt8} (h : tree.create path bytes = .ok after) :
    after.remove path = .ok tree := by
  rcases add_eq_ok_iff.1 h with ⟨directory, name, hslot, hempty, rfl⟩
  have hstill := (Extends.of_put hempty (.file bytes)).slot_eq hslot
  have hfile : (tree.put (directory ++ [name]) (.file bytes)).at? (directory ++ [name]) =
      some (.file bytes) := at?_put_self (by simp)
  simp only [remove, hstill, bind, Except.bind, hfile, eraseAt_put]

/-- A new entry that is no link is what its path leads to. -/
theorem find_of_add (h : tree.add path entry = .ok after) (hdot : path.name? ≠ some ".")
    (hplain : ∀ target, entry ≠ .link target) :
    ∃ directory name, tree.at? (directory ++ [name]) = none ∧
      after = tree.put (directory ++ [name]) entry ∧
      after.slot path = .ok (.named directory name) ∧
      after.resolve path = .ok (directory ++ [name]) ∧ after.find path = .ok entry := by
  have hextends := extends_of_add h
  rcases add_eq_ok_iff.1 h with ⟨directory, name, hslot, hempty, rfl⟩
  have hname := (slot_eq_named_iff.1 hslot).2.1
  have hlast : name ≠ "." := fun heq => hdot (heq ▸ hname)
  have hstill := hextends.slot_eq hslot
  have hentry : (tree.put (directory ++ [name]) entry).at? (directory ++ [name]) = some entry :=
    at?_put_self (by simp)
  have hfind := find_of_slot hstill hlast hentry hplain
  exact ⟨directory, name, hempty, rfl, hstill, hfind.1, hfind.2⟩

/-- A file that has just been made holds its bytes. -/
theorem read_of_create {bytes : List UInt8} (h : tree.create path bytes = .ok after)
    (hdot : path.name? ≠ some ".") : after.read path = .ok bytes := by
  rcases find_of_add h hdot (by simp) with ⟨directory, name, -, -, -, -, hfind⟩
  simp only [read, hfind, bind, Except.bind]

end Change

/-! ## Further directories -/

/-- A tree becomes another one by new directories, all of which are named by paths of a kind. -/
def Grows (allowed : Path → Prop) : FileTree → FileTree → Prop :=
  Relation.ReflTransGen fun tree after =>
    ∃ path, allowed path ∧ tree.makeDirectory path = .ok after

namespace Grows

variable {allowed : Path → Prop} {tree after : FileTree}

/-- Further directories leave a tree with all that it held. -/
theorem extends_and_wellFormed (h : Grows allowed tree after) (hwell : tree.WellFormed) :
    tree.Extends after ∧ after.WellFormed := by
  induction h with
  | refl => exact ⟨.refl tree, hwell⟩
  | tail _ hstep ih =>
      rcases hstep with ⟨path, -, hmake⟩
      exact ⟨ih.1.trans (extends_of_add hmake), ih.2.add hmake⟩

/-- What is new is a directory that one of the paths leads to. -/
theorem cases_at? (h : Grows allowed tree after)
    (hdot : ∀ path, allowed path → path.name? ≠ some ".")
    {location : Location} {entry : Entry} (hentry : after.at? location = some entry) :
    tree.at? location = some entry ∨
      (entry = .directory ∧ ∃ path, allowed path ∧ after.resolve path = .ok location) := by
  induction h generalizing location entry with
  | refl => exact .inl hentry
  | @tail middle after _ hstep ih =>
      rcases hstep with ⟨path, hallowed, hmake⟩
      have hextends := extends_of_add hmake
      obtain ⟨directory, name, -, rfl, -, hresolve, -⟩ :=
        find_of_add hmake (hdot path hallowed) (by simp)
      rcases at?_put_cases hentry with ⟨rfl, rfl⟩ | hbefore
      · exact .inr ⟨rfl, path, hallowed, hresolve⟩
      · rcases ih hbefore with hold | ⟨rfl, other, hother, hresolve⟩
        · exact .inl hold
        · exact .inr ⟨rfl, other, hother, hextends.resolve_eq hbefore hresolve⟩

end Grows

/-! ## Another name -/

section Rename

variable {tree after : FileTree} {path : Path} {newName : String}

/-- A name that is neither of the two that mean a directory. -/
theorem slot_withName {directory : Location} {name : String}
    (hslot : tree.slot path = .ok (.named directory name))
    (hlength : checkLength (path.withName newName) = .ok ()) (hdots : newName ≠ "..")
    (hshort : newName.utf8ByteSize ≤ nameLimit) :
    tree.slot (path.withName newName) = .ok (.named directory newName) := by
  rcases slot_eq_named_iff.1 hslot with ⟨-, -, -, -, hdirectory, hwalk⟩
  refine slot_eq_named_iff.2 ⟨hlength, ?_, hdots, hshort, hdirectory, ?_⟩
  · simp [Path.name?, Path.withName, Path.child]
  · simpa [Path.withName, Path.child, Path.parent, startOf] using hwalk

/-- A path with the name that it has anyway. -/
theorem withName_self {name : String} (h : path.name? = some name) : path.withName name = path := by
  rcases path with ⟨anchor, parts⟩
  rcases List.getLast?_eq_some_iff.1 h with ⟨front, rfl⟩
  rw [Path.withName, Path.child, Path.parent, List.dropLast_concat]

theorem withName_of_slot {directory : Location} {name : String}
    (hslot : tree.slot path = .ok (.named directory name)) : path.withName name = path :=
  withName_self (slot_eq_named_iff.1 hslot).2.1

/-- Taking away what is not there changes nothing. -/
theorem eraseAt_of_empty {location : Location} (hempty : tree.at? location = none) :
    tree.eraseAt location = tree := by
  have hentries : tree.entries.eraseP (fun listed => listed.1 = location) = tree.entries :=
    List.eraseP_of_forall_not fun listed hlisted => by
      simpa using not_mem_of_at?_eq_none hempty listed hlisted
  unfold eraseAt
  rw [hentries]

/--
An entry is renamed to a name that leads to nothing: it moves there with all that is below it,
and a link that leads nowhere gives way.
-/
structure Renamed (tree : FileTree) (path : Path) (newName : String) (directory : Location)
    (name : String) (after : FileTree) : Prop where
  slot_eq : tree.slot path = .ok (.named directory name)
  newSlot_eq : tree.slot (path.withName newName) = .ok (.named directory newName)
  moved : ∃ entry, tree.at? (directory ++ [name]) = some entry
  name_ne : name ≠ newName
  target : tree.at? (directory ++ [newName]) = none ∨
    ∃ link, tree.at? (directory ++ [newName]) = some (.link link)
  after_eq : after = (tree.eraseAt (directory ++ [newName])).relocate (directory ++ [name])
    (directory ++ [newName])

/-- What renaming does, and what it does with an entry of the new name. -/
theorem rename_eq_ok_cases (h : tree.rename path newName = .ok after) :
    ∃ directory name moved, tree.slot path = .ok (.named directory name) ∧
      checkLength (path.withName newName) = .ok () ∧
      tree.at? (directory ++ [name]) = some moved ∧ newName.utf8ByteSize ≤ nameLimit ∧
      (name = newName ∨ after = (tree.eraseAt (directory ++ [newName])).relocate
        (directory ++ [name]) (directory ++ [newName])) := by
  unfold rename at h
  cases hslot : tree.slot path with
  | error obstacle => simp [hslot, bind, Except.bind] at h
  | ok slot =>
      cases slot with
      | nameless => simp [hslot, bind, Except.bind] at h
      | named directory name =>
          simp only [hslot, bind, Except.bind] at h
          split at h
          · simp at h
          · rename_i hlength
            split at h
            · simp at h
            · rename_i moved hmoved
              split at h
              · simp at h
              · rename_i hshort
                refine ⟨directory, name, moved, rfl, hlength, hmoved, Nat.not_lt.1 hshort, ?_⟩
                split at h
                · rename_i hsame
                  exact .inl (by simpa using hsame)
                · split at h
                  · rename_i hempty
                    rw [eraseAt_of_empty hempty]
                    exact .inr (Except.ok.inj h).symm
                  · split at h
                    · simp at h
                    · exact .inr (Except.ok.inj h).symm

/-- How an entry gets a name that leads to nothing. -/
theorem rename_eq_ok (hpresent : tree.present path = .ok true)
    (habsent : tree.present (path.withName newName) = .ok false) (hdot : newName ≠ ".")
    (hdots : newName ≠ "..") (h : tree.rename path newName = .ok after) :
    ∃ directory name, tree.Renamed path newName directory name after := by
  rcases rename_eq_ok_cases h with ⟨directory, name, moved, hslot, hlength, hmoved, hshort, hafter⟩
  have hnew := slot_withName hslot hlength hdots hshort
  have hdiffer : name ≠ newName := by
    rintro rfl
    rw [withName_of_slot hslot, hpresent] at habsent
    simp at habsent
  exact ⟨directory, name, hslot, hnew, ⟨moved, hmoved⟩, hdiffer,
    empty_or_link_of_absent hnew hdot habsent, hafter.resolve_left hdiffer⟩

namespace Renamed

variable {directory : Location} {name : String}

/-- The place of the new name holds no directory. -/
theorem target_ne_directory (h : tree.Renamed path newName directory name after) :
    tree.at? (directory ++ [newName]) ≠ some .directory := by
  rcases h.target with hempty | ⟨link, hlink⟩
  · simp [hempty]
  · simp [hlink]

/-- Renaming leaves a tree. -/
theorem wellFormed (h : tree.Renamed path newName directory name after)
    (hwell : tree.WellFormed) : after.WellFormed := by
  rw [h.after_eq]
  have hdirectory := at?_of_slot h.slot_eq
  have hne : directory ≠ directory ++ [newName] := by simp
  apply (hwell.eraseAt h.target_ne_directory).relocate
  · rw [hwell.at?_eraseAt_of_ne hne, hdirectory]
  · exact hwell.at?_eraseAt_self (by simp)

/-- Everything moves as its location says, a link that gives way apart. -/
theorem at?_shift (h : tree.Renamed path newName directory name after) (hwell : tree.WellFormed)
    {location : Location} {entry : Entry} (hne : location ≠ directory ++ [newName])
    (hentry : tree.at? location = some entry) :
    after.at? (shift (directory ++ [name]) (directory ++ [newName]) location) = some entry := by
  rw [h.after_eq]
  apply (hwell.eraseAt h.target_ne_directory).at?_relocate
  · exact hwell.at?_eraseAt_self (by simp)
  · rw [hwell.at?_eraseAt_of_ne hne, hentry]

/-- Everything that there is afterwards has moved. -/
theorem exists_of_at? (h : tree.Renamed path newName directory name after)
    (hwell : tree.WellFormed) {location : Location} {entry : Entry}
    (hentry : after.at? location = some entry) :
    ∃ old, tree.at? old = some entry ∧ old ≠ directory ++ [newName] ∧
      location = shift (directory ++ [name]) (directory ++ [newName]) old := by
  rw [h.after_eq] at hentry
  have hempty : (tree.eraseAt (directory ++ [newName])).at? (directory ++ [newName]) = none :=
    hwell.at?_eraseAt_self (by simp)
  obtain ⟨old, hold, rfl⟩ := (hwell.eraseAt h.target_ne_directory).exists_of_at?_relocate hempty
    (by simp) hentry
  have hne : old ≠ directory ++ [newName] := by
    rintro rfl
    rw [hempty] at hold
    simp at hold
  rw [hwell.at?_eraseAt_of_ne hne] at hold
  exact ⟨old, hold, hne, rfl⟩

/-- No way leads through a file, so that a path still names its place when a file has moved. -/
theorem slot_eq_of_file (h : tree.Renamed path newName directory name after)
    (hwell : tree.WellFormed) (hempty : tree.at? (directory ++ [newName]) = none)
    {bytes : List UInt8} (hfile : tree.at? (directory ++ [name]) = some (.file bytes)) :
    after.slot path = .ok (.named directory name) := by
  have hstays : ∀ {location : Location} {entry : Entry}, tree.at? location = some entry →
      (∀ bytes, entry ≠ .file bytes) →
      shift (directory ++ [name]) (directory ++ [newName]) location = location := by
    intro location entry hentry hother
    apply shift_of_not_below
    apply hwell.not_below hentry
    · rw [hfile]
      simp
    · rintro rfl
      rw [hfile, Option.some.injEq] at hentry
      exact hother bytes hentry.symm
  have hpass : tree.Passable after := by
    intro location entry hentry hother
    have hne : location ≠ directory ++ [newName] := by
      rintro rfl
      rw [hempty] at hentry
      simp at hentry
    have hmoved := h.at?_shift hwell hne hentry
    rwa [hstays hentry hother] at hmoved
  have hhere : after.here = tree.here := by
    rw [h.after_eq]
    exact hstays hwell.grounded (by simp)
  exact slot_of_passable hpass hhere h.slot_eq

end Renamed

end Rename

end FileTree
end IconPress
