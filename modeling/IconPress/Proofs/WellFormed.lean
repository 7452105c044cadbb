import IconPress.Files.FileTree.Change
import Mathlib.Data.List.Induction
import Mathlib.Data.List.Nodup

/-!
# Well-formed file trees

A list of entries is a tree when no location is listed twice and every entry stands in a
directory.  This module gives the elementary changes of a tree, a new entry, one entry less and
entries that move, and shows that each of them leaves a tree and what stands where afterwards.

Main definitions:

- `FileTree.WellFormed`: the entries are those of a tree.
- `FileTree.put`: a new entry.

Main results:

- `FileTree.WellFormed.at?_eq_some_iff`: what stands at a location is what is listed there.
- `FileTree.WellFormed.above`: what stands above an entry is a directory.
- `FileTree.WellFormed.put`, `eraseAt`, `relocate`: the changes of a tree leave a tree.
-/

namespace IconPress
namespace FileTree

/-- The entries are those of a tree: of one entry for each location, all of them in directories. -/
structure WellFormed (tree : FileTree) : Prop where
  nodup : (tree.entries.map Prod.fst).Nodup
  housed : ∀ listed ∈ tree.entries,
    listed.1 ≠ [] ∧ tree.at? listed.1.dropLast = some .directory
  grounded : tree.at? tree.here = some .directory

/-- The tree with one more entry. -/
def put (tree : FileTree) (location : Location) (entry : Entry) : FileTree :=
  { tree with entries := (location, entry) :: tree.entries }

/-! ## What is listed -/

/-- Where no key occurs twice, what is found under a key is what is listed with it. -/
theorem lookup_eq_some_iff_mem {entries : List (Location × Entry)}
    (hnodup : (entries.map Prod.fst).Nodup) {location : Location} {entry : Entry} :
    entries.lookup location = some entry ↔ (location, entry) ∈ entries := by
  induction entries with
  | nil => simp
  | cons listed rest ih =>
      rcases listed with ⟨place, other⟩
      rw [List.map_cons, List.nodup_cons] at hnodup
      rw [List.lookup_cons, List.mem_cons]
      by_cases h : location = place
      · subst h
        simp only [beq_self_eq_true, Option.some.injEq, Prod.mk.injEq, true_and]
        constructor
        · exact fun heq => .inl heq.symm
        · rintro (heq | hmem)
          · exact heq.symm
          · exact absurd (List.mem_map_of_mem hmem) hnodup.1
      · have hother : (location == place) = false := beq_eq_false_iff_ne.2 h
        simp [hother, h, ih hnodup.2]

@[simp]
theorem at?_nil (tree : FileTree) : tree.at? [] = some .directory :=
  rfl

theorem at?_of_ne_nil {location : Location} (h : location ≠ []) (tree : FileTree) :
    tree.at? location = tree.entries.lookup location := by
  unfold at?
  rw [if_neg (by simpa using h)]

/-- Where nothing stands, nothing is listed. -/
theorem not_mem_of_at?_eq_none {tree : FileTree} {location : Location}
    (h : tree.at? location = none) : ∀ listed ∈ tree.entries, listed.1 ≠ location := by
  intro listed hlisted heq
  have hne : location ≠ [] := by
    rintro rfl
    simp at h
  rw [at?_of_ne_nil hne, List.lookup_eq_none_iff] at h
  simpa [heq] using h listed hlisted

namespace WellFormed

variable {tree : FileTree}

/-- What stands at a location is what is listed there, the root apart. -/
theorem at?_eq_some_iff (h : tree.WellFormed) {location : Location} (hne : location ≠ [])
    {entry : Entry} : tree.at? location = some entry ↔ (location, entry) ∈ tree.entries := by
  rw [at?_of_ne_nil hne, lookup_eq_some_iff_mem h.nodup]

/-- What is listed stands where it is listed. -/
theorem at?_of_mem (h : tree.WellFormed) {listed : Location × Entry}
    (hlisted : listed ∈ tree.entries) : tree.at? listed.1 = some listed.2 :=
  (h.at?_eq_some_iff (h.housed listed hlisted).1).2 hlisted

/-- An entry stands in a directory. -/
theorem parent (h : tree.WellFormed) {location : Location} {entry : Entry}
    (hentry : tree.at? location = some entry) :
    tree.at? location.dropLast = some .directory := by
  by_cases hne : location = []
  · rw [hne]
    rfl
  · exact (h.housed _ ((h.at?_eq_some_iff hne).1 hentry)).2

/-- What stands above an entry is a directory. -/
theorem above (h : tree.WellFormed) {upper location : Location} {entry : Entry}
    (hentry : tree.at? location = some entry) (hbelow : upper <+: location)
    (hne : upper ≠ location) : tree.at? upper = some .directory := by
  induction location using List.reverseRecOn generalizing entry with
  | nil => exact absurd (List.prefix_nil.1 hbelow) hne
  | append_singleton front name ih =>
      have hfront : tree.at? front = some .directory := by
        simpa using h.parent hentry
      rw [List.prefix_concat_iff] at hbelow
      have hshorter := hbelow.resolve_left hne
      by_cases heq : upper = front
      · rw [heq]
        exact hfront
      · exact ih hfront hshorter heq

/-- Nothing stands below what is no directory. -/
theorem not_below (h : tree.WellFormed) {upper location : Location} {entry : Entry}
    (hentry : tree.at? location = some entry) (hupper : tree.at? upper ≠ some .directory)
    (hne : upper ≠ location) : ¬upper <+: location :=
  fun hbelow => hupper (h.above hentry hbelow hne)

end WellFormed

/-! ## A new entry -/

section Put

variable {tree : FileTree} {location : Location} {entry : Entry}

theorem at?_put_of_ne {other : Location} (hne : other ≠ location) :
    (tree.put location entry).at? other = tree.at? other := by
  unfold at? put
  split
  · rfl
  · have hother : (other == location) = false := beq_eq_false_iff_ne.2 hne
    simp [List.lookup_cons, hother]

theorem at?_put_self (hne : location ≠ []) :
    (tree.put location entry).at? location = some entry := by
  rw [at?_of_ne_nil hne, put, List.lookup_cons]
  simp

/-- Where something stood, it still does. -/
theorem at?_put_of_some {other : Location} {old : Entry} (hempty : tree.at? location = none)
    (hold : tree.at? other = some old) : (tree.put location entry).at? other = some old := by
  have hne : other ≠ location := by
    rintro rfl
    rw [hempty] at hold
    simp at hold
  rw [at?_put_of_ne hne, hold]

/-- A new entry in a directory leaves a tree. -/
theorem WellFormed.put {directory : Location} {name : String} (h : tree.WellFormed)
    (hdirectory : tree.at? directory = some .directory)
    (hempty : tree.at? (directory ++ [name]) = none) (entry : Entry) :
    (tree.put (directory ++ [name]) entry).WellFormed where
  nodup := by
    rw [FileTree.put, List.map_cons, List.nodup_cons]
    refine ⟨?_, h.nodup⟩
    intro hmem
    rcases List.mem_map.1 hmem with ⟨listed, hlisted, heq⟩
    exact not_mem_of_at?_eq_none hempty listed hlisted heq
  housed := by
    intro listed hlisted
    rw [FileTree.put, List.mem_cons] at hlisted
    rcases hlisted with rfl | hlisted
    · refine ⟨by simp, ?_⟩
      rw [List.dropLast_concat]
      exact at?_put_of_some hempty hdirectory
    · rcases h.housed listed hlisted with ⟨hne, hparent⟩
      exact ⟨hne, at?_put_of_some hempty hparent⟩
  grounded := at?_put_of_some hempty h.grounded

/-- What stands somewhere after an entry was put is the entry or stood there before. -/
theorem at?_put_cases {other : Location} {found : Entry}
    (h : (tree.put location entry).at? other = some found) :
    (other = location ∧ found = entry) ∨ tree.at? other = some found := by
  by_cases hroot : other = []
  · subst hroot
    exact .inr h
  · by_cases heq : other = location
    · subst heq
      rw [at?_put_self hroot, Option.some.injEq] at h
      exact .inl ⟨rfl, h.symm⟩
    · rw [at?_put_of_ne heq] at h
      exact .inr h

/-- A new entry taken away again leaves what there was. -/
theorem eraseAt_put : (tree.put location entry).eraseAt location = tree := by
  simp [eraseAt, FileTree.put]

end Put

/-! ## One entry less -/

section Erase

variable {tree : FileTree} {location : Location}

/-- In a tree, one entry less is one location less. -/
theorem WellFormed.entries_eraseAt (h : tree.WellFormed) (location : Location) :
    (tree.eraseAt location).entries = tree.entries.filter fun listed => listed.1 ≠ location := by
  have hnodup := h.nodup
  change tree.entries.eraseP _ = _
  generalize tree.entries = entries at hnodup
  induction entries with
  | nil => rfl
  | cons listed rest ih =>
      rw [List.map_cons, List.nodup_cons] at hnodup
      by_cases heq : listed.1 = location
      · have hrest : ∀ other ∈ rest, other.1 ≠ location := by
          rintro other hother rfl
          exact hnodup.1 (heq ▸ List.mem_map_of_mem hother)
        rw [List.eraseP_cons_of_pos (by simpa using heq),
          List.filter_cons_of_neg (by simpa using heq)]
        exact (List.filter_eq_self.2 fun other hother => by simpa using hrest other hother).symm
      · rw [List.eraseP_cons_of_neg (by simpa using heq),
          List.filter_cons_of_pos (by simpa using heq), ih hnodup.2]

theorem WellFormed.mem_eraseAt (h : tree.WellFormed) {listed : Location × Entry} :
    listed ∈ (tree.eraseAt location).entries ↔ listed ∈ tree.entries ∧ listed.1 ≠ location := by
  rw [h.entries_eraseAt]
  simp

theorem WellFormed.nodup_eraseAt (h : tree.WellFormed) (location : Location) :
    ((tree.eraseAt location).entries.map Prod.fst).Nodup := by
  rw [h.entries_eraseAt]
  exact h.nodup.sublist (List.filter_sublist.map Prod.fst)

/-- Elsewhere nothing changes. -/
theorem WellFormed.at?_eraseAt_of_ne (h : tree.WellFormed) {other : Location}
    (hne : other ≠ location) : (tree.eraseAt location).at? other = tree.at? other := by
  by_cases hroot : other = []
  · rw [hroot]
    rfl
  · apply Option.ext
    intro entry
    rw [at?_of_ne_nil hroot, lookup_eq_some_iff_mem (h.nodup_eraseAt location), h.mem_eraseAt,
      h.at?_eq_some_iff hroot]
    simp [hne]

theorem WellFormed.at?_eraseAt_self (h : tree.WellFormed) (hne : location ≠ []) :
    (tree.eraseAt location).at? location = none := by
  rw [at?_of_ne_nil hne, List.lookup_eq_none_iff]
  intro listed hlisted
  simpa using Ne.symm (h.mem_eraseAt.1 hlisted).2

/-- What is left has been there before. -/
theorem WellFormed.at?_of_eraseAt (h : tree.WellFormed) (hne : location ≠ []) {other : Location}
    {entry : Entry} (hentry : (tree.eraseAt location).at? other = some entry) :
    other ≠ location ∧ tree.at? other = some entry := by
  have hother : other ≠ location := by
    rintro rfl
    rw [h.at?_eraseAt_self hne] at hentry
    simp at hentry
  exact ⟨hother, by rwa [h.at?_eraseAt_of_ne hother] at hentry⟩

/-- Without an entry that is no directory, a tree is still one. -/
theorem WellFormed.eraseAt (h : tree.WellFormed)
    (hother : tree.at? location ≠ some .directory) : (tree.eraseAt location).WellFormed where
  nodup := h.nodup_eraseAt location
  housed := by
    intro listed hlisted
    rcases h.housed listed (h.mem_eraseAt.1 hlisted).1 with ⟨hne, hparent⟩
    refine ⟨hne, ?_⟩
    rw [h.at?_eraseAt_of_ne, hparent]
    intro heq
    exact hother (heq ▸ hparent)
  grounded := by
    change (tree.eraseAt location).at? tree.here = some .directory
    rw [h.at?_eraseAt_of_ne, h.grounded]
    intro heq
    exact hother (heq ▸ h.grounded)

end Erase

/-! ## Entries that move -/

section Shift

variable {source target location other : Location}

@[simp]
theorem shift_append (source target rest : Location) :
    shift source target (source ++ rest) = target ++ rest := by
  unfold shift
  rw [if_pos (by simp)]
  simp

theorem shift_self (source target : Location) : shift source target source = target := by
  simpa using shift_append source target []

theorem shift_of_not_below (h : ¬source <+: location) (target : Location) :
    shift source target location = location := by
  unfold shift
  rw [if_neg (by simpa using h)]

/-- Moved locations are different where nothing is at the target. -/
theorem shift_inj (hlocation : ¬target <+: location) (hother : ¬target <+: other)
    (h : shift source target location = shift source target other) : location = other := by
  by_cases hbelow : source <+: location
  · rcases hbelow with ⟨rest, rfl⟩
    rw [shift_append] at h
    by_cases hmore : source <+: other
    · rcases hmore with ⟨more, rfl⟩
      rw [shift_append, List.append_cancel_left_eq] at h
      rw [h]
    · rw [shift_of_not_below hmore] at h
      exact absurd ⟨rest, h⟩ hother
  · rw [shift_of_not_below hbelow] at h
    by_cases hmore : source <+: other
    · rcases hmore with ⟨more, rfl⟩
      rw [shift_append] at h
      exact absurd ⟨more, h.symm⟩ hlocation
    · rwa [shift_of_not_below hmore] at h

/-- The directory around a moved location is the moved directory, except around the source. -/
theorem dropLast_shift (hne : location ≠ source) :
    (shift source target location).dropLast = shift source target location.dropLast := by
  by_cases hbelow : source <+: location
  · rcases hbelow with ⟨rest, rfl⟩
    have hrest : rest ≠ [] := by
      rintro rfl
      simp at hne
    rw [shift_append, List.dropLast_append_of_ne_nil hrest, List.dropLast_append_of_ne_nil hrest,
      shift_append]
  · have hfront : ¬source <+: location.dropLast :=
      fun habove => hbelow (habove.trans (List.dropLast_prefix location))
    rw [shift_of_not_below hbelow, shift_of_not_below hfront]

end Shift

section Relocate

variable {tree : FileTree} {directory : Location} {name newName : String} {entry : Entry}

/-- Nothing is listed at or below a place where nothing stands. -/
theorem WellFormed.not_below_of_empty (h : tree.WellFormed) {place location : Location}
    (hempty : tree.at? place = none) {found : Entry} (hfound : tree.at? location = some found) :
    ¬place <+: location := by
  apply h.not_below hfound
  · rw [hempty]
    simp
  · rintro rfl
    rw [hempty] at hfound
    simp at hfound

/-- No name in a directory is at or above the directory. -/
theorem not_below_of_concat (directory : Location) (name : String) :
    ¬directory ++ [name] <+: directory := by
  intro h
  have hlength := h.length_le
  rw [List.length_append, List.length_singleton] at hlength
  omega

/-- The directory around the source of a move stays where it is. -/
theorem shift_directory (directory : Location) (name newName : String) :
    shift (directory ++ [name]) (directory ++ [newName]) directory = directory :=
  shift_of_not_below (not_below_of_concat directory name) _

/-- Nothing that moves loses its place to something else. -/
theorem WellFormed.nodup_relocate {source target : Location} (h : tree.WellFormed)
    (hempty : tree.at? target = none) :
    ((tree.relocate source target).entries.map Prod.fst).Nodup := by
  have hmap : (tree.relocate source target).entries.map Prod.fst =
      (tree.entries.map Prod.fst).map (shift source target) := by
    simp [relocate, Function.comp_def]
  rw [hmap]
  apply List.Nodup.map_on _ h.nodup
  intro first hfirst second hsecond heq
  rcases List.mem_map.1 hfirst with ⟨listed, hlisted, rfl⟩
  rcases List.mem_map.1 hsecond with ⟨other, hother, rfl⟩
  exact shift_inj (h.not_below_of_empty hempty (h.at?_of_mem hlisted))
    (h.not_below_of_empty hempty (h.at?_of_mem hother)) heq

/-- What moves stands at its new place. -/
theorem WellFormed.at?_relocate (h : tree.WellFormed) (name : String)
    (hempty : tree.at? (directory ++ [newName]) = none) {location : Location}
    (hentry : tree.at? location = some entry) :
    (tree.relocate (directory ++ [name]) (directory ++ [newName])).at?
      (shift (directory ++ [name]) (directory ++ [newName]) location) = some entry := by
  by_cases hroot : location = []
  · subst hroot
    rw [shift_of_not_below (by simp)]
    exact hentry
  · have hlisted := (h.at?_eq_some_iff hroot).1 hentry
    have hne : shift (directory ++ [name]) (directory ++ [newName]) location ≠ [] := by
      unfold shift
      split <;> simp [hroot]
    rw [at?_of_ne_nil hne, lookup_eq_some_iff_mem (h.nodup_relocate hempty)]
    exact List.mem_map_of_mem hlisted

/-- What stands somewhere after a move has stood somewhere before. -/
theorem WellFormed.exists_of_at?_relocate {source target : Location} (h : tree.WellFormed)
    (hempty : tree.at? target = none) (hsource : source ≠ []) {location : Location}
    (hentry : (tree.relocate source target).at? location = some entry) :
    ∃ old, tree.at? old = some entry ∧ location = shift source target old := by
  by_cases hroot : location = []
  · subst hroot
    refine ⟨[], hentry, ?_⟩
    rw [shift_of_not_below (by simpa using hsource)]
  · rw [at?_of_ne_nil hroot, lookup_eq_some_iff_mem (h.nodup_relocate hempty)] at hentry
    rcases List.mem_map.1 hentry with ⟨listed, hlisted, heq⟩
    rw [Prod.mk.injEq] at heq
    refine ⟨listed.1, ?_, heq.1.symm⟩
    rw [← heq.2]
    exact h.at?_of_mem hlisted

/-- A move within a directory leaves a tree. -/
theorem WellFormed.relocate (h : tree.WellFormed)
    (hdirectory : tree.at? directory = some .directory)
    (hempty : tree.at? (directory ++ [newName]) = none) :
    (tree.relocate (directory ++ [name]) (directory ++ [newName])).WellFormed where
  nodup := h.nodup_relocate hempty
  housed := by
    intro listed hlisted
    rcases List.mem_map.1 hlisted with ⟨old, hold, rfl⟩
    rcases h.housed old hold with ⟨hne, hparent⟩
    constructor
    · show shift _ _ _ ≠ []
      unfold shift
      split <;> simp [hne]
    · by_cases heq : old.1 = directory ++ [name]
      · have hstays := h.at?_relocate name hempty hdirectory
        rw [shift_directory] at hstays
        simpa [heq, shift_self] using hstays
      · rw [dropLast_shift heq]
        exact h.at?_relocate name hempty hparent
  grounded := h.at?_relocate name hempty h.grounded

end Relocate

end FileTree
end IconPress
