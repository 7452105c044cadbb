import IconPress.Files.FileTree
import Mathlib.Tactic.ByContra

/-!
# Ways through a file tree

A walk follows names from a location, one after another, and links lead it elsewhere.  Where it
ends at an entry, everything that it has met is an entry too.  This module describes such a walk
as a derivation, from which follows how it goes on and that it goes the same way through every
tree that has the same directories and links.

Main definitions:

- `FileTree.Leads`: a way that ends at an entry.
- `FileTree.Passable`: whatever a way can lead through is in another tree as well.

Main results:

- `FileTree.Leads.walk_append`: a walk goes on from where a way ends.
- `FileTree.slot_eq_named_iff`: when a path names a place.
- `FileTree.slot_of_passable`: a path names the same place in another tree.
- `FileTree.find_of_slot`: what stands at a place is what its path leads to, links apart.
-/

namespace IconPress
namespace FileTree

/-- A name that is looked up in a directory. -/
structure IsProper (name : String) : Prop where
  ne_dot : name ≠ "."
  ne_dots : name ≠ ".."
  short : name.utf8ByteSize ≤ nameLimit

/--
`Leads tree links location names left found`: from the location, the names lead to `found`
through entries that are all there, and of the links that may be met, `left` remain.
-/
inductive Leads (tree : FileTree) :
    Nat → Location → List String → Nat → Location → Prop where
  | done (links : Nat) (location : Location) : Leads tree links location [] links location
  | stay {links left : Nat} {location found : Location} {names : List String}
      (hdirectory : tree.at? location = some .directory)
      (hrest : Leads tree links location names left found) :
      Leads tree links location ("." :: names) left found
  | leave {links left : Nat} {location found : Location} {names : List String}
      (hdirectory : tree.at? location = some .directory)
      (hrest : Leads tree links location.dropLast names left found) :
      Leads tree links location (".." :: names) left found
  | enter {links left : Nat} {location found : Location} {name : String} {names : List String}
      {entry : Entry} (hdirectory : tree.at? location = some .directory) (hname : IsProper name)
      (hentry : tree.at? (location ++ [name]) = some entry)
      (hplain : ∀ target, entry ≠ .link target)
      (hrest : Leads tree links (location ++ [name]) names left found) :
      Leads tree links location (name :: names) left found
  | follow {links left : Nat} {location found : Location} {name target : String}
      {names : List String} (hdirectory : tree.at? location = some .directory)
      (hname : IsProper name) (hlink : tree.at? (location ++ [name]) = some (.link target))
      (hrest : Leads tree links (if isRooted target then [] else location)
        (targetNames target ++ names) left found) :
      Leads tree (links + 1) location (name :: names) left found

/-! ## Walks and ways -/

section Walk

variable {tree : FileTree}

@[simp]
theorem walk_nil (tree : FileTree) (links : Nat) (location : Location) :
    tree.walk links location [] = .ok location := by
  cases links <;> rfl

/-- A walk goes nowhere from what is not a directory. -/
theorem walk_cons_of_ne {location : Location} (hother : tree.at? location ≠ some .directory)
    (links : Nat) (name : String) (names : List String) :
    tree.walk links location (name :: names) = .error .notDirectory := by
  cases links with
  | zero =>
      rw [walk, walkWith]
      split
      · contradiction
      · rfl
  | succ left =>
      rw [walk, walkWith]
      split
      · contradiction
      · rfl

section Cons

variable {location : Location} {name : String}
  (hdirectory : tree.at? location = some .directory) (links : Nat) (names : List String)

include hdirectory

/-- A dot stays. -/
theorem walk_dot : tree.walk links location ("." :: names) = tree.walk links location names := by
  cases links <;> simp [walk, walkWith, hdirectory]

/-- A double dot leaves. -/
theorem walk_dots :
    tree.walk links location (".." :: names) = tree.walk links location.dropLast names := by
  cases links <;> simp [walk, walkWith, hdirectory]

theorem walk_long (hdot : name ≠ ".") (hdots : name ≠ "..")
    (hlong : nameLimit < name.utf8ByteSize) :
    tree.walk links location (name :: names) = .error .nameTooLong := by
  cases links <;> simp [walk, walkWith, hdirectory, hdot, hdots, hlong]

/-- Only the last name can be one that nothing bears. -/
theorem walk_empty (hname : IsProper name) (hempty : tree.at? (location ++ [name]) = none) :
    tree.walk links location (name :: names) =
      if names.isEmpty then .ok (location ++ [name]) else .error .missing := by
  have hshort := Nat.not_lt.2 hname.short
  cases links <;> simp [walk, walkWith, hdirectory, hname.ne_dot, hname.ne_dots, hshort, hempty]

/-- An entry that is no link is entered. -/
theorem walk_entry (hname : IsProper name) {entry : Entry}
    (hentry : tree.at? (location ++ [name]) = some entry)
    (hplain : ∀ target, entry ≠ .link target) :
    tree.walk links location (name :: names) = tree.walk links (location ++ [name]) names := by
  have hshort := Nat.not_lt.2 hname.short
  cases entry with
  | link target => exact absurd rfl (hplain target)
  | directory =>
      cases links <;>
        simp [walk, walkWith, hdirectory, hname.ne_dot, hname.ne_dots, hshort, hentry]
  | file bytes =>
      cases links <;>
        simp [walk, walkWith, hdirectory, hname.ne_dot, hname.ne_dots, hshort, hentry]

/-- A link is followed, as long as there may be one more. -/
theorem walk_link (hname : IsProper name) {target : String}
    (hlink : tree.at? (location ++ [name]) = some (.link target)) :
    tree.walk (links + 1) location (name :: names) =
      tree.walk links (if isRooted target then [] else location) (targetNames target ++ names) := by
  have hshort := Nat.not_lt.2 hname.short
  rw [walk, walkWith]
  simp [hdirectory, hname.ne_dot, hname.ne_dots, hshort, hlink]

theorem walk_link_zero (hname : IsProper name) {target : String}
    (hlink : tree.at? (location ++ [name]) = some (.link target)) :
    tree.walk 0 location (name :: names) = .error .tooManyLinks := by
  have hshort := Nat.not_lt.2 hname.short
  rw [walk, walkWith]
  simp [hdirectory, hname.ne_dot, hname.ne_dots, hshort, hlink]

end Cons

/-- A walk goes on from where a way ends. -/
theorem Leads.walk_append {links left : Nat} {location found : Location} {names : List String}
    (h : tree.Leads links location names left found) (more : List String) :
    tree.walk links location (names ++ more) = tree.walk left found more := by
  induction h with
  | done => rfl
  | stay hdirectory _ ih => rw [List.cons_append, walk_dot hdirectory, ih]
  | leave hdirectory _ ih => rw [List.cons_append, walk_dots hdirectory, ih]
  | enter hdirectory hname hentry hplain _ ih =>
      rw [List.cons_append, walk_entry hdirectory _ _ hname hentry hplain, ih]
  | follow hdirectory hname hlink _ ih =>
      rw [List.cons_append, walk_link hdirectory _ _ hname hlink, ← List.append_assoc, ih]

/-- A way is walked to its end. -/
theorem Leads.walk_eq {links left : Nat} {location found : Location} {names : List String}
    (h : tree.Leads links location names left found) :
    tree.walk links location names = .ok found := by
  have hwalk := h.walk_append []
  rwa [List.append_nil, walk_nil] at hwalk

/-- What a walk that gets somewhere does with a name that is looked up. -/
theorem walk_proper_eq_ok {links : Nat} {location found : Location} {name : String}
    {names : List String} (hdirectory : tree.at? location = some .directory)
    (hname : IsProper name) (h : tree.walk links location (name :: names) = .ok found) :
    (tree.at? (location ++ [name]) = none ∧ found = location ++ [name]) ∨
    (∃ target left, links = left + 1 ∧ tree.at? (location ++ [name]) = some (.link target) ∧
      tree.walk left (if isRooted target then [] else location) (targetNames target ++ names) =
        .ok found) ∨
    (∃ entry, tree.at? (location ++ [name]) = some entry ∧ (∀ target, entry ≠ .link target) ∧
      tree.walk links (location ++ [name]) names = .ok found) := by
  cases hentry : tree.at? (location ++ [name]) with
  | none =>
      rw [walk_empty hdirectory links names hname hentry] at h
      split at h
      · exact .inl ⟨rfl, (Except.ok.inj h).symm⟩
      · simp at h
  | some entry =>
      by_cases hplain : ∀ target, entry ≠ .link target
      · rw [walk_entry hdirectory links names hname hentry hplain] at h
        exact .inr (.inr ⟨entry, rfl, hplain, h⟩)
      · obtain ⟨target, rfl⟩ : ∃ target, entry = .link target := by simpa using hplain
        cases links with
        | zero =>
            rw [walk_link_zero hdirectory names hname hentry] at h
            simp at h
        | succ left =>
            rw [walk_link hdirectory left names hname hentry] at h
            exact .inr (.inl ⟨target, left, rfl, rfl, h⟩)

/-- A walk that gets somewhere along a name does so from a directory. -/
theorem walk_cons_eq_ok {links : Nat} {location found : Location} {name : String}
    {names : List String} (h : tree.walk links location (name :: names) = .ok found) :
    tree.at? location = some .directory ∧
      ((name = "." ∧ tree.walk links location names = .ok found) ∨
        (name = ".." ∧ tree.walk links location.dropLast names = .ok found) ∨ IsProper name) := by
  by_cases hdirectory : tree.at? location = some .directory
  · refine ⟨hdirectory, ?_⟩
    by_cases hdot : name = "."
    · rw [hdot, walk_dot hdirectory] at h
      exact .inl ⟨hdot, h⟩
    · by_cases hdots : name = ".."
      · rw [hdots, walk_dots hdirectory] at h
        exact .inr (.inl ⟨hdots, h⟩)
      · by_cases hlong : nameLimit < name.utf8ByteSize
        · rw [walk_long hdirectory links names hdot hdots hlong] at h
          simp at h
        · exact .inr (.inr ⟨hdot, hdots, Nat.not_lt.1 hlong⟩)
  · rw [walk_cons_of_ne hdirectory] at h
    simp at h

/-- A walk that ends at an entry is a way. -/
theorem leads_of_walk {links : Nat} {location found : Location} {names : List String}
    {entry : Entry} (h : tree.walk links location names = .ok found)
    (hfound : tree.at? found = some entry) :
    ∃ left, tree.Leads links location names left found := by
  -- Links start the names anew, so their number decreases first and then the names.
  induction links using Nat.strongRecOn generalizing location names with
  | ind links ihlinks =>
      induction names generalizing location with
      | nil =>
          rw [walk_nil, Except.ok.injEq] at h
          exact ⟨links, h ▸ .done links location⟩
      | cons name names ih =>
          rcases walk_cons_eq_ok h with ⟨hdirectory, ⟨rfl, hrest⟩ | ⟨rfl, hrest⟩ | hname⟩
          · rcases ih hrest with ⟨left, hway⟩
            exact ⟨left, .stay hdirectory hway⟩
          · rcases ih hrest with ⟨left, hway⟩
            exact ⟨left, .leave hdirectory hway⟩
          · rcases walk_proper_eq_ok hdirectory hname h with
              ⟨hnone, rfl⟩ | ⟨target, links, rfl, hlink, hrest⟩ | ⟨met, hmet, hplain, hrest⟩
            · rw [hnone] at hfound
              simp at hfound
            · rcases ihlinks links (Nat.lt_succ_self links) hrest with ⟨left, hway⟩
              exact ⟨left, .follow hdirectory hname hlink hway⟩
            · rcases ih hrest with ⟨left, hway⟩
              exact ⟨left, .enter hdirectory hname hmet hplain hway⟩

end Walk

/-! ## The same way through another tree -/

/-- The directories and the links of a tree are in another tree as well. -/
def Passable (tree other : FileTree) : Prop :=
  ∀ location entry, tree.at? location = some entry → (∀ bytes, entry ≠ .file bytes) →
    other.at? location = some entry

/-- A way that starts at an entry that is no directory has no names to follow. -/
theorem Leads.eq_of_ne_directory {tree : FileTree} {links left : Nat} {location found : Location}
    {names : List String} (h : tree.Leads links location names left found)
    (hother : tree.at? location ≠ some .directory) : found = location := by
  cases h with
  | done => rfl
  | stay hdirectory _ => exact absurd hdirectory hother
  | leave hdirectory _ => exact absurd hdirectory hother
  | enter hdirectory _ _ _ _ => exact absurd hdirectory hother
  | follow hdirectory _ _ _ => exact absurd hdirectory hother

/-- A way to a directory leads through directories and links only. -/
theorem Leads.of_passable {tree other : FileTree} {links left : Nat} {location found : Location}
    {names : List String} (hpass : tree.Passable other)
    (h : tree.Leads links location names left found)
    (hfound : tree.at? found = some .directory) :
    other.Leads links location names left found := by
  induction h with
  | done links location => exact .done links location
  | stay hdirectory _ ih =>
      exact .stay (hpass _ _ hdirectory (by simp)) (ih hfound)
  | leave hdirectory _ ih =>
      exact .leave (hpass _ _ hdirectory (by simp)) (ih hfound)
  | @enter _ _ location found name names entry hdirectory hname hentry hplain hrest ih =>
      have hplace : entry = .directory := by
        by_contra hother
        have hend := hrest.eq_of_ne_directory (by rw [hentry]; simpa using hother)
        rw [hend, hentry, Option.some.injEq] at hfound
        exact hother hfound
      subst hplace
      exact .enter (hpass _ _ hdirectory (by simp)) hname (hpass _ _ hentry (by simp)) hplain
        (ih hfound)
  | follow hdirectory hname hlink _ ih =>
      exact .follow (hpass _ _ hdirectory (by simp)) hname (hpass _ _ hlink (by simp)) (ih hfound)

/-! ## The place that a path names -/

section Place

variable {tree : FileTree} {path : Path} {directory : Location} {name : String}

/-- When a path names a place in a directory. -/
theorem slot_eq_named_iff :
    tree.slot path = .ok (.named directory name) ↔
      checkLength path = .ok () ∧ path.name? = some name ∧ name ≠ ".." ∧
        name.utf8ByteSize ≤ nameLimit ∧ tree.at? directory = some .directory ∧
        tree.walk linkLimit (tree.startOf path) path.parts.dropLast = .ok directory := by
  unfold slot
  cases checkLength path with
  | error obstacle => simp [bind, Except.bind]
  | ok =>
      cases hwalk : tree.walk linkLimit (tree.startOf path) path.parts.dropLast with
      | error obstacle => simp [bind, Except.bind]
      | ok met =>
          simp only [bind, Except.bind, true_and, Except.ok.injEq]
          cases hname : path.name? with
          | none => simp
          | some last =>
              simp only [Option.some.injEq]
              split
              · rename_i hmet
                by_cases hdots : last = ".."
                · grind
                · by_cases hlong : nameLimit < last.utf8ByteSize
                  · grind
                  · grind
              · grind
              · grind

/-- The way to the directory of a named place. -/
theorem leads_of_slot (h : tree.slot path = .ok (.named directory name)) :
    ∃ left, tree.Leads linkLimit (tree.startOf path) path.parts.dropLast left directory := by
  rcases slot_eq_named_iff.1 h with ⟨-, -, -, -, hdirectory, hwalk⟩
  exact leads_of_walk hwalk hdirectory

/-- The place that a path names has a directory around it. -/
theorem at?_of_slot (h : tree.slot path = .ok (.named directory name)) :
    tree.at? directory = some .directory :=
  (slot_eq_named_iff.1 h).2.2.2.2.1

/-- Paths start alike in trees with the same working directory. -/
theorem startOf_congr {other : FileTree} (h : other.here = tree.here) (path : Path) :
    other.startOf path = tree.startOf path := by
  rw [startOf, startOf, h]

/-- A path names the same place in a tree with the same directories and links. -/
theorem slot_of_passable {other : FileTree} (hpass : tree.Passable other)
    (hhere : other.here = tree.here) (h : tree.slot path = .ok (.named directory name)) :
    other.slot path = .ok (.named directory name) := by
  rcases leads_of_slot h with ⟨left, hway⟩
  rcases slot_eq_named_iff.1 h with ⟨hlength, hname, hdots, hshort, hdirectory, -⟩
  refine slot_eq_named_iff.2 ⟨hlength, hname, hdots, hshort, ?_, ?_⟩
  · exact hpass _ _ hdirectory (by simp)
  · rw [startOf_congr hhere]
    exact (hway.of_passable hpass hdirectory).walk_eq

/-- A path leads on from the directory of the place that it names. -/
theorem resolve_of_slot (h : tree.slot path = .ok (.named directory name)) :
    ∃ left, tree.resolve path = tree.walk left directory [name] := by
  rcases leads_of_slot h with ⟨left, hway⟩
  rcases slot_eq_named_iff.1 h with ⟨hlength, hname, -⟩
  refine ⟨left, ?_⟩
  have hparts : path.parts.dropLast ++ [name] = path.parts := by
    rcases List.getLast?_eq_some_iff.1 hname with ⟨front, hfront⟩
    rw [hfront, List.dropLast_concat]
  have hwalk := hway.walk_append [name]
  rw [hparts] at hwalk
  rw [resolve, hlength]
  exact hwalk

/-- What stands at the place that a path names is what the path leads to, if it is no link. -/
theorem find_of_slot {entry : Entry} (h : tree.slot path = .ok (.named directory name))
    (hdot : name ≠ ".") (hentry : tree.at? (directory ++ [name]) = some entry)
    (hplain : ∀ target, entry ≠ .link target) :
    tree.resolve path = .ok (directory ++ [name]) ∧ tree.find path = .ok entry := by
  rcases resolve_of_slot h with ⟨left, hresolve⟩
  rcases slot_eq_named_iff.1 h with ⟨-, -, hdots, hshort, hdirectory, -⟩
  have hend : tree.walk left directory [name] = .ok (directory ++ [name]) := by
    have hway : tree.Leads left directory [name] left (directory ++ [name]) :=
      .enter hdirectory ⟨hdot, hdots, hshort⟩ hentry hplain (.done _ _)
    exact hway.walk_eq
  rw [hend] at hresolve
  refine ⟨hresolve, ?_⟩
  simp only [find, hresolve, bind, Except.bind, hentry]

/-- A path that leads to nothing names an empty place or a link. -/
theorem empty_or_link_of_absent (h : tree.slot path = .ok (.named directory name))
    (hdot : name ≠ ".") (habsent : tree.present path = .ok false) :
    tree.at? (directory ++ [name]) = none ∨
      ∃ target, tree.at? (directory ++ [name]) = some (.link target) := by
  cases hentry : tree.at? (directory ++ [name]) with
  | none => exact .inl rfl
  | some entry =>
      by_contra hother
      rw [not_or, not_exists] at hother
      have hplain : ∀ target, entry ≠ .link target :=
        fun target heq => hother.2 target (congrArg some heq)
      have hfind := (find_of_slot h hdot hentry hplain).2
      rw [present, hfind] at habsent
      simp at habsent

end Place

end FileTree
end IconPress
