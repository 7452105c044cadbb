import IconPress.Proofs.Detours
import IconPress.Proofs.Publish

/-!
# The directory that a path leads to

A path leads to at most one directory, and what stands under the names of that directory can be
asked of the path alone.  When directories are missing on the way and are made, the new ones are
all on the way down to the directory that the path leads to afterwards.

Main definitions:

- `FileTree.entryUnder`: what stands under a path.
- `FileTree.Reaches`: a path leads to a directory.

Main results:

- `FileTree.Reaches.entryUnder_child_iff`: what stands under a name of the directory.
- `FileTree.find_eq_ok_iff`: what a path leads to is at the end of a way.
- `FileTree.Grows.at?_cases`: missing directories are made on the way only.
-/

namespace IconPress

@[simp]
theorem Path.name?_child (path : Path) (name : String) : (path.child name).name? = some name := by
  simp [Path.name?, Path.child]

@[simp]
theorem Path.withName_child (path : Path) (name other : String) :
    (path.child name).withName other = path.child other := by
  simp [Path.withName, Path.child, Path.parent]

/-- A directory has one path for each name. -/
theorem Path.child_inj {path : Path} {name other : String} :
    path.child name = path.child other ↔ name = other := by
  simp [Path.child]

namespace FileTree

/-! ## Names in a directory -/

/-- What stands at the place that a path names. -/
def entryUnder (tree : FileTree) (path : Path) : Option Entry :=
  match tree.slot path with
  | .ok (.named directory name) => tree.at? (directory ++ [name])
  | _ => none

/-- A path leads to a directory at a location. -/
structure Reaches (tree : FileTree) (path : Path) (directory : Location) : Prop where
  isDirectory : tree.at? directory = some .directory
  way : ∃ left, tree.Leads linkLimit (tree.startOf path) path.parts left directory

/-- A name in a directory that can be looked up. -/
structure Nameable (path : Path) (name : String) : Prop where
  checked : checkLength (path.child name) = .ok ()
  ne_dots : name ≠ ".."
  short : name.utf8ByteSize ≤ nameLimit

section Names

variable {tree other : FileTree} {path : Path} {directory place : Location} {name last : String}
  {entry : Entry}

theorem entryUnder_eq_some_iff :
    tree.entryUnder path = some entry ↔ ∃ directory name,
      tree.slot path = .ok (.named directory name) ∧
        tree.at? (directory ++ [name]) = some entry := by
  unfold entryUnder
  split
  · rename_i directory name hslot
    simp [hslot]
  · rename_i hother
    constructor
    · simp
    · rintro ⟨directory, name, hslot, -⟩
      exact absurd hslot (hother directory name)

/-- A path leads to one directory. -/
theorem Reaches.unique (h : tree.Reaches path directory) (hother : tree.Reaches path place) :
    directory = place := by
  rcases h.way with ⟨left, hway⟩
  rcases hother.way with ⟨otherLeft, hotherWay⟩
  exact hway.found_unique hotherWay

/-- A path leads to the same directory in every tree that has all the entries. -/
theorem Reaches.of_kept (hhere : other.here = tree.here)
    (hkept : ∀ place entry, tree.at? place = some entry → other.at? place = some entry)
    (h : tree.Reaches path directory) : other.Reaches path directory := by
  rcases h.way with ⟨left, hway⟩
  refine ⟨hkept _ _ h.isDirectory, left, ?_⟩
  rw [startOf_congr hhere]
  exact hway.of_kept hkept

/-- The directory of a place that is named is reached. -/
theorem reaches_of_slot (h : tree.slot (path.child name) = .ok (.named directory last)) :
    tree.Reaches path directory ∧ last = name ∧ Nameable path name := by
  rcases slot_eq_named_iff.1 h with ⟨hchecked, hlast, hdots, hshort, hdirectory, -⟩
  rcases leads_of_slot h with ⟨left, hway⟩
  obtain rfl : name = last := by simpa using hlast
  refine ⟨⟨hdirectory, left, ?_⟩, rfl, hchecked, hdots, hshort⟩
  simpa [Path.child, startOf] using hway

/-- A name in a directory that is reached names a place in it. -/
theorem Reaches.slot_child (h : tree.Reaches path directory) (hname : Nameable path name) :
    tree.slot (path.child name) = .ok (.named directory name) := by
  rcases h.way with ⟨left, hway⟩
  refine slot_eq_named_iff.2
    ⟨hname.checked, Path.name?_child path name, hname.ne_dots, hname.short, h.isDirectory, ?_⟩
  simpa [Path.child, startOf] using hway.walk_eq

/-- What stands under a name in a directory that is reached. -/
theorem Reaches.entryUnder_child_iff (h : tree.Reaches path directory) :
    tree.entryUnder (path.child name) = some entry ↔
      Nameable path name ∧ tree.at? (directory ++ [name]) = some entry := by
  rw [entryUnder_eq_some_iff]
  constructor
  · rintro ⟨place, last, hslot, hentry⟩
    rcases reaches_of_slot hslot with ⟨hplace, rfl, hname⟩
    exact ⟨hname, h.unique hplace ▸ hentry⟩
  · rintro ⟨hname, hentry⟩
    exact ⟨directory, name, h.slot_child hname, hentry⟩

/-- The same stands under a name in two trees that have the same in the directory. -/
theorem Reaches.entryUnder_congr (h : tree.Reaches path directory)
    (hother : other.Reaches path place)
    (hsame : other.at? (place ++ [name]) = tree.at? (directory ++ [name])) :
    other.entryUnder (path.child name) = tree.entryUnder (path.child name) := by
  apply Option.ext
  intro entry
  rw [h.entryUnder_child_iff, hother.entryUnder_child_iff, hsame]

/-- A name that leads to a directory is that of a directory or of a link. -/
theorem Reaches.child_cases (h : tree.Reaches path directory)
    (hchild : tree.Reaches (path.child name) place) (hdot : name ≠ ".") (hdots : name ≠ "..") :
    tree.at? (directory ++ [name]) = some .directory ∨
      ∃ target, tree.at? (directory ++ [name]) = some (.link target) := by
  rcases h.way with ⟨left, hway⟩
  rcases hchild.way with ⟨last, hlast⟩
  rcases hlast.split with ⟨between, middle, hfront, hback⟩
  obtain rfl := hway.found_unique hfront
  rcases hback.cons_cases with ⟨-, ⟨hname, -⟩ | ⟨hname, -⟩ | ⟨-, _, -, -, hrest⟩ |
    ⟨-, target, _, -, hlink, -⟩⟩
  · exact absurd hname hdot
  · exact absurd hname hdots
  · cases hrest
    exact .inl hchild.isDirectory
  · exact .inr ⟨target, hlink⟩

/-- Under a path that leads to no directory nothing stands. -/
theorem entryUnder_of_not_reaches (h : ∀ directory, ¬tree.Reaches path directory) :
    tree.entryUnder (path.child name) = none := by
  rw [Option.eq_none_iff_forall_ne_some]
  intro entry hentry
  rcases entryUnder_eq_some_iff.1 hentry with ⟨directory, last, hslot, -⟩
  exact h directory (reaches_of_slot hslot).1

/-- What a path leads to is at the end of a way. -/
theorem find_eq_ok_iff :
    tree.find path = .ok entry ↔ checkLength path = .ok () ∧ ∃ found,
      tree.at? found = some entry ∧
        ∃ left, tree.Leads linkLimit (tree.startOf path) path.parts left found := by
  unfold find resolve
  cases hlength : checkLength path with
  | error obstacle => simp [bind, Except.bind]
  | ok =>
      simp only [bind, Except.bind, true_and]
      constructor
      · intro h
        cases hwalk : tree.walk linkLimit (tree.startOf path) path.parts with
        | error obstacle => simp [hwalk] at h
        | ok found =>
            cases hmet : tree.at? found with
            | none => simp [hwalk, hmet] at h
            | some met =>
                obtain rfl : met = entry := by simpa [hwalk, hmet] using h
                exact ⟨found, hmet, leads_of_walk hwalk hmet⟩
      · rintro ⟨found, hfound, left, hway⟩
        simp [hway.walk_eq, hfound]

theorem find_eq_directory_iff :
    tree.find path = .ok .directory ↔ checkLength path = .ok () ∧
      ∃ directory, tree.Reaches path directory := by
  rw [find_eq_ok_iff]
  constructor
  · rintro ⟨hchecked, directory, hdirectory, hway⟩
    exact ⟨hchecked, directory, hdirectory, hway⟩
  · rintro ⟨hchecked, directory, hdirectory, hway⟩
    exact ⟨hchecked, directory, hdirectory, hway⟩

/-- A file is what the path leads to under which it stands. -/
theorem find_of_entryUnder {bytes : List UInt8} (hdot : name ≠ ".")
    (h : tree.entryUnder (path.child name) = some (.file bytes)) :
    tree.find (path.child name) = .ok (.file bytes) := by
  rcases entryUnder_eq_some_iff.1 h with ⟨directory, last, hslot, hentry⟩
  rcases reaches_of_slot hslot with ⟨-, rfl, -⟩
  exact (find_of_slot hslot hdot hentry (by simp)).2

end Names

/-! ## Missing directories -/

section Missing

variable {tree before after : FileTree} {path : Path} {directory place : Location}

/-- Where no links are, names lead down. -/
theorem Leads.found_eq_append {links left : Nat} {location found : Location} {names : List String}
    (h : tree.Leads links location names left found) (hdot : "." ∉ names) (hdots : ".." ∉ names)
    (hplain : ∀ place target, location <+: place → tree.at? place ≠ some (.link target)) :
    found = location ++ names := by
  induction h with
  | done => rw [List.append_nil]
  | stay => exact absurd List.mem_cons_self hdot
  | leave => exact absurd List.mem_cons_self hdots
  | @enter _ _ location _ name names _ _ _ _ _ _ ih =>
      have hfound := ih (fun hmem => hdot (List.mem_cons_of_mem _ hmem))
        (fun hmem => hdots (List.mem_cons_of_mem _ hmem))
        (fun place target hbelow => hplain place target ((List.prefix_append _ _).trans hbelow))
      rw [hfound, List.append_assoc, List.singleton_append]
  | follow _ _ hlink => exact absurd hlink (hplain _ _ (List.prefix_append _ _))

/--
The directories that are missing on the way to a path are made, and afterwards the path leads to a
directory.  What is new then is on the way down to it.
-/
theorem Grows.at?_cases {name : String} (hwell : before.WellFormed) (hdot : "." ∉ path.parts)
    (hdots : ".." ∉ path.parts) (hgrows : Grows (·.IsAbove (path.child name)) before after)
    (hreaches : after.Reaches path directory) {entry : Entry}
    (hentry : after.at? place = some entry) :
    before.at? place = some entry ∨ (before.at? place = none ∧ place <+: directory) := by
  have hnames : ∀ ancestor : Path, ancestor.IsAbove (path.child name) →
      ancestor.anchor = path.anchor ∧ ancestor.parts <+: path.parts := by
    rintro ancestor ⟨hanchor, hparts⟩
    rw [Path.child, List.dropLast_concat] at hparts
    exact ⟨hanchor, hparts⟩
  have hcases : ∀ {place entry}, after.at? place = some entry → before.at? place = some entry ∨
      (entry = .directory ∧ ∃ ancestor : Path, ancestor.IsAbove (path.child name) ∧
        after.resolve ancestor = .ok place) := by
    intro place entry hentry
    refine hgrows.cases_at? (fun ancestor habove hname => hdot ?_) hentry
    exact (hnames ancestor habove).2.subset (List.mem_of_getLast? hname)
  rcases hcases hentry with hold | ⟨rfl, ancestor, habove, hresolve⟩
  · exact .inl hold
  cases hbefore : before.at? place with
  | some old =>
      rw [(hgrows.extends_and_wellFormed hwell).1.kept _ _ hbefore] at hentry
      exact .inl hentry
  | none =>
      rcases hnames ancestor habove with ⟨hanchor, more, hmore⟩
      rcases hreaches.way with ⟨left, hway⟩
      rw [← hmore] at hway
      rcases hway.split with ⟨between, middle, hfront, hback⟩
      obtain rfl : middle = place := by
        have hstart : after.startOf ancestor = after.startOf path := by
          rw [startOf, startOf, hanchor]
        rw [resolve, hstart] at hresolve
        cases hlength : checkLength ancestor with
        | error obstacle => simp [hlength, bind, Except.bind] at hresolve
        | ok =>
            simpa [hlength, bind, Except.bind, hfront.walk_eq] using hresolve
      have hsub : ∀ part, part ∈ more → part ∈ path.parts := by
        intro part hpart
        rw [← hmore]
        exact List.mem_append_right _ hpart
      have hdown := hback.found_eq_append (fun hmem => hdot (hsub _ hmem))
        (fun hmem => hdots (hsub _ hmem)) ?_
      · exact .inr ⟨rfl, hdown ▸ List.prefix_append _ _⟩
      · -- Below what is new there are new directories only.
        intro lower target hbelow hlink
        rcases hcases hlink with hold | ⟨hfile, -⟩
        · exact hwell.not_below_of_empty hbefore hold hbelow
        · simp at hfile

/-- If the path has led to the directory before, nothing is new. -/
theorem Grows.at?_eq {name : String} (hwell : before.WellFormed) (hdot : "." ∉ path.parts)
    (hdots : ".." ∉ path.parts) (hgrows : Grows (·.IsAbove (path.child name)) before after)
    (hreaches : after.Reaches path directory) (hbefore : ∃ entry, before.at? directory = some entry)
    (place : Location) : after.at? place = before.at? place := by
  apply Option.ext
  intro entry
  constructor
  · intro hentry
    rcases hgrows.at?_cases hwell hdot hdots hreaches hentry with hold | ⟨hnone, habove⟩
    · exact hold
    · rcases hbefore with ⟨other, hother⟩
      exact absurd habove (hwell.not_below_of_empty hnone hother)
  · exact (hgrows.extends_and_wellFormed hwell).1.kept _ _

/-- The path has led to the directory before, and nothing is new, or the directory is empty. -/
theorem Grows.reaches_or_empty {name : String} (hwell : before.WellFormed) (hdot : "." ∉ path.parts)
    (hdots : ".." ∉ path.parts) (hgrows : Grows (·.IsAbove (path.child name)) before after)
    (hreaches : after.Reaches path directory) :
    (before.Reaches path directory ∧ ∀ place, after.at? place = before.at? place) ∨
    ((∀ place, ¬before.Reaches path place) ∧
      ∀ other, after.at? (directory ++ [other]) = none) := by
  have hextends := (hgrows.extends_and_wellFormed hwell).1
  cases hbefore : before.at? directory with
  | some entry =>
      have hsame := hgrows.at?_eq hwell hdot hdots hreaches ⟨entry, hbefore⟩
      refine .inl ⟨hreaches.of_kept hextends.here_eq.symm ?_, hsame⟩
      intro place entry hentry
      rwa [← hsame]
  | none =>
      refine .inr ⟨?_, ?_⟩
      · intro place hplace
        obtain rfl := hreaches.unique (hplace.of_kept hextends.here_eq hextends.kept)
        rw [hplace.isDirectory] at hbefore
        simp at hbefore
      · intro other
        rw [Option.eq_none_iff_forall_ne_some]
        intro entry hentry
        rcases hgrows.at?_cases hwell hdot hdots hreaches hentry with hold | ⟨-, habove⟩
        · exact hwell.not_below_of_empty hbefore hold (List.prefix_append _ _)
        · exact not_below_of_concat directory other habove

end Missing

end FileTree
end IconPress
