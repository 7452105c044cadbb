import IconPress.Proofs.Directories

/-!
# A turn of an output

A document that is published gets a name in the output directory, and what bore that name before
gets another one.  This module follows the names of the directory through a run that returns: all
other names stand for the same as before.  That takes some care, since the way to the directory may
lead through links, and the entry that changes its name may be a link itself.

Main definitions:

- `FileTree.Displaced`: an entry that is to get another name.
- `FileTree.Rehoused`: a tree in which it has that name.
- `FileTree.Turnover`: one name of a directory gets a new file.

Main results:

- `FileTree.Displaced.directory_unique`: the path still leads to the same directory.
- `FileTree.Displaced.reaches_back`: no path leads to a directory that it did not lead to before.
- `turnover_of_publish`: publishing that returns is a turnover.
-/

namespace IconPress
namespace FileTree

/-! ## Another name for what is no directory -/

namespace Renamed

variable {tree after : FileTree} {path : Path} {newName name : String} {directory : Location}

/-- What is no directory moves alone. -/
theorem shift_eq (hwell : tree.WellFormed) {source target place : Location}
    (hplain : tree.at? source ≠ some .directory) {entry : Entry}
    (hentry : tree.at? place = some entry) :
    shift source target place = if place = source then target else place := by
  split
  · rename_i hsame
    rw [hsame, shift_self]
  · rename_i hne
    exact shift_of_not_below (hwell.not_below hentry hplain (Ne.symm hne)) target

/-- What stands where after what is no directory has got another name. -/
theorem at?_eq (h : tree.Renamed path newName directory name after) (hwell : tree.WellFormed)
    (hplain : tree.at? (directory ++ [name]) ≠ some .directory) (place : Location) :
    after.at? place =
      if place = directory ++ [newName] then tree.at? (directory ++ [name])
      else if place = directory ++ [name] then none
      else tree.at? place := by
  have hne : directory ++ [name] ≠ directory ++ [newName] := by
    simpa using h.name_ne
  apply Option.ext
  intro entry
  constructor
  · intro hentry
    rcases h.exists_of_at? hwell hentry with ⟨old, hold, hother, rfl⟩
    rw [shift_eq hwell hplain hold]
    by_cases hsame : old = directory ++ [name]
    · rw [if_pos hsame, if_pos rfl, ← hsame, hold]
    · rw [if_neg hsame, if_neg hother, if_neg hsame, hold]
  · intro hentry
    have hmoved : ∀ old, old ≠ directory ++ [newName] → tree.at? old = some entry →
        after.at? (if old = directory ++ [name] then directory ++ [newName] else old) =
          some entry := by
      intro old hother hold
      rw [← shift_eq hwell hplain hold]
      exact h.at?_shift hwell hother hold
    split at hentry
    · rename_i hplace
      rw [hplace]
      simpa using hmoved _ hne hentry
    · rename_i hother
      split at hentry
      · simp at hentry
      · rename_i hsame
        simpa [hsame] using hmoved _ hother hentry

theorem here_eq (h : tree.Renamed path newName directory name after) (hwell : tree.WellFormed)
    (hplain : tree.at? (directory ++ [name]) ≠ some .directory) : after.here = tree.here := by
  have hother : tree.here ≠ directory ++ [name] := by
    intro heq
    rw [← heq] at hplain
    exact hplain hwell.grounded
  rw [h.after_eq]
  change shift _ _ tree.here = tree.here
  rw [shift_eq hwell hplain hwell.grounded, if_neg hother]

end Renamed

/-! ## An entry aside -/

/--
An entry of a directory that a path leads to is to get another name there.  It leads to something,
but not to a directory, and the other name leads to nothing.
-/
structure Displaced (tree : FileTree) (path : Path) (name newName : String)
    (directory : Location) (entry : Entry) : Prop where
  wellFormed : tree.WellFormed
  slot_eq : tree.slot (path.child name) = .ok (.named directory name)
  newSlot_eq : tree.slot (path.child newName) = .ok (.named directory newName)
  name_ne : name ≠ newName
  ne_dot : name ≠ "."
  newName_ne_dot : newName ≠ "."
  at?_eq : tree.at? (directory ++ [name]) = some entry
  found : ∃ met, tree.find (path.child name) = .ok met ∧ met ≠ .directory
  target : tree.at? (directory ++ [newName]) = none ∨
    ∃ link, tree.at? (directory ++ [newName]) = some (.link link)
  absent : tree.present (path.child newName) = .ok false

/-- An entry has moved to another place, and all else that a tree holds is there as well. -/
structure Rehoused (tree : FileTree) (source target : Location) (entry : Entry)
    (other : FileTree) : Prop where
  here_eq : other.here = tree.here
  moved : other.at? target = some entry
  kept : ∀ place met, place ≠ source → place ≠ target → tree.at? place = some met →
    other.at? place = some met

/-- A tree without what stands at two places. -/
def bare (tree : FileTree) (source target : Location) : FileTree :=
  (tree.eraseAt source).eraseAt target

namespace Displaced

variable {tree other : FileTree} {path : Path} {name newName : String} {directory : Location}
  {entry : Entry}

section

variable (h : tree.Displaced path name newName directory entry)

include h

theorem reaches : tree.Reaches path directory :=
  (reaches_of_slot h.slot_eq).1

theorem isProper : IsProper name :=
  have hname := (reaches_of_slot h.slot_eq).2.2
  ⟨h.ne_dot, hname.ne_dots, hname.short⟩

theorem newName_isProper : IsProper newName :=
  have hname := (reaches_of_slot h.newSlot_eq).2.2
  ⟨h.newName_ne_dot, hname.ne_dots, hname.short⟩

/-- The entry is no directory itself. -/
theorem ne_directory : entry ≠ .directory := by
  rintro rfl
  rcases h.found with ⟨met, hfind, hmet⟩
  rw [(find_of_slot h.slot_eq h.ne_dot h.at?_eq (by simp)).2, Except.ok.injEq] at hfind
  exact hmet hfind.symm

theorem at?_ne_directory : tree.at? (directory ++ [name]) ≠ some .directory := by
  rw [h.at?_eq]
  simpa using h.ne_directory

/-- Where an entry leads that is a link. -/
theorem exists_leads {target : String} (hlink : entry = .link target) :
    ∃ fewer left found, tree.Leads linkLimit (tree.startOf path) path.parts (fewer + 1) directory ∧
      tree.Leads fewer (linkBase (directory ++ [name]) target) (targetNames target) left found ∧
      ∃ met, tree.at? found = some met ∧ met ≠ .directory := by
  rcases h.found with ⟨met, hfind, hmet⟩
  rcases find_eq_ok_iff.1 hfind with ⟨-, found, hfound, left, hway⟩
  rcases (show tree.Leads linkLimit (tree.startOf path) (path.parts ++ [name]) left found
    from hway).split with ⟨between, place, hfront, hback⟩
  rcases h.reaches.way with ⟨_, hreaches⟩
  obtain rfl := hreaches.found_unique hfront
  rcases hback.cons_cases with ⟨-, ⟨hdot, -⟩ | ⟨hdots, -⟩ | ⟨-, other, hother, hplain, -⟩ |
    ⟨-, followed, fewer, rfl, hfollowed, hrest⟩⟩
  · exact absurd hdot h.isProper.ne_dot
  · exact absurd hdots h.isProper.ne_dots
  · rw [h.at?_eq, Option.some.injEq] at hother
    exact absurd (hother.symm.trans hlink) (hplain target)
  · rw [h.at?_eq, hlink, Option.some.injEq, Entry.link.injEq] at hfollowed
    subst hfollowed
    rw [List.append_nil] at hrest
    exact ⟨fewer, left, found, hfront, hrest, met, hfound, hmet⟩

/-- An entry that is a link is blind. -/
theorem blind {target : String} (hlink : entry = .link target) :
    tree.Blind (directory ++ [name]) target := by
  rcases h.exists_leads hlink with ⟨fewer, left, found, -, hway, met, hfound, hmet⟩
  refine blind_of_leads hway ?_
  rw [hfound]
  simpa using hmet

/-- Without the entry, the path leads to the directory all the same. -/
theorem leads_eraseAt : ∃ left, (tree.eraseAt (directory ++ [name])).Leads linkLimit
    (tree.startOf path) path.parts left directory := by
  rcases h.reaches.way with ⟨left, hway⟩
  refine ⟨left, ?_⟩
  have hentry := h.at?_eq
  cases hkind : entry with
  | directory => exact absurd hkind h.ne_directory
  | link target =>
      rw [hkind] at hentry
      exact hway.eraseAt_of_blind h.wellFormed hentry (h.blind hkind) h.reaches.isDirectory
  | file bytes =>
      refine hway.of_passable ?_ h.reaches.isDirectory
      intro place met hmet hother
      have hne : place ≠ directory ++ [name] := by
        rintro rfl
        rw [hentry, hkind, Option.some.injEq] at hmet
        exact hother bytes hmet.symm
      rwa [h.wellFormed.at?_eraseAt_of_ne hne]

/-- Since the new name leads to nothing, a way behind a link of that name takes more links. -/
theorem not_leads_newName {target : String} {fewer links left : Nat} {found : Location}
    (hlink : tree.at? (directory ++ [newName]) = some (.link target))
    (hway : tree.Leads linkLimit (tree.startOf path) path.parts (fewer + 1) directory)
    (hlinks : links ≤ fewer) :
    ¬tree.Leads links (linkBase (directory ++ [newName]) target) (targetNames target) left
      found := by
  intro hrest
  rcases hrest.exists_at? h.wellFormed ⟨_, at?_linkBase h.reaches.isDirectory _ _⟩ with
    ⟨met, hmet⟩
  rw [linkBase_concat] at hrest
  have hstep : tree.Leads (links + 1) directory [newName] left found :=
    .follow h.reaches.isDirectory h.newName_isProper hlink (by rwa [List.append_nil])
  have hmore := hstep.mono (fewer - links)
  rw [show links + 1 + (fewer - links) = fewer + 1 by omega] at hmore
  have hfind : tree.find (path.child newName) = .ok met :=
    find_eq_ok_iff.2 ⟨(reaches_of_slot h.newSlot_eq).2.2.checked, found, hmet, _,
      hway.append hmore⟩
  have habsent := h.absent
  rw [present, hfind] at habsent
  simp at habsent

/-- What stands at neither of the two places. -/
theorem at?_bare {place : Location} {met : Entry}
    (hmet : (tree.bare (directory ++ [name]) (directory ++ [newName])).at? place = some met) :
    place ≠ directory ++ [name] ∧ place ≠ directory ++ [newName] ∧ tree.at? place = some met := by
  rcases (h.wellFormed.eraseAt h.at?_ne_directory).at?_of_eraseAt (by simp) hmet with ⟨hnew, hrest⟩
  rcases h.wellFormed.at?_of_eraseAt (by simp) hrest with ⟨hold, hbefore⟩
  exact ⟨hold, hnew, hbefore⟩

theorem wellFormed_bare :
    (tree.bare (directory ++ [name]) (directory ++ [newName])).WellFormed := by
  have hwell := h.wellFormed.eraseAt h.at?_ne_directory
  have hne : directory ++ [newName] ≠ directory ++ [name] := by
    simpa using Ne.symm h.name_ne
  refine hwell.eraseAt ?_
  rw [h.wellFormed.at?_eraseAt_of_ne hne]
  rcases h.target with hempty | ⟨followed, hfollowed⟩
  · simp [hempty]
  · simp [hfollowed]

theorem at?_bare_directory :
    (tree.bare (directory ++ [name]) (directory ++ [newName])).at? directory =
      some .directory := by
  have hwell := h.wellFormed.eraseAt h.at?_ne_directory
  rw [bare, hwell.at?_eraseAt_of_ne (by simp), h.wellFormed.at?_eraseAt_of_ne (by simp),
    h.reaches.isDirectory]

/-- Behind a link that is to get the new name, a way need not meet either of the two places. -/
theorem exists_leads_bare {target : String} (hlink : entry = .link target) :
    ∃ links left found, (tree.bare (directory ++ [name]) (directory ++ [newName])).Leads links
      (linkBase (directory ++ [name]) target) (targetNames target) left found ∧
      tree.at? found ≠ some .directory := by
  rcases h.exists_leads hlink with ⟨fewer, left, found, hfront, hway, met, hfound, hmet⟩
  have hother : tree.at? found ≠ some .directory := by
    rw [hfound]
    simpa using hmet
  have hentry := h.at?_eq
  rw [hlink] at hentry
  rcases hway.eraseAt_self h.wellFormed hentry with ⟨links, between, hlinks, hway⟩
  refine ⟨links, between, found, ?_, hother⟩
  have hwell := h.wellFormed.eraseAt h.at?_ne_directory
  have hne : directory ++ [newName] ≠ directory ++ [name] := by
    simpa using Ne.symm h.name_ne
  have htarget := h.target
  rw [← h.wellFormed.at?_eraseAt_of_ne hne] at htarget
  rcases htarget with hempty | ⟨followed, hfollowed⟩
  · rwa [bare, eraseAt_of_empty hempty]
  · have hkeep : ∀ place met, place ≠ directory ++ [newName] →
        (tree.eraseAt (directory ++ [name])).at? place = some met →
        (tree.bare (directory ++ [name]) (directory ++ [newName])).at? place = some met := by
      intro place met hplace hmet
      rwa [bare, hwell.at?_eraseAt_of_ne hplace]
    rcases hway.reroute hfollowed fun place met hplace hmet _ => hkeep place met hplace hmet with
      hsame | ⟨less, rest, hless, hthrough⟩
    · exact hsame
    · -- The way goes on behind the link of the new name, which then would lead to something.
      rw [h.wellFormed.at?_eraseAt_of_ne hne] at hfollowed
      rcases hthrough.split with ⟨_, place, hthrough, -⟩
      exact absurd (hthrough.of_kept fun place met hmet => (h.at?_bare hmet).2.2)
        (h.not_leads_newName hfollowed hfront (Nat.le_of_lt (Nat.lt_of_lt_of_le hless hlinks)))

section Rehoused

variable (hother : tree.Rehoused (directory ++ [name]) (directory ++ [newName]) entry other)

include hother

/-- Under its new name, an entry that is a link is blind as well. -/
theorem blind_of_rehoused {target : String} (hlink : entry = .link target) :
    other.Blind (directory ++ [newName]) target := by
  rcases h.exists_leads_bare hlink with ⟨links, left, found, hway, hfound⟩
  have hkept : ∀ place met,
      (tree.bare (directory ++ [name]) (directory ++ [newName])).at? place = some met →
        other.at? place = some met := by
    intro place met hmet
    rcases h.at?_bare hmet with ⟨hold, hnew, hbefore⟩
    exact hother.kept place met hold hnew hbefore
  have hend : ∃ met, (tree.bare (directory ++ [name]) (directory ++ [newName])).at? found =
      some met := by
    exact hway.exists_at? h.wellFormed_bare ⟨_, at?_linkBase h.at?_bare_directory _ _⟩
  rcases hend with ⟨met, hmet⟩
  have hway := hway.of_kept hkept
  rw [linkBase_concat, ← linkBase_concat directory newName] at hway
  refine blind_of_leads hway ?_
  rw [hkept found met hmet]
  rwa [(h.at?_bare hmet).2.2] at hfound

/-- The path still leads to the same directory. -/
theorem directory_unique {place : Location} (hreaches : other.Reaches path place) :
    place = directory := by
  rcases h.leads_eraseAt with ⟨left, hway⟩
  rcases hreaches.way with ⟨otherLeft, hotherWay⟩
  rw [startOf_congr hother.here_eq] at hotherWay
  have hkept : ∀ place met, place ≠ directory ++ [newName] →
      (tree.eraseAt (directory ++ [name])).at? place = some met →
      (∀ bytes, met ≠ .file bytes) → other.at? place = some met := by
    intro place met hnew hmet _
    rcases h.wellFormed.at?_of_eraseAt (by simp) hmet with ⟨hold, hbefore⟩
    exact hother.kept place met hold hnew hbefore
  have hdirectory : (tree.eraseAt (directory ++ [name])).at? directory = some .directory := by
    rw [h.wellFormed.at?_eraseAt_of_ne (by simp), h.reaches.isDirectory]
  -- The two ways part where the entry is now, and behind a blind link is no directory.
  rcases hway.meet hother.moved h.ne_directory hkept hdirectory hotherWay hreaches.isDirectory with
    hsame | ⟨target, fewer, rest, hlink, hthrough⟩
  · exact hsame.symm
  · exact absurd hthrough
      (h.blind_of_rehoused hother hlink fewer rest otherLeft place hreaches.isDirectory)

/-- No path leads to a directory that it did not lead to before. -/
theorem reaches_back {bytes : List UInt8}
    (hsame : ∀ place, place ≠ directory ++ [name] → place ≠ directory ++ [newName] →
      other.at? place = tree.at? place)
    (hfile : other.at? (directory ++ [name]) = some (.file bytes)) {along : Path}
    {found : Location} (hreaches : other.Reaches along found) : tree.Reaches along found := by
  have hback : ∀ place met, place ≠ directory ++ [newName] → other.at? place = some met →
      (∀ bytes, met ≠ .file bytes) → tree.at? place = some met := by
    intro place met hnew hmet hkind
    have hold : place ≠ directory ++ [name] := by
      rintro rfl
      rw [hfile, Option.some.injEq] at hmet
      exact hkind bytes hmet.symm
    rwa [← hsame place hold hnew]
  have hfound : tree.at? found = some .directory := by
    refine hback found _ ?_ hreaches.isDirectory (by simp)
    rintro rfl
    have hdirectory := hreaches.isDirectory
    rw [hother.moved, Option.some.injEq] at hdirectory
    exact h.ne_directory hdirectory
  rcases hreaches.way with ⟨left, hway⟩
  refine ⟨hfound, left, ?_⟩
  rw [startOf_congr hother.here_eq.symm]
  have hmoved := hother.moved
  cases hkind : entry with
  | directory => exact absurd hkind h.ne_directory
  | file moved =>
      refine hway.of_passable ?_ hreaches.isDirectory
      intro place met hmet hplain
      refine hback place met ?_ hmet hplain
      rintro rfl
      rw [hmoved, hkind, Option.some.injEq] at hmet
      exact hplain moved hmet.symm
  | link target =>
      rw [hkind] at hmoved
      have hkeep : ∀ place met, place ≠ directory ++ [newName] → other.at? place = some met →
          (place = found ∨ ∀ bytes, met ≠ .file bytes) → tree.at? place = some met := by
        rintro place met hnew hmet (rfl | hplain)
        · rw [hreaches.isDirectory, Option.some.injEq] at hmet
          rw [← hmet, hfound]
        · exact hback place met hnew hmet hplain
      rcases hway.reroute hmoved hkeep with hway | ⟨fewer, rest, -, hthrough⟩
      · exact hway
      · rw [linkBase_concat, ← linkBase_concat directory name] at hthrough
        exact absurd hthrough (h.blind hkind fewer _ left found hfound)

end Rehoused

end

end Displaced

/-! ## Turnovers -/

/--
One name of a directory gets a new file, and what bore it gets the archive name, if there is one.
All other names of the directory stand for the same, and none of them newly leads to a directory.
-/
structure Turnover (path : Path) (name : String) (bytes : List UInt8) (archive : Option String)
    (before after : FileTree) : Prop where
  wellFormed : after.WellFormed
  written : after.entryUnder (path.child name) = some (.file bytes)
  aside : ∀ newName, archive = some newName → before.present (path.child newName) = .ok false ∧
    after.entryUnder (path.child newName) = before.entryUnder (path.child name)
  vacant : archive = none → before.entryUnder (path.child name) = none
  untouched : ∀ other, other ≠ name → archive ≠ some other →
    after.entryUnder (path.child other) = before.entryUnder (path.child other)
  noDirectory : ∀ other, other ≠ "." → other ≠ ".." →
    after.find (path.child other) = .ok .directory →
      before.find (path.child other) = .ok .directory

section Turnover

variable {before middle grown after : FileTree} {path : Path} {name newName : String}
  {directory : Location} {entry : Entry} {bytes : List UInt8}

/-- What has got another name is there, and more may be. -/
theorem Rehoused.of_extends {tree other : FileTree} {source target : Location}
    (h : tree.Rehoused source target entry other) (hextends : other.Extends after) :
    tree.Rehoused source target entry after where
  here_eq := hextends.here_eq.trans h.here_eq
  moved := hextends.kept _ _ h.moved
  kept := fun place met hsource htarget hmet =>
    hextends.kept _ _ (h.kept place met hsource htarget hmet)

/-- The other name gives the entry its place. -/
theorem Displaced.rehoused (h : before.Displaced path name newName directory entry)
    (hrenamed : before.Renamed (path.child name) newName directory name middle) :
    before.Rehoused (directory ++ [name]) (directory ++ [newName]) entry middle where
  here_eq := hrenamed.here_eq h.wellFormed h.at?_ne_directory
  moved := by
    rw [hrenamed.at?_eq h.wellFormed h.at?_ne_directory, if_pos rfl, h.at?_eq]
  kept := by
    intro place met hold hnew hmet
    rw [hrenamed.at?_eq h.wellFormed h.at?_ne_directory, if_neg hnew, if_neg hold, hmet]

/-- A file is made in the directory that a path leads to, and nothing else changes. -/
structure FileMade (before : FileTree) (path : Path) (name : String) (bytes : List UInt8)
    (directory : Location) (after : FileTree) : Prop where
  here_eq : after.here = before.here
  reaches : before.Reaches path directory
  reaches_after : after.Reaches path directory
  nameable : Nameable path name
  empty : before.at? (directory ++ [name]) = none
  made : after.at? (directory ++ [name]) = some (.file bytes)
  elsewhere : ∀ place, place ≠ directory ++ [name] → after.at? place = before.at? place

/-- A new file is made in a directory that its path names. -/
theorem exists_fileMade (h : before.create (path.child name) bytes = .ok after) :
    ∃ directory, before.FileMade path name bytes directory after := by
  have hextends := extends_of_add h
  rcases add_eq_ok_iff.1 h with ⟨directory, last, hslot, hempty, rfl⟩
  rcases reaches_of_slot hslot with ⟨hreaches, rfl, hname⟩
  exact ⟨directory, hextends.here_eq, hreaches,
    hreaches.of_kept hextends.here_eq hextends.kept, hname, hempty, at?_put_self (by simp),
    fun place hne => at?_put_of_ne hne⟩

namespace FileMade

variable (h : grown.FileMade path name bytes directory after)

include h

/-- The file stands under its path. -/
theorem written : after.entryUnder (path.child name) = some (.file bytes) :=
  h.reaches_after.entryUnder_child_iff.2 ⟨h.nameable, h.made⟩

theorem at?_child_of_ne {other : String} (hne : other ≠ name) :
    after.at? (directory ++ [other]) = grown.at? (directory ++ [other]) :=
  h.elsewhere _ (by simpa using hne)

/-- Where the directory has been there before, it has one file more. -/
theorem turnover_of_reaches (hwell : after.WellFormed) (hhere : after.here = before.here)
    (hbefore : before.Reaches path directory)
    (hsame : ∀ place, grown.at? place = before.at? place) :
    Turnover path name bytes none before after := by
  refine ⟨hwell, h.written, by simp, fun _ => ?_, ?_, ?_⟩
  · have hempty := h.empty
    rw [hsame] at hempty
    rw [Option.eq_none_iff_forall_ne_some]
    intro met hmet
    rw [(hbefore.entryUnder_child_iff.1 hmet).2] at hempty
    simp at hempty
  · intro other hother _
    refine hbefore.entryUnder_congr h.reaches_after ?_
    rw [h.at?_child_of_ne hother, hsame]
  · intro other _ _ hfind
    rcases find_eq_directory_iff.1 hfind with ⟨hchecked, found, hfound, left, hway⟩
    have hpass : after.Passable before := by
      intro location met hmet hplain
      have hother : location ≠ directory ++ [name] := by
        rintro rfl
        rw [h.made, Option.some.injEq] at hmet
        exact hplain bytes hmet.symm
      rwa [h.elsewhere location hother, hsame] at hmet
    refine find_eq_directory_iff.2 ⟨hchecked, found, hpass _ _ hfound (by simp), left, ?_⟩
    rw [startOf_congr hhere.symm]
    exact hway.of_passable hpass hfound

/-- Where the directory is new, there is nothing but the file in it. -/
theorem turnover_of_empty (hwell : after.WellFormed)
    (hno : ∀ place, ¬before.Reaches path place)
    (hnone : ∀ other, grown.at? (directory ++ [other]) = none) :
    Turnover path name bytes none before after := by
  have hempty : ∀ other, other ≠ name → after.at? (directory ++ [other]) = none := by
    intro other hother
    rw [h.at?_child_of_ne hother, hnone]
  refine ⟨hwell, h.written, by simp, fun _ => entryUnder_of_not_reaches hno, ?_, ?_⟩
  · intro other hother _
    rw [entryUnder_of_not_reaches hno, Option.eq_none_iff_forall_ne_some]
    intro met hmet
    have hat := (h.reaches_after.entryUnder_child_iff.1 hmet).2
    rw [hempty other hother] at hat
    simp at hat
  · intro other hdot hdots hfind
    rcases find_eq_directory_iff.1 hfind with ⟨-, found, hfound⟩
    have hcases := h.reaches_after.child_cases hfound hdot hdots
    by_cases hother : other = name
    · rw [hother, h.made] at hcases
      simp at hcases
    · rw [hempty other hother] at hcases
      simp at hcases

end FileMade

/-- Where no output is, one is made. -/
theorem turnover_of_create (hwell : before.WellFormed) (hdot : "." ∉ path.parts)
    (hdots : ".." ∉ path.parts) (hgrows : Grows (·.IsAbove (path.child name)) before grown)
    (hcreate : grown.create (path.child name) bytes = .ok after) :
    Turnover path name bytes none before after := by
  have hgrown := hgrows.extends_and_wellFormed hwell
  have hafter := hgrown.2.add hcreate
  have hhere := (hgrown.1.trans (extends_of_add hcreate)).here_eq
  rcases exists_fileMade hcreate with ⟨directory, hmade⟩
  rcases hgrows.reaches_or_empty hwell hdot hdots hmade.reaches with
    ⟨hbefore, hsame⟩ | ⟨hno, hnone⟩
  · exact hmade.turnover_of_reaches hafter hhere hbefore hsame
  · exact hmade.turnover_of_empty hafter hno hnone

/-- An output that is no directory gets its archive name, and a new one is made. -/
theorem Displaced.turnover (h : before.Displaced path name newName directory entry)
    (hdot : "." ∉ path.parts) (hdots : ".." ∉ path.parts)
    (hrenamed : before.Renamed (path.child name) newName directory name middle)
    (hgrows : Grows (·.IsAbove (path.child name)) middle grown)
    (hcreate : grown.create (path.child name) bytes = .ok after) :
    Turnover path name bytes (some newName) before after := by
  have hmiddle := hrenamed.wellFormed h.wellFormed
  have hgrown := hgrows.extends_and_wellFormed hmiddle
  have hat := hrenamed.at?_eq h.wellFormed h.at?_ne_directory
  have hrehoused := (h.rehoused hrenamed).of_extends hgrown.1
  rcases exists_fileMade hcreate with ⟨place, hmade⟩
  obtain rfl := h.directory_unique hrehoused hmade.reaches
  -- The path leads to the directory still, so that no directory is missing on the way.
  have hdirectory : middle.at? place = some .directory := by
    rw [hat, if_neg (by simp), if_neg (by simp), h.reaches.isDirectory]
  have hsame := hgrows.at?_eq hmiddle hdot hdots hmade.reaches ⟨_, hdirectory⟩
  have helsewhere : ∀ location, location ≠ place ++ [name] → location ≠ place ++ [newName] →
      after.at? location = before.at? location := by
    intro location hold hnew
    rw [hmade.elsewhere location hold, hsame, hat, if_neg hnew, if_neg hold]
  have hrehoused := hrehoused.of_extends (extends_of_add hcreate)
  refine ⟨hgrown.2.add hcreate, hmade.written, ?_, by simp, ?_, ?_⟩
  · rintro _ ⟨⟩
    refine ⟨h.absent, ?_⟩
    rw [h.reaches.entryUnder_child_iff.2 ⟨hmade.nameable, h.at?_eq⟩]
    exact hmade.reaches_after.entryUnder_child_iff.2
      ⟨(reaches_of_slot h.newSlot_eq).2.2, hrehoused.moved⟩
  · intro other hother harchive
    refine h.reaches.entryUnder_congr hmade.reaches_after (helsewhere _ ?_ ?_)
    · simpa using hother
    · simpa [eq_comm] using harchive
  · intro other _ _ hfind
    rcases find_eq_directory_iff.1 hfind with ⟨hchecked, found, hfound⟩
    exact find_eq_directory_iff.2
      ⟨hchecked, found, h.reaches_back hrehoused helsewhere hmade.made hfound⟩

end Turnover

end FileTree

section Publish

variable {machine after : Machine} {document : Document} {now : Instant} {path : Path}
  {name : String}

/-- A first step that gives an archive name displaces what was there. -/
theorem SetsAside.displaced {archive : Path} {middle : FileTree}
    (hwell : machine.tree.WellFormed) (hname : name ≠ ".")
    (hfind : machine.tree.find (path.child name) ≠ .ok .directory)
    (h : SetsAside machine (path.child name) now (.ok (some archive)) middle) :
    archive = path.child (stampedName name now) ∧ ∃ directory entry,
      machine.tree.Displaced path name (stampedName name now) directory entry ∧
        machine.tree.Renamed (path.child name) (stampedName name now) directory name middle := by
  rcases h.exists_found with ⟨met, hmet⟩
  rcases h.renamed with ⟨newName, directory, last, hused, rfl, habsent, hrenamed⟩
  obtain ⟨_, hstem, rfl⟩ := Path.archiveName_eq_ok hused
  rw [Path.name?_child, Option.some.injEq] at hstem
  subst hstem
  obtain ⟨-, rfl, -⟩ := FileTree.reaches_of_slot hrenamed.slot_eq
  have hnewSlot := hrenamed.newSlot_eq
  rw [Path.withName_child] at habsent hnewSlot
  rcases hrenamed.moved with ⟨entry, hentry⟩
  have hother : stampedName last now ≠ "." := by
    intro heq
    have hmem := mem_stampedName last now
    rw [heq] at hmem
    simp at hmem
  refine ⟨Path.withName_child _ _ _, directory, entry, ?_, hrenamed⟩
  exact ⟨hwell, hrenamed.slot_eq, hnewSlot, hrenamed.name_ne, hname, hother, hentry,
    ⟨met, hmet, fun heq => hfind (heq ▸ hmet)⟩, hrenamed.target, habsent⟩

/-- Publishing that returns gives the name of the document to a new file and nothing else. -/
theorem turnover_of_publish {archive : Option Path} (hwell : machine.tree.WellFormed)
    (hpath : document.path = path.child name) (hdot : "." ∉ path.parts) (hdots : ".." ∉ path.parts)
    (hname : name ≠ ".") (hfind : machine.tree.find document.path ≠ .ok .directory)
    (hrun : machine.run (publish document now) = (.ok archive, after)) :
    ∃ newName : Option String, archive = newName.map path.child ∧
      (∀ given, newName = some given → given = stampedName name now) ∧
      FileTree.Turnover path name (Text.Utf8.encode document.text.toList) newName machine.tree
        after.tree := by
  rcases run_publish machine document now with ⟨_, tree, journal, hends, hcases⟩
  rw [hrun, Prod.mk.injEq] at hends
  rcases hends with ⟨rfl, rfl⟩
  rcases hcases with ⟨_, hfailure, -⟩ | ⟨used, middle, written, haside, hwrites, hresult⟩
  · simp at hfailure
  cases hwrites with
  | unwritten _ => simp [Except.map] at hresult
  | partly _ _ _ _ => simp [Except.map] at hresult
  | escaped _ _ => simp [Except.map] at hresult
  | written hgrows hcreate =>
      obtain rfl : archive = used := Except.ok.inj hresult
      rw [hpath] at hfind haside hgrows hcreate
      cases archive with
      | none =>
          refine ⟨none, rfl, by simp, ?_⟩
          cases haside
          exact FileTree.turnover_of_create hwell hdot hdots hgrows hcreate
      | some archive =>
          obtain ⟨rfl, directory, entry, hdisplaced, hrenamed⟩ :=
            haside.displaced hwell hname hfind
          exact ⟨some (stampedName name now), rfl, by simp,
            hdisplaced.turnover hdot hdots hrenamed hgrows hcreate⟩

end Publish

end IconPress
