import IconPress.Proofs.Walks
import IconPress.Proofs.WellFormed

/-!
# Detours through a link

A way through a file tree is determined by its names, and where it meets a link it goes on with
the names of the link's target.  When a link disappears, or something else takes its place, a way
is the same as before or it has met the link.  This module takes such a way apart at the link: what
is left of it behind the link is a way of its own, which avoids the link.

Main definitions:

- `FileTree.Blind`: a link behind which no way goes on to a directory.

Main results:

- `FileTree.Leads.split`, `FileTree.Leads.found_unique`: a way in two parts, and where it ends.
- `FileTree.Leads.reroute`: a way in a tree that lacks a link, or what is left of it behind the
  link.
- `FileTree.Leads.meet`: where the same names lead in two trees that differ at one place.
-/

namespace IconPress
namespace FileTree

/-- Where a way goes on behind a link. -/
def linkBase (spot : Location) (target : String) : Location :=
  if isRooted target then [] else spot.dropLast

theorem linkBase_concat (directory : Location) (name target : String) :
    linkBase (directory ++ [name]) target = if isRooted target then [] else directory := by
  rw [linkBase, List.dropLast_concat]

/-- A way goes on from a directory. -/
theorem at?_linkBase {tree : FileTree} {directory : Location}
    (hdirectory : tree.at? directory = some .directory) (name target : String) :
    tree.at? (linkBase (directory ++ [name]) target) = some .directory := by
  rw [linkBase_concat]
  split
  · rfl
  · exact hdirectory

section Ways

variable {tree : FileTree} {links left : Nat} {location found : Location} {names : List String}

/-! ## A way and its parts -/

/-- The first step of a way. -/
theorem Leads.cons_cases {name : String}
    (h : tree.Leads links location (name :: names) left found) :
    tree.at? location = some .directory ∧
      ((name = "." ∧ tree.Leads links location names left found) ∨
      (name = ".." ∧ tree.Leads links location.dropLast names left found) ∨
      (IsProper name ∧ ∃ entry, tree.at? (location ++ [name]) = some entry ∧
        (∀ target, entry ≠ .link target) ∧ tree.Leads links (location ++ [name]) names left found) ∨
      (IsProper name ∧ ∃ target fewer, links = fewer + 1 ∧
        tree.at? (location ++ [name]) = some (.link target) ∧
        tree.Leads fewer (linkBase (location ++ [name]) target) (targetNames target ++ names) left
          found)) := by
  cases h with
  | stay hdirectory hrest => exact ⟨hdirectory, .inl ⟨rfl, hrest⟩⟩
  | leave hdirectory hrest => exact ⟨hdirectory, .inr (.inl ⟨rfl, hrest⟩)⟩
  | enter hdirectory hname hentry hplain hrest =>
      exact ⟨hdirectory, .inr (.inr (.inl ⟨hname, _, hentry, hplain, hrest⟩))⟩
  | follow hdirectory hname hlink hrest =>
      refine ⟨hdirectory, .inr (.inr (.inr ⟨hname, _, _, rfl, hlink, ?_⟩))⟩
      rwa [linkBase_concat]

/-- More links may be met. -/
theorem Leads.mono (h : tree.Leads links location names left found) (more : Nat) :
    tree.Leads (links + more) location names (left + more) found := by
  induction h with
  | done links location => exact .done (links + more) location
  | stay hdirectory _ ih => exact .stay hdirectory ih
  | leave hdirectory _ ih => exact .leave hdirectory ih
  | enter hdirectory hname hentry hplain _ ih =>
      exact .enter hdirectory hname hentry hplain ih
  | follow hdirectory hname hlink _ ih =>
      rw [Nat.add_right_comm]
      exact .follow hdirectory hname hlink ih

/-- A way is a way in every tree that has all the entries. -/
theorem Leads.of_kept {other : FileTree}
    (hkept : ∀ place entry, tree.at? place = some entry → other.at? place = some entry)
    (h : tree.Leads links location names left found) :
    other.Leads links location names left found := by
  induction h with
  | done links location => exact .done links location
  | stay hdirectory _ ih => exact .stay (hkept _ _ hdirectory) ih
  | leave hdirectory _ ih => exact .leave (hkept _ _ hdirectory) ih
  | enter hdirectory hname hentry hplain _ ih =>
      exact .enter (hkept _ _ hdirectory) hname (hkept _ _ hentry) hplain ih
  | follow hdirectory hname hlink _ ih =>
      exact .follow (hkept _ _ hdirectory) hname (hkept _ _ hlink) ih

/-- A way can be taken in two parts. -/
theorem Leads.split {front back : List String}
    (h : tree.Leads links location (front ++ back) left found) :
    ∃ between place, tree.Leads links location front between place ∧
      tree.Leads between place back left found := by
  generalize hnames : front ++ back = names at h
  induction h generalizing front with
  | done links location =>
      rcases List.append_eq_nil_iff.1 hnames with ⟨rfl, rfl⟩
      exact ⟨links, location, .done links location, .done links location⟩
  | stay hdirectory hrest ih =>
      rcases front with _ | ⟨name, front⟩
      · subst hnames
        exact ⟨_, _, .done _ _, .stay hdirectory hrest⟩
      · rcases List.cons.inj hnames with ⟨rfl, hmore⟩
        rcases ih hmore with ⟨between, place, hfront, hback⟩
        exact ⟨between, place, .stay hdirectory hfront, hback⟩
  | leave hdirectory hrest ih =>
      rcases front with _ | ⟨name, front⟩
      · subst hnames
        exact ⟨_, _, .done _ _, .leave hdirectory hrest⟩
      · rcases List.cons.inj hnames with ⟨rfl, hmore⟩
        rcases ih hmore with ⟨between, place, hfront, hback⟩
        exact ⟨between, place, .leave hdirectory hfront, hback⟩
  | enter hdirectory hname hentry hplain hrest ih =>
      rcases front with _ | ⟨name, front⟩
      · subst hnames
        exact ⟨_, _, .done _ _, .enter hdirectory hname hentry hplain hrest⟩
      · rcases List.cons.inj hnames with ⟨rfl, hmore⟩
        rcases ih hmore with ⟨between, place, hfront, hback⟩
        exact ⟨between, place, .enter hdirectory hname hentry hplain hfront, hback⟩
  | @follow _ _ _ _ _ target _ hdirectory hname hlink hrest ih =>
      rcases front with _ | ⟨name, front⟩
      · subst hnames
        exact ⟨_, _, .done _ _, .follow hdirectory hname hlink hrest⟩
      · rcases List.cons.inj hnames with ⟨rfl, rfl⟩
        have htarget : (targetNames target ++ front) ++ back =
            targetNames target ++ (front ++ back) := List.append_assoc _ _ _
        rcases ih htarget with ⟨between, place, hfront, hback⟩
        exact ⟨between, place, .follow hdirectory hname hlink hfront, hback⟩

/-- Two parts make a way. -/
theorem Leads.append {between : Nat} {place : Location} {front back : List String}
    (hfront : tree.Leads links location front between place)
    (hback : tree.Leads between place back left found) :
    tree.Leads links location (front ++ back) left found := by
  induction hfront with
  | done => exact hback
  | stay hdirectory _ ih => exact .stay hdirectory (ih hback)
  | leave hdirectory _ ih => exact .leave hdirectory (ih hback)
  | enter hdirectory hname hentry hplain _ ih =>
      exact .enter hdirectory hname hentry hplain (ih hback)
  | follow hdirectory hname hlink _ ih =>
      rw [List.cons_append]
      refine .follow hdirectory hname hlink ?_
      rw [← List.append_assoc]
      exact ih hback

/-- Ways from one location along the same names end at one location. -/
theorem Leads.found_unique {others otherLeft : Nat} {otherFound : Location}
    (h : tree.Leads links location names left found)
    (hother : tree.Leads others location names otherLeft otherFound) : found = otherFound := by
  induction h generalizing others otherLeft with
  | done =>
      cases hother
      rfl
  | stay _ _ ih =>
      rcases hother.cons_cases with ⟨-, ⟨-, hrest⟩ | ⟨hdots, -⟩ | ⟨hname, -⟩ | ⟨hname, -⟩⟩
      · exact ih hrest
      · exact absurd hdots (by decide)
      · exact absurd rfl hname.ne_dot
      · exact absurd rfl hname.ne_dot
  | leave _ _ ih =>
      rcases hother.cons_cases with ⟨-, ⟨hdot, -⟩ | ⟨-, hrest⟩ | ⟨hname, -⟩ | ⟨hname, -⟩⟩
      · exact absurd hdot (by decide)
      · exact ih hrest
      · exact absurd rfl hname.ne_dots
      · exact absurd rfl hname.ne_dots
  | enter _ hname hentry hplain _ ih =>
      rcases hother.cons_cases with ⟨-, ⟨hdot, -⟩ | ⟨hdots, -⟩ | ⟨-, _, -, -, hrest⟩ |
        ⟨-, target, _, -, hlink, -⟩⟩
      · exact absurd hdot hname.ne_dot
      · exact absurd hdots hname.ne_dots
      · exact ih hrest
      · rw [hlink, Option.some.injEq] at hentry
        exact absurd hentry.symm (hplain target)
  | follow _ hname hlink _ ih =>
      rcases hother.cons_cases with ⟨-, ⟨hdot, -⟩ | ⟨hdots, -⟩ | ⟨-, entry, hentry, hplain, -⟩ |
        ⟨-, target, _, -, hsame, hrest⟩⟩
      · exact absurd hdot hname.ne_dot
      · exact absurd hdots hname.ne_dots
      · rw [hlink, Option.some.injEq] at hentry
        exact absurd hentry.symm (hplain _)
      · rw [hlink, Option.some.injEq, Entry.link.injEq] at hsame
        subst hsame
        rw [linkBase_concat] at hrest
        exact ih hrest

/-- A way ends at an entry. -/
theorem Leads.exists_at? (hwell : tree.WellFormed) (h : tree.Leads links location names left found)
    (hstart : ∃ entry, tree.at? location = some entry) :
    ∃ entry, tree.at? found = some entry := by
  induction h with
  | done => exact hstart
  | stay _ _ ih => exact ih hstart
  | leave hdirectory _ ih => exact ih ⟨_, hwell.parent hdirectory⟩
  | enter _ _ hentry _ _ ih => exact ih ⟨_, hentry⟩
  | @follow _ _ location _ _ target _ hdirectory _ _ _ ih =>
      refine ih ⟨.directory, ?_⟩
      split
      · rfl
      · exact hdirectory

end Ways

/-- No link stands at the root. -/
theorem ne_nil_of_link {tree : FileTree} {spot : Location} {target : String}
    (h : tree.at? spot = some (.link target)) : spot ≠ [] := by
  rintro rfl
  simp at h

/-! ## Blind links -/

/-- Behind a link with a target no way goes on to a directory. -/
def Blind (tree : FileTree) (spot : Location) (target : String) : Prop :=
  ∀ links rest left found, tree.at? found = some .directory →
    ¬tree.Leads links (linkBase spot target) (targetNames target ++ rest) left found

/-- A link that leads to something else than a directory is blind. -/
theorem blind_of_leads {tree : FileTree} {spot found : Location} {target : String}
    {links left : Nat}
    (h : tree.Leads links (linkBase spot target) (targetNames target) left found)
    (hother : tree.at? found ≠ some .directory) : tree.Blind spot target := by
  intro others rest otherLeft directory hdirectory hway
  rcases hway.split with ⟨between, place, hfront, hback⟩
  obtain rfl : found = place := h.found_unique hfront
  rw [hback.eq_of_ne_directory hother] at hdirectory
  exact hother hdirectory

/-! ## Trees that differ at one place -/

section Places

variable {tree other : FileTree} {spot location found : Location} {names : List String}
  {links left : Nat}

/--
A tree has what another one has, a link apart; files matter only at the end of a way.  A way then
is a way in that tree, or it has met the link and what is left of it is a way.
-/
theorem Leads.reroute {target : String} (hspot : tree.at? spot = some (.link target))
    (hkeep : ∀ place entry, place ≠ spot → tree.at? place = some entry →
      (place = found ∨ ∀ bytes, entry ≠ .file bytes) → other.at? place = some entry)
    (h : tree.Leads links location names left found) :
    other.Leads links location names left found ∨ ∃ fewer rest, fewer < links ∧
      other.Leads fewer (linkBase spot target) (targetNames target ++ rest) left found := by
  have hdirectories : ∀ place, tree.at? place = some .directory →
      other.at? place = some .directory := by
    intro place hdirectory
    refine hkeep place _ ?_ hdirectory (.inr (by simp))
    rintro rfl
    rw [hspot] at hdirectory
    simp at hdirectory
  induction h with
  | done links location => exact .inl (.done links location)
  | stay hdirectory _ ih =>
      exact (ih hkeep).imp_left fun hrest => .stay (hdirectories _ hdirectory) hrest
  | leave hdirectory _ ih =>
      exact (ih hkeep).imp_left fun hrest => .leave (hdirectories _ hdirectory) hrest
  | @enter _ _ location found name names entry hdirectory hname hentry hplain hrest ih =>
      have hne : location ++ [name] ≠ spot := by
        rintro rfl
        rw [hspot, Option.some.injEq] at hentry
        exact hplain target hentry.symm
      have hmatters : location ++ [name] = found ∨ ∀ bytes, entry ≠ .file bytes := by
        by_cases hplace : entry = .directory
        · exact .inr (by simp [hplace])
        · refine .inl (hrest.eq_of_ne_directory ?_).symm
          rw [hentry]
          simpa using hplace
      exact (ih hkeep).imp_left fun hother =>
        .enter (hdirectories _ hdirectory) hname (hkeep _ _ hne hentry hmatters) hplain hother
  | @follow links _ location found name met names hdirectory hname hlink hrest ih =>
      rcases ih hkeep with hother | ⟨fewer, rest, hfewer, hother⟩
      · by_cases hsame : location ++ [name] = spot
        · subst hsame
          rw [hlink, Option.some.injEq, Entry.link.injEq] at hspot
          subst hspot
          refine .inr ⟨links, names, Nat.lt_succ_self links, ?_⟩
          rwa [linkBase_concat]
        · exact .inl (.follow (hdirectories _ hdirectory) hname
            (hkeep _ _ hsame hlink (.inr (by simp))) hother)
      · exact .inr ⟨fewer, rest, Nat.lt_succ_of_lt hfewer, hother⟩

/-- Without the link, a way to a directory is the same if the link is blind. -/
theorem Leads.eraseAt_of_blind {target : String} (hwell : tree.WellFormed)
    (hspot : tree.at? spot = some (.link target)) (hblind : tree.Blind spot target)
    (h : tree.Leads links location names left found) (hfound : tree.at? found = some .directory) :
    (tree.eraseAt spot).Leads links location names left found := by
  have hother : ∀ place entry, place ≠ spot → tree.at? place = some entry →
      (tree.eraseAt spot).at? place = some entry := by
    intro place entry hne hentry
    rwa [hwell.at?_eraseAt_of_ne hne]
  have hold : ∀ place entry, (tree.eraseAt spot).at? place = some entry →
      tree.at? place = some entry :=
    fun _ _ hentry => (hwell.at?_of_eraseAt (ne_nil_of_link hspot) hentry).2
  rcases h.reroute hspot fun place entry hne hentry _ => hother place entry hne hentry with
    hsame | ⟨fewer, rest, -, hway⟩
  · exact hsame
  · exact absurd (hway.of_kept hold) (hblind _ _ _ _ hfound)

/-- Behind a link, a way to where the link leads need not meet the link again. -/
theorem Leads.eraseAt_self {target : String} (hwell : tree.WellFormed)
    (hspot : tree.at? spot = some (.link target))
    (h : tree.Leads links (linkBase spot target) (targetNames target) left found) :
    ∃ fewer between, fewer ≤ links ∧ (tree.eraseAt spot).Leads fewer (linkBase spot target)
      (targetNames target) between found := by
  have hother : ∀ place entry, place ≠ spot → tree.at? place = some entry →
      (tree.eraseAt spot).at? place = some entry := by
    intro place entry hne hentry
    rwa [hwell.at?_eraseAt_of_ne hne]
  have hold : ∀ place entry, (tree.eraseAt spot).at? place = some entry →
      tree.at? place = some entry :=
    fun _ _ hentry => (hwell.at?_of_eraseAt (ne_nil_of_link hspot) hentry).2
  rcases h.reroute hspot fun place entry hne hentry _ => hother place entry hne hentry with
    hsame | ⟨fewer, rest, hfewer, hway⟩
  · exact ⟨links, left, Nat.le_refl links, hsame⟩
  · rcases hway.split with ⟨between, place, hfront, -⟩
    obtain rfl := h.found_unique (hfront.of_kept hold)
    exact ⟨fewer, between, Nat.le_of_lt hfewer, hfront⟩

/--
A tree has the directories and the links of another one, but at one place something else, which is
no directory.  The same names then lead to the same directory in both, or the way in that tree has
met the place, where there is a link.
-/
theorem Leads.meet {entry : Entry} {others otherLeft : Nat} {otherFound : Location}
    (hspot : other.at? spot = some entry) (hentry : entry ≠ .directory)
    (hkeep : ∀ place kept, place ≠ spot → tree.at? place = some kept →
      (∀ bytes, kept ≠ .file bytes) → other.at? place = some kept)
    (h : tree.Leads links location names left found) (hfound : tree.at? found = some .directory)
    (hother : other.Leads others location names otherLeft otherFound)
    (hotherFound : other.at? otherFound = some .directory) :
    found = otherFound ∨ ∃ target fewer rest, entry = .link target ∧
      other.Leads fewer (linkBase spot target) (targetNames target ++ rest) otherLeft
        otherFound := by
  -- The place is left behind only where a link stands there.
  have hmet : ∀ {others location name names},
      other.Leads others location (name :: names) otherLeft otherFound → IsProper name →
      location ++ [name] = spot → ∃ target fewer rest, entry = .link target ∧
        other.Leads fewer (linkBase spot target) (targetNames target ++ rest) otherLeft
          otherFound := by
    intro others location name names hway hname hsame
    subst hsame
    rcases hway.cons_cases with ⟨-, ⟨hdot, -⟩ | ⟨hdots, -⟩ | ⟨-, met, hmet, -, hrest⟩ |
      ⟨-, target, fewer, -, hlink, hrest⟩⟩
    · exact absurd hdot hname.ne_dot
    · exact absurd hdots hname.ne_dots
    · rw [hspot, Option.some.injEq] at hmet
      subst hmet
      have hend := hrest.eq_of_ne_directory (by rw [hspot]; simpa using hentry)
      rw [hend, hspot, Option.some.injEq] at hotherFound
      exact absurd hotherFound hentry
    · rw [hspot, Option.some.injEq] at hlink
      exact ⟨target, fewer, names, hlink, hrest⟩
  induction h generalizing others with
  | done =>
      cases hother
      exact .inl rfl
  | stay _ _ ih =>
      rcases hother.cons_cases with ⟨-, ⟨-, hrest⟩ | ⟨hdots, -⟩ | ⟨hname, -⟩ | ⟨hname, -⟩⟩
      · exact ih hfound hrest
      · exact absurd hdots (by decide)
      · exact absurd rfl hname.ne_dot
      · exact absurd rfl hname.ne_dot
  | leave _ _ ih =>
      rcases hother.cons_cases with ⟨-, ⟨hdot, -⟩ | ⟨-, hrest⟩ | ⟨hname, -⟩ | ⟨hname, -⟩⟩
      · exact absurd hdot (by decide)
      · exact ih hfound hrest
      · exact absurd rfl hname.ne_dots
      · exact absurd rfl hname.ne_dots
  | @enter _ _ location found name names met _ hname hplace hplain hrest ih =>
      by_cases hsame : location ++ [name] = spot
      · exact .inr (hmet hother hname hsame)
      obtain rfl : met = .directory := by
        by_contra hne
        have hend := hrest.eq_of_ne_directory (by rw [hplace]; simpa using hne)
        rw [hend, hplace, Option.some.injEq] at hfound
        exact hne hfound
      have hkept := hkeep _ _ hsame hplace (by simp)
      rcases hother.cons_cases with ⟨-, ⟨hdot, -⟩ | ⟨hdots, -⟩ | ⟨-, _, -, -, hway⟩ |
        ⟨-, target, _, -, hlink, -⟩⟩
      · exact absurd hdot hname.ne_dot
      · exact absurd hdots hname.ne_dots
      · exact ih hfound hway
      · rw [hkept] at hlink
        simp at hlink
  | @follow _ _ location found name target names _ hname hplace _ ih =>
      by_cases hsame : location ++ [name] = spot
      · exact .inr (hmet hother hname hsame)
      have hkept := hkeep _ _ hsame hplace (by simp)
      rcases hother.cons_cases with ⟨-, ⟨hdot, -⟩ | ⟨hdots, -⟩ | ⟨-, met, hmet, hplain, -⟩ |
        ⟨-, followed, _, -, hlink, hway⟩⟩
      · exact absurd hdot hname.ne_dot
      · exact absurd hdots hname.ne_dots
      · rw [hkept, Option.some.injEq] at hmet
        exact absurd hmet.symm (hplain target)
      · rw [hkept, Option.some.injEq, Entry.link.injEq] at hlink
        subst hlink
        rw [linkBase_concat] at hway
        exact ih hfound hway

end Places

end FileTree
end IconPress
