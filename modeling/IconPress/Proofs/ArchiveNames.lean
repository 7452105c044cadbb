import IconPress.Proofs.History
import IconPress.Proofs.Reported
import Mathlib.Data.List.TakeWhile

/-!
# Reading archive names

An archive name is put together from the halves of a name, a stamp and a mark, with nothing that
quotes one from the other, and a name may itself hold stamps and marks.  It can be taken apart all
the same: from the end, a stamp is what the last underscore opens, and it holds no dot.

Main definitions:

- `Path.Normal`: a path as it is read.

Main results:

- `Instant.stamp_injective`: a stamp tells all its fields.
- `stampedName_injective`: an archive name tells the name and the time.
- `archives_apart`: no two files have one archive, and no archive is in the place of an output.
-/

namespace IconPress

/-! ## Stamps -/

theorem Instant.toList_stamp (now : Instant) :
    now.stamp.toList = now.year.repr.toList ++
      '-' :: ((Text.Numeral.twoDigits now.month).toList ++
      '-' :: ((Text.Numeral.twoDigits now.day).toList ++
      'T' :: ((Text.Numeral.twoDigits now.hour).toList ++
      ':' :: ((Text.Numeral.twoDigits now.minute).toList ++
      ':' :: (Text.Numeral.twoDigits now.second).toList)))) := by
  simp [Instant.stamp]

/-- A stamp tells all its fields, as none of them holds a mark. -/
theorem Instant.stamp_injective : Function.Injective Instant.stamp := by
  intro now later heq
  have htext := congrArg String.toList heq
  rw [Instant.toList_stamp, Instant.toList_stamp] at htext
  have hdash := Text.Numeral.not_mem_twoDigits (show Text.Numeral.isDigit '-' = false by decide)
  have hletter := Text.Numeral.not_mem_twoDigits (show Text.Numeral.isDigit 'T' = false by decide)
  have hcolon := Text.Numeral.not_mem_twoDigits (show Text.Numeral.isDigit ':' = false by decide)
  obtain ⟨hyear, htext⟩ := Text.cut_first_unique (Text.Numeral.not_mem_repr (by decide) _)
    (Text.Numeral.not_mem_repr (by decide) _) htext
  obtain ⟨hmonth, htext⟩ := Text.cut_first_unique (hdash _) (hdash _) htext
  obtain ⟨hday, htext⟩ := Text.cut_first_unique (hletter _) (hletter _) htext
  obtain ⟨hhour, htext⟩ := Text.cut_first_unique (hcolon _) (hcolon _) htext
  obtain ⟨hminute, hsecond⟩ := Text.cut_first_unique (hcolon _) (hcolon _) htext
  cases now
  cases later
  rw [Instant.mk.injEq]
  exact ⟨Text.Numeral.toList_repr_injective hyear, Text.Numeral.toList_twoDigits_injective hmonth,
    Text.Numeral.toList_twoDigits_injective hday, Text.Numeral.toList_twoDigits_injective hhour,
    Text.Numeral.toList_twoDigits_injective hminute,
    Text.Numeral.toList_twoDigits_injective hsecond⟩

/-! ## Names -/

namespace Path

/-- A name has no second half, or the second half begins with the last dot. -/
theorem splitName_cases (name : List Char) :
    splitName name = (name, []) ∨ ∃ front back, '.' ∉ back ∧ name = front ++ '.' :: back ∧
      splitName name = (front, '.' :: back) := by
  by_cases hmem : '.' ∈ name
  · rcases Text.exists_cut_last hmem with ⟨front, back, rfl, hback⟩
    by_cases hends : front ≠ [] ∧ back ≠ []
    · exact .inr ⟨front, back, hback, rfl, splitName_append hends.1 hends.2 hback⟩
    · -- A dot at one of the ends does not count.
      left
      have hlength : front.length = 0 ∨ back.length = 0 := by
        simpa only [List.length_eq_zero_iff, ne_eq, not_and_or, not_not] using hends
      unfold splitName
      simp only [reverse_takeWhile_reverse hback, List.length_append, List.length_cons]
      rw [if_neg]
      simp only [Bool.and_eq_true, decide_eq_true_eq]
      omega
  · left
    have htail : (name.reverse.takeWhile (· ≠ '.')).reverse = name := by
      rw [List.takeWhile_eq_self_iff.2 (ne_dot_of_mem_reverse hmem), List.reverse_reverse]
    unfold splitName
    simp only [htail]
    rw [if_neg (by simp)]

/-- The halves of a name are the name. -/
theorem splitName_fst_append_snd (name : List Char) :
    (splitName name).1 ++ (splitName name).2 = name := by
  rcases splitName_cases name with h | ⟨front, back, -, rfl, h⟩
  · rw [h, List.append_nil]
  · rw [h]

end Path

/-- No stamp holds an underscore or a dot, which stand around it. -/
theorem marks_not_mem_stamp (now : Instant) :
    '_' ∉ now.stamp.toList ∧ '.' ∉ now.stamp.toList :=
  ⟨not_mem_stamp (by decide) (by decide) now, not_mem_stamp (by decide) (by decide) now⟩

section StampedNames

variable {front other back tail : List Char} {now later : Instant}

/-- The last underscore before what follows a stamp opens the stamp. -/
theorem stamped_unique (hback : '_' ∉ back) (htail : '_' ∉ tail)
    (h : front ++ '_' :: (now.stamp.toList ++ back) =
      other ++ '_' :: (later.stamp.toList ++ tail)) :
    front = other ∧ now.stamp.toList ++ back = later.stamp.toList ++ tail :=
  Text.cut_last_unique (List.not_mem_append (marks_not_mem_stamp now).1 hback)
    (List.not_mem_append (marks_not_mem_stamp later).1 htail) h

/-- The mark after a stamp is no second half of a name. -/
theorem stamped_mark_ne (hback : '.' ∉ back) :
    front ++ '_' :: (now.stamp.toList ++ (".old".toList ++ '.' :: back)) ≠
      other ++ '_' :: (later.stamp.toList ++ ".old".toList) := by
  intro h
  -- Cut at the last dot, which is in front of `back` on one side and in the mark on the other.
  have hdots : (front ++ '_' :: (now.stamp.toList ++ ".old".toList)) ++ '.' :: back =
      (other ++ '_' :: (later.stamp.toList ++ [])) ++ '.' :: "old".toList := by
    simpa using h
  rcases Text.cut_last_unique hback (by decide) hdots with ⟨hstamped, -⟩
  have hstamps := (stamped_unique (by decide) List.not_mem_nil hstamped).2
  refine (marks_not_mem_stamp later).2 ?_
  rw [← List.append_nil later.stamp.toList, ← hstamps]
  exact List.mem_append_right _ (by decide)

/-- With one mark after both stamps, the stamps are one and so is what stands before them. -/
theorem stamped_cancel
    (h : front ++ '_' :: (now.stamp.toList ++ back) =
      other ++ '_' :: (later.stamp.toList ++ back)) :
    front = other ∧ now = later := by
  have hcancel : front ++ '_' :: (now.stamp.toList ++ []) =
      other ++ '_' :: (later.stamp.toList ++ []) := by
    have hmark : (front ++ '_' :: now.stamp.toList) ++ back =
        (other ++ '_' :: later.stamp.toList) ++ back := by
      simpa using h
    rw [List.append_nil, List.append_nil]
    exact List.append_cancel_right hmark
  rcases stamped_unique List.not_mem_nil List.not_mem_nil hcancel with ⟨hfront, hstamps⟩
  rw [List.append_nil, List.append_nil] at hstamps
  exact ⟨hfront, Instant.stamp_injective (String.toList_inj.1 hstamps)⟩

/--
An archive name tells the name and the time.  The suffix of a name is cut off first, which tells
from the mark whether there is one, then the mark and last the stamp.
-/
theorem stampedName_injective {name last : String}
    (h : stampedName name now = stampedName last later) : name = last ∧ now = later := by
  have htext := congrArg String.toList h
  rw [toList_stampedName, toList_stampedName, List.append_assoc, List.append_assoc] at htext
  rw [← String.toList_inj]
  rcases Path.splitName_cases name.toList with hname | ⟨front, back, hback, hjoin, hname⟩
  · rcases Path.splitName_cases last.toList with hlast | ⟨other, tail, htail, -, hlast⟩
    · rw [hname, hlast] at htext
      exact stamped_cancel htext
    · rw [hname, hlast, List.append_nil] at htext
      exact absurd htext.symm (stamped_mark_ne htail)
  · rcases Path.splitName_cases last.toList with hlast | ⟨other, tail, htail, hrejoin, hlast⟩
    · rw [hname, hlast, List.append_nil] at htext
      exact absurd htext (stamped_mark_ne hback)
    · have hdots : (front ++ '_' :: (now.stamp.toList ++ ".old".toList)) ++ '.' :: back =
          (other ++ '_' :: (later.stamp.toList ++ ".old".toList)) ++ '.' :: tail := by
        simpa [hname, hlast] using htext
      rcases Text.cut_last_unique hback htail hdots with ⟨hstamped, rfl⟩
      rcases stamped_cancel hstamped with ⟨rfl, rfl⟩
      exact ⟨hjoin.trans hrejoin.symm, rfl⟩

end StampedNames

/-- An archive name is longer than the name. -/
theorem length_lt_length_stampedName (name : String) (now : Instant) :
    name.toList.length < (stampedName name now).toList.length := by
  have hname := congrArg List.length (Path.splitName_fst_append_snd name.toList)
  rw [List.length_append] at hname
  rw [toList_stampedName, List.length_append, List.length_cons, List.length_append]
  omega

/-! ## Archives -/

namespace Path

/-- A path as it is read: no part is empty, a single dot or holds a separator. -/
def Normal (path : Path) : Prop :=
  ∀ part ∈ path.parts, part ≠ "" ∧ part ≠ "." ∧ '/' ∉ part.toList

theorem normal_parse (text : String) : (parse text).Normal := by
  intro part hpart
  rcases List.mem_filter.1 hpart with ⟨hread, hplain⟩
  rcases List.mem_map.1 hread with ⟨piece, hpiece, rfl⟩
  rw [Bool.and_eq_true, bne_iff_ne, bne_iff_ne] at hplain
  refine ⟨hplain.1, hplain.2, ?_⟩
  rw [String.toList_ofList]
  exact Text.not_mem_of_mem_pieces hpiece

variable {path : Path} {name : String}

/-- A path with a name has an archive, in its directory. -/
theorem archivedAt_of_name (h : path.name? = some name) (now : Instant) :
    path.archivedAt now = .ok (path.withName (stampedName name now)) := by
  rw [archivedAt, archiveName, h]
  rfl

/-- An archive name is one part of a path, so that an archive is where it is said to be. -/
theorem Normal.archive (hnormal : path.Normal) (h : path.name? = some name) (now : Instant) :
    (path.withName (stampedName name now)).Normal := by
  intro part hpart
  rw [withName, child, List.mem_append, List.mem_singleton] at hpart
  rcases hpart with habove | rfl
  · exact hnormal part (List.dropLast_subset _ habove)
  · have hmem := mem_stampedName name now
    refine ⟨?_, ?_, ?_⟩
    · intro hempty
      rw [hempty] at hmem
      exact absurd hmem (by decide)
    · intro hdot
      rw [hdot] at hmem
      exact absurd hmem (by decide)
    · exact not_mem_stampedName (hnormal name (List.mem_of_getLast? h)).2.2 (by decide)
        (by decide) now

@[simp]
theorem name?_withName (path : Path) (name : String) : (path.withName name).name? = some name :=
  name?_child path.parent name

@[simp]
theorem parent_withName (path : Path) (name : String) :
    (path.withName name).parent = path.parent := by
  rw [withName, child, parent, List.dropLast_concat]

/-- Only a path with a name has an archive. -/
theorem archivedAt_eq_ok {archive : Path} {now : Instant} (h : path.archivedAt now = .ok archive) :
    ∃ name, path.name? = some name ∧ archive = path.withName (stampedName name now) := by
  cases hname : path.name? with
  | none =>
      rw [archivedAt, archiveName, hname] at h
      cases h
  | some name =>
      rw [archivedAt_of_name hname] at h
      exact ⟨name, rfl, (Except.ok.inj h).symm⟩

/-- An archive is in another place, as its name is longer. -/
theorem withName_stampedName_ne (h : path.name? = some name) (now : Instant) :
    path.withName (stampedName name now) ≠ path := by
  intro heq
  have hsame := congrArg name? heq
  rw [name?_withName, h, Option.some.injEq] at hsame
  have hlonger := length_lt_length_stampedName name now
  rw [hsame] at hlonger
  exact Nat.lt_irrefl _ hlonger

/-- An archive tells its directory and its name, and the name tells the rest. -/
theorem archivedAt_injective {other archive : Path} {now later : Instant}
    (hpath : path.archivedAt now = .ok archive) (hother : other.archivedAt later = .ok archive) :
    path = other ∧ now = later := by
  rcases archivedAt_eq_ok hpath with ⟨name, hname, rfl⟩
  rcases archivedAt_eq_ok hother with ⟨last, hlast, heq⟩
  have hparent := congrArg parent heq
  have hstamped := congrArg name? heq
  rw [parent_withName, parent_withName] at hparent
  rw [name?_withName, name?_withName, Option.some.injEq] at hstamped
  rcases stampedName_injective hstamped with ⟨rfl, rfl⟩
  refine ⟨?_, rfl⟩
  calc
    path = path.withName name := (FileTree.withName_self hname).symm
    _ = other.withName name := by rw [withName, hparent, withName]
    _ = other := FileTree.withName_self hlast

/-- The name of an output has no underscore, and so is not that of an archive. -/
theorem archivedAt_ne_outputPath (path : Path) (now : Instant) (settings : Settings) (size : Int) :
    path.archivedAt now ≠ .ok (outputPath settings size) := by
  intro h
  rcases archivedAt_eq_ok h with ⟨name, -, heq⟩
  have hname := congrArg name? heq
  rw [outputPath, name?_child, name?_withName, Option.some.injEq] at hname
  have hmem := mem_stampedName name now
  rw [← hname] at hmem
  exact not_mem_outputName size hmem

end Path

theorem outputPath_injective (settings : Settings) : Function.Injective (outputPath settings) :=
  fun _ _ h => outputName_injective (Path.child_inj.1 h)

/--
No two files have one archive, and no archive is in the place of an output.  A path with a name has
an archive for every time, which is another path in the same directory.  The archive tells the path
and all fields of the time.  It is in no case the path of an output, and outputs in one directory
have different paths for different sizes.
-/
theorem archives_apart :
    (∀ (path : Path) (now : Instant), path.name? ≠ none → ∃ archive,
      path.archivedAt now = .ok archive ∧ archive ≠ path ∧ archive.parent = path.parent ∧
        (path.Normal → archive.Normal)) ∧
    (∀ (path other archive : Path) (now later : Instant), path.archivedAt now = .ok archive →
      other.archivedAt later = .ok archive → path = other ∧ now = later) ∧
    (∀ (path : Path) (now : Instant) (settings : Settings) (size : Int),
      path.archivedAt now ≠ .ok (outputPath settings size)) ∧
    ∀ (settings : Settings) (size other : Int),
      outputPath settings size = outputPath settings other → size = other := by
  refine ⟨?_, ?_, Path.archivedAt_ne_outputPath, ?_⟩
  · intro path now hne
    obtain ⟨name, hname⟩ := Option.ne_none_iff_exists'.1 hne
    exact ⟨_, Path.archivedAt_of_name hname now, Path.withName_stampedName_ne hname now,
      Path.parent_withName _ _, fun hnormal => hnormal.archive hname now⟩
  · intro path other archive now later hpath hother
    exact Path.archivedAt_injective hpath hother
  · exact fun settings size other h => outputPath_injective settings h

/-- The mark at the end of a name is not taken for that of an archive. -/
theorem archives_apart_marked :
    ∃ archive, (Path.parse "a").archivedAt midnight = .ok archive ∧ archive.Normal ∧
      (Path.parse "a.old").archivedAt midnight ≠ .ok archive := by
  obtain ⟨hexists, hunique, -⟩ := archives_apart
  rcases hexists (Path.parse "a") midnight (by decide) with ⟨archive, harchive, -, -, hnormal⟩
  refine ⟨archive, harchive, hnormal (Path.normal_parse "a"), fun hmarked => ?_⟩
  exact absurd (hunique _ _ archive _ _ hmarked harchive).1 (by decide)

end IconPress
