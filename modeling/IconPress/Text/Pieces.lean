/-!
# Cutting texts

Main definitions:

- `pieces`: what stands between the occurrences of a separator.
- `unifyNewlines`: one spelling for the end of a line.

Main results:

- `not_mem_of_mem_pieces`: no piece holds the separator.
- `intercalate_pieces`: the pieces put together again are the text.
- `cut_first_unique`, `cut_last_unique`: at the first and at the last separator there is one cut.
-/

namespace IconPress
namespace Text

/-- Put a character in front of the first piece. -/
def growFirst (c : Char) : List (List Char) → List (List Char)
  | [] => [[c]]
  | piece :: rest => (c :: piece) :: rest

/--
What stands between the occurrences of `separator`, in order: always one piece more than there
are separators.
-/
def pieces (separator : Char) (text : List Char) : List (List Char) :=
  text.foldr (fun c done => if c = separator then [] :: done else growFirst c done) [[]]

@[simp]
theorem pieces_nil (separator : Char) : pieces separator [] = [[]] :=
  rfl

@[simp]
theorem pieces_cons_self (separator : Char) (text : List Char) :
    pieces separator (separator :: text) = [] :: pieces separator text := by
  simp [pieces]

theorem pieces_cons_of_ne {separator c : Char} (h : c ≠ separator) (text : List Char) :
    pieces separator (c :: text) = growFirst c (pieces separator text) := by
  simp [pieces, h]

@[simp]
theorem growFirst_ne_nil (c : Char) (parts : List (List Char)) : growFirst c parts ≠ [] := by
  cases parts <;> simp [growFirst]

/-- Even the empty text has a piece. -/
theorem pieces_ne_nil (separator : Char) (text : List Char) : pieces separator text ≠ [] := by
  cases text with
  | nil => simp
  | cons c rest =>
      by_cases h : c = separator
      · simp [h]
      · simp [pieces_cons_of_ne h]

/-- No piece holds the separator. -/
theorem not_mem_of_mem_pieces {separator : Char} {text piece : List Char}
    (h : piece ∈ pieces separator text) : separator ∉ piece := by
  induction text generalizing piece with
  | nil =>
      simp only [pieces_nil, List.mem_singleton] at h
      simp [h]
  | cons c rest ih =>
      by_cases hc : c = separator
      · subst hc
        rw [pieces_cons_self, List.mem_cons] at h
        rcases h with rfl | h
        · simp
        · exact ih h
      · rw [pieces_cons_of_ne hc] at h
        cases hp : pieces separator rest with
        | nil => exact absurd hp (pieces_ne_nil separator rest)
        | cons first others =>
            rw [hp] at h ih
            rcases List.mem_cons.1 h with rfl | h
            · have hfirst := ih List.mem_cons_self
              simp [hfirst, Ne.symm hc]
            · exact ih (List.mem_cons_of_mem first h)

/-- The pieces put together again are the text. -/
theorem intercalate_pieces (separator : Char) (text : List Char) :
    [separator].intercalate (pieces separator text) = text := by
  induction text with
  | nil => rfl
  | cons c rest ih =>
      cases hp : pieces separator rest with
      | nil => exact absurd hp (pieces_ne_nil separator rest)
      | cons first others =>
          rw [hp] at ih
          by_cases hc : c = separator
          · subst hc
            rw [pieces_cons_self, hp]
            simp only [List.intercalate, List.intersperse_cons_cons, List.flatten_cons,
              List.nil_append, List.singleton_append] at ih ⊢
            rw [ih]
          · rw [pieces_cons_of_ne hc, hp]
            cases others with
            | nil => simpa [growFirst, List.intercalate] using ih
            | cons second more =>
                simp only [growFirst, List.intercalate, List.intersperse_cons_cons,
                  List.flatten_cons, List.cons_append] at ih ⊢
                rw [ih]

/-- What is put together from parts consists of them and of what stands between them. -/
theorem mem_of_mem_intercalate {α : Type} {separator : List α} {parts : List (List α)} {a : α}
    (h : a ∈ separator.intercalate parts) : a ∈ separator ∨ ∃ part ∈ parts, a ∈ part := by
  induction parts with
  | nil => simp [List.intercalate] at h
  | cons part rest ih =>
      cases rest with
      | nil => exact .inr ⟨part, List.mem_cons_self, by simpa [List.intercalate] using h⟩
      | cons next others =>
          simp only [List.intercalate, List.intersperse_cons_cons, List.flatten_cons,
            List.mem_append] at h ih
          rcases h with h | h | h
          · exact .inr ⟨part, List.mem_cons_self, h⟩
          · exact .inl h
          · rcases ih h with hseparator | ⟨other, hother, ha⟩
            · exact .inl hseparator
            · exact .inr ⟨other, List.mem_cons_of_mem part hother, ha⟩

/-- A character put in front reaches the first of some pieces only. -/
theorem growFirst_append {parts : List (List Char)} (c : Char) (h : parts ≠ [])
    (others : List (List Char)) : growFirst c (parts ++ others) = growFirst c parts ++ others := by
  cases parts with
  | nil => exact absurd rfl h
  | cons part rest => rfl

/-- A separator ends a piece, whatever stands before and after it. -/
theorem pieces_append_cons (separator : Char) (front back : List Char) :
    pieces separator (front ++ separator :: back) =
      pieces separator front ++ pieces separator back := by
  induction front with
  | nil => simp
  | cons c rest ih =>
      rw [List.cons_append]
      by_cases h : c = separator
      · subst h
        simp [ih]
      · rw [pieces_cons_of_ne h, pieces_cons_of_ne h, ih,
          growFirst_append c (pieces_ne_nil separator rest)]

/-- A text without the separator is its only piece. -/
theorem pieces_of_not_mem {separator : Char} {text : List Char} (h : separator ∉ text) :
    pieces separator text = [text] := by
  induction text with
  | nil => rfl
  | cons c rest ih =>
      rw [List.mem_cons, not_or] at h
      rw [pieces_cons_of_ne (Ne.symm h.1), ih h.2]
      rfl

/-- Parts without the separator are the pieces of what they are put together to. -/
theorem pieces_intercalate {separator : Char} {parts : List (List Char)} (hne : parts ≠ [])
    (h : ∀ part ∈ parts, separator ∉ part) :
    pieces separator ([separator].intercalate parts) = parts := by
  induction parts with
  | nil => exact absurd rfl hne
  | cons part rest ih =>
      have hpart := pieces_of_not_mem (h part List.mem_cons_self)
      cases rest with
      | nil => simpa [List.intercalate] using hpart
      | cons next others =>
          have hrest := ih (by simp) fun other hother => h other (List.mem_cons_of_mem part hother)
          simp only [List.intercalate, List.intersperse_cons_cons, List.flatten_cons,
            List.singleton_append] at hrest ⊢
          rw [pieces_append_cons, hpart, hrest]
          rfl

/-- The characters of a piece are characters of the text. -/
theorem mem_of_mem_pieces {separator c : Char} {text piece : List Char}
    (h : piece ∈ pieces separator text) (hc : c ∈ piece) : c ∈ text := by
  induction text generalizing piece with
  | nil =>
      rw [pieces_nil, List.mem_singleton] at h
      simp [h] at hc
  | cons d rest ih =>
      by_cases hd : d = separator
      · rw [hd, pieces_cons_self, List.mem_cons] at h
        rcases h with rfl | h
        · simp at hc
        · exact List.mem_cons_of_mem d (ih h hc)
      · rw [pieces_cons_of_ne hd] at h
        cases hp : pieces separator rest with
        | nil => exact absurd hp (pieces_ne_nil separator rest)
        | cons first others =>
            rw [hp] at h ih
            rcases List.mem_cons.1 h with rfl | h
            · rcases List.mem_cons.1 hc with rfl | hc
              · exact List.mem_cons_self
              · exact List.mem_cons_of_mem d (ih List.mem_cons_self hc)
            · exact List.mem_cons_of_mem d (ih (List.mem_cons_of_mem first h) hc)

/-- The lines of a text. -/
def lines (text : List Char) : List (List Char) :=
  pieces '\n' text

@[simp]
theorem lines_append_cons (front back : List Char) :
    lines (front ++ '\n' :: back) = lines front ++ lines back :=
  pieces_append_cons '\n' front back

theorem lines_of_not_mem {text : List Char} (h : '\n' ∉ text) : lines text = [text] :=
  pieces_of_not_mem h

/-- A character put behind a text held in reverse, a line feed after a carriage return merging. -/
def pushUnified (done : List Char × Bool) (c : Char) : List Char × Bool :=
  if c = '\r' then
    ('\n' :: done.1, true)
  else if c = '\n' && done.2 then
    (done.1, false)
  else
    (c :: done.1, false)

/--
The text with a line feed for every end of a line, whether that is written as a carriage return
and a line feed, as a carriage return alone or as a line feed.
-/
def unifyNewlines (text : List Char) : List Char :=
  (text.foldl pushUnified ([], false)).1.reverse

/-! ## One cut -/

section Cuts

variable {separator : Char} {text front back other tail : List Char}

/-- At its first separator, a text is cut in one way. -/
theorem cut_first_unique (hfront : separator ∉ front) (hother : separator ∉ other)
    (h : front ++ separator :: back = other ++ separator :: tail) :
    front = other ∧ back = tail := by
  rcases List.append_eq_append_iff.1 h with ⟨between, rfl, hrest⟩ | ⟨between, rfl, hrest⟩
  · cases between with
    | nil => exact ⟨(List.append_nil _).symm, (List.cons.inj hrest).2⟩
    | cons first between =>
        rcases List.cons.inj hrest with ⟨rfl, -⟩
        exact absurd (List.mem_append_right _ List.mem_cons_self) hother
  · cases between with
    | nil => exact ⟨List.append_nil _, (List.cons.inj hrest).2.symm⟩
    | cons first between =>
        rcases List.cons.inj hrest with ⟨rfl, -⟩
        exact absurd (List.mem_append_right _ List.mem_cons_self) hfront

/-- At its last separator, a text is cut in one way. -/
theorem cut_last_unique (hback : separator ∉ back) (htail : separator ∉ tail)
    (h : front ++ separator :: back = other ++ separator :: tail) :
    front = other ∧ back = tail := by
  have hreverse := congrArg List.reverse h
  simp only [List.reverse_append, List.reverse_cons, List.append_assoc, List.singleton_append]
    at hreverse
  rcases cut_first_unique (by simpa using hback) (by simpa using htail) hreverse with
    ⟨hafter, hbefore⟩
  exact ⟨List.reverse_inj.1 hbefore, List.reverse_inj.1 hafter⟩

/-- A text with a separator has a last one. -/
theorem exists_cut_last (h : separator ∈ text) :
    ∃ front back, text = front ++ separator :: back ∧ separator ∉ back := by
  rcases List.eq_append_cons_of_mem (List.mem_reverse.2 h) with
    ⟨after, before, hreverse, hafter⟩
  refine ⟨before.reverse, after.reverse, ?_, fun hmem => hafter (List.mem_reverse.1 hmem)⟩
  rw [← List.reverse_reverse text, hreverse]
  simp

end Cuts

/-! ## The characters of a fixed text -/

/-- What holds of all characters of a fixed text can be found out by looking at each of them. -/
theorem forall_mem_of_all {p : Char → Prop} [DecidablePred p] {text : List Char}
    (h : text.all (fun c => decide (p c)) = true) : ∀ c ∈ text, p c :=
  fun c hc => of_decide_eq_true (List.all_eq_true.1 h c hc)

end Text
end IconPress
