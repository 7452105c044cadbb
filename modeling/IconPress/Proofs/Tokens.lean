import IconPress.Icon.Glyph

/-!
# The tokens of a block

A block loses all its blanks and is then parted at its commas, of which the last one may follow the
last token.  Nothing else is lost and nothing is made up: the tokens put together again are the
block without its blanks and without that comma, and tokens that are written down in whatever
layout are found again.

Main definitions:

- `IsToken`: a text that can stand between commas.
- `Spaced`: a text, and the same text with blanks put in anywhere.

Main results:

- `splitTokens_cases`: how the end of a block decides what it is parted into.
- `splitTokens_eq_iff_spaced`: the bodies in which tokens are found.
- `splitTokens_faithful`: tokens and bodies determine one another up to blanks and one comma.
-/

namespace IconPress

open Text (isBlank squeeze pieces)

/-- A text without blanks and commas, possibly an empty one. -/
def IsToken (token : List Char) : Prop :=
  ∀ c ∈ token, isBlank c = false ∧ c ≠ ','

/-! ## Layout -/

/-- A text, and the same text with blanks put in anywhere. -/
inductive Spaced : List Char → List Char → Prop where
  | nil : Spaced [] []
  | keep (c : Char) {text body : List Char} (h : Spaced text body) : Spaced (c :: text) (c :: body)
  | blank {c : Char} {text body : List Char} (hc : isBlank c = true) (h : Spaced text body) :
      Spaced text (c :: body)

section Layout

variable {text body : List Char}

/-- Blanks that are put in are lost again. -/
theorem Spaced.squeeze_eq (h : Spaced text body) : squeeze body = squeeze text := by
  induction h with
  | nil => rfl
  | keep c _ ih => simp only [squeeze, List.filter_cons] at ih ⊢; rw [ih]
  | blank hc _ ih => simpa [squeeze, hc] using ih

/-- A text is what is left of it with blanks put in. -/
theorem spaced_squeeze (body : List Char) : Spaced (squeeze body) body := by
  induction body with
  | nil => exact .nil
  | cons c rest ih =>
      by_cases hc : isBlank c = true
      · rw [squeeze, List.filter_cons_of_neg (by simp [hc])]
        exact .blank hc ih
      · rw [squeeze, List.filter_cons_of_pos (by simp [hc])]
        exact .keep c ih

theorem spaced_iff (htext : ∀ c ∈ text, isBlank c = false) :
    Spaced text body ↔ squeeze body = text := by
  constructor
  · intro h
    rw [h.squeeze_eq, Text.squeeze_eq_self htext]
  · rintro rfl
    exact spaced_squeeze body

/-- Nothing is left of blanks alone. -/
theorem squeeze_eq_nil_iff : squeeze body = [] ↔ ∀ c ∈ body, isBlank c = true := by
  simp [squeeze]

end Layout

/-! ## Ends of blocks -/

section Ends

variable {body front : List Char}

/-- The comma behind the last token does not count. -/
theorem splitTokens_of_comma (h : squeeze body = front ++ [',']) :
    splitTokens body = pieces ',' front := by
  have hpieces : pieces ',' (squeeze body) = pieces ',' front ++ [[]] := by
    rw [h, Text.pieces_append_cons, Text.pieces_nil]
  have hmore := List.length_pos_iff.2 (Text.pieces_ne_nil ',' front)
  have hsome : (squeeze body).isEmpty = false := by simp [h]
  simp [splitTokens, hsome, hpieces, hmore]

/-- Without a comma at the end, all pieces are tokens. -/
theorem splitTokens_of_getLast?_ne (hsome : squeeze body ≠ [])
    (hlast : (squeeze body).getLast? ≠ some ',') :
    splitTokens body = pieces ',' (squeeze body) := by
  have hempty : (squeeze body).isEmpty = false := List.isEmpty_eq_false_iff.2 hsome
  have hkeep : ¬(1 < (pieces ',' (squeeze body)).length ∧
      (pieces ',' (squeeze body)).getLast? = some []) := by
    rintro ⟨hmore, hnone⟩
    by_cases hcomma : ',' ∈ squeeze body
    · -- What stands behind the last comma is the last piece, and it is not empty.
      rcases Text.exists_cut_last hcomma with ⟨front, back, hcut, hback⟩
      rw [hcut, Text.pieces_append_cons, Text.pieces_of_not_mem hback, List.getLast?_concat,
        Option.some.injEq] at hnone
      rw [hcut, hnone, List.getLast?_concat] at hlast
      exact hlast rfl
    · rw [Text.pieces_of_not_mem hcomma] at hmore
      exact absurd hmore (by simp)
  simp only [splitTokens, hempty, Bool.false_eq_true, if_false, Bool.and_eq_true,
    decide_eq_true_eq, hkeep]

/-- A block is blank, or has a comma at its end, which is left out, or is parted as it is. -/
theorem splitTokens_cases (body : List Char) :
    squeeze body = [] ∧ splitTokens body = [] ∨
    (∃ front, squeeze body = front ++ [','] ∧ splitTokens body = pieces ',' front) ∨
    (squeeze body).getLast? ≠ some ',' ∧ splitTokens body = pieces ',' (squeeze body) := by
  by_cases hsome : squeeze body = []
  · exact .inl ⟨hsome, by simp [splitTokens, hsome]⟩
  · by_cases hlast : (squeeze body).getLast? = some ','
    · rcases List.getLast?_eq_some_iff.1 hlast with ⟨front, hfront⟩
      exact .inr (.inl ⟨front, hfront, splitTokens_of_comma hfront⟩)
    · exact .inr (.inr ⟨hlast, splitTokens_of_getLast?_ne hsome hlast⟩)

end Ends

/-! ## Tokens -/

section Tokens

variable {body : List Char} {tokens : List (List Char)}

/-- The pieces of a part of what is left of a block are tokens. -/
theorem isToken_of_mem_pieces {text token : List Char} (htext : text ⊆ squeeze body)
    (h : token ∈ pieces ',' text) : IsToken token := by
  intro c hc
  refine ⟨(Text.mem_squeeze.1 (htext (Text.mem_of_mem_pieces h hc))).2, ?_⟩
  rintro rfl
  exact Text.not_mem_of_mem_pieces h hc

theorem isToken_of_mem_splitTokens {token : List Char} (h : token ∈ splitTokens body) :
    IsToken token := by
  rcases splitTokens_cases body with ⟨-, hnone⟩ | ⟨front, hfront, hsplit⟩ | ⟨-, hsplit⟩
  · simp [hnone] at h
  · exact isToken_of_mem_pieces (hfront ▸ List.subset_append_left front [',']) (hsplit ▸ h)
  · exact isToken_of_mem_pieces (List.Subset.refl _) (hsplit ▸ h)

/-- Put together again, the tokens are what is left of the block but for a comma at its end. -/
theorem intercalate_splitTokens (body : List Char) :
    [','].intercalate (splitTokens body) =
      if (squeeze body).getLast? = some ',' then (squeeze body).dropLast else squeeze body := by
  rcases splitTokens_cases body with ⟨hempty, hnone⟩ | ⟨front, hfront, hsplit⟩ | ⟨hlast, hsplit⟩
  · simp [hempty, hnone, List.intercalate]
  · rw [hsplit, Text.intercalate_pieces, if_pos (by simp [hfront]), hfront, List.dropLast_concat]
  · rw [hsplit, Text.intercalate_pieces, if_neg hlast]

/-- Only a blank block has no tokens. -/
theorem splitTokens_eq_nil_iff : splitTokens body = [] ↔ ∀ c ∈ body, isBlank c = true := by
  rw [← squeeze_eq_nil_iff]
  constructor
  · intro h
    rcases splitTokens_cases body with ⟨hempty, -⟩ | ⟨front, -, hsplit⟩ | ⟨-, hsplit⟩
    · exact hempty
    · exact absurd (hsplit.symm.trans h) (Text.pieces_ne_nil ',' front)
    · exact absurd (hsplit.symm.trans h) (Text.pieces_ne_nil ',' _)
  · intro h
    simp [splitTokens, h]

/-- Tokens with commas between them hold no blanks. -/
theorem not_blank_of_mem_intercalate (htokens : ∀ token ∈ tokens, IsToken token) :
    ∀ c ∈ [','].intercalate tokens, isBlank c = false := by
  intro c hc
  rcases Text.mem_of_mem_intercalate hc with hcomma | ⟨token, htoken, hc⟩
  · rw [List.mem_singleton.1 hcomma]
    decide
  · exact (htokens token htoken c hc).1

/-- Tokens are found in the bodies in which they are written, with a comma at the end or without. -/
theorem splitTokens_eq_iff_squeeze (hsome : tokens ≠ [])
    (htokens : ∀ token ∈ tokens, IsToken token) (hlast : tokens.getLast? ≠ some []) :
    splitTokens body = tokens ↔
      squeeze body = [','].intercalate tokens ∨
        squeeze body = [','].intercalate tokens ++ [','] := by
  have hcommas : ∀ token ∈ tokens, ',' ∉ token := fun token htoken hcomma =>
    (htokens token htoken ',' hcomma).2 rfl
  constructor
  · rintro rfl
    rcases splitTokens_cases body with ⟨-, hnone⟩ | ⟨front, hfront, hsplit⟩ | ⟨-, hsplit⟩
    · exact absurd hnone hsome
    · exact .inr (by rw [hsplit, Text.intercalate_pieces, hfront])
    · exact .inl (by rw [hsplit, Text.intercalate_pieces])
  · rintro (hbody | hbody)
    · exact splitTokens_of_squeeze_eq_intercalate hbody hsome hcommas hlast
    · rw [splitTokens_of_comma hbody, Text.pieces_intercalate hsome hcommas]

end Tokens

/--
The tokens of a block hold neither blanks nor commas.  With commas between them they are the block
without its blanks, but for a comma at its end.  Only a blank block has none.  And tokens of which
the last one is not empty are found in a body exactly when it is these tokens with commas between
them, perhaps with one comma behind, and with blanks put in anywhere.
-/
theorem splitTokens_faithful (body : List Char) :
    (∀ token ∈ splitTokens body, IsToken token) ∧
    [','].intercalate (splitTokens body) =
      (if (squeeze body).getLast? = some ',' then (squeeze body).dropLast else squeeze body) ∧
    (splitTokens body = [] ↔ ∀ c ∈ body, isBlank c = true) ∧
    ∀ tokens, tokens ≠ [] → (∀ token ∈ tokens, IsToken token) → tokens.getLast? ≠ some [] →
      (splitTokens body = tokens ↔ Spaced ([','].intercalate tokens) body ∨
        Spaced ([','].intercalate tokens ++ [',']) body) := by
  refine ⟨fun token => isToken_of_mem_splitTokens, intercalate_splitTokens body,
    splitTokens_eq_nil_iff, ?_⟩
  intro tokens hsome htokens hlast
  have hplain := not_blank_of_mem_intercalate htokens
  have hcomma : ∀ c ∈ [','].intercalate tokens ++ [','], isBlank c = false := by
    intro c hc
    rcases List.mem_append.1 hc with hc | hc
    · exact hplain c hc
    · rw [List.mem_singleton.1 hc]
      decide
  rw [spaced_iff hplain, spaced_iff hcomma, splitTokens_eq_iff_squeeze hsome htokens hlast]

/-- An empty token in the middle, blanks inside a token and a comma at the end. -/
theorem splitTokens_faithful_looseLayout :
    splitTokens " 0x f,\t,\n0x0 , ".toList = ["0xf".toList, [], "0x0".toList] := by
  have hcompact : squeeze " 0x f,\t,\n0x0 , ".toList =
      [','].intercalate ["0xf".toList, [], "0x0".toList] ++ [','] := by decide
  refine ((splitTokens_faithful _).2.2.2 _ (by decide) ?_ (by decide)).2 (.inr ?_)
  · have htokens : ∀ token ∈ ["0xf".toList, [], "0x0".toList],
        token.all (fun c => decide (isBlank c = false ∧ c ≠ ',')) = true := by decide
    exact fun token htoken => Text.forall_mem_of_all (htokens token htoken)
  · exact hcompact ▸ spaced_squeeze _

end IconPress
