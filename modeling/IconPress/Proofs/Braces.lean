import IconPress.Icon.Block

/-!
# The braces of a text

This module describes the innermost blocks of a text by offsets alone, without a pass over the
text, and proves that the scanner finds exactly what the description says.

Main definitions:

- `Balanced`: every closing brace has its opening one and the other way round.
- `FirstStray`: the first closing brace without its opening one.
- `IsInnermost` and `InnermostPairs`: the pairs of braces that enclose no further brace.

Main results:

- `Scanner.Reached.step` and `Scanner.Reached.run`: what the scanner knows after some characters.
- `innermostBlocks_cases`: how the scanner ends on every text.
-/

namespace IconPress

/-! ## Offsets and positions -/

/-- The offset of the last line feed before an offset, and `-1` if there is none. -/
def lastLineFeed (text : List Char) : Nat → Int
  | 0 => -1
  | offset + 1 => if text[offset]? = some '\n' then offset else lastLineFeed text offset

/-- The line of an offset: one more than the line feeds before it. -/
def lineAt (text : List Char) (offset : Nat) : Nat :=
  1 + (text.take offset).count '\n'

/-- The column of an offset: its distance from the line feed before it. -/
def columnAt (text : List Char) (offset : Nat) : Nat :=
  (offset - lastLineFeed text offset).toNat

/-- The position of an offset. -/
def Position.ofOffset (text : List Char) (offset : Nat) : Position :=
  ⟨lineAt text offset, columnAt text offset⟩

theorem lastLineFeed_lt (text : List Char) (offset : Nat) : lastLineFeed text offset < offset := by
  induction offset with
  | zero => simp [lastLineFeed]
  | succ offset ih =>
      simp only [lastLineFeed]
      split <;> omega

@[simp]
theorem Position.ofOffset_zero (text : List Char) : Position.ofOffset text 0 = .start := by
  simp [Position.ofOffset, Position.start, lineAt, columnAt, lastLineFeed]

/-- Positions move on as the scanner moves them. -/
theorem Position.ofOffset_succ {text : List Char} {offset : Nat} {c : Char}
    (h : text[offset]? = some c) :
    Position.ofOffset text (offset + 1) = (Position.ofOffset text offset).after c := by
  have hbefore := lastLineFeed_lt text offset
  by_cases hc : c = '\n'
  · subst hc
    simp [Position.ofOffset, Position.after, lineAt, columnAt, lastLineFeed, List.take_add_one, h,
      Nat.add_assoc]
  · have hcolumn : ((offset : Int) + 1 - lastLineFeed text offset).toNat =
        ((offset : Int) - lastLineFeed text offset).toNat + 1 := by omega
    simp [Position.ofOffset, Position.after, lineAt, columnAt, lastLineFeed, List.take_add_one, h,
      hc, hcolumn]

/-! ## Balance -/

/-- Every closing brace has its opening one and the other way round. -/
structure Balanced (text : List Char) : Prop where
  covered : ∀ front, front <+: text → front.count '}' ≤ front.count '{'
  even : text.count '{' = text.count '}'

/-- The offset of the first closing brace that has no opening one. -/
structure FirstStray (text : List Char) (offset : Nat) : Prop where
  closing : text[offset]? = some '}'
  exceeds : (text.take (offset + 1)).count '{' < (text.take (offset + 1)).count '}'
  first : ∀ front, front <+: text.take offset → front.count '}' ≤ front.count '{'

/-! ## Innermost pairs -/

/-- Whether a character is a brace. -/
def isBrace (c : Char) : Bool :=
  c = '{' || c = '}'

/-- No brace stands strictly between two offsets. -/
def NoBraceBetween (text : List Char) (i j : Nat) : Prop :=
  ∀ k c, i < k → k < j → text[k]? = some c → isBrace c = false

/-- The braces at two offsets enclose no further brace. -/
structure IsInnermost (text : List Char) (i j : Nat) : Prop where
  ordered : i < j
  opening : text[i]? = some '{'
  closing : text[j]? = some '}'
  between : NoBraceBetween text i j

/-- A list of all innermost pairs, from left to right. -/
structure InnermostPairs (text : List Char) (pairs : List (Nat × Nat)) : Prop where
  increasing : pairs.Pairwise fun left right => left.1 < right.1
  mem_iff : ∀ i j, (i, j) ∈ pairs ↔ IsInnermost text i j

/-- What stands strictly between two offsets. -/
def bodyBetween (text : List Char) (pair : Nat × Nat) : List Char :=
  (text.take pair.2).drop (pair.1 + 1)

/-- The block of a pair of braces. -/
def blockBetween (text : List Char) (pair : Nat × Nat) : Block :=
  ⟨String.ofList (bodyBetween text pair), .ofOffset text pair.1⟩

/-! ## What the scanner knows -/

/-- The brace before an offset is an opening one, at offset `i`. -/
structure Pending (text : List Char) (offset i : Nat) : Prop where
  before : i < offset
  opening : text[i]? = some '{'
  between : NoBraceBetween text i offset

namespace Scanner

/-- The state of the scanner when the characters before an offset are behind it. -/
structure Reached (text : List Char) (offset : Nat) (scanner : Scanner) : Prop where
  position_eq : scanner.position = .ofOffset text offset
  depth_eq : scanner.depth + (text.take offset).count '}' = (text.take offset).count '{'
  covered : ∀ front, front <+: text.take offset → front.count '}' ≤ front.count '{'
  opened_some : ∀ block, scanner.opened = some block → ∃ i, Pending text offset i ∧
    block = ⟨(bodyBetween text (i, offset)).reverse, .ofOffset text i⟩
  opened_none : scanner.opened = none → ∀ i, ¬Pending text offset i
  found_eq : ∃ pairs : List (Nat × Nat), scanner.found.reverse = pairs.map (blockBetween text) ∧
    pairs.Pairwise (fun left right => left.1 < right.1) ∧
    ∀ i j, (i, j) ∈ pairs ↔ j < offset ∧ IsInnermost text i j

end Scanner

section Step

variable {text : List Char} {offset : Nat}

theorem take_succ_eq {c : Char} (hc : text[offset]? = some c) :
    text.take (offset + 1) = text.take offset ++ [c] := by
  simp [List.take_add_one, hc]

/-- The pending brace is the last one, so there is at most one. -/
theorem Pending.unique {i j : Nat} (hi : Pending text offset i) (hj : Pending text offset j) :
    i = j := by
  rcases Nat.lt_trichotomy i j with hlt | heq | hgt
  · have := hi.between j '{' hlt hj.before hj.opening
    simp [isBrace] at this
  · exact heq
  · have := hj.between i '{' hgt hi.before hi.opening
    simp [isBrace] at this

/-- An opening brace is pending right after it. -/
theorem Pending.of_opening (hc : text[offset]? = some '{') : Pending text (offset + 1) offset where
  before := Nat.lt_succ_self offset
  opening := hc
  between := by
    intro k c hlow hhigh
    omega

/-- After a character other than a brace the same brace is pending as before it. -/
theorem pending_succ_iff {c : Char} (hc : text[offset]? = some c) (hplain : isBrace c = false)
    (i : Nat) : Pending text (offset + 1) i ↔ Pending text offset i := by
  constructor
  · intro h
    have hne : i ≠ offset := by
      rintro rfl
      have hopen := h.opening
      rw [hc, Option.some.injEq] at hopen
      simp [hopen, isBrace] at hplain
    have hbefore := h.before
    exact ⟨by omega, h.opening, fun k d hlow hhigh => h.between k d hlow (by omega)⟩
  · intro h
    refine ⟨Nat.lt_succ_of_lt h.before, h.opening, ?_⟩
    intro k d hlow hhigh hd
    rcases Nat.lt_succ_iff_lt_or_eq.1 hhigh with hlt | rfl
    · exact h.between k d hlow hlt hd
    · rw [hc, Option.some.injEq] at hd
      exact hd ▸ hplain

/-- No brace is pending after a closing one. -/
theorem not_pending_of_closing (hc : text[offset]? = some '}') (i : Nat) :
    ¬Pending text (offset + 1) i := by
  intro h
  rcases Nat.lt_succ_iff_lt_or_eq.1 h.before with hlt | rfl
  · have := h.between offset '}' hlt (Nat.lt_succ_self offset) hc
    simp [isBrace] at this
  · have hopen := h.opening
    rw [hc] at hopen
    simp at hopen

/-- A closing brace makes an innermost pair with the brace that is pending before it. -/
theorem isInnermost_iff_pending (hc : text[offset]? = some '}') (i : Nat) :
    IsInnermost text i offset ↔ Pending text offset i :=
  ⟨fun h => ⟨h.ordered, h.opening, h.between⟩, fun h => ⟨h.before, h.opening, hc, h.between⟩⟩

/-- A character that closes nothing ends no innermost pair. -/
theorem innermost_succ_iff {c : Char} (hc : text[offset]? = some c)
    (hnone : c = '}' → ∀ i, ¬Pending text offset i) (i j : Nat) :
    j < offset + 1 ∧ IsInnermost text i j ↔ j < offset ∧ IsInnermost text i j := by
  constructor
  · rintro ⟨hj, h⟩
    refine ⟨?_, h⟩
    rcases Nat.lt_succ_iff_lt_or_eq.1 hj with hlt | rfl
    · exact hlt
    · have hclose := h.closing
      rw [hc, Option.some.injEq] at hclose
      subst hclose
      exact absurd ((isInnermost_iff_pending hc i).1 h) (hnone rfl i)
  · rintro ⟨hj, h⟩
    exact ⟨Nat.lt_succ_of_lt hj, h⟩

/-- The opening brace of an earlier innermost pair stands before a pending brace. -/
theorem IsInnermost.lt_pending {i j p : Nat} (h : IsInnermost text i j) (hj : j < offset)
    (hp : Pending text offset p) : i < p := by
  rcases Nat.lt_trichotomy i p with hlt | rfl | hgt
  · exact hlt
  · have := hp.between j '}' h.ordered hj h.closing
    simp [isBrace] at this
  · have := hp.between i '{' hgt (Nat.lt_trans h.ordered hj) h.opening
    simp [isBrace] at this

/-- The body of the block under way grows by the character that is read. -/
theorem bodyBetween_succ {c : Char} {i : Nat} (hc : text[offset]? = some c) (hi : i < offset) :
    bodyBetween text (i, offset + 1) = bodyBetween text (i, offset) ++ [c] := by
  have hlength : offset < text.length := (List.getElem?_eq_some_iff.1 hc).1
  simp only [bodyBetween, take_succ_eq hc]
  rw [List.drop_append_of_le_length]
  simp only [List.length_take]
  omega

end Step

/-! ## One character -/

namespace Scanner

variable {text : List Char} {offset : Nat} {scanner : Scanner}

/-- Before the first character the scanner knows nothing. -/
theorem Reached.start (text : List Char) : Reached text 0 start where
  position_eq := (Position.ofOffset_zero text).symm
  depth_eq := by simp [Scanner.start]
  covered := by simp
  opened_some := by simp [Scanner.start]
  opened_none := fun _ i h => absurd h.before (Nat.not_lt_zero i)
  found_eq := ⟨[], by simp [Scanner.start]⟩

/-- A prefix that a character ends is covered if the depth does not fall below zero. -/
theorem covered_succ {c : Char} (hc : text[offset]? = some c)
    (hbefore : ∀ front, front <+: text.take offset → front.count '}' ≤ front.count '{')
    (hnow : (text.take (offset + 1)).count '}' ≤ (text.take (offset + 1)).count '{') :
    ∀ front, front <+: text.take (offset + 1) → front.count '}' ≤ front.count '{' := by
  intro front hfront
  rw [take_succ_eq hc] at hfront hnow
  rcases List.prefix_concat_iff.1 hfront with rfl | hshorter
  · exact hnow
  · exact hbefore front hshorter

theorem Reached.step_opening (h : Reached text offset scanner) (hc : text[offset]? = some '{') :
    ∃ next, scanner.step '{' = .ok next ∧ Reached text (offset + 1) next := by
  have hdepth := h.depth_eq
  refine ⟨⟨scanner.position.after '{', scanner.depth + 1, some ⟨[], scanner.position⟩,
    scanner.found⟩, by simp [step], ?_⟩
  constructor
  · simp [h.position_eq, Position.ofOffset_succ hc]
  · simp only [take_succ_eq hc, List.count_append]
    simp
    omega
  · apply covered_succ hc h.covered
    simp only [take_succ_eq hc, List.count_append]
    simp
    omega
  · intro block hblock
    refine ⟨offset, .of_opening hc, ?_⟩
    cases hblock
    simp [bodyBetween, h.position_eq]
  · simp
  · rcases h.found_eq with ⟨pairs, hfound, hsorted, hmem⟩
    refine ⟨pairs, hfound, hsorted, ?_⟩
    intro i j
    rw [hmem, innermost_succ_iff hc (by simp)]

theorem Reached.step_plain {c : Char} (h : Reached text offset scanner)
    (hc : text[offset]? = some c) (hplain : isBrace c = false) :
    ∃ next, scanner.step c = .ok next ∧ Reached text (offset + 1) next := by
  have hopen : c ≠ '{' := by
    rintro rfl
    simp [isBrace] at hplain
  have hclose : c ≠ '}' := by
    rintro rfl
    simp [isBrace] at hplain
  have hdepth := h.depth_eq
  refine ⟨⟨scanner.position.after c, scanner.depth,
    scanner.opened.map fun block => { block with seen := c :: block.seen }, scanner.found⟩,
    by simp [step, hopen, hclose], ?_⟩
  constructor
  · simp [h.position_eq, Position.ofOffset_succ hc]
  · simpa [take_succ_eq hc, List.count_append, hopen, hclose] using hdepth
  · apply covered_succ hc h.covered
    simp [take_succ_eq hc, List.count_append, hopen, hclose]
    omega
  · intro block hblock
    rcases Option.map_eq_some_iff.1 hblock with ⟨old, hold, rfl⟩
    rcases h.opened_some old hold with ⟨i, hpending, rfl⟩
    refine ⟨i, (pending_succ_iff hc hplain i).2 hpending, ?_⟩
    simp [bodyBetween_succ hc hpending.before]
  · intro hnone i hpending
    exact h.opened_none (by simpa using hnone) i ((pending_succ_iff hc hplain i).1 hpending)
  · rcases h.found_eq with ⟨pairs, hfound, hsorted, hmem⟩
    refine ⟨pairs, hfound, hsorted, ?_⟩
    intro i j
    rw [hmem, innermost_succ_iff hc fun h => absurd h hclose]

/-- The pairs found before a closing brace, and the one that it ends. -/
theorem Reached.found_closing (h : Reached text offset scanner) (hc : text[offset]? = some '}')
    {i : Nat} (hpending : Pending text offset i) :
    ∃ pairs : List (Nat × Nat),
      (blockBetween text (i, offset) :: scanner.found).reverse =
        pairs.map (blockBetween text) ∧
      pairs.Pairwise (fun left right => left.1 < right.1) ∧
      ∀ a b, (a, b) ∈ pairs ↔ b < offset + 1 ∧ IsInnermost text a b := by
  rcases h.found_eq with ⟨pairs, hfound, hsorted, hmem⟩
  refine ⟨pairs ++ [(i, offset)], by simp [hfound], ?_, ?_⟩
  · rw [List.pairwise_append]
    refine ⟨hsorted, List.pairwise_singleton _ _, ?_⟩
    rintro ⟨a, b⟩ hab last hlast
    rw [List.mem_singleton] at hlast
    subst hlast
    rcases (hmem a b).1 hab with ⟨hb, hinner⟩
    exact hinner.lt_pending hb hpending
  · intro a b
    rw [List.mem_append, List.mem_singleton, hmem, Prod.mk.injEq]
    constructor
    · rintro (⟨hb, hinner⟩ | ⟨rfl, rfl⟩)
      · exact ⟨Nat.lt_succ_of_lt hb, hinner⟩
      · exact ⟨Nat.lt_succ_self b, (isInnermost_iff_pending hc a).2 hpending⟩
    · rintro ⟨hb, hinner⟩
      rcases Nat.lt_succ_iff_lt_or_eq.1 hb with hlt | rfl
      · exact .inl ⟨hlt, hinner⟩
      · exact .inr ⟨((isInnermost_iff_pending hc a).1 hinner).unique hpending, rfl⟩

theorem Reached.step_closing (h : Reached text offset scanner) (hc : text[offset]? = some '}')
    (hdepth : scanner.depth ≠ 0) :
    ∃ next, scanner.step '}' = .ok next ∧ Reached text (offset + 1) next := by
  rcases Nat.exists_eq_succ_of_ne_zero hdepth with ⟨depth, hsucc⟩
  have hcount := h.depth_eq
  have hposition := Position.ofOffset_succ hc
  have hcovered : (text.take (offset + 1)).count '}' ≤ (text.take (offset + 1)).count '{' := by
    simp [take_succ_eq hc, List.count_append]
    omega
  have hdepth' : depth + (text.take (offset + 1)).count '}' =
      (text.take (offset + 1)).count '{' := by
    simp [take_succ_eq hc, List.count_append]
    omega
  cases hopened : scanner.opened with
  | none =>
      refine ⟨⟨scanner.position.after '}', depth, none, scanner.found⟩, ?_, ?_⟩
      · simp [step, hsucc, hopened]
      · rcases h.found_eq with ⟨pairs, hfound, hsorted, hmem⟩
        refine ⟨by simp [h.position_eq, hposition], hdepth', covered_succ hc h.covered hcovered,
          by simp, fun _ i => not_pending_of_closing hc i, pairs, hfound, hsorted, ?_⟩
        intro i j
        rw [hmem, innermost_succ_iff hc fun _ => h.opened_none hopened]
  | some block =>
      rcases h.opened_some block hopened with ⟨i, hpending, rfl⟩
      refine ⟨⟨scanner.position.after '}', depth, none,
        blockBetween text (i, offset) :: scanner.found⟩, ?_, ?_⟩
      · simp [step, hsucc, hopened, OpenBlock.close, blockBetween]
      · exact ⟨by simp [h.position_eq, hposition], hdepth', covered_succ hc h.covered hcovered,
          by simp, fun _ i => not_pending_of_closing hc i, h.found_closing hc hpending⟩

/-- At depth zero a closing brace is the first one without its opening one. -/
theorem Reached.firstStray (h : Reached text offset scanner) (hc : text[offset]? = some '}')
    (hdepth : scanner.depth = 0) : FirstStray text offset where
  closing := hc
  exceeds := by
    have hcount := h.depth_eq
    simp [take_succ_eq hc, List.count_append]
    omega
  first := h.covered

/-- One more character is taken, or it is the first stray brace. -/
theorem Reached.step {c : Char} (h : Reached text offset scanner) (hc : text[offset]? = some c) :
    (∃ next, scanner.step c = .ok next ∧ Reached text (offset + 1) next) ∨
      (FirstStray text offset ∧
        scanner.step c = .error (.unbalanced (lineAt text offset) (columnAt text offset))) := by
  by_cases hopen : c = '{'
  · subst hopen
    exact .inl (h.step_opening hc)
  by_cases hclose : c = '}'
  · subst hclose
    by_cases hdepth : scanner.depth = 0
    · refine .inr ⟨h.firstStray hc hdepth, ?_⟩
      simp [Scanner.step, hdepth, h.position_eq, Position.ofOffset]
    · exact .inl (h.step_closing hc hdepth)
  · exact .inl (h.step_plain hc (by simp [isBrace, hopen, hclose]))

/-! ## All characters -/

/-- The scanner gets to the end of the text, or it stops at the first stray brace. -/
theorem Reached.run (h : Reached text offset scanner) (hoffset : offset ≤ text.length) :
    (∃ last, (text.drop offset).foldlM Scanner.step scanner = .ok last ∧
      Reached text text.length last) ∨
    (∃ stray, FirstStray text stray ∧ (text.drop offset).foldlM Scanner.step scanner =
      .error (.unbalanced (lineAt text stray) (columnAt text stray))) := by
  -- The induction is on the characters that are left; `Reached` carries all that is behind.
  induction hrest : text.drop offset generalizing offset scanner with
  | nil =>
      have hend : offset = text.length := Nat.le_antisymm hoffset (by simpa using hrest)
      exact .inl ⟨scanner, rfl, hend ▸ h⟩
  | cons c rest ih =>
      have hc : text[offset]? = some c := by
        rw [← Nat.add_zero offset, ← List.getElem?_drop, hrest]
        rfl
      have hnext : text.drop (offset + 1) = rest := by
        rw [← List.drop_drop, hrest]
        rfl
      have hlength : offset < text.length := (List.getElem?_eq_some_iff.1 hc).1
      rcases h.step hc with ⟨next, hstep, hreached⟩ | ⟨hstray, hstep⟩
      · rw [List.foldlM_cons, hstep]
        exact ih hreached hlength hnext
      · rw [List.foldlM_cons, hstep]
        exact .inr ⟨offset, hstray, rfl⟩

end Scanner

/-- Behind the last character the found blocks are those of all innermost pairs. -/
theorem Scanner.Reached.innermostPairs {text : List Char} {scanner : Scanner}
    (h : Scanner.Reached text text.length scanner) :
    ∃ pairs, InnermostPairs text pairs ∧
      scanner.found.reverse = pairs.map (blockBetween text) := by
  rcases h.found_eq with ⟨pairs, hfound, hsorted, hmem⟩
  refine ⟨pairs, ⟨hsorted, ?_⟩, hfound⟩
  intro i j
  rw [hmem]
  constructor
  · exact fun hinner => hinner.2
  · exact fun hinner => ⟨(List.getElem?_eq_some_iff.1 hinner.closing).1, hinner⟩

/-- How the pass over a text ends: with all blocks, at a stray brace, or with a brace open. -/
theorem innermostBlocks_cases (text : String) :
    (Balanced text.toList ∧ ∃ pairs, InnermostPairs text.toList pairs ∧
      innermostBlocks text = .ok (pairs.map (blockBetween text.toList))) ∨
    (∃ stray, FirstStray text.toList stray ∧ innermostBlocks text =
      .error (.unbalanced (lineAt text.toList stray) (columnAt text.toList stray))) ∨
    ((∀ front, front <+: text.toList → front.count '}' ≤ front.count '{') ∧
      text.toList.count '{' ≠ text.toList.count '}' ∧
      innermostBlocks text = .error .unterminated) := by
  have hrun := (Scanner.Reached.start text.toList).run (Nat.zero_le _)
  rw [List.drop_zero] at hrun
  rcases hrun with ⟨last, hlast, hreached⟩ | ⟨stray, hstray, herror⟩
  · have hcovered := hreached.covered
    have hdepth := hreached.depth_eq
    rw [List.take_length] at hcovered hdepth
    by_cases hzero : last.depth = 0
    · rcases hreached.innermostPairs with ⟨pairs, hpairs, hfound⟩
      refine .inl ⟨⟨hcovered, by omega⟩, pairs, hpairs, ?_⟩
      rw [← hfound]
      simp [innermostBlocks, hlast, Scanner.finish, hzero, bind, Except.bind]
    · refine .inr (.inr ⟨hcovered, by omega, ?_⟩)
      simp [innermostBlocks, hlast, Scanner.finish, hzero, bind, Except.bind]
  · refine .inr (.inl ⟨stray, hstray, ?_⟩)
    simp [innermostBlocks, herror, bind, Except.bind]

/-- A stray brace ends a prefix that has more closing braces than opening ones. -/
theorem FirstStray.not_balanced {text : List Char} {stray : Nat} (h : FirstStray text stray) :
    ¬Balanced text := by
  intro hbalanced
  have := hbalanced.covered _ (List.take_prefix (stray + 1) text)
  have := h.exceeds
  omega

/-- There is one first stray brace. -/
theorem FirstStray.unique {text : List Char} {stray other : Nat} (h : FirstStray text stray)
    (hother : FirstStray text other) : stray = other := by
  have hlater : ∀ {a b : Nat}, FirstStray text a → FirstStray text b → b ≤ a := by
    intro a b ha hb
    refine Nat.le_of_not_lt fun hlt => ?_
    have hfront : text.take (a + 1) <+: text.take b := List.take_prefix_take_left hlt
    exact Nat.not_lt_of_le (hb.first _ hfront) ha.exceeds
  exact Nat.le_antisymm (hlater hother h) (hlater h hother)

/-- A stray brace is reported by its position. -/
theorem innermostBlocks_of_stray {text : String} {stray : Nat} (h : FirstStray text.toList stray) :
    innermostBlocks text =
      .error (.unbalanced (lineAt text.toList stray) (columnAt text.toList stray)) := by
  rcases innermostBlocks_cases text with ⟨hbalanced, -⟩ | ⟨other, hother, herror⟩ | ⟨hcovered, -⟩
  · exact absurd hbalanced h.not_balanced
  · rw [herror, h.unique hother]
  · exact absurd h.exceeds (Nat.not_lt_of_le (hcovered _ (List.take_prefix _ _)))

/-- Without stray braces, an open block is reported. -/
theorem innermostBlocks_of_open {text : String}
    (hcovered : ∀ front, front <+: text.toList → front.count '}' ≤ front.count '{')
    (hopen : text.toList.count '{' ≠ text.toList.count '}') :
    innermostBlocks text = .error .unterminated := by
  rcases innermostBlocks_cases text with ⟨hbalanced, -⟩ | ⟨stray, hstray, -⟩ | ⟨-, -, herror⟩
  · exact absurd hbalanced.even hopen
  · exact absurd hstray.exceeds (Nat.not_lt_of_le (hcovered _ (List.take_prefix _ _)))
  · exact herror

end IconPress
