import IconPress.Icon.Packing
import IconPress.Proofs.Outcomes

/-!
# The digits of packed bytes

A byte literal holds a chunk of digits between its mark and the zeros that fill it up.  The chunks
of a packed picture, one after another, are the digits of the picture.

Main definitions:

- `IsPackable`: a size at which rows can be cut into bytes.

Main results:

- `packRow?_eq_some`: the chunks of a row.
- `packRows_eq_ok`: the chunks of a picture.
- `packRows_of_square`: whether a square picture can be packed depends on its size only.
-/

namespace IconPress

/-- Pieces that all fit into a list have the full width. -/
theorem length_of_mem_slices {α : Type} {width count : Nat} {elements piece : List α}
    (hfit : count * width ≤ elements.length) (hpiece : piece ∈ slices width count elements) :
    piece.length = width := by
  induction count generalizing elements with
  | zero => simp [slices] at hpiece
  | succ count ih =>
      rw [Nat.succ_mul] at hfit
      rcases List.mem_cons.1 hpiece with rfl | hrest
      · rw [List.length_take]
        omega
      · apply ih _ hrest
        rw [List.length_drop]
        omega

/-- Rows of one width hold so many elements each. -/
theorem length_flatten_of_width {α : Type} {width : Nat} {rows : List (List α)}
    (hwidth : ∀ row ∈ rows, row.length = width) :
    rows.flatten.length = rows.length * width := by
  have hlengths : rows.map List.length = List.replicate rows.length width := by
    rw [List.eq_replicate_iff]
    refine ⟨by simp, fun n hn => ?_⟩
    rcases List.mem_map.1 hn with ⟨row, hrow, rfl⟩
    exact hwidth row hrow
  rw [List.length_flatten, hlengths]
  simp

/-- The place of an element among rows of one width that stand one after another. -/
theorem getElem?_flatten_of_width {α : Type} {width i j : Nat} {rows : List (List α)}
    (hwidth : ∀ row ∈ rows, row.length = width) (hj : j < width) :
    rows.flatten[i * width + j]? = rows[i]?.bind (·[j]?) := by
  induction rows generalizing i with
  | nil => simp
  | cons row rest ih =>
      have hrow : row.length = width := hwidth row List.mem_cons_self
      have hrest := fun other hother => hwidth other (List.mem_cons_of_mem row hother)
      rw [List.flatten_cons]
      cases i with
      | zero =>
          rw [Nat.zero_mul, Nat.zero_add, List.getElem?_append_left (by omega)]
          rfl
      | succ i =>
          have hskip : (i + 1) * width + j = row.length + (i * width + j) := by
            rw [Nat.succ_mul, hrow]
            omega
          rw [hskip, List.getElem?_append_right (Nat.le_add_right _ _), Nat.add_sub_cancel_left,
            ih hrest, List.getElem?_cons_succ]

/-- Rows of one width are cut apart again. -/
theorem slices_flatten {α : Type} {width : Nat} {rows : List (List α)}
    (hwidth : ∀ row ∈ rows, row.length = width) :
    slices width rows.length rows.flatten = rows := by
  induction rows with
  | nil => rfl
  | cons row rest ih =>
      have hrow : row.length = width := hwidth row List.mem_cons_self
      have hrest := ih fun other hother => hwidth other (List.mem_cons_of_mem row hother)
      rw [List.length_cons, List.flatten_cons, slices, List.take_left' hrow, List.drop_left' hrow,
        hrest]

/-- The characters of a byte. -/
theorem toList_byteLiteral {size : Int} (hsize : 0 ≤ size) (chunk : List Char) :
    (byteLiteral (Layout.ofSize size).padding chunk).toList =
      "0b".toList ++ chunk ++ List.replicate (8 - min 8 size.toNat) '0' := by
  have hpadding : (Layout.ofSize size).padding.toNat = 8 - min 8 size.toNat := by
    simp only [Layout.ofSize, byteBits]
    omega
  rw [byteLiteral, hpadding, String.toList_ofList]
  simp

/-- `Chunks layout digits bytes`: the bytes hold the digits, as many each as the layout says. -/
def Chunks (layout : Layout) (digits : List Char) (bytes : List String) : Prop :=
  ∃ chunks : List (List Char), bytes = chunks.map (byteLiteral layout.padding) ∧
    chunks.flatten = digits ∧ ∀ chunk ∈ chunks, chunk.length = layout.width.toNat

/-- The bytes of a row hold the digits of the row. -/
theorem packRow?_eq_some {layout : Layout} {bits : List Char} {bytes : List String}
    (h : packRow? layout bits = some bytes) : Chunks layout bits bytes := by
  unfold packRow? at h
  split at h
  · rename_i hdivisible
    simp only [isDivisible, Bool.and_eq_true, decide_eq_true_eq, beq_iff_eq] at hdivisible
    have hexact : bits.length / layout.width.toNat * layout.width.toNat = bits.length :=
      Nat.div_mul_cancel (Nat.dvd_of_mod_eq_zero hdivisible.2)
    refine ⟨_, (Option.some.inj h).symm, ?_, ?_⟩
    · rw [flatten_slices, hexact, List.take_length]
    · exact fun chunk hchunk => length_of_mem_slices (Nat.le_of_eq hexact) hchunk
  · simp at h

/-- The bytes of a numbered row hold the digits of the row. -/
theorem packNumberedRow_eq_ok {index size : Int} {row : List Char × Nat} {bytes : List String}
    (h : packNumberedRow index size row = .ok bytes) :
    (row.1.length : Int) = size ∧ Chunks (Layout.ofSize size) row.1 bytes := by
  unfold packNumberedRow at h
  split at h
  · simp at h
  · rename_i hlength
    cases hpacked : packRow? (Layout.ofSize size) row.1 with
    | none => simp [hpacked] at h
    | some packed =>
        simp only [hpacked, Except.ok.injEq] at h
        subst h
        exact ⟨not_not.1 hlength, packRow?_eq_some hpacked⟩

/-- Bytes of several rows, one after another, hold the digits of the rows in the same order. -/
theorem Chunks.flatten {layout : Layout} {rows : List (List Char)} {packed : List (List String)}
    (h : List.Forall₂ (Chunks layout) rows packed) :
    Chunks layout rows.flatten packed.flatten := by
  induction h with
  | nil => exact ⟨[], by simp⟩
  | cons hrow _ ih =>
      rcases hrow with ⟨chunks, rfl, rfl, hlengths⟩
      rcases ih with ⟨others, hothers, hdigits, hmore⟩
      refine ⟨chunks ++ others, by simp [hothers], by simp [hdigits], ?_⟩
      intro chunk hchunk
      rcases List.mem_append.1 hchunk with hchunk | hchunk
      · exact hlengths chunk hchunk
      · exact hmore chunk hchunk

/-- The bytes of a picture hold the digits of its rows, from left to right and row by row. -/
theorem packRows_eq_ok {glyph : Glyph} {size : Int} {bytes : List String}
    (h : packRows glyph size = .ok bytes) :
    Chunks (Layout.ofSize size) glyph.bits.flatten bytes := by
  rcases bind_eq_ok_iff.1 h with ⟨packed, hpacked, hbytes⟩
  cases hbytes
  apply Chunks.flatten
  have hrows := mapM_eq_ok_iff.1 hpacked
  rw [← List.zipIdx_map_fst 0 glyph.bits, List.forall₂_map_left_iff]
  exact hrows.imp fun row bytes hrow => (packNumberedRow_eq_ok hrow).2

/-- The digits of a picture are those of its pixels. -/
theorem Glyph.flatten_bits (glyph : Glyph) :
    glyph.bits.flatten = glyph.rows.flatten.map Glyph.bit := by
  simp [Glyph.bits, List.map_flatten]

/-! ## Square pictures -/

/-- A row of this size fits into one byte, or into several ones that it fills. -/
def IsPackable (size : Int) : Prop :=
  size ≤ 8 ∨ 8 ∣ size

/-- Every row of a picture is as long as a size asks for, and there are as many rows. -/
structure Glyph.IsSquare (glyph : Glyph) (size : Int) : Prop where
  height : (glyph.rows.length : Int) = size
  width : ∀ row ∈ glyph.rows, (row.length : Int) = size

/-- A row of the right length can be cut when its length is packable. -/
theorem isDivisible_iff {length : Nat} {size : Int} (hlength : (length : Int) = size)
    (hsize : 1 ≤ size) :
    isDivisible length (Layout.ofSize size).width = true ↔ IsPackable size := by
  subst hlength
  have hwidth : 0 < min byteBits (length : Int) := by
    unfold byteBits
    omega
  simp only [isDivisible, Layout.ofSize, hwidth, decide_true, Bool.true_and, beq_iff_eq,
    IsPackable]
  by_cases hsmall : length ≤ 8
  · have hmin : (min byteBits (length : Int)).toNat = length := by
      unfold byteBits
      omega
    rw [hmin, Nat.mod_self]
    omega
  · have hmin : (min byteBits (length : Int)).toNat = 8 := by
      unfold byteBits
      omega
    rw [hmin]
    omega

/-- A row of the right length is packed, or it is the reason why its picture is not. -/
theorem packNumberedRow_of_length {index size : Int} {row : List Char × Nat}
    (hlength : (row.1.length : Int) = size) (hsize : 1 ≤ size) :
    (IsPackable size → ∃ bytes, packNumberedRow index size row = .ok bytes) ∧
      (¬IsPackable size → packNumberedRow index size row = .error (.showing [index]
        (.rowSplit (some (index, row.2)) row.1.length (Layout.ofSize size).width))) := by
  have hdivisible := isDivisible_iff hlength hsize
  unfold packNumberedRow packRow?
  constructor
  · intro hpackable
    simp [hlength, hdivisible.2 hpackable]
  · intro hpackable
    have hundivisible := Bool.eq_false_iff.2 (mt hdivisible.1 hpackable)
    simp [hlength, hundivisible]

/-- A square picture is packed at a packable size, and otherwise its first row is not. -/
theorem packRows_of_square {glyph : Glyph} {size : Int} (hsquare : glyph.IsSquare size)
    (hsize : 1 ≤ size) :
    (IsPackable size → ∃ bytes, packRows glyph size = .ok bytes) ∧
      (¬IsPackable size → packRows glyph size = .error (.showing [glyph.index]
        (.rowSplit (some (glyph.index, 0)) size.toNat byteBits))) := by
  have hlength : ∀ row ∈ glyph.bits.zipIdx, (row.1.length : Int) = size := by
    rintro ⟨bits, number⟩ hrow
    rcases List.mem_map.1 (List.fst_mem_of_mem_zipIdx hrow) with ⟨row, hmem, rfl⟩
    rw [List.length_map]
    exact hsquare.width row hmem
  constructor
  · intro hpackable
    have hrows : ∀ row ∈ glyph.bits.zipIdx, ∃ bytes,
        packNumberedRow glyph.index size row = .ok bytes :=
      fun row hrow => (packNumberedRow_of_length (hlength row hrow) hsize).1 hpackable
    rcases exists_mapM_eq_ok hrows with ⟨packed, hpacked⟩
    exact ⟨packed.flatten, bind_eq_ok_iff.2 ⟨packed, hpacked, rfl⟩⟩
  · intro hpackable
    have hheight := hsquare.height
    obtain ⟨first, others, hrows⟩ : ∃ first others, glyph.rows = first :: others :=
      List.exists_cons_of_length_pos (by omega)
    have hfirst : glyph.bits.zipIdx[0]? = some (first.map Glyph.bit, 0) := by
      simp [Glyph.bits, hrows]
    have hcount := hlength _ (List.mem_of_getElem? hfirst)
    have hwidth : (Layout.ofSize size).width = byteBits := by
      simp only [IsPackable, not_or] at hpackable
      simp only [Layout.ofSize, byteBits]
      omega
    refine bind_eq_error_iff.2 (.inl (mapM_eq_error_iff.2 ⟨0, _, ⟨hfirst, by simp⟩, ?_⟩))
    rw [(packNumberedRow_of_length hcount hsize).2 hpackable, hwidth, ← hcount, Int.toNat_natCast]

end IconPress
