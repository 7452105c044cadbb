import IconPress.Proofs.Numerals
import IconPress.Proofs.Packing

/-!
# Unpacking bytes

The bytes of a picture hold its pixels and nothing else: put together and cut into rows again,
they give the picture back.  This module says which pictures can be packed, what their bytes are,
and which row is reported of the others.  The report names the icon and may name the size; where
such a number is too large to be written, this is reported and not the row.

Main definitions:

- `FitsRow` and `RowFault`: a row that can be packed, and what is wrong with one that cannot.
- `dataDigits` and `unpack`: the digits and the rows that bytes hold.

Main results:

- `exists_packRows_eq_ok_iff` and `packRows_eq_error_iff`: a picture is packed when all rows fit,
  and otherwise the first one that does not is reported.
- `packGlyph_eq_ok_iff` and `packGlyph_eq_error_iff`: how packing ends, with any number.
- `unpack_of_packRows`: unpacking gives the rows back.
- `packGlyph_lossless`: all of this about packing a picture of any shape at any size.
-/

namespace IconPress

open Text.Numeral (fits digitLimit)

/-! ## Rows that fit -/

/-- A row of so many pixels has the length that a size asks for, and it can be cut into bytes. -/
structure FitsRow (size : Int) (count : Nat) : Prop where
  length_eq : (count : Int) = size
  positive : 1 ≤ size
  packable : IsPackable size

/--
What is reported of a row that does not fit, and its class, if any: its length, and if that is
right, the size.  Without a class it is reported that a number of the message is too large.
-/
inductive RowFault (size icon : Int) (row count : Nat) : Option Failure.Kind → Failure → Prop where
  | length (hlength : (count : Int) ≠ size) (hicon : fits icon = true) (hsize : fits size = true) :
      RowFault size icon row count (some .rowPacking) (.rowLength icon row count size)
  | split (hlength : (count : Int) = size) (hbad : ¬(1 ≤ size ∧ IsPackable size))
      (hicon : fits icon = true) :
      RowFault size icon row count (some .rowPacking)
        (.rowSplit (some (icon, row)) count (Layout.ofSize size).width)
  | unwritable (hbad : ¬FitsRow size count)
      (hlarge : fits icon = false ∨ (count : Int) ≠ size ∧ fits size = false) :
      RowFault size icon row count none .numberTooLarge

/-- A message is about a row of an icon and names both. -/
def Failure.NamesRow (failure : Failure) (icon : Int) (row : Nat) : Prop :=
  ∃ rest : String, failure.message = s!"Icon #{icon} row {row} has {rest}" ∨
    failure.message = s!"Icon #{icon} row {row}: {rest}"

section Row

variable {size icon : Int} {row count : Nat} {kind : Option Failure.Kind} {failure : Failure}

theorem RowFault.not_fitsRow (h : RowFault size icon row count kind failure) :
    ¬FitsRow size count := by
  intro hfits
  cases h with
  | length hlength => exact hlength hfits.length_eq
  | split _ hbad => exact hbad ⟨hfits.positive, hfits.packable⟩
  | unwritable hbad => exact hbad hfits

theorem RowFault.kind?_eq (h : RowFault size icon row count kind failure) :
    failure.kind? = kind := by
  cases h <;> rfl

/-- No class is given exactly where a number of the message is too large. -/
theorem RowFault.kind_eq_none_iff (h : RowFault size icon row count kind failure) :
    kind = none ↔ fits icon = false ∨ (count : Int) ≠ size ∧ fits size = false := by
  cases h with
  | length _ hicon hsize => simp [hicon, hsize]
  | split hlength _ hicon => simp [hlength, hicon]
  | unwritable _ hlarge => simp [hlarge]

/-- A row is reported under the class of packing, unless a number is too large. -/
theorem RowFault.kind_eq_rowPacking (h : RowFault size icon row count kind failure)
    (hshown : failure ≠ .numberTooLarge) : kind = some .rowPacking := by
  cases h with
  | length => rfl
  | split => rfl
  | unwritable => exact absurd rfl hshown

/-- The message on a row says which row it is. -/
theorem RowFault.namesRow {reported : Failure.Kind}
    (h : RowFault size icon row count (some reported) failure) : failure.NamesRow icon row := by
  cases h with
  | length =>
      have hmessage : (Failure.rowLength icon row count size).message =
          s!"Icon #{icon} row {row} has {count} pixels, expected {size}" := rfl
      refine ⟨s!"{count} pixels, expected {size}", .inl ?_⟩
      rw [hmessage]
      simp only [toString, String.append_assoc]
  | split =>
      have hmessage : ∀ width, (Failure.rowSplit (some (icon, row)) count width).message =
          s!"Icon #{icon} row {row}: " ++
            s!"Row of {count} pixels cannot be split into {width}-bit chunks" := fun _ => rfl
      refine ⟨s!"Row of {count} pixels cannot be split into " ++
        s!"{(Layout.ofSize size).width}-bit chunks", .inr ?_⟩
      rw [hmessage]
      simp only [toString, String.append_assoc]

/-- Whether a row of the right length can be cut depends on the size, also where that is none. -/
theorem isDivisible_eq_true_iff (hlength : (count : Int) = size) :
    isDivisible count (Layout.ofSize size).width = true ↔ 1 ≤ size ∧ IsPackable size := by
  by_cases hsize : 1 ≤ size
  · simp [isDivisible_iff hlength hsize, hsize]
  · have hwidth : ¬0 < min byteBits size := by
      unfold byteBits
      omega
    simp [isDivisible, Layout.ofSize, hwidth, hsize]

/-- What is reported of a row of another length, whatever numbers its message shows. -/
theorem exists_rowFault_of_length (hlength : (count : Int) ≠ size) : ∃ kind,
    RowFault size icon row count kind (.showing [icon, size] (.rowLength icon row count size)) := by
  have hbad : ¬FitsRow size count := fun hfits => hlength hfits.length_eq
  cases hicon : fits icon with
  | false =>
      rw [Failure.showing_of_not_fits (by simp) hicon]
      exact ⟨none, .unwritable hbad (.inl hicon)⟩
  | true =>
      cases hsize : fits size with
      | false =>
          rw [Failure.showing_of_not_fits (by simp) hsize]
          exact ⟨none, .unwritable hbad (.inr ⟨hlength, hsize⟩)⟩
      | true =>
          rw [Failure.showing_of_fits (by simp [hicon, hsize])]
          exact ⟨_, .length hlength hicon hsize⟩

/-- What is reported of a row that has the right length and cannot be cut. -/
theorem exists_rowFault_of_split (hlength : (count : Int) = size)
    (hbad : ¬(1 ≤ size ∧ IsPackable size)) : ∃ kind, RowFault size icon row count kind
      (.showing [icon] (.rowSplit (some (icon, row)) count (Layout.ofSize size).width)) := by
  cases hicon : fits icon with
  | false =>
      rw [Failure.showing_of_not_fits (by simp) hicon]
      exact ⟨none, .unwritable (fun hfits => hbad ⟨hfits.positive, hfits.packable⟩) (.inl hicon)⟩
  | true =>
      rw [Failure.showing_of_fits (by simp [hicon])]
      exact ⟨_, .split hlength hbad hicon⟩

/-- A row that fits is packed, and any other one is reported. -/
theorem packNumberedRow_cases (icon size : Int) (numbered : List Char × Nat) :
    (FitsRow size numbered.1.length ∧ ∃ bytes, packNumberedRow icon size numbered = .ok bytes) ∨
    ∃ kind failure, RowFault size icon numbered.2 numbered.1.length kind failure ∧
      packNumberedRow icon size numbered = .error failure := by
  unfold packNumberedRow packRow?
  by_cases hlength : (numbered.1.length : Int) = size
  · have hdivisible := isDivisible_eq_true_iff hlength
    by_cases hsize : 1 ≤ size ∧ IsPackable size
    · exact .inl ⟨⟨hlength, hsize.1, hsize.2⟩, by simp [hlength, hdivisible.2 hsize]⟩
    · have hundivisible := Bool.eq_false_iff.2 (mt hdivisible.1 hsize)
      rcases exists_rowFault_of_split hlength hsize with ⟨kind, hfault⟩
      exact .inr ⟨kind, _, hfault, by simp [hlength, hundivisible]⟩
  · rcases exists_rowFault_of_length hlength with ⟨kind, hfault⟩
    exact .inr ⟨kind, _, hfault, by simp [hlength]⟩

theorem exists_packNumberedRow_eq_ok_iff {numbered : List Char × Nat} :
    (∃ bytes, packNumberedRow icon size numbered = .ok bytes) ↔
      FitsRow size numbered.1.length := by
  rcases packNumberedRow_cases icon size numbered with ⟨hfits, hok⟩ | ⟨_, _, hfault, herror⟩
  · exact ⟨fun _ => hfits, fun _ => hok⟩
  · exact ⟨by simp [herror], fun hfits => absurd hfits hfault.not_fitsRow⟩

/-- There is one thing to report of a row. -/
theorem RowFault.unique {other : Option Failure.Kind} {another : Failure}
    (h : RowFault size icon row count kind failure)
    (hother : RowFault size icon row count other another) : failure = another := by
  cases h with
  | length hlength hicon hsize =>
      cases hother with
      | length => rfl
      | split hsame => exact absurd hsame hlength
      | unwritable _ hlarge => simp [hicon, hsize] at hlarge
  | split hlength _ hicon =>
      cases hother with
      | length hdiffer => exact absurd hlength hdiffer
      | split => rfl
      | unwritable _ hlarge => simp [hlength, hicon] at hlarge
  | unwritable _ hlarge =>
      cases hother with
      | length _ hicon hsize => simp [hicon, hsize] at hlarge
      | split hlength _ hicon => simp [hlength, hicon] at hlarge
      | unwritable => rfl

theorem packNumberedRow_eq_error_iff {numbered : List Char × Nat} :
    packNumberedRow icon size numbered = .error failure ↔
      ∃ kind, RowFault size icon numbered.2 numbered.1.length kind failure := by
  rcases packNumberedRow_cases icon size numbered with
    ⟨hfits, bytes, hok⟩ | ⟨kind, other, hfault, herror⟩
  · exact ⟨by simp [hok], fun ⟨_, hfault⟩ => absurd hfits hfault.not_fitsRow⟩
  · rw [herror, Except.error.injEq]
    constructor
    · rintro rfl
      exact ⟨kind, hfault⟩
    · rintro ⟨_, hother⟩
      exact hfault.unique hother

end Row

/-! ## Pictures -/

section Picture

variable {glyph : Glyph} {size : Int} {bytes : List String} {failure : Failure}

/-- The digits of a picture stand where its rows do. -/
theorem firstAt_bits_iff {good : Nat → Prop} {place : Nat} {digits : List Char} :
    FirstAt glyph.bits (fun bits => good bits.length) place digits ↔
      ∃ row, FirstAt glyph.rows (fun row => good row.length) place row ∧
        digits = row.map Glyph.bit := by
  have hhere : ∀ (i : Nat) (bits : List Char), glyph.bits[i]? = some bits ↔
      ∃ row, glyph.rows[i]? = some row ∧ bits = row.map Glyph.bit := by
    intro i bits
    rw [Glyph.bits, List.getElem?_map, Option.map_eq_some_iff]
    simp only [eq_comm]
  constructor
  · rintro ⟨hdigits, hbefore⟩
    rcases (hhere _ _).1 hdigits with ⟨row, hrow, hbits⟩
    refine ⟨row, ⟨hrow, fun i other hi hother => ?_⟩, hbits⟩
    simpa using hbefore i _ hi ((hhere _ _).2 ⟨other, hother, rfl⟩)
  · rintro ⟨row, ⟨hrow, hbefore⟩, rfl⟩
    refine ⟨(hhere _ _).2 ⟨row, hrow, rfl⟩, fun i bits hi hbits => ?_⟩
    rcases (hhere _ _).1 hbits with ⟨other, hother, rfl⟩
    simpa using hbefore i other hi hother

/-- A picture is packed when all of its rows fit. -/
theorem exists_packRows_eq_ok_iff :
    (∃ bytes, packRows glyph size = .ok bytes) ↔ ∀ row ∈ glyph.rows, FitsRow size row.length := by
  constructor
  · rintro ⟨bytes, hbytes⟩ row hrow
    rcases bind_eq_ok_iff.1 hbytes with ⟨packed, hpacked, -⟩
    have hbits : row.map Glyph.bit ∈ glyph.bits := List.mem_map_of_mem hrow
    rcases List.getElem?_of_mem hbits with ⟨i, hi⟩
    have hnumbered : glyph.bits.zipIdx[i]? = some (row.map Glyph.bit, i) := by
      simp [List.getElem?_zipIdx, hi]
    rcases getElem?_of_forall₂ (mapM_eq_ok_iff.1 hpacked) hnumbered with ⟨_, -, hok⟩
    simpa using exists_packNumberedRow_eq_ok_iff.1 ⟨_, hok⟩
  · intro hfits
    have hrows : ∀ numbered ∈ glyph.bits.zipIdx, ∃ bytes,
        packNumberedRow glyph.index size numbered = .ok bytes := by
      rintro ⟨bits, number⟩ hnumbered
      rcases List.mem_map.1 (List.fst_mem_of_mem_zipIdx hnumbered) with ⟨row, hrow, rfl⟩
      exact exists_packNumberedRow_eq_ok_iff.2 (by simpa using hfits row hrow)
    rcases exists_mapM_eq_ok hrows with ⟨packed, hpacked⟩
    exact ⟨packed.flatten, bind_eq_ok_iff.2 ⟨packed, hpacked, rfl⟩⟩

/-- What is reported of a picture is what is wrong with its first row that does not fit. -/
theorem packRows_eq_error_iff :
    packRows glyph size = .error failure ↔ ∃ place row,
      FirstAt glyph.rows (fun row => FitsRow size row.length) place row ∧
        ∃ kind, RowFault size glyph.index place row.length kind failure := by
  have hpacked : (fun numbered : List Char × Nat => ∃ bytes,
      packNumberedRow glyph.index size numbered = .ok bytes) =
      fun numbered => FitsRow size numbered.1.length := by
    funext numbered
    rw [exists_packNumberedRow_eq_ok_iff]
  have hrows : packRows glyph size = .error failure ↔
      glyph.bits.zipIdx.mapM (packNumberedRow glyph.index size) = .error failure := by
    unfold packRows
    rw [bind_eq_error_iff]
    simp [pure, Except.pure]
  rw [hrows, mapM_eq_error_iff, hpacked]
  simp only [@firstAt_zipIdx_iff _ _ fun bits : List Char => FitsRow size bits.length,
    packNumberedRow_eq_error_iff, firstAt_bits_iff]
  constructor
  · rintro ⟨place, ⟨_, number⟩, ⟨⟨row, hfirst, rfl⟩, rfl⟩, hfault⟩
    exact ⟨number, row, hfirst, by simpa using hfault⟩
  · rintro ⟨place, row, hfirst, hfault⟩
    exact ⟨place, (row.map Glyph.bit, place), ⟨⟨row, hfirst, rfl⟩, rfl⟩, by simpa using hfault⟩

/-- A picture is packed, or there is a first row that does not fit. -/
theorem packRows_cases (glyph : Glyph) (size : Int) : (∃ bytes, packRows glyph size = .ok bytes) ∨
    ∃ place row, FirstAt glyph.rows (fun row => FitsRow size row.length) place row ∧
      ¬FitsRow size row.length := by
  cases hend : packRows glyph size with
  | ok bytes => exact .inl ⟨bytes, rfl⟩
  | error failure =>
      rcases packRows_eq_error_iff.1 hend with ⟨place, row, hfirst, _, hfault⟩
      exact .inr ⟨place, row, hfirst, hfault.not_fitsRow⟩

/-- A picture ends packed as its rows do, if its number may be written. -/
theorem outcome_packGlyph (glyph : Glyph) (size : Int) :
    (packGlyph glyph size).outcome = packRows glyph size >>= fun bytes =>
      (checkNumber glyph.index).map fun _ => bytes := by
  simp only [packGlyph, notePacked, Traced.outcome_bind, Traced.outcome_quiet,
    Traced.outcome_note, Traced.outcome_pure]
  cases checkNumber glyph.index <;> rfl

theorem packGlyph_eq_ok_iff : (packGlyph glyph size).outcome = .ok bytes ↔
    fits glyph.index = true ∧ packRows glyph size = .ok bytes := by
  rw [outcome_packGlyph, bind_eq_ok_iff]
  simp only [map_eq_ok_iff]
  constructor
  · rintro ⟨packed, hpacked, _, hnumber, rfl⟩
    exact ⟨checkNumber_eq_ok_iff.1 hnumber, hpacked⟩
  · rintro ⟨hindex, hpacked⟩
    exact ⟨bytes, hpacked, (), checkNumber_eq_ok_iff.2 hindex, rfl⟩

/-- A picture is not packed where a row does not fit, or where its number cannot be written. -/
theorem packGlyph_eq_error_iff : (packGlyph glyph size).outcome = .error failure ↔
    packRows glyph size = .error failure ∨
      (∃ bytes, packRows glyph size = .ok bytes) ∧ fits glyph.index = false ∧
        failure = .numberTooLarge := by
  rw [outcome_packGlyph, bind_eq_error_iff]
  simp only [map_eq_error_iff, checkNumber_eq_error_iff, exists_and_right]

end Picture

/-! ## Unpacking -/

/-- The digits of pixels in a byte literal, behind its mark. -/
def dataDigits (width : Nat) (bytes : List String) : List Char :=
  bytes.flatMap fun byte => (byte.toList.drop 2).take width

/-- The rows that the bytes of a picture of a size hold. -/
def unpack (size : Nat) (bytes : List String) : List (List Bool) :=
  let digits := dataDigits (min 8 size) bytes
  slices size (digits.length / size) (digits.map fun digit => digit = '1')

/-- A byte literal has eight binary digits, and behind those of the pixels there are zeros. -/
def IsByteLiteral (width : Nat) (byte : String) : Prop :=
  ∃ digits : List Char, byte.toList = "0b".toList ++ digits ∧ digits.length = 8 ∧
    (∀ digit ∈ digits, digit = '0' ∨ digit = '1') ∧
    digits.drop width = List.replicate (8 - width) '0'

section Unpack

variable {glyph : Glyph} {size : Int} {bytes : List String}

/-- A digit tells its pixel. -/
theorem map_bit_eq_one (pixels : List Bool) :
    ((pixels.map Glyph.bit).map fun digit => decide (digit = '1')) = pixels := by
  rw [List.map_map]
  conv_rhs => rw [← List.map_id pixels]
  refine List.map_congr_left fun pixel _ => ?_
  cases pixel <;> rfl

/-- The bytes of a picture, each with the chunk of digits that it holds. -/
theorem exists_chunks_of_packRows (hsize : 1 ≤ size) (h : packRows glyph size = .ok bytes) :
    ∃ chunks : List (List Char), chunks.flatten = glyph.rows.flatten.map Glyph.bit ∧
      (∀ chunk ∈ chunks, chunk.length = min 8 size.toNat) ∧
      bytes.map String.toList = chunks.map fun chunk =>
        "0b".toList ++ chunk ++ List.replicate (8 - min 8 size.toNat) '0' := by
  rcases packRows_eq_ok h with ⟨chunks, rfl, hdigits, hlengths⟩
  have hwidth : (Layout.ofSize size).width.toNat = min 8 size.toNat := by
    simp only [Layout.ofSize, byteBits]
    omega
  refine ⟨chunks, by rw [hdigits, glyph.flatten_bits], hwidth ▸ hlengths, ?_⟩
  simp only [List.map_map, Function.comp_def, toList_byteLiteral (Int.le_of_lt hsize)]

/-- The digits of the bytes of a picture are those of its pixels. -/
theorem dataDigits_of_packRows (hsize : 1 ≤ size) (h : packRows glyph size = .ok bytes) :
    dataDigits (min 8 size.toNat) bytes = glyph.rows.flatten.map Glyph.bit := by
  rcases exists_chunks_of_packRows hsize h with ⟨chunks, hdigits, hlengths, hbytes⟩
  have htaken : ∀ chunk ∈ chunks,
      (("0b".toList ++ chunk ++ List.replicate (8 - min 8 size.toNat) '0').drop 2).take
        (min 8 size.toNat) = chunk := by
    intro chunk hchunk
    rw [List.append_assoc, List.drop_left' (by rfl), List.take_left' (hlengths chunk hchunk)]
  calc
    dataDigits (min 8 size.toNat) bytes
      = (bytes.map String.toList).flatMap fun byte => (byte.drop 2).take (min 8 size.toNat) := by
          rw [dataDigits, List.flatMap_map]
    _ = (chunks.map fun chunk => chunk).flatten := by
          rw [hbytes, List.flatMap_map, List.flatMap_def, List.map_congr_left htaken]
    _ = glyph.rows.flatten.map Glyph.bit := by rw [List.map_id', hdigits]

/-- The bytes of a picture are byte literals. -/
theorem isByteLiteral_of_packRows (hsize : 1 ≤ size) (h : packRows glyph size = .ok bytes) :
    ∀ byte ∈ bytes, IsByteLiteral (min 8 size.toNat) byte := by
  rcases exists_chunks_of_packRows hsize h with ⟨chunks, hdigits, hlengths, hbytes⟩
  intro byte hbyte
  have hmem := List.mem_map_of_mem (f := String.toList) hbyte
  rw [hbytes] at hmem
  rcases List.mem_map.1 hmem with ⟨chunk, hchunk, hliteral⟩
  have hlength := hlengths chunk hchunk
  rw [List.append_assoc] at hliteral
  refine ⟨_, hliteral.symm, ?_, ?_, ?_⟩
  · rw [List.length_append, List.length_replicate]
    omega
  · intro digit hdigit
    rcases List.mem_append.1 hdigit with hdigit | hzero
    · have hpixel : digit ∈ glyph.rows.flatten.map Glyph.bit :=
        hdigits ▸ List.mem_flatten.2 ⟨chunk, hchunk, hdigit⟩
      rcases List.mem_map.1 hpixel with ⟨pixel, -, rfl⟩
      cases pixel
      · exact .inl rfl
      · exact .inr rfl
    · exact .inl (List.eq_of_mem_replicate hzero)
  · exact List.drop_left' hlength

theorem length_of_mem_rows (h : packRows glyph size = .ok bytes) :
    ∀ row ∈ glyph.rows, row.length = size.toNat := by
  intro row hrow
  have hlength := (exists_packRows_eq_ok_iff.1 ⟨bytes, h⟩ row hrow).length_eq
  omega

/-- Unpacking gives the rows of a picture back. -/
theorem unpack_of_packRows (h : packRows glyph size = .ok bytes) :
    unpack size.toNat bytes = glyph.rows := by
  have hfits := exists_packRows_eq_ok_iff.1 ⟨bytes, h⟩
  cases hrows : glyph.rows with
  | nil =>
      have hbytes : bytes = [] := by
        unfold packRows Glyph.bits at h
        rw [hrows] at h
        simpa [pure, Except.pure, bind, Except.bind, eq_comm] using h
      simp [unpack, dataDigits, hbytes, slices]
  | cons first others =>
      have hsize := (hfits first (by simp [hrows])).positive
      have hwidth := length_of_mem_rows h
      rw [unpack, dataDigits_of_packRows hsize h, map_bit_eq_one, List.length_map,
        length_flatten_of_width hwidth, Nat.mul_div_cancel _ (by omega), slices_flatten hwidth,
        hrows]

example : unpack 3 ["0b10100000", "0b01000000"] = [[true, false, true], [false, true, false]] := by
  decide

/-- Rows of a packable size are filled by whole chunks. -/
theorem width_dvd_of_isPackable (hpackable : IsPackable size) :
    min 8 size.toNat ∣ size.toNat := by
  by_cases hsmall : size ≤ 8
  · exact ⟨1, by omega⟩
  · have hwhole := hpackable.resolve_left hsmall
    have hmin : min 8 size.toNat = 8 := by omega
    rw [hmin]
    omega

/-- Every row of a picture takes as many bytes as it has full chunks. -/
theorem length_of_packRows (hsize : 1 ≤ size) (hpackable : IsPackable size)
    (h : packRows glyph size = .ok bytes) :
    bytes.length = glyph.rows.length * (size.toNat / min 8 size.toNat) := by
  have hwidth := length_of_mem_rows h
  rcases exists_chunks_of_packRows hsize h with ⟨chunks, hdigits, hlengths, hbytes⟩
  have hcount : bytes.length = chunks.length := by
    simpa using congrArg List.length hbytes
  have htotal : chunks.length * min 8 size.toNat = glyph.rows.length * size.toNat := by
    rw [← length_flatten_of_width hlengths, hdigits, List.length_map,
      length_flatten_of_width hwidth]
  have hdivides := width_dvd_of_isPackable hpackable
  rw [hcount, ← Nat.mul_div_assoc _ hdivides, ← htotal, Nat.mul_div_cancel _ (by omega)]

end Unpack

/-! ## The bytes of a picture -/

section Shapes

variable {rows : List (List Bool)} {size index : Int} {place : Nat} {row : List Bool}
  {kind : Option Failure.Kind} {failure : Failure}

/-- All rows fit when there are none, or when the size is packable and the length of each. -/
theorem fits_iff :
    (∀ row ∈ rows, FitsRow size row.length) ↔ rows = [] ∨
      1 ≤ size ∧ (∀ row ∈ rows, (row.length : Int) = size) ∧ (size ≤ 8 ∨ 8 ∣ size) := by
  constructor
  · intro hfits
    rcases List.eq_nil_or_concat rows with hnone | ⟨front, last, hrows⟩
    · exact .inl hnone
    · have hlast := hfits last (by simp [hrows])
      exact .inr ⟨hlast.positive, fun row hrow => (hfits row hrow).length_eq, hlast.packable⟩
  · rintro (hnone | ⟨hsize, hlengths, hpackable⟩) row hrow
    · simp [hnone] at hrow
    · exact ⟨hlengths row hrow, hsize, hpackable⟩

/-- No row fits a size that is not packable, so that none stands before the one reported. -/
theorem eq_zero_of_firstAt
    (hfirst : FirstAt rows (fun other => FitsRow size other.length) place row)
    (hsize : ¬(1 ≤ size ∧ (size ≤ 8 ∨ 8 ∣ size))) : place = 0 := by
  by_contra hplace
  have hbound := (List.getElem?_eq_some_iff.1 hfirst.here).1
  have hfits := hfirst.before 0 _ (Nat.pos_of_ne_zero hplace)
    (List.getElem?_eq_getElem (by omega))
  exact hsize ⟨hfits.positive, hfits.packable⟩

/-- Where the size is packable, the row reported is the first one of another length. -/
theorem firstAt_of_fault
    (hfirst : FirstAt rows (fun other => FitsRow size other.length) place row)
    (hfault : RowFault size index place row.length kind failure)
    (hsize : 1 ≤ size ∧ (size ≤ 8 ∨ 8 ∣ size)) : (row.length : Int) ≠ size ∧
      FirstAt rows (fun other => (other.length : Int) = size) place row := by
  refine ⟨fun hlength => hfault.not_fitsRow ⟨hlength, hsize.1, hsize.2⟩, hfirst.here, ?_⟩
  exact fun i other hi hother => (hfirst.before i other hi hother).length_eq

/-- A number is too large for packing: that of the icon, or the size where it is shown. -/
theorem packGlyph_eq_numberTooLarge_iff {glyph : Glyph} :
    (packGlyph glyph size).outcome = .error .numberTooLarge ↔ fits glyph.index = false ∨
      fits size = false ∧ ∃ place row, (row.length : Int) ≠ size ∧
        FirstAt glyph.rows (fun other => FitsRow size other.length) place row := by
  have hrow : ∀ {place row kind}, RowFault size glyph.index place row kind .numberTooLarge →
      kind = none := fun hfault => hfault.kind?_eq.symm
  rw [packGlyph_eq_error_iff, packRows_eq_error_iff]
  constructor
  · rintro (⟨place, row, hfirst, kind, hfault⟩ | ⟨-, hindex, -⟩)
    · rcases hfault.kind_eq_none_iff.1 (hrow hfault) with hindex | ⟨hlength, hsize⟩
      · exact .inl hindex
      · exact .inr ⟨hsize, place, row, hlength, hfirst⟩
    · exact .inl hindex
  · rintro (hindex | ⟨hsize, place, row, hlength, hfirst⟩)
    · rcases packRows_cases glyph size with hok | ⟨place, row, hfirst, hbad⟩
      · exact .inr ⟨hok, hindex, rfl⟩
      · exact .inl ⟨place, row, hfirst, none, .unwritable hbad (.inl hindex)⟩
    · have hbad : ¬FitsRow size row.length := fun hfits => hlength hfits.length_eq
      exact .inl ⟨place, row, hfirst, none, .unwritable hbad (.inr ⟨hlength, hsize⟩)⟩

end Shapes

/-- A picture of one pixel. -/
def dot : Glyph :=
  ⟨0, [[true]]⟩

/-- The least size that is too large to be written. -/
def wideSize : Int :=
  (10 ^ digitLimit : Nat)

end IconPress
