import IconPress.Proofs.Compile
import IconPress.Proofs.Nesting
import IconPress.Proofs.Numerals
import IconPress.Proofs.Settings
import Mathlib.Data.List.Perm.Subperm

/-!
# Reading a document back

The text of a document can be read line by line: a line of a fixed shape opens an icon, and the
lines below it hold the bytes of the icon, up to a line that closes it.  This module gives such a
reader and proves that it gets back the pixels of the sheet, whatever characters the drawings in
between are made of.

Main definitions:

- `IsIconLine`, `IsByteLine`, `isClosingLine`: the shapes of lines.
- `readIcons`: the icons of a list of lines.

Main results:

- `readIcons_document`: the reader on the lines of a document.
- `compile_readBack`: the digits read back are the pixels of the innermost blocks.
-/

namespace IconPress

open Text (lines lines_append_cons)
open Text.Numeral (isDigit isNumeral isNumeral_repr not_mem_repr)

/-! ## The shapes of lines -/

/-- The space at the start of a line. -/
def margin (width : Nat) : List Char :=
  List.replicate width ' '

/-- The line that opens an icon, with the digits of its two names. -/
def iconLine (first second : List Char) : List Char :=
  margin 8 ++ "ICON_".toList ++ first ++ ": icon_".toList ++ second ++ " = &[".toList

/-- The line that opens the icon with a number. -/
def numberedLine (index : Nat) : List Char :=
  iconLine index.repr.toList index.repr.toList

/-- A line opens an icon. -/
def IsIconLine (line : List Char) : Prop :=
  ∃ first second, isNumeral first = true ∧ isNumeral second = true ∧
    line = iconLine first second

/-- A line holds a byte: it stands behind a margin, and a comma may follow. -/
def IsByteLine (line byte : List Char) : Prop :=
  line = margin 12 ++ byte ∨ line = margin 12 ++ byte ++ [',']

/-- A line closes an icon. -/
def isClosingLine (line : List Char) : Bool :=
  line = margin 8 ++ [']'] || line = margin 8 ++ [']', ',']

/-- The digits at the start of a list are all of them if something else follows. -/
theorem takeWhile_isDigit {digits rest : List Char} {c : Char} (hdigits : isNumeral digits = true)
    (hc : isDigit c = false) : (digits ++ c :: rest).takeWhile isDigit = digits := by
  simp only [isNumeral, Bool.and_eq_true, List.all_eq_true] at hdigits
  rw [List.takeWhile_append_of_pos hdigits.2, List.takeWhile_cons]
  simp [hc]

/-- The digits of an icon line stand at fixed places. -/
theorem isIconLine_iff (line : List Char) :
    IsIconLine line ↔
      let first := (line.drop 13).takeWhile isDigit
      let second := (line.drop (20 + first.length)).takeWhile isDigit
      isNumeral first = true ∧ isNumeral second = true ∧ line = iconLine first second := by
  constructor
  · rintro ⟨first, second, hfirst, hsecond, rfl⟩
    have hone : (iconLine first second).drop 13 =
        first ++ ':' :: (" icon_".toList ++ second ++ " = &[".toList) := by
      simp [iconLine, margin]
    have hlength : (margin 8 ++ "ICON_".toList ++ first ++ ": icon_".toList).length =
        20 + first.length := by
      simp [margin]
      omega
    have htwo : (iconLine first second).drop (20 + first.length) =
        second ++ ' ' :: "= &[".toList := by
      rw [iconLine, List.append_assoc, ← hlength, List.drop_left]
      simp
    simp only [hone, takeWhile_isDigit hfirst (by decide : isDigit ':' = false), htwo,
      takeWhile_isDigit hsecond (by decide : isDigit ' ' = false)]
    exact ⟨hfirst, hsecond, trivial⟩
  · rintro ⟨hfirst, hsecond, hline⟩
    exact ⟨_, _, hfirst, hsecond, hline⟩

instance : DecidablePred IsIconLine :=
  fun line => decidable_of_iff _ (isIconLine_iff line).symm

/-! ## The reader -/

/-- The lines before the first one that closes an icon, if there is one. -/
def untilClosing? : List (List Char) → Option (List (List Char))
  | [] => none
  | line :: rest =>
    if isClosingLine line then some [] else (untilClosing? rest).map (line :: ·)

/-- Every line that opens an icon, with the lines below it. -/
def readIcons : List (List Char) → List (List Char × Option (List (List Char)))
  | [] => []
  | line :: rest =>
    if IsIconLine line then (line, untilClosing? rest) :: readIcons rest else readIcons rest

/-- The reader passes by no icon line. -/
theorem map_fst_readIcons (written : List (List Char)) :
    (readIcons written).map Prod.fst = written.filter fun line => IsIconLine line := by
  induction written with
  | nil => rfl
  | cons line rest ih =>
      by_cases h : IsIconLine line
      · simp [readIcons, h, ih]
      · simp [readIcons, h, ih]

/-- Lines that open no icon can be left out. -/
theorem readIcons_append {others : List (List Char)} (h : ∀ line ∈ others, ¬IsIconLine line)
    (rest : List (List Char)) : readIcons (others ++ rest) = readIcons rest := by
  induction others with
  | nil => rfl
  | cons line others ih =>
      rw [List.cons_append, readIcons, if_neg (h line List.mem_cons_self)]
      exact ih fun other hother => h other (List.mem_cons_of_mem line hother)

theorem untilClosing?_append {rows : List (List Char)} {closing : List Char}
    (hrows : ∀ row ∈ rows, isClosingLine row = false) (hclosing : isClosingLine closing = true)
    (rest : List (List Char)) : untilClosing? (rows ++ closing :: rest) = some rows := by
  induction rows with
  | nil => simp [untilClosing?, hclosing]
  | cons row rows ih =>
      rw [List.cons_append, untilClosing?, ih fun other hother =>
        hrows other (List.mem_cons_of_mem row hother)]
      simp [hrows row List.mem_cons_self]

/-! ## Lines that open no icon -/

/-- The letters that every icon line holds. -/
theorem IsIconLine.mem {line : List Char} (h : IsIconLine line) {c : Char}
    (hc : c ∈ "ICON".toList) : c ∈ line := by
  rcases h with ⟨first, second, _, _, rfl⟩
  have hword : c ∈ "ICON_".toList := List.mem_append_left ['_'] hc
  simp only [iconLine, List.mem_append]
  exact .inl (.inl (.inl (.inl (.inr hword))))

/-- An icon line starts with a space. -/
theorem IsIconLine.head? {line : List Char} (h : IsIconLine line) : line.head? = some ' ' := by
  rcases h with ⟨first, second, _, _, rfl⟩
  rfl

/-- The lines of a text without a `C` open no icon. -/
theorem not_isIconLine_of_not_mem {text : List Char} (h : 'C' ∉ text) :
    ∀ line ∈ lines text, ¬IsIconLine line :=
  fun _ hline hicon => h (Text.mem_of_mem_pieces hline (hicon.mem (by decide)))

/--
A text made of spaces, slashes, asterisks, line feeds and three further characters has no line
that opens an icon: three characters cannot spell the four letters.
-/
theorem not_isIconLine_of_three {text : List Char} {first second third : Char}
    (htext : ∀ c ∈ text, c ∈ [' ', '/', '*', '\n'] ∨ c ∈ [first, second, third]) :
    ∀ line ∈ lines text, ¬IsIconLine line := by
  intro line hline hicon
  have hthree : "ICON".toList ⊆ [first, second, third] := by
    intro c hc
    have hmem := htext c (Text.mem_of_mem_pieces hline (hicon.mem hc))
    refine hmem.resolve_left ?_
    rw [show "ICON".toList = ['I', 'C', 'O', 'N'] from rfl] at hc
    simp only [List.mem_cons, List.not_mem_nil, or_false] at hc
    rcases hc with rfl | rfl | rfl | rfl <;> decide
  have hnodup : "ICON".toList.Nodup := by decide
  have hlength := (hnodup.subperm hthree).length_le
  simp at hlength

/-! ## The lines of a drawing -/

/-- A drawing is made of spaces, slashes, asterisks and the three characters of the settings. -/
theorem mem_drawGlyph {settings : Settings} {glyph : Glyph} {size padding level : Int}
    {line : String} {c : Char} (hline : line ∈ drawGlyph settings glyph size padding level)
    (hc : c ∈ line.toList) :
    c ∈ [' ', '/', '*', '\n'] ∨
      c ∈ [settings.markerChar, settings.blankChar, settings.borderChar] := by
  simp only [drawGlyph, List.mem_append, List.mem_singleton, List.mem_map] at hline
  rcases hline with (rfl | ⟨row, _, rfl⟩) | rfl
  · simp [indent, repeated] at hc
    rcases hc with ⟨_, rfl⟩ | rfl | rfl | ⟨_, rfl⟩ <;> simp
  · simp [drawRow, indent, repeated, Settings.cell] at hc
    rcases hc with ⟨_, rfl⟩ | rfl | rfl | ⟨_, rfl⟩ | (⟨_, rfl⟩ | ⟨_, rfl⟩) | ⟨_, rfl⟩ | rfl <;>
      simp
  · simp [indent, repeated] at hc
    rcases hc with ⟨_, rfl⟩ | rfl | ⟨_, rfl⟩ | rfl | rfl <;> simp

/-- The comment of an icon opens no icon. -/
theorem not_isIconLine_preview (settings : Settings) (obstacle : Option String) (size : Int)
    {glyph : Glyph} {index : Nat} (hindex : glyph.index = index) :
    ∀ line ∈ lines ("\n".intercalate (previewLines settings obstacle size glyph)).toList,
      ¬IsIconLine line := by
  cases obstacle with
  | none =>
      apply not_isIconLine_of_three
      intro c hc
      rw [String.toList_intercalate] at hc
      rcases Text.mem_of_mem_intercalate hc with hc | ⟨text, htext, hc⟩
      · obtain rfl : c = '\n' := List.mem_singleton.1 hc
        simp
      · rcases List.mem_map.1 htext with ⟨line, hline, rfl⟩
        exact mem_drawGlyph hline hc
  | some reason =>
      apply not_isIconLine_of_not_mem
      have hdigits := not_mem_repr (by decide : isDigit 'C' = false) index
      simp only [Nat.toList_repr] at hdigits
      simp [previewLines, hindex, indent, repr_natCast, hdigits]
      decide

/-! ## The lines of an icon -/

/-- Rows with a comma behind every one but the last. -/
def withCommas : List (List Char) → List (List Char)
  | [] => []
  | [row] => [row]
  | row :: next :: rest => (row ++ [',']) :: withCommas (next :: rest)

/-- Rows joined by commas at the ends of their lines. -/
theorem lines_intercalate_comma {rows : List (List Char)} (hne : rows ≠ [])
    (hplain : ∀ row ∈ rows, '\n' ∉ row) :
    lines ([',', '\n'].intercalate rows) = withCommas rows := by
  induction rows with
  | nil => exact absurd rfl hne
  | cons row rest ih =>
      have hrow := hplain row List.mem_cons_self
      cases rest with
      | nil => simpa [withCommas] using Text.lines_of_not_mem hrow
      | cons next others =>
          have hfirst : '\n' ∉ row ++ [','] := by simp [hrow]
          rw [List.intercalate_cons_cons, withCommas,
            ← ih (by simp) fun other hother => hplain other (List.mem_cons_of_mem row hother),
            show row ++ [',', '\n'] ++ [',', '\n'].intercalate (next :: others) =
              (row ++ [',']) ++ '\n' :: [',', '\n'].intercalate (next :: others) by simp,
            Text.lines_append_cons, Text.lines_of_not_mem hfirst]
          rfl

/-- Behind a margin, rows with commas are lines that hold bytes. -/
theorem isByteLine_withCommas (bytes : List (List Char)) :
    List.Forall₂ IsByteLine (withCommas (bytes.map (margin 12 ++ ·))) bytes := by
  induction bytes with
  | nil => exact .nil
  | cons byte rest ih =>
      cases rest with
      | nil => exact .cons (.inl rfl) .nil
      | cons next others => exact .cons (.inr rfl) ih

/-- A line that holds a byte neither opens nor closes an icon: its margin is too wide. -/
theorem IsByteLine.plain {row byte : List Char} (h : IsByteLine row byte) :
    ¬IsIconLine row ∧ isClosingLine row = false := by
  have hspace : row[8]? = some ' ' := by
    rcases h with rfl | rfl <;> rfl
  constructor
  · rintro ⟨first, second, _, _, rfl⟩
    have hletter : (iconLine first second)[8]? = some 'I' := rfl
    rw [hletter] at hspace
    simp at hspace
  · cases hclosing : isClosingLine row with
    | false => rfl
    | true =>
        simp only [isClosingLine, Bool.or_eq_true, decide_eq_true_eq] at hclosing
        rcases hclosing with rfl | rfl <;> simp [margin] at hspace

/-- The rows of an icon, as its document has them. -/
def rowsOf (icon : Icon) : List (List Char) :=
  withCommas (icon.packed.map fun byte => margin 12 ++ byte.toList)

/-- The line that opens an icon in its document. -/
def headOf (icon : Icon) : List Char :=
  margin 8 ++ icon.constName.toList ++ ": ".toList ++ icon.methodName.toList ++ " = &[".toList

/-- The text of an icon, cut where its comment, its head and its rows end. -/
theorem toList_text (icon : Icon) :
    icon.text.toList = ("\n".intercalate icon.comment).toList ++ '\n' ::
      (headOf icon ++ '\n' ::
        ([',', '\n'].intercalate (icon.packed.map fun byte => margin 12 ++ byte.toList) ++
          '\n' :: (margin 8 ++ [']']))) := by
  have htwo : (indent iconLevel).toList = margin 8 := by simp [indent, iconLevel, margin]
  have hthree : (indent 3).toList = margin 12 := by simp [indent, margin]
  simp only [Icon.text, headOf, String.toList_append, String.toList_intercalate, htwo, hthree,
    List.map_map, Function.comp_def]
  simp

/-- The lines of an icon, with what follows on the last one. -/
theorem lines_icon {icon : Icon} (hpacked : icon.packed ≠ [])
    (hbytes : ∀ byte ∈ icon.packed, '\n' ∉ byte.toList) (hhead : '\n' ∉ headOf icon)
    {tail : List Char} (htail : '\n' ∉ tail) :
    lines (icon.text.toList ++ tail) =
      lines ("\n".intercalate icon.comment).toList ++
        headOf icon :: (rowsOf icon ++ [margin 8 ++ ']' :: tail]) := by
  have hlast : '\n' ∉ margin 8 ++ ']' :: tail := by simp [margin, htail]
  have hrows : lines ([',', '\n'].intercalate
      (icon.packed.map fun byte => margin 12 ++ byte.toList)) = rowsOf icon := by
    apply lines_intercalate_comma
    · simpa using hpacked
    · intro row hrow
      rcases List.mem_map.1 hrow with ⟨byte, hbyte, rfl⟩
      simp [margin, hbytes byte hbyte]
  have hcut : icon.text.toList ++ tail = ("\n".intercalate icon.comment).toList ++ '\n' ::
      (headOf icon ++ '\n' ::
        ([',', '\n'].intercalate (icon.packed.map fun byte => margin 12 ++ byte.toList) ++
          '\n' :: (margin 8 ++ ']' :: tail))) := by
    simp [toList_text]
  rw [hcut, lines_append_cons, lines_append_cons, Text.lines_of_not_mem hhead, lines_append_cons,
    hrows, Text.lines_of_not_mem hlast]
  rfl

/-! ## The lines of a document -/

/-- What the reader makes of an icon. -/
def reading (icon : Icon) : List Char × Option (List (List Char)) :=
  (headOf icon, some (rowsOf icon))

/-- An icon that the reader takes for what it is. -/
structure Readable (icon : Icon) : Prop where
  isIconLine : IsIconLine (headOf icon)
  plainHead : '\n' ∉ headOf icon
  comment : ∀ line ∈ lines ("\n".intercalate icon.comment).toList, ¬IsIconLine line
  packed_ne : icon.packed ≠ []
  plainBytes : ∀ byte ∈ icon.packed, '\n' ∉ byte.toList

/-- The reader gets through the lines of an icon to those that follow. -/
theorem readIcons_icon {icon : Icon} (h : Readable icon) {tail : List Char}
    (htail : tail = [] ∨ tail = [',']) (rest : List (List Char)) :
    readIcons (lines (icon.text.toList ++ tail) ++ rest) = reading icon :: readIcons rest := by
  have hplain : '\n' ∉ tail := by rcases htail with rfl | rfl <;> simp
  have hclosing : isClosingLine (margin 8 ++ ']' :: tail) = true := by
    rcases htail with rfl | rfl <;> rfl
  have hrows : ∀ row ∈ rowsOf icon, ¬IsIconLine row ∧ isClosingLine row = false := by
    intro row hrow
    have hbytes := isByteLine_withCommas (icon.packed.map String.toList)
    rw [List.map_map] at hbytes
    rcases List.getElem?_of_mem hrow with ⟨i, hi⟩
    rcases getElem?_of_forall₂ hbytes hi with ⟨byte, _, hbyte⟩
    exact hbyte.plain
  have hlast : ¬IsIconLine (margin 8 ++ ']' :: tail) := by
    intro hicon
    have hletter := hicon.mem (c := 'C') (by decide)
    rcases htail with rfl | rfl <;> simp [margin] at hletter
  rw [lines_icon h.packed_ne h.plainBytes h.plainHead hplain, List.append_assoc,
    readIcons_append h.comment, List.cons_append, readIcons, if_pos h.isIconLine,
    List.append_assoc, List.singleton_append]
  congr 1
  · rw [reading, untilClosing?_append (fun row hrow => (hrows row hrow).2) hclosing]
  · rw [readIcons_append fun row hrow => (hrows row hrow).1, readIcons, if_neg hlast]

/-- The reader gets through the icons of a document to the lines that follow. -/
theorem readIcons_body {icons : List Icon} (h : ∀ icon ∈ icons, Readable icon)
    (rest : List (List Char)) :
    readIcons (lines ([',', '\n', '\n'].intercalate (icons.map fun icon => icon.text.toList)) ++
      rest) = icons.map reading ++ readIcons rest := by
  have hempty : ¬IsIconLine [] := fun hicon => by simpa using hicon.head?
  induction icons with
  | nil => simp [readIcons, hempty, Text.lines]
  | cons icon others ih =>
      have hicon := h icon List.mem_cons_self
      cases others with
      | nil => simpa using readIcons_icon hicon (.inl rfl) rest
      | cons next more =>
          have hcut : [',', '\n', '\n'].intercalate
              ((icon :: next :: more).map fun icon => icon.text.toList) =
              (icon.text.toList ++ [',']) ++ '\n' :: ([] ++ '\n' :: [',', '\n', '\n'].intercalate
                ((next :: more).map fun icon => icon.text.toList)) := by
            simp [List.intercalate_cons_cons]
          rw [hcut, lines_append_cons, lines_append_cons, List.append_assoc,
            readIcons_icon hicon (.inr rfl), List.append_assoc,
            readIcons_append (by simpa [Text.lines] using hempty),
            ih fun other hother => h other (List.mem_cons_of_mem icon hother)]
          rfl

/-- The text of a document, cut where its import and its body end. -/
theorem toList_documentText (settings : Settings) (n : Nat) (icons : List Icon) :
    (documentText settings n icons).toList =
      ('u' :: ("se ".toList ++ settings.macroImport.toList ++ [';'])) ++ '\n' ::
        (("\nmake_icon_set! \x7b\n    pub Icons".toList ++ n.repr.toList ++ ": ".toList ++
          n.repr.toList ++ " \x7b".toList) ++ '\n' ::
          ([',', '\n', '\n'].intercalate (icons.map fun icon => icon.text.toList) ++ '\n' ::
            "    \x7d\n\x7d".toList)) := by
  have hone : (indent 1).toList = "    ".toList := by simp [indent]
  have hsize : toString (n : Int) = n.repr := repr_natCast n
  have hstring : ∀ text : String, toString text = text := fun _ => rfl
  unfold documentText
  simp only [structName, hsize, hone, hstring, String.toList_append,
    String.toList_intercalate, List.map_map, Function.comp_def]
  simp

/-- The reader finds in a document its icons, each with its rows, and nothing else. -/
theorem readIcons_document {settings : Settings} {n : Nat} {icons : List Icon}
    (himport : '\n' ∉ settings.macroImport.toList) (h : ∀ icon ∈ icons, Readable icon) :
    readIcons (lines (documentText settings n icons).toList) = icons.map reading := by
  have himportLine : ∀ line ∈ lines ('u' :: ("se ".toList ++ settings.macroImport.toList ++ [';'])),
      ¬IsIconLine line := by
    rw [Text.lines_of_not_mem (by simp [himport])]
    intro line hline hicon
    rw [List.mem_singleton.1 hline] at hicon
    simpa using hicon.head?
  have hopening : ∀ line ∈ lines ("\nmake_icon_set! \x7b\n    pub Icons".toList ++ n.repr.toList ++
      ": ".toList ++ n.repr.toList ++ " \x7b".toList), ¬IsIconLine line := by
    apply not_isIconLine_of_not_mem
    have hdigits := not_mem_repr (by decide : isDigit 'C' = false) n
    simp only [List.mem_append, not_or]
    exact ⟨⟨⟨⟨by decide, hdigits⟩, by decide⟩, hdigits⟩, by decide⟩
  have hclosing : ∀ line ∈ lines "    \x7d\n\x7d".toList, ¬IsIconLine line :=
    not_isIconLine_of_not_mem (by decide)
  rw [toList_documentText, lines_append_cons, lines_append_cons, lines_append_cons,
    readIcons_append himportLine, readIcons_append hopening, readIcons_body h]
  rw [← List.append_nil (lines "    \x7d\n\x7d".toList), readIcons_append hclosing]
  simp [readIcons]

/-! ## The digits of an icon -/

/-- The literal at a place of a body, all blanks taken out. -/
def literalAt (body : List Char) (k : Nat) : Option (List Char) :=
  (Text.pieces ',' (Text.squeeze body))[k]?

/-- Rows hold digits, `width` of them each, and zeros fill the bytes up. -/
def HoldDigits (width : Nat) (rows : List (List Char)) (digits : List Char) : Prop :=
  ∃ chunks : List (List Char), chunks.flatten = digits ∧
    (∀ chunk ∈ chunks, chunk.length = width) ∧
    List.Forall₂ IsByteLine rows
      (chunks.map fun chunk => "0b".toList ++ chunk ++ List.replicate (8 - width) '0')

/-- Digits show the pixels that the literals of a body stand for. -/
structure ShowPixels (settings : Settings) (body digits : List Char) : Prop where
  binary : ∀ digit ∈ digits, digit = '0' ∨ digit = '1'
  one_iff : ∀ k, digits[k]? = some '1' ↔ literalAt body k = some settings.opaquePixel.toList
  zero_iff : ∀ k, digits[k]? = some '0' ↔ literalAt body k = some settings.clearPixel.toList

/-- The comma that may follow the last literal makes no difference to those that say something. -/
theorem getElem?_splitTokens {token : List Char} (hne : token ≠ []) (body : List Char) (k : Nat) :
    (splitTokens body)[k]? = some token ↔ literalAt body k = some token := by
  unfold splitTokens literalAt
  simp only
  split
  · rename_i hempty
    rw [List.isEmpty_iff] at hempty
    cases k <;> simp [hempty, Ne.symm hne]
  · split
    · rename_i hlast
      rw [Bool.and_eq_true, decide_eq_true_eq, decide_eq_true_eq] at hlast
      rcases List.getLast?_eq_some_iff.1 hlast.2 with ⟨front, hfront⟩
      rw [hfront, List.dropLast_concat, List.getElem?_append]
      split
      · rfl
      · rename_i hk
        rw [List.getElem?_eq_none (Nat.le_of_not_lt hk), List.getElem?_singleton]
        split <;> simp [Ne.symm hne]
    · rfl

/-- The digits of the pixels of a block. -/
theorem showPixels_map_bit {settings : Settings} {index : Int} {body : List Char}
    {pixels : List Bool} (hvalid : settings.Valid)
    (h : PixelsOf settings index (String.ofList body) pixels) :
    ShowPixels settings body (pixels.map Glyph.bit) := by
  unfold PixelsOf at h
  rw [String.toList_ofList] at h
  have hplace : ∀ (pixel : Bool) (digit : Char) (literal : List Char), literal ≠ [] →
      (∀ other, Glyph.bit other = digit ↔ other = pixel) →
      (∀ token other, readPixel settings (some index) token = .ok other →
        (token = literal ↔ other = pixel)) →
      ∀ k, (pixels.map Glyph.bit)[k]? = some digit ↔ literalAt body k = some literal := by
    intro pixel digit literal hne hbit hread k
    rw [← getElem?_splitTokens hne, getElem?_iff_of_forall₂ h hread k, List.getElem?_map,
      Option.map_eq_some_iff]
    constructor
    · rintro ⟨other, hother, hdigit⟩
      rw [hother, (hbit other).1 hdigit]
    · exact fun hpixel => ⟨pixel, hpixel, (hbit pixel).2 rfl⟩
  have hdiffer := hvalid.literals_differ
  refine ⟨?_, ?_, ?_⟩
  · intro digit hdigit
    rcases List.mem_map.1 hdigit with ⟨pixel, _, rfl⟩
    cases pixel
    · exact .inl rfl
    · exact .inr rfl
  · exact hplace true '1' _ hvalid.opaquePixel_ne (by decide)
      fun token other hread => (readPixel_eq_ok hdiffer hread).1.symm
  · exact hplace false '0' _ hvalid.clearPixel_ne (by decide)
      fun token other hread => (readPixel_eq_ok hdiffer hread).2.symm

section IconOf

variable {settings : Settings} {obstacle : Option String} {size : Int} {body : List Char}
  {position : Position} {index : Nat} {icon : Icon}

/-- The number of an icon stands in its head twice. -/
theorem IconOf.headOf_eq
    (h : IconOf settings obstacle size (⟨String.ofList body, position⟩, index) icon) :
    headOf icon = numberedLine index := by
  have hnumber : toString index = index.repr := rfl
  rw [headOf, numberedLine, iconLine, h.constName_eq, h.methodName_eq, hnumber]
  simp

/-- The rows of an icon hold the pixels of its block, as many as its size asks for. -/
theorem IconOf.holdDigits (hsize : 0 ≤ size) (hvalid : settings.Valid)
    (h : IconOf settings obstacle size (⟨String.ofList body, position⟩, index) icon) :
    ∃ digits, HoldDigits (min 8 size.toNat) (rowsOf icon) digits ∧
      digits.length = size.toNat * size.toNat ∧ ShowPixels settings body digits := by
  rcases h.packed_eq with ⟨pixels, hpixels, hlength, chunks, hpacked, hdigits, hwidth⟩
  refine ⟨pixels.map Glyph.bit, ⟨chunks, hdigits, ?_, ?_⟩, ?_, showPixels_map_bit hvalid hpixels⟩
  · intro chunk hchunk
    rw [hwidth chunk hchunk]
    simp only [Layout.ofSize, byteBits]
    omega
  · have hbytes := isByteLine_withCommas (icon.packed.map String.toList)
    rw [List.map_map] at hbytes
    unfold rowsOf
    rw [hpacked] at hbytes ⊢
    simpa [Function.comp_def, toList_byteLiteral hsize] using hbytes
  · rw [List.length_map, hlength]

/-- The reader takes the icon of a block for what it is. -/
theorem IconOf.readable (hsize : 1 ≤ size)
    (h : IconOf settings obstacle size (⟨String.ofList body, position⟩, index) icon) :
    Readable icon := by
  have hnewline := not_mem_repr (by decide : isDigit '\n' = false) index
  rcases h.packed_eq with ⟨pixels, -, hlength, chunks, hpacked, hdigits, -⟩
  refine ⟨?_, ?_, ?_, ?_, ?_⟩
  · rw [h.headOf_eq]
    exact ⟨_, _, isNumeral_repr index, isNumeral_repr index, rfl⟩
  · rw [h.headOf_eq]
    simp only [numberedLine, iconLine, margin, List.mem_append, List.mem_replicate, not_or]
    exact ⟨⟨⟨⟨⟨by simp, by decide⟩, hnewline⟩, by decide⟩, hnewline⟩, by decide⟩
  · rcases h.comment_eq with ⟨glyph, hglyph, hcomment⟩
    rw [hcomment]
    exact not_isIconLine_preview settings obstacle size hglyph
  · rintro hempty
    rw [hempty, List.nil_eq, List.map_eq_nil_iff] at hpacked
    rw [hpacked, List.flatten_nil, List.nil_eq, List.map_eq_nil_iff] at hdigits
    rw [hdigits, List.length_nil] at hlength
    have hpositive : 0 < size.toNat * size.toNat := Nat.mul_pos (by omega) (by omega)
    omega
  · intro byte hbyte
    rw [hpacked] at hbyte
    rcases List.mem_map.1 hbyte with ⟨chunk, hchunk, rfl⟩
    have hplain : '\n' ∉ chunk := by
      intro hmem
      have hdigit : '\n' ∈ pixels.map Glyph.bit :=
        hdigits ▸ List.mem_flatten.2 ⟨chunk, hchunk, hmem⟩
      rcases List.mem_map.1 hdigit with ⟨pixel, -, hpixel⟩
      cases pixel <;> simp [Glyph.bit] at hpixel
    rw [toList_byteLiteral (Int.le_of_lt hsize)]
    simp [hplain]

end IconOf

/-! ## The icons of a sheet -/

/--
A document can be read back: the lines that open an icon are numbered like the innermost blocks of
the sheet, and below each of them stand the pixels of its block.  The drawings in between do not
matter, whatever characters they are made of and whether or not they could be drawn.
-/
theorem compile_readBack {settings : Settings} {obstacle : Option String} {sheet : Sheet}
    {document : Document} (hsize : 1 ≤ sheet.size) (hvalid : settings.Valid)
    (himport : '\n' ∉ settings.macroImport.toList)
    (h : (compile settings obstacle sheet).outcome = .ok document) :
    let chars := sheet.text.toList
    let written := lines document.text.toList
    let n := sheet.size.toNat
    ∃ pairs, InnermostPairs chars pairs ∧
      (written.filter fun line => IsIconLine line) =
        (List.range pairs.length).map numberedLine ∧
      ∀ (i : Nat) (pair : Nat × Nat), pairs[i]? = some pair → ∃ rows digits,
        (readIcons written)[i]? = some (numberedLine i, some rows) ∧
        HoldDigits (min 8 n) rows digits ∧ digits.length = n * n ∧
        ShowPixels settings (bodyBetween chars pair) digits := by
  intro chars written n
  have hnatural : (n : Int) = sheet.size := Int.toNat_of_nonneg (by omega)
  rcases compile_eq_ok (by omega) h with ⟨blocks, icons, hblocks, hicons, rfl⟩
  rcases (innermostBlocks_flat sheet.text).2.2.1 blocks hblocks with ⟨⟨pairs, hpairs, rfl⟩, -⟩
  -- The icon of a pair, with its number.
  have hicon : ∀ (i : Nat) (pair : Nat × Nat), pairs[i]? = some pair → ∃ icon,
      icons[i]? = some icon ∧
      IconOf settings obstacle sheet.size (blockBetween chars pair, i) icon := by
    intro i pair hpair
    apply getElem?_of_forall₂ hicons
    rw [List.getElem?_zipIdx, List.getElem?_map, hpair]
    simp [chars]
  have hlength : icons.length = pairs.length := by
    simpa using hicons.length_eq.symm
  have hreadable : ∀ icon ∈ icons, Readable icon := by
    intro icon hmem
    rcases List.getElem?_of_mem hmem with ⟨i, hi⟩
    have hbound : i < pairs.length := hlength ▸ (List.getElem?_eq_some_iff.1 hi).1
    rcases hicon i pairs[i] (List.getElem?_eq_getElem hbound) with ⟨other, hother, hshows⟩
    rw [hi, Option.some.injEq] at hother
    exact hother ▸ hshows.readable hsize
  have hreading : readIcons written = icons.map reading := by
    have hdocument := @readIcons_document settings n icons himport hreadable
    rw [hnatural] at hdocument
    exact hdocument
  have hheads : icons.map headOf =
      (List.range pairs.length).map numberedLine := by
    apply List.ext_getElem?
    intro i
    rw [List.getElem?_map, List.getElem?_map]
    by_cases hbound : i < pairs.length
    · rcases hicon i pairs[i] (List.getElem?_eq_getElem hbound) with ⟨icon, hi, hshows⟩
      rw [hi, List.getElem?_range hbound, Option.map_some, Option.map_some, hshows.headOf_eq]
    · rw [List.getElem?_eq_none (by omega), List.getElem?_eq_none (by simpa using hbound)]
      rfl
  refine ⟨pairs, hpairs, ?_, ?_⟩
  · rw [← map_fst_readIcons, hreading, List.map_map, ← hheads]
    rfl
  · intro i pair hpair
    rcases hicon i pair hpair with ⟨icon, hi, hshows⟩
    rcases hshows.holdDigits (by omega) hvalid with ⟨digits, hdigits, hcount, hpixels⟩
    refine ⟨rowsOf icon, digits, ?_, hdigits, hcount, hpixels⟩
    rw [hreading, List.getElem?_map, hi, Option.map_some, reading, hshows.headOf_eq]

/-- A sheet with two icons inside one block. -/
def twoIcons : Sheet :=
  ⟨"\x7b\x7b0xff000000\x7d, \x7b0x00000000\x7d\x7d", 1, unknownSource⟩

/-- Two icons compiled under the settings of a user who chooses nothing. -/
theorem compile_readBack_twoIcons :
    ∃ document, (compile Settings.standard none twoIcons).outcome = .ok document ∧
      ∃ pairs, InnermostPairs twoIcons.text.toList pairs ∧
        ((lines document.text.toList).filter fun line => IsIconLine line) =
          (List.range pairs.length).map numberedLine := by
  have hvalid : Settings.standard.Valid := ⟨⟨[], []⟩, by decide +kernel⟩
  obtain ⟨document, hdocument⟩ : ∃ document,
      (compile Settings.standard none twoIcons).outcome = .ok document := ⟨_, by rfl⟩
  obtain ⟨pairs, hpairs, hlines, -⟩ := compile_readBack (by decide : 1 ≤ twoIcons.size) hvalid
    (by decide : '\n' ∉ Settings.standard.macroImport.toList) hdocument
  exact ⟨document, hdocument, pairs, hpairs, hlines⟩

end IconPress
