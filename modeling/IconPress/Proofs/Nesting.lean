import IconPress.Proofs.Braces

/-!
# The nesting of a sheet

A sheet is a tree of blocks: runs of text and blocks stand one after another, and a block holds
such contents itself.  This module reads the innermost blocks off the tree, bottom up, and proves
that the scanner finds the same blocks in the text of the tree, whatever surrounds it.

Main definitions:

- `Content`: the tree of a sheet.
- `Content.spell`: the text of a tree.
- `Content.blocks`: the innermost blocks of a tree.

Main results:

- `Content.scan`: the scanner on the text of a tree, inside any other text.
- `exists_content_iff`: the balanced texts are the ones that have a tree.
- `innermostBlocks_flat`: the innermost blocks of a text, described without a pass over it.
-/

namespace IconPress

/-! ## Trees of blocks -/

/-- What a sheet or a block holds: runs of text and blocks, in order. -/
inductive Content where
  | nothing
  | text (run : List Char) (rest : Content)
  | block (inner rest : Content)
deriving Repr

namespace Content

/-- The text of a tree. -/
def spell : Content → List Char
  | nothing => []
  | text run rest => run ++ rest.spell
  | block inner rest => '{' :: inner.spell ++ '}' :: rest.spell

/-- Whether a run of text comes first. -/
def startsWithText : Content → Bool
  | text _ _ => true
  | _ => false

/-- Runs of text are not empty, hold no brace and reach as far as they can. -/
def Proper : Content → Prop
  | nothing => True
  | text run rest =>
    run ≠ [] ∧ (∀ c ∈ run, isBrace c = false) ∧ rest.startsWithText = false ∧ rest.Proper
  | block inner rest => inner.Proper ∧ rest.Proper

/-- Whether a block is among the contents. -/
def hasBlock : Content → Bool
  | nothing => false
  | text _ rest => rest.hasBlock
  | block _ _ => true

end Content

/-- The position after some characters. -/
def Position.afterAll (position : Position) (chars : List Char) : Position :=
  chars.foldl Position.after position

@[simp]
theorem Position.afterAll_nil (position : Position) : position.afterAll [] = position :=
  rfl

@[simp]
theorem Position.afterAll_cons (position : Position) (c : Char) (chars : List Char) :
    position.afterAll (c :: chars) = (position.after c).afterAll chars :=
  rfl

@[simp]
theorem Position.afterAll_append (position : Position) (front back : List Char) :
    position.afterAll (front ++ back) = (position.afterAll front).afterAll back := by
  simp [afterAll]

namespace Content

/--
The innermost blocks of a tree whose text begins at a position.  A block that holds blocks gives
way to those; any other block is innermost, and the runs in it form its body.
-/
def blocks : Position → Content → List Block
  | _, nothing => []
  | position, text run rest => rest.blocks (position.afterAll run)
  | position, block inner rest =>
    let inside := position.after '{'
    let own := if inner.hasBlock then inner.blocks inside
      else [⟨String.ofList inner.spell, position⟩]
    own ++ rest.blocks ((inside.afterAll inner.spell).after '}')

theorem blocks_of_not_hasBlock {content : Content} (h : content.hasBlock = false)
    (position : Position) : content.blocks position = [] := by
  induction content generalizing position with
  | nothing => rfl
  | text run rest ih => exact ih h _
  | block inner rest _ _ => simp [hasBlock] at h

/-! ## The scanner on a tree -/

/-- Text is added to the block under way. -/
theorem scan_run {run : List Char} (hplain : ∀ c ∈ run, isBrace c = false) (scanner : Scanner) :
    run.foldlM Scanner.step scanner = .ok ⟨scanner.position.afterAll run, scanner.depth,
      scanner.opened.map fun outer => ⟨run.reverse ++ outer.seen, outer.position⟩,
      scanner.found⟩ := by
  induction run generalizing scanner with
  | nil => simp [pure, Except.pure]
  | cons c run ih =>
      have hc := hplain c List.mem_cons_self
      simp only [isBrace, Bool.or_eq_false_iff, decide_eq_false_iff_not] at hc
      rw [List.foldlM_cons]
      simp only [Scanner.step, hc, if_false, bind, Except.bind]
      rw [ih fun d hd => hplain d (List.mem_cons_of_mem c hd)]
      simp [Option.map_map, Function.comp_def]

/--
The scanner on the text of a tree, in any surroundings: it comes back to the depth that it had,
and it has found the innermost blocks of the tree.  A block of the tree leaves no other block
under way.
-/
theorem scan {content : Content} (hproper : content.Proper) (scanner : Scanner) :
    content.spell.foldlM Scanner.step scanner = .ok ⟨scanner.position.afterAll content.spell,
      scanner.depth,
      if content.hasBlock then none
      else scanner.opened.map fun outer => ⟨content.spell.reverse ++ outer.seen, outer.position⟩,
      (content.blocks scanner.position).reverse ++ scanner.found⟩ := by
  induction content generalizing scanner with
  | nothing => simp [spell, hasBlock, blocks, pure, Except.pure]
  | text run rest ih =>
      rcases hproper with ⟨_, hplain, _, hrest⟩
      rw [spell, List.foldlM_append, scan_run hplain]
      simp only [bind, Except.bind]
      rw [ih hrest]
      simp [hasBlock, blocks, Option.map_map, Function.comp_def]
  | block inner rest ihInner ihRest =>
      rcases hproper with ⟨hinner, hrest⟩
      rw [spell, List.cons_append, List.foldlM_cons]
      simp only [Scanner.step, if_true, bind, Except.bind]
      rw [List.foldlM_append, ihInner hinner]
      simp only [bind, Except.bind]
      rw [List.foldlM_cons]
      cases hnested : inner.hasBlock with
      | true =>
          simp [Scanner.step, bind, Except.bind, ihRest hrest, hasBlock, blocks, hnested]
      | false =>
          simp [Scanner.step, bind, Except.bind, ihRest hrest, hasBlock, blocks, hnested,
            OpenBlock.close, blocks_of_not_hasBlock hnested]

/-- The scanner finds the innermost blocks of the tree of a text. -/
theorem innermostBlocks_spell {content : Content} (hproper : content.Proper) (text : String)
    (htext : content.spell = text.toList) :
    innermostBlocks text = .ok (content.blocks .start) := by
  have hscan := scan hproper .start
  rw [htext] at hscan
  unfold innermostBlocks
  rw [hscan]
  simp [Scanner.finish, Scanner.start, bind, Except.bind]

/-! ## A tree for every balanced text -/

/-- Put a character in front, into the first run of text if there is one. -/
def consText (c : Char) : Content → Content
  | text run rest => text (c :: run) rest
  | other => text [c] other

@[simp]
theorem spell_consText (c : Char) (content : Content) :
    (content.consText c).spell = c :: content.spell := by
  cases content <;> simp [consText, spell]

theorem Proper.consText {c : Char} {content : Content} (hc : isBrace c = false)
    (h : content.Proper) : (content.consText c).Proper := by
  cases content with
  | nothing => simp [Content.consText, Proper, startsWithText, hc]
  | text run rest =>
      rcases h with ⟨_, hplain, hnext, hrest⟩
      refine ⟨by simp, ?_, hnext, hrest⟩
      intro d hd
      rcases List.mem_cons.1 hd with rfl | hd
      · exact hc
      · exact hplain d hd
  | block inner rest =>
      refine ⟨by simp, ?_, rfl, h⟩
      intro d hd
      rw [List.mem_singleton] at hd
      exact hd ▸ hc

/-- The text of several trees, with the closing braces of the blocks that they end. -/
def spellOpen (first : Content) : List Content → List Char
  | [] => first.spell
  | second :: others => first.spell ++ '}' :: second.spellOpen others

/--
A text that closes `depth` blocks opened before it consists of `depth + 1` trees with the closing
braces between them.
-/
theorem exists_trees {text : List Char} {depth : Nat}
    (hcovered : ∀ front, front <+: text → front.count '}' ≤ depth + front.count '{')
    (heven : depth + text.count '{' = text.count '}') :
    ∃ first others, others.length = depth ∧ first.Proper ∧ (∀ tree ∈ others, tree.Proper) ∧
      spellOpen first others = text := by
  induction text generalizing depth with
  | nil => exact ⟨nothing, [], by simpa using heven.symm, trivial, by simp, rfl⟩
  | cons c rest ih =>
      have hfront : ∀ front, front <+: rest →
          (c :: front).count '}' ≤ depth + (c :: front).count '{' :=
        fun front h => hcovered (c :: front) ((List.prefix_cons_inj c).2 h)
      by_cases hopen : c = '{'
      · subst hopen
        obtain ⟨inner, others, hlength, hinner, hothers, hspell⟩ := @ih (depth + 1)
          (fun front h => by
            have := hfront front h
            simp at this
            omega)
          (by
            simp at heven
            omega)
        cases others with
        | nil => simp at hlength
        | cons next others =>
            refine ⟨block inner next, others, by simpa using hlength,
              ⟨hinner, hothers next List.mem_cons_self⟩,
              fun tree h => hothers tree (List.mem_cons_of_mem next h), ?_⟩
            rw [← hspell]
            cases others <;> simp [spellOpen, spell]
      by_cases hclose : c = '}'
      · subst hclose
        have hpositive := hcovered ['}'] (by simp)
        simp at hpositive
        obtain ⟨first, others, hlength, hfirst, hothers, hspell⟩ := @ih (depth - 1)
          (fun front h => by
            have := hfront front h
            simp at this
            omega)
          (by
            simp at heven
            omega)
        refine ⟨nothing, first :: others, by simp; omega, trivial, ?_, by
          simp [spellOpen, spell, hspell]⟩
        intro tree h
        rcases List.mem_cons.1 h with rfl | h
        · exact hfirst
        · exact hothers tree h
      · obtain ⟨first, others, hlength, hfirst, hothers, hspell⟩ := @ih depth
          (fun front h => by simpa [hopen, hclose] using hfront front h)
          (by simpa [hopen, hclose] using heven)
        refine ⟨first.consText c, others, hlength,
          hfirst.consText (by simp [isBrace, hopen, hclose]), hothers, ?_⟩
        rw [← hspell]
        cases others <;> simp [spellOpen]

end Content

/-- The balanced texts are the ones that have a tree. -/
theorem exists_content_iff (text : String) :
    (∃ content : Content, content.Proper ∧ content.spell = text.toList) ↔
      Balanced text.toList := by
  constructor
  · rintro ⟨content, hproper, htext⟩
    have hblocks := content.innermostBlocks_spell hproper text htext
    rcases innermostBlocks_cases text with ⟨hbalanced, _⟩ | ⟨_, _, herror⟩ | ⟨_, _, herror⟩
    · exact hbalanced
    · simp [hblocks] at herror
    · simp [hblocks] at herror
  · intro hbalanced
    obtain ⟨content, others, hlength, hproper, _, hspell⟩ :=
      @Content.exists_trees text.toList 0 (by simpa using hbalanced.covered)
        (by simpa using hbalanced.even)
    rw [List.length_eq_zero_iff] at hlength
    subst hlength
    exact ⟨content, hproper, hspell⟩

/-! ## The blocks of a text, by offsets -/

/--
The innermost blocks of a text are there exactly when its braces are balanced, that is, when the
text has a tree.  They are then the bodies of the pairs of braces with no brace between them, from
left to right, and the same blocks can be read off the tree.  Otherwise the first closing brace
without its opening one is reported, and if there is none, an open block.
-/
theorem innermostBlocks_flat (text : String) :
    let chars := text.toList
    ((∃ found, innermostBlocks text = .ok found) ↔ Balanced chars) ∧
    (Balanced chars ↔ ∃ content : Content, content.Proper ∧ content.spell = chars) ∧
    (∀ found, innermostBlocks text = .ok found →
      (∃ pairs, InnermostPairs chars pairs ∧ found = pairs.map (blockBetween chars)) ∧
      ∀ content : Content, content.Proper → content.spell = chars →
        found = content.blocks .start) ∧
    ((∃ front, front <+: chars ∧ front.count '{' < front.count '}') →
      ∃ stray failure, FirstStray chars stray ∧ innermostBlocks text = .error failure ∧
        failure.kind? = some .malformedGlyph ∧
        failure.message = "Unbalanced '\x7d'" ++
          s!" at line {lineAt chars stray}, col {columnAt chars stray}") ∧
    (¬Balanced chars → (∀ front, front <+: chars → front.count '}' ≤ front.count '{') →
      ∃ failure, innermostBlocks text = .error failure ∧
        failure.kind? = some .malformedGlyph ∧
        failure.message = "Unterminated '\x7b' block at end of input") := by
  intro chars
  refine ⟨?_, (exists_content_iff text).symm, ?_, ?_, ?_⟩
  all_goals
    rcases innermostBlocks_cases text with
      ⟨hbalanced, pairs, hpairs, hok⟩ | ⟨stray, hstray, herror⟩ | ⟨hcovered, hcount, herror⟩
  · exact ⟨fun _ => hbalanced, fun _ => ⟨_, hok⟩⟩
  · exact ⟨by simp [herror], fun h => absurd h hstray.not_balanced⟩
  · exact ⟨by simp [herror], fun h => absurd h.even hcount⟩
  · intro found hfound
    rw [hok, Except.ok.injEq] at hfound
    refine ⟨⟨pairs, hpairs, hfound.symm⟩, ?_⟩
    intro content hproper htext
    rw [content.innermostBlocks_spell hproper text htext, Except.ok.injEq] at hok
    exact hfound.symm.trans hok.symm
  · simp [herror]
  · simp [herror]
  · rintro ⟨front, hfront, hexceeds⟩
    exact absurd (hbalanced.covered front hfront) (Nat.not_le_of_lt hexceeds)
  · exact fun _ => ⟨stray, _, hstray, herror, rfl, rfl⟩
  · rintro ⟨front, hfront, hexceeds⟩
    exact absurd (hcovered front hfront) (Nat.not_le_of_lt hexceeds)
  · exact fun h => absurd hbalanced h
  · intro _ hcovered
    have := hcovered _ (List.take_prefix (stray + 1) chars)
    exact absurd hstray.exceeds (Nat.not_lt_of_le this)
  · exact fun _ _ => ⟨_, herror, rfl, rfl⟩

end IconPress
