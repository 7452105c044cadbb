import IconPress.Proofs.Conservation
import IconPress.Proofs.Effects
import IconPress.Proofs.Numerals
import IconPress.Proofs.Turnover

/-!
# The history of an output directory

Documents for one directory are published again and again, of several sizes and at any times.  The
files in the directory then tell the whole history: for each size the latest text is under the name
of the output, and every earlier one is under the archive name that it got when the next text came.

Main definitions:

- `Turn`: one call with a compiled document.
- `History`: calls that all return, with nothing else happening in the directory.
- `Turn.restingPlace`: where the text of a call is, given the next call for the same size.

Main results:

- `restingName_injective`: outputs and archives have names that tell their sizes.
- `Kept.turn`: what one more call does to the texts that are kept.
- `history_complete`: the files that any number of calls leaves behind.
-/

namespace IconPress

/-! ## Names of outputs and archives -/

namespace Path

/-- Read from its end, a text without a dot does not stop anywhere. -/
theorem ne_dot_of_mem_reverse {text : List Char} (hdot : '.' ∉ text) :
    ∀ c ∈ text.reverse, decide (c ≠ '.') = true := by
  intro c hc
  refine decide_eq_true ?_
  rintro rfl
  exact hdot (List.mem_reverse.1 hc)

/-- What comes after the last dot of a name. -/
theorem reverse_takeWhile_reverse {back : List Char} (hdot : '.' ∉ back) (front : List Char) :
    ((front ++ '.' :: back).reverse.takeWhile (· ≠ '.')).reverse = back := by
  rw [List.reverse_append, List.reverse_cons, List.append_assoc,
    List.takeWhile_append_of_pos (ne_dot_of_mem_reverse hdot), List.singleton_append,
    List.takeWhile_cons_of_neg (by simp), List.append_nil, List.reverse_reverse]

/-- A name is cut before its last dot. -/
theorem splitName_append {front back : List Char} (hfront : front ≠ []) (hback : back ≠ [])
    (hdot : '.' ∉ back) : splitName (front ++ '.' :: back) = (front, '.' :: back) := by
  have hfrontLength := List.length_pos_of_ne_nil hfront
  have hbackLength := List.length_pos_of_ne_nil hback
  have hlength : (front ++ '.' :: back).length = front.length + 1 + back.length := by
    simp [Nat.add_assoc, Nat.add_comm 1]
  have hstem : front.length + 1 + back.length - back.length - 1 = front.length := by omega
  unfold splitName
  simp only [reverse_takeWhile_reverse hdot, hlength, hstem]
  rw [if_pos (by simp; omega)]
  simp

end Path

/-- The name of the output for icons of a size. -/
def outputName (size : Int) : String :=
  s!"icons{size}.rs"

/-- An archive name, from the halves of a name. -/
theorem toList_stampedName (name : String) (now : Instant) :
    (stampedName name now).toList = (Path.splitName name.toList).1 ++
      '_' :: (now.stamp.toList ++ ".old".toList ++ (Path.splitName name.toList).2) := by
  have hmark : "_".toList = ['_'] := rfl
  simp only [stampedName, Path.stem, Path.suffix, String.toList_append, String.toList_ofList,
    List.append_assoc, hmark, List.cons_append, List.nil_append]

/-- The name of an output, or its archive name for a time. -/
def restingName (size : Int) : Option Instant → String
  | none => outputName size
  | some now => stampedName (outputName size) now

/-- What the names of an output and of its archives have in common. -/
def outputStem (size : Int) : List Char :=
  "icons".toList ++ size.repr.toList

section Names

variable {size other : Int} {now later : Option Instant}

theorem toList_outputName (size : Int) :
    (outputName size).toList = outputStem size ++ '.' :: ['r', 's'] := by
  change ("icons" ++ size.repr ++ ".rs").toList = _
  rw [String.toList_append, String.toList_append]
  rfl

theorem outputStem_injective : Function.Injective outputStem := by
  intro size other heq
  exact Text.Numeral.repr_int_injective (String.toList_inj.1 (List.append_cancel_left heq))

theorem outputName_injective : Function.Injective outputName := by
  intro size other heq
  have hlists := congrArg String.toList heq
  rw [toList_outputName, toList_outputName] at hlists
  exact outputStem_injective (List.append_cancel_right hlists)

theorem outputStem_ne_nil (size : Int) : outputStem size ≠ [] :=
  List.append_ne_nil_of_left_ne_nil (by decide) _

theorem not_mem_outputStem (size : Int) : '_' ∉ outputStem size :=
  List.not_mem_append (by decide) (Text.Numeral.not_mem_repr_int (by decide) (by decide) size)

theorem not_mem_outputName (size : Int) : '_' ∉ (outputName size).toList := by
  rw [toList_outputName]
  exact List.not_mem_append (not_mem_outputStem size) (by decide)

/-- An archive name begins like the name of the output. -/
theorem exists_toList_stampedName (size : Int) (now : Instant) :
    ∃ rest, (stampedName (outputName size) now).toList = outputStem size ++ '_' :: rest := by
  rw [toList_stampedName, toList_outputName, Path.splitName_append (outputStem_ne_nil size)
    (by simp) (by decide)]
  exact ⟨_, rfl⟩

/-- The names of outputs and archives tell their sizes and which of the two they are. -/
theorem restingName_injective (h : restingName size now = restingName other later) :
    size = other ∧ (now = none ↔ later = none) := by
  have hmixed : ∀ {size other now}, restingName size none ≠ restingName other (some now) := by
    intro size other now heq
    have hmem := mem_stampedName (outputName other) now
    rw [restingName, restingName] at heq
    rw [← heq] at hmem
    exact not_mem_outputName size hmem
  cases now with
  | none =>
      cases later with
      | none => exact ⟨outputName_injective h, by simp⟩
      | some later => exact absurd h hmixed
  | some now =>
      cases later with
      | none => exact absurd h.symm hmixed
      | some later =>
          rcases exists_toList_stampedName size now with ⟨rest, hrest⟩
          rcases exists_toList_stampedName other later with ⟨more, hmore⟩
          have hlists := congrArg String.toList h
          rw [restingName, restingName, hrest, hmore] at hlists
          have hstems := Text.cut_first_unique (not_mem_outputStem size)
            (not_mem_outputStem other) hlists
          exact ⟨outputStem_injective hstems.1, by simp⟩

/-- Only an output has the name of one. -/
theorem eq_none_of_restingName_eq (h : restingName size now = outputName other) :
    size = other ∧ now = none := by
  have hsame : restingName size now = restingName other none := h
  rcases restingName_injective hsame with ⟨hsize, hkind⟩
  exact ⟨hsize, hkind.2 rfl⟩

/-- The names begin with a letter. -/
theorem exists_toList_restingName (size : Int) (now : Option Instant) :
    ∃ rest, (restingName size now).toList = 'i' :: rest := by
  cases now with
  | none =>
      rw [restingName, toList_outputName]
      exact ⟨_, rfl⟩
  | some now =>
      rcases exists_toList_stampedName size now with ⟨rest, hrest⟩
      rw [restingName, hrest]
      exact ⟨_, rfl⟩

/-- The names are neither of the two that mean a directory. -/
theorem restingName_ne_dots (size : Int) (now : Option Instant) :
    restingName size now ≠ "." ∧ restingName size now ≠ ".." := by
  rcases exists_toList_restingName size now with ⟨rest, hrest⟩
  constructor
  · intro heq
    rw [heq] at hrest
    exact absurd (List.cons.inj hrest).1 (by decide)
  · intro heq
    rw [heq] at hrest
    exact absurd (List.cons.inj hrest).1 (by decide)

end Names

/-! ## Calls -/

/-- A call with a document that was compiled for an output directory. -/
structure Turn (outputDir : String) extends Call where
  size : Int
  compiled : ∃ (settings : Settings) (obstacle : Option String) (sheet : Sheet),
    settings.outputDir = outputDir ∧ sheet.size = size ∧
      (compile settings obstacle sheet).outcome = .ok document

/-- A call on a machine returns. -/
def Returns (machine : Machine) (call : Call) : Prop :=
  ∃ archive, (Machine.run { machine with faults := call.faults }
    (publish call.document call.now)).1 = .ok archive

/--
Nothing has changed in the directory that a path leads to: every name stands for the same, and none
newly leads to a directory, as a link could do after a change elsewhere.
-/
structure Undisturbed (path : Path) (before after : FileTree) : Prop where
  wellFormed : after.WellFormed
  same : ∀ name, after.entryUnder (path.child name) = before.entryUnder (path.child name)
  noDirectory : ∀ name, name ≠ "." → name ≠ ".." →
    after.find (path.child name) = .ok .directory → before.find (path.child name) = .ok .directory

/--
`History start turns machine`: on a machine there have been calls for an output directory, which
all returned, and in between nothing has changed in the directory.
-/
inductive History {outputDir : String} (start : Machine) :
    List (Turn outputDir) → Machine → Prop where
  | start : History start [] start
  | turn {turns : List (Turn outputDir)} {machine : Machine} {turn : Turn outputDir}
      (hbefore : History start turns machine) (hreturns : Returns machine turn.toCall) :
      History start (turns ++ [turn]) (serve machine turn.toCall)
  | elsewhere {turns : List (Turn outputDir)} {before after : Machine}
      (hbefore : History start turns before)
      (hsame : Undisturbed (Path.parse outputDir) before.tree after.tree) :
      History start turns after

/-- The calls for a size. -/
def turnsOf {outputDir : String} (size : Int) (turns : List (Turn outputDir)) :
    List (Turn outputDir) :=
  turns.filter (·.size = size)

/-- Where the text of a call is, given the next call for the same size, if there is one. -/
def Turn.restingPlace {outputDir : String} (turn : Turn outputDir) :
    Option (Turn outputDir) → Except Failure Path
  | none => .ok turn.document.path
  | some next => next.document.path.archivedAt next.now

section Turns

variable {outputDir : String}

theorem Turn.path_eq (turn : Turn outputDir) :
    turn.document.path = (Path.parse outputDir).child (outputName turn.size) := by
  rcases turn.compiled with ⟨settings, obstacle, sheet, rfl, hsize, hcompiled⟩
  rw [← hsize]
  exact path_of_compile hcompiled

theorem Turn.archivedAt_eq (turn : Turn outputDir) (now : Instant) :
    turn.document.path.archivedAt now =
      .ok ((Path.parse outputDir).child (restingName turn.size (some now))) := by
  rw [turn.path_eq, Path.archivedAt, Path.archiveName, Path.name?_child]
  simp only [Except.map, Path.withName_child]
  rfl

theorem size_of_mem_turnsOf {size : Int} {turns : List (Turn outputDir)} {turn : Turn outputDir}
    (h : turn ∈ turnsOf size turns) : turn ∈ turns ∧ turn.size = size := by
  simpa [turnsOf] using h

/-- Where the text of a call is, by the names of the directory. -/
theorem Turn.restingPlace_eq {size : Int} {turns : List (Turn outputDir)} {index : Nat}
    {turn : Turn outputDir} (h : (turnsOf size turns)[index]? = some turn) :
    turn.restingPlace (turnsOf size turns)[index + 1]? = .ok ((Path.parse outputDir).child
      (restingName size ((turnsOf size turns)[index + 1]?.map (·.now)))) := by
  cases hnext : (turnsOf size turns)[index + 1]? with
  | none =>
      rw [restingPlace, turn.path_eq, (size_of_mem_turnsOf (List.mem_of_getElem? h)).2]
      rfl
  | some next =>
      rw [restingPlace, next.archivedAt_eq, (size_of_mem_turnsOf (List.mem_of_getElem? hnext)).2]
      rfl

theorem turnsOf_concat_self (turns : List (Turn outputDir)) (turn : Turn outputDir) :
    turnsOf turn.size (turns ++ [turn]) = turnsOf turn.size turns ++ [turn] := by
  simp [turnsOf]

theorem turnsOf_concat_of_ne {size : Int} {turn : Turn outputDir} (hne : turn.size ≠ size)
    (turns : List (Turn outputDir)) : turnsOf size (turns ++ [turn]) = turnsOf size turns := by
  simp [turnsOf, hne]

/-- One more call is the last one. -/
theorem getElem?_concat_eq_some {α : Type} {calls : List α} {last call : α} {index : Nat}
    (h : (calls ++ [last])[index]? = some call) :
    calls[index]? = some call ∨ (call = last ∧ index = calls.length) := by
  grind

/-- Of the other calls, it is the next one of the last one only. -/
theorem getElem?_concat_cases {α : Type} {calls : List α} {last call : α} {index : Nat}
    (h : (calls ++ [last])[index]? = some call) :
    (calls[index]? = some call ∧ ∃ next, calls[index + 1]? = some next ∧
      (calls ++ [last])[index + 1]? = some next) ∨
    (calls[index]? = some call ∧ calls[index + 1]? = none ∧
      (calls ++ [last])[index + 1]? = some last) ∨
    (call = last ∧ (calls ++ [last])[index + 1]? = none) := by
  grind

end Turns

/-! ## What one call does to the texts -/

/-- The texts of all calls are in the directory, and no two archives have one name. -/
structure Kept {outputDir : String} (start : FileTree) (turns : List (Turn outputDir))
    (tree : FileTree) : Prop where
  wellFormed : tree.WellFormed
  noDirectory : ∀ name, name ≠ "." → name ≠ ".." →
    tree.find ((Path.parse outputDir).child name) = .ok .directory →
      start.find ((Path.parse outputDir).child name) = .ok .directory
  held : ∀ size index turn, (turnsOf size turns)[index]? = some turn →
    tree.entryUnder ((Path.parse outputDir).child
      (restingName size ((turnsOf size turns)[index + 1]?.map (·.now)))) =
        some (.file (Text.Utf8.encode turn.document.text.toList))
  apart : ∀ size first second turn other, (turnsOf size turns)[first + 1]? = some turn →
    (turnsOf size turns)[second + 1]? = some other →
      restingName size (some turn.now) = restingName size (some other.now) → first = second

namespace Kept

variable {outputDir : String} {start tree after : FileTree} {turns : List (Turn outputDir)}

theorem nil (hwell : start.WellFormed) : Kept start ([] : List (Turn outputDir)) start where
  wellFormed := hwell
  noDirectory := fun _ _ _ h => h
  held := by simp [turnsOf]
  apart := by simp [turnsOf]

theorem elsewhere (h : Kept start turns tree)
    (hsame : Undisturbed (Path.parse outputDir) tree after) : Kept start turns after where
  wellFormed := hsame.wellFormed
  noDirectory := fun name hdot hdots hfind =>
    h.noDirectory name hdot hdots (hsame.noDirectory name hdot hdots hfind)
  held := by
    intro size index turn hturn
    rw [hsame.same, h.held size index turn hturn]
  apart := h.apart

/-- Where a text is kept, something is present. -/
theorem present_eq (h : Kept start turns tree) {size : Int} {index : Nat} {turn : Turn outputDir}
    (hturn : (turnsOf size turns)[index]? = some turn) :
    tree.present ((Path.parse outputDir).child
      (restingName size ((turnsOf size turns)[index + 1]?.map (·.now)))) = .ok true := by
  have hfind := FileTree.find_of_entryUnder (restingName_ne_dots _ _).1
    (h.held size index turn hturn)
  rw [FileTree.present, hfind]

section Call

variable {turn : Turn outputDir} {archive : Option String}

/-- After the first call for a size there is an output, which gets an archive name. -/
theorem archive_eq (h : Kept start turns tree)
    (hturnover : FileTree.Turnover (Path.parse outputDir) (outputName turn.size)
      (Text.Utf8.encode turn.document.text.toList) archive tree after)
    (hnamed : ∀ given, archive = some given → given = stampedName (outputName turn.size) turn.now)
    (hearlier : turnsOf turn.size turns ≠ []) :
    archive = some (restingName turn.size (some turn.now)) := by
  cases archive with
  | some given => rw [hnamed given rfl, restingName]
  | none =>
      have hlast := List.getLast?_eq_some_getLast hearlier
      rw [List.getLast?_eq_getElem?] at hlast
      have hheld := h.held _ _ _ hlast
      have hlength := List.length_pos_of_ne_nil hearlier
      rw [show (turnsOf turn.size turns)[(turnsOf turn.size turns).length - 1 + 1]? = none by
        rw [List.getElem?_eq_none]; omega] at hheld
      have hvacant := hturnover.vacant rfl
      rw [Option.map_none, restingName, hvacant] at hheld
      simp at hheld

/-- The archive name is none under which a text is kept. -/
theorem archive_ne (h : Kept start turns tree)
    (hturnover : FileTree.Turnover (Path.parse outputDir) (outputName turn.size)
      (Text.Utf8.encode turn.document.text.toList) archive tree after)
    {size : Int} {index : Nat} {kept : Turn outputDir}
    (hkept : (turnsOf size turns)[index]? = some kept) :
    archive ≠ some (restingName size ((turnsOf size turns)[index + 1]?.map (·.now))) := by
  intro heq
  have habsent := (hturnover.aside _ heq).1
  rw [h.present_eq hkept] at habsent
  simp at habsent

/-- One more call keeps all texts, though one of them under another name. -/
theorem call (h : Kept start turns tree)
    (hturnover : FileTree.Turnover (Path.parse outputDir) (outputName turn.size)
      (Text.Utf8.encode turn.document.text.toList) archive tree after)
    (hnamed : ∀ given, archive = some given →
      given = stampedName (outputName turn.size) turn.now) :
    Kept start (turns ++ [turn]) after where
  wellFormed := hturnover.wellFormed
  noDirectory := fun name hdot hdots hfind =>
    h.noDirectory name hdot hdots (hturnover.noDirectory name hdot hdots hfind)
  held := by
    have hstays : ∀ {size index kept}, (turnsOf size turns)[index]? = some kept →
        restingName size ((turnsOf size turns)[index + 1]?.map (·.now)) ≠ outputName turn.size →
        after.entryUnder ((Path.parse outputDir).child
          (restingName size ((turnsOf size turns)[index + 1]?.map (·.now)))) =
            some (.file (Text.Utf8.encode kept.document.text.toList)) := by
      intro size index kept hkept hother
      rw [hturnover.untouched _ hother (h.archive_ne hturnover hkept), h.held size index kept hkept]
    intro size index kept hkept
    by_cases hsize : turn.size = size
    · subst hsize
      rw [turnsOf_concat_self] at hkept ⊢
      rcases getElem?_concat_cases hkept with ⟨hold, next, hnext, hsame⟩ | ⟨hold, hlast, hnew⟩ |
        ⟨rfl, hnew⟩
      · -- An earlier text stays in its archive, which has not the name of the output.
        have hresting := hstays hold
        rw [hnext] at hresting
        rw [hsame]
        refine hresting fun heq => ?_
        simpa using (eq_none_of_restingName_eq heq).2
      · -- The latest text so far goes to the archive of this call.
        have harchive := h.archive_eq hturnover hnamed (List.ne_nil_of_mem
          (List.mem_of_getElem? hold))
        have hheld := h.held _ _ _ hold
        rw [hlast, Option.map_none, restingName] at hheld
        rw [hnew, Option.map_some, (hturnover.aside _ harchive).2, hheld]
      · rw [hnew, Option.map_none, restingName, hturnover.written]
    · rw [turnsOf_concat_of_ne hsize] at hkept ⊢
      exact hstays hkept fun heq => hsize (eq_none_of_restingName_eq heq).1.symm
  apart := by
    have hfresh : ∀ {index next}, (turnsOf turn.size turns)[index + 1]? = some next →
        restingName turn.size (some next.now) ≠ restingName turn.size (some turn.now) := by
      intro index next hnext heq
      have hmem := List.mem_of_getElem? hnext
      have harchive := h.archive_eq hturnover hnamed (List.ne_nil_of_mem hmem)
      obtain ⟨kept, hkept⟩ : ∃ kept, (turnsOf turn.size turns)[index]? = some kept := by
        grind
      refine h.archive_ne hturnover hkept ?_
      rw [harchive, hnext, Option.map_some, heq]
    intro size first second one other hone hother heq
    by_cases hsize : turn.size = size
    · subst hsize
      rw [turnsOf_concat_self] at hone hother
      rcases getElem?_concat_eq_some hone with hone | ⟨rfl, hfirst⟩
      · rcases getElem?_concat_eq_some hother with hother | ⟨rfl, -⟩
        · exact h.apart _ first second one other hone hother heq
        · exact absurd heq (hfresh hone)
      · rcases getElem?_concat_eq_some hother with hother | ⟨rfl, hsecond⟩
        · exact absurd heq.symm (hfresh hother)
        · omega
    · rw [turnsOf_concat_of_ne hsize] at hone hother
      exact h.apart size first second one other hone hother heq

end Call

end Kept

/-! ## Histories -/

section History

variable {outputDir : String} {start machine : Machine} {turns : List (Turn outputDir)}

/-- A call that returns is a turnover. -/
theorem turnover_of_returns (hdots : ".." ∉ (Path.parse outputDir).parts) {turn : Turn outputDir}
    (hwell : machine.tree.WellFormed)
    (hfind : machine.tree.find turn.document.path ≠ .ok .directory)
    (hreturns : Returns machine turn.toCall) :
    ∃ archive : Option String,
      (∀ given, archive = some given → given = stampedName (outputName turn.size) turn.now) ∧
      FileTree.Turnover (Path.parse outputDir) (outputName turn.size)
        (Text.Utf8.encode turn.document.text.toList) archive machine.tree
        (serve machine turn.toCall).tree := by
  rcases hreturns with ⟨returned, hreturned⟩
  have hrun : Machine.run { machine with faults := turn.faults } (publish turn.document turn.now) =
      (.ok returned, serve machine turn.toCall) := Prod.ext hreturned rfl
  obtain ⟨archive, -, hnamed, hturnover⟩ := turnover_of_publish (by exact hwell) turn.path_eq
    (Path.dot_not_mem_parse outputDir) hdots (restingName_ne_dots turn.size none).1
    (by exact hfind) hrun
  exact ⟨archive, hnamed, hturnover⟩

/-- The output of a call is no directory if it was none at the start. -/
theorem Kept.find_ne {tree : FileTree} {first : FileTree} (h : Kept first turns tree)
    (turn : Turn outputDir) (hfresh : first.find turn.document.path ≠ .ok .directory) :
    tree.find turn.document.path ≠ .ok .directory := by
  rcases restingName_ne_dots turn.size none with ⟨hdot, hdots⟩
  intro hfind
  rw [turn.path_eq] at hfresh hfind
  exact hfresh (h.noDirectory _ hdot hdots hfind)

/-- All texts are kept, however many calls there have been. -/
theorem History.kept (hdots : ".." ∉ (Path.parse outputDir).parts)
    (hwell : start.tree.WellFormed)
    (hfresh : ∀ turn ∈ turns, start.tree.find turn.document.path ≠ .ok .directory)
    (h : History start turns machine) : Kept start.tree turns machine.tree := by
  -- The induction is on the calls, and `Kept` is what each of them preserves.
  induction h with
  | start => exact .nil hwell
  | @turn turns machine turn _ hreturns ih =>
      have hkept := ih fun earlier hearlier => hfresh earlier (List.mem_append_left _ hearlier)
      have hfind := hkept.find_ne turn (hfresh turn (List.mem_append_right _ List.mem_cons_self))
      rcases turnover_of_returns hdots hkept.wellFormed hfind hreturns with
        ⟨archive, hnamed, hturnover⟩
      exact hkept.call hturnover hnamed
  | elsewhere _ hsame ih => exact (ih hfresh).elsewhere hsame

/--
The files of an output directory tell the history of the calls for it.  The calls have all
returned, nothing else has happened in the directory, and no output was a directory at the start;
so it is when there were no outputs at all.  For each size the text of the latest call is under the
name of the output, and the text of every earlier call is under the archive name that the next call
for the size gave it.  All these names are different, and a call that would give one of the archive
names again does not return.
-/
theorem history_complete (hdots : ".." ∉ (Path.parse outputDir).parts)
    (hwell : start.tree.WellFormed)
    (hfresh : ∀ turn ∈ turns, start.tree.find turn.document.path ≠ .ok .directory)
    (h : History start turns machine) :
    (∀ (size : Int) (index : Nat) (turn : Turn outputDir),
      (turnsOf size turns)[index]? = some turn → ∃ path,
      turn.restingPlace (turnsOf size turns)[index + 1]? = .ok path ∧
        machine.tree.entryUnder path =
          some (.file (Text.Utf8.encode turn.document.text.toList)) ∧
        machine.tree.read path = .ok (Text.Utf8.encode turn.document.text.toList)) ∧
    (∀ (size other : Int) (index later : Nat) (turn last : Turn outputDir),
      (turnsOf size turns)[index]? = some turn →
      (turnsOf other turns)[later]? = some last →
      turn.restingPlace (turnsOf size turns)[index + 1]? =
        last.restingPlace (turnsOf other turns)[later + 1]? → size = other ∧ index = later) ∧
    (∀ (size : Int) (index : Nat) (earlier : Turn outputDir),
      (turnsOf size turns)[index + 1]? = some earlier →
      ∀ turn : Turn outputDir, turn.document.path.archivedAt turn.now =
        earlier.document.path.archivedAt earlier.now → ¬Returns machine turn.toCall) := by
  have hkept := h.kept hdots hwell hfresh
  refine ⟨?_, ?_, ?_⟩
  · intro size index turn hturn
    have hheld := hkept.held size index turn hturn
    refine ⟨_, turn.restingPlace_eq hturn, hheld, ?_⟩
    rw [FileTree.read, FileTree.find_of_entryUnder (restingName_ne_dots _ _).1 hheld]
    rfl
  · intro size other index later turn last hturn hlast heq
    rw [turn.restingPlace_eq hturn, last.restingPlace_eq hlast, Except.ok.injEq,
      Path.child_inj] at heq
    rcases restingName_injective heq with ⟨rfl, hkind⟩
    refine ⟨rfl, ?_⟩
    -- Only the latest text of a size is under the name of the output.
    cases hnext : (turnsOf size turns)[index + 1]? with
    | none =>
        have hend : (turnsOf size turns)[later + 1]? = none := by
          simpa [hnext] using hkind
        grind
    | some next =>
        cases hafter : (turnsOf size turns)[later + 1]? with
        | none => simp [hnext, hafter] at hkind
        | some following =>
            rw [hnext, hafter] at heq
            exact hkept.apart size index later next following hnext hafter heq
  · intro size index earlier hearlier turn hsame hreturns
    rcases size_of_mem_turnsOf (List.mem_of_getElem? hearlier) with ⟨hmem, rfl⟩
    rw [turn.archivedAt_eq, earlier.archivedAt_eq, Except.ok.injEq, Path.child_inj] at hsame
    have hsize := (restingName_injective hsame).1
    have hfresh : start.tree.find turn.document.path ≠ .ok .directory := by
      rw [turn.path_eq, hsize, ← earlier.path_eq]
      exact hfresh earlier hmem
    rcases turnover_of_returns hdots hkept.wellFormed (hkept.find_ne turn hfresh) hreturns with
      ⟨archive, hnamed, hturnover⟩
    obtain ⟨kept, hbefore⟩ : ∃ kept, (turnsOf earlier.size turns)[index]? = some kept := by
      grind
    have hused := hkept.archive_eq hturnover hnamed (by
      rw [hsize]
      exact List.ne_nil_of_mem (List.mem_of_getElem? hbefore))
    refine hkept.archive_ne hturnover hbefore ?_
    rw [hused, hearlier, Option.map_some, hsame]

end History

/-- A machine without files. -/
def emptyMachine : Machine :=
  ⟨⟨[], []⟩, .none, []⟩

/-- The document of a sheet without icons. -/
theorem compile_emptySheet (settings : Settings) :
    (compile settings none emptySheet).outcome =
      .ok ⟨outputPath settings 5, structName 5, documentText settings 5 [], []⟩ :=
  rfl

/-- Settings for a directory, where documents use a macro. -/
def macroSettings (macroImport : String) : Settings :=
  { Settings.standard with outputDir := "out", macroImport := macroImport }

/-- A call at midnight with a document without icons, which uses a macro. -/
def midnightTurn (macroImport : String) : Turn "out" where
  document :=
    ⟨outputPath (macroSettings macroImport) 5, structName 5,
      documentText (macroSettings macroImport) 5 [], []⟩
  now := midnight
  faults := .none
  size := 5
  compiled :=
    ⟨macroSettings macroImport, none, emptySheet, rfl, rfl, compile_emptySheet _⟩

/-- Two calls in one second leave two texts, and a third one in that second does not return. -/
theorem history_complete_midnightTurn :
    ∃ machine, History emptyMachine [midnightTurn "old", midnightTurn "new"] machine ∧
      machine.tree.read (midnightTurn "new").document.path =
        .ok (Text.Utf8.encode (midnightTurn "new").document.text.toList) ∧
      machine.tree.read ((midnightTurn "new").document.path.withName midnightName) =
        .ok (Text.Utf8.encode (midnightTurn "old").document.text.toList) ∧
      ¬Returns machine (midnightTurn "third").toCall := by
  have hwell : emptyMachine.tree.WellFormed := ⟨by decide, by decide, by decide⟩
  have hfirst : Returns emptyMachine (midnightTurn "old").toCall := ⟨none, by decide +kernel⟩
  have hsecond : Returns (serve emptyMachine (midnightTurn "old").toCall)
      (midnightTurn "new").toCall :=
    ⟨some ((midnightTurn "new").document.path.withName midnightName), by decide +kernel⟩
  have hhistory : History emptyMachine [midnightTurn "old", midnightTurn "new"] _ :=
    (History.start.turn hfirst).turn hsecond
  have hfresh : ∀ turn ∈ [midnightTurn "old", midnightTurn "new"],
      emptyMachine.tree.find turn.document.path ≠ .ok .directory := by
    intro turn hturn
    rw [List.mem_cons, List.mem_singleton] at hturn
    rcases hturn with rfl | rfl
    · decide +kernel
    · decide +kernel
  obtain ⟨hkept, -, hclosed⟩ := history_complete (by decide) hwell hfresh hhistory
  rcases hkept 5 1 (midnightTurn "new") rfl with ⟨_, ⟨⟩, -, hlatest⟩
  rcases hkept 5 0 (midnightTurn "old") rfl with ⟨archive, harchive, -, hearlier⟩
  have hname : (midnightTurn "new").document.path.archivedAt midnight =
      .ok ((midnightTurn "new").document.path.withName midnightName) := by decide +kernel
  obtain rfl : archive = (midnightTurn "new").document.path.withName midnightName :=
    Except.ok.inj (harchive.symm.trans hname)
  exact ⟨_, hhistory, hlatest, hearlier, hclosed 5 0 (midnightTurn "new") rfl _ rfl⟩

end IconPress
