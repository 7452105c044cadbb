import IconPress.Traced

/-!
# Blocks of a sheet

A sheet nests blocks in braces.  The innermost ones, which hold no further braces, are the icons.
One pass over the text finds them and notices every brace without its partner.

Main definitions:

- `Block`: an innermost block with the position of its opening brace.
- `Scanner`: the state of the pass, moved on by one character with `Scanner.step`.
- `innermostBlocks`: the blocks of a text in order, or the first fault of its braces.
-/

namespace IconPress

/-- A position: lines and columns count from one, and only line feeds end a line. -/
structure Position where
  line : Nat
  column : Nat
deriving DecidableEq, Repr

namespace Position

/-- The first position of a text. -/
def start : Position :=
  ⟨1, 1⟩

/-- The position after a character. -/
def after (position : Position) (c : Char) : Position :=
  if c = '\n' then ⟨position.line + 1, 1⟩ else ⟨position.line, position.column + 1⟩

end Position

/-- What stands between the braces of an innermost block, and where the block begins. -/
structure Block where
  body : String
  position : Position
deriving DecidableEq, Repr

/-- A block that may turn out innermost: no brace has followed its opening one. -/
structure OpenBlock where
  /-- What has followed, in reverse. -/
  seen : List Char
  position : Position
deriving Repr

/-- The block that an open block becomes with its closing brace. -/
def OpenBlock.close (block : OpenBlock) : Block :=
  ⟨String.ofList block.seen.reverse, block.position⟩

/-- The state of a pass over a text. -/
structure Scanner where
  /-- The position of the next character. -/
  position : Position
  /-- The number of braces that are open. -/
  depth : Nat
  /-- The block opened last, while it can be innermost. -/
  opened : Option OpenBlock
  /-- The innermost blocks so far, the last one first. -/
  found : List Block
deriving Repr

namespace Scanner

/-- The state before the first character. -/
def start : Scanner :=
  ⟨.start, 0, none, []⟩

/-- Take one more character; a closing brace needs an open one. -/
def step (scanner : Scanner) (c : Char) : Except Failure Scanner :=
  let next := scanner.position.after c
  if c = '{' then
    .ok ⟨next, scanner.depth + 1, some ⟨[], scanner.position⟩, scanner.found⟩
  else if c = '}' then
    match scanner.depth with
    | 0 => .error (.unbalanced scanner.position.line scanner.position.column)
    | depth + 1 =>
      match scanner.opened with
      | some block => .ok ⟨next, depth, none, block.close :: scanner.found⟩
      | none => .ok ⟨next, depth, none, scanner.found⟩
  else
    let opened := scanner.opened.map fun block => { block with seen := c :: block.seen }
    .ok ⟨next, scanner.depth, opened, scanner.found⟩

/-- The blocks found, unless a brace is still open. -/
def finish (scanner : Scanner) : Except Failure (List Block) :=
  if scanner.depth = 0 then .ok scanner.found.reverse else .error .unterminated

end Scanner

/-- The innermost blocks of a text, in order. -/
def innermostBlocks (text : String) : Except Failure (List Block) := do
  let scanner ← text.toList.foldlM Scanner.step .start
  scanner.finish

end IconPress
