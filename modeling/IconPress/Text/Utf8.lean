import IconPress.Text.Quoted

/-!
# UTF-8

Encoding, and strict decoding that reports the first flaw with its position.  A flaw covers the
bytes of the sequence that were good so far, so the position of the flaw and the sequence it spoils
are told apart.

Main definitions:

- `Utf8.encode`: the bytes of a text.
- `Utf8.decode`: the text of the bytes, or the first `Utf8.Flaw`.
-/

namespace IconPress
namespace Text
namespace Utf8

/-- The bytes of a text. -/
def encode (text : List Char) : List UInt8 :=
  text.flatMap String.utf8EncodeChar

/-- What can be wrong with a sequence of bytes. -/
inductive Reason where
  /-- The byte begins no sequence. -/
  | invalidStart
  /-- The byte after the flawed ones does not continue their sequence. -/
  | invalidContinuation
  /-- The input ends inside the sequence. -/
  | unexpectedEnd
deriving DecidableEq, Repr

/-- The wording of a reason. -/
def Reason.message : Reason → String
  | .invalidStart => "invalid start byte"
  | .invalidContinuation => "invalid continuation byte"
  | .unexpectedEnd => "unexpected end of data"

/-- The bytes from offset `first` to offset `last`, of which `lead` is the first, form no text. -/
structure Flaw where
  first : Nat
  last : Nat
  lead : UInt8
  reason : Reason
deriving DecidableEq, Repr

/-- The wording of a flaw: a single byte is shown, several are named by their offsets alone. -/
def Flaw.message (flaw : Flaw) : String :=
  if flaw.first = flaw.last then
    let shown := String.ofList (hexDigits 2 flaw.lead.toNat)
    s!"'utf-8' codec can't decode byte 0x{shown} in position {flaw.first}: {flaw.reason.message}"
  else
    s!"'utf-8' codec can't decode bytes in position {flaw.first}-{flaw.last}: " ++
      flaw.reason.message

/-- A sequence that has begun and still needs bytes. -/
structure Pending where
  /-- The offset of the first byte. -/
  first : Nat
  /-- The first byte. -/
  lead : UInt8
  /-- The number of bytes to come after the next one. -/
  later : Nat
  /-- The least value that the next byte may have. -/
  low : Nat
  /-- The greatest value that the next byte may have. -/
  high : Nat
  /-- The code point as far as it is known. -/
  point : Nat
deriving DecidableEq, Repr

/--
The sequence that a byte above the ASCII range begins.  The bounds of the second byte exclude
overlong forms, surrogates and code points beyond the last one.
-/
def Pending.ofLead? (first : Nat) (lead : UInt8) : Option Pending :=
  let n := lead.toNat
  if n < 0xc2 then none
  else if n < 0xe0 then some ⟨first, lead, 0, 0x80, 0xbf, n - 0xc0⟩
  else if n < 0xf0 then
    some ⟨first, lead, 1, if n = 0xe0 then 0xa0 else 0x80, if n = 0xed then 0x9f else 0xbf,
      n - 0xe0⟩
  else if n < 0xf5 then
    some ⟨first, lead, 2, if n = 0xf0 then 0x90 else 0x80, if n = 0xf4 then 0x8f else 0xbf,
      n - 0xf0⟩
  else none

/-- A decoding under way: the offset reached, an open sequence, and the text in reverse. -/
structure Decoding where
  offset : Nat
  pending : Option Pending
  done : List Char
deriving Repr

/-- Take one more byte. -/
def Decoding.step (state : Decoding) (byte : UInt8) : Except Flaw Decoding :=
  let n := byte.toNat
  match state.pending with
  | none =>
    if n < 0x80 then
      .ok ⟨state.offset + 1, none, Char.ofNat n :: state.done⟩
    else
      match Pending.ofLead? state.offset byte with
      | some pending => .ok ⟨state.offset + 1, some pending, state.done⟩
      | none => .error ⟨state.offset, state.offset, byte, .invalidStart⟩
  | some pending =>
    if pending.low ≤ n && n ≤ pending.high then
      let point := 64 * pending.point + (n - 0x80)
      match pending.later with
      | 0 => .ok ⟨state.offset + 1, none, Char.ofNat point :: state.done⟩
      | later + 1 =>
        .ok ⟨state.offset + 1, some ⟨pending.first, pending.lead, later, 0x80, 0xbf, point⟩,
          state.done⟩
    else
      .error ⟨pending.first, state.offset - 1, pending.lead, .invalidContinuation⟩

/-- The text, unless a sequence is still open. -/
def Decoding.finish (state : Decoding) : Except Flaw (List Char) :=
  match state.pending with
  | none => .ok state.done.reverse
  | some pending => .error ⟨pending.first, state.offset - 1, pending.lead, .unexpectedEnd⟩

/-- The text that bytes encode, or their first flaw. -/
def decode (bytes : List UInt8) : Except Flaw (List Char) := do
  let state ← bytes.foldlM Decoding.step ⟨0, none, []⟩
  state.finish

end Utf8
end Text
end IconPress
