/-
Byte strings and their reading as UTF-8.

* `Bytes.ofString`, `Bytes.toString?`: a text as its UTF-8 bytes, and the text
  that a byte string encodes.
* `Utf8.chunks`: a byte string cut into scalar values and maximal ill-formed
  subparts, by a machine that holds at most one unfinished sequence.
* `Utf8.lossy`: the chunks read with every ill-formed subpart replaced by
  U+FFFD.
-/
namespace Vendoring

/-- A byte string: a file name, the spelling of a path, or the content of a
file. -/
abbrev Bytes := List UInt8

namespace Bytes

/-- The UTF-8 bytes of a text. -/
def ofString (s : String) : Bytes := s.toByteArray.data.toList

/-- The text a byte string encodes, if it is well-formed UTF-8. -/
def toString? (b : Bytes) : Option String := String.fromUTF8? ⟨b.toArray⟩

end Bytes

namespace Utf8

/-- One piece of a byte string: a scalar value, or a maximal subpart that is
no part of a well-formed sequence. -/
inductive Chunk where
  | scalar (c : Char)
  | broken (bytes : Bytes)
deriving DecidableEq, Repr

/-- The sequence being read: the bytes seen, the payload they carry, how many
bytes are missing, and the range the next one must lie in. -/
structure Pending where
  seen : Bytes
  payload : Nat
  missing : Nat
  low : UInt8
  high : UInt8
deriving DecidableEq, Repr

/-- The first byte of a sequence. The range of the byte after it keeps out
overlong forms, surrogates and values above U+10FFFF. -/
def start (b : UInt8) : List Chunk × Option Pending :=
  if b < 0x80 then ([.scalar (Char.ofNat b.toNat)], none)
  else if b < 0xC2 then ([.broken [b]], none)
  else if b < 0xE0 then ([], some ⟨[b], b.toNat - 0xC0, 1, 0x80, 0xBF⟩)
  else if b = 0xE0 then ([], some ⟨[b], 0, 2, 0xA0, 0xBF⟩)
  else if b = 0xED then ([], some ⟨[b], 0xD, 2, 0x80, 0x9F⟩)
  else if b < 0xF0 then ([], some ⟨[b], b.toNat - 0xE0, 2, 0x80, 0xBF⟩)
  else if b = 0xF0 then ([], some ⟨[b], 0, 3, 0x90, 0xBF⟩)
  else if b < 0xF4 then ([], some ⟨[b], b.toNat - 0xF0, 3, 0x80, 0xBF⟩)
  else if b = 0xF4 then ([], some ⟨[b], 4, 3, 0x80, 0x8F⟩)
  else ([.broken [b]], none)

/-- One byte read. A byte that cannot continue the pending sequence breaks it
off and begins a sequence of its own. -/
def feed : Option Pending → UInt8 → List Chunk × Option Pending
  | none, b => start b
  | some p, b =>
    if p.low ≤ b ∧ b ≤ p.high then
      let payload := p.payload * 64 + (b.toNat - 0x80)
      if p.missing ≤ 1 then ([.scalar (Char.ofNat payload)], none)
      else ([], some ⟨p.seen ++ [b], payload, p.missing - 1, 0x80, 0xBF⟩)
    else
      (.broken p.seen :: (start b).1, (start b).2)

/-- The chunks of the bytes still to come, given the pending sequence. -/
def chunksFrom : Option Pending → Bytes → List Chunk
  | none, [] => []
  | some p, [] => [.broken p.seen]
  | p, b :: rest => (feed p b).1 ++ chunksFrom (feed p b).2 rest

/-- A byte string as scalar values and maximal ill-formed subparts. -/
def chunks (b : Bytes) : List Chunk := chunksFrom none b

/-- The character that stands for an ill-formed subpart. -/
def replacement : Char := '\uFFFD'

/-- The character a chunk is shown as. -/
def Chunk.shown : Chunk → Char
  | .scalar c => c
  | .broken _ => replacement

/-- The text of a byte string, every maximal ill-formed subpart replaced by
U+FFFD. -/
def lossy (b : Bytes) : String := String.ofList ((chunks b).map Chunk.shown)

end Utf8

end Vendoring
