/-
Percent-encoding of text inside a URL.

* `Percent.encode`: every byte of a character that belongs to a set, or that
  is not ASCII, written `%HH`.
* `Percent.decode`: the bytes of a text with its escapes read; a percent sign
  that begins no escape stands for itself.
* `Percent.path`, `Percent.query`, `Percent.fragment`, ...: the sets, one for
  each part of a URL.
-/
import Vendoring.Text.Quoted

namespace Vendoring.Percent

/-! ### The sets -/

/-- Control characters of ASCII. -/
def control (c : Char) : Bool := c.toNat < 0x20 || c.toNat == 0x7F

/-- The characters escaped in a fragment. -/
def fragment (c : Char) : Bool := control c || [' ', '"', '<', '>', '\x60'].contains c

/-- The characters escaped in the query of a URL. -/
def query (c : Char) : Bool := control c || [' ', '"', '#', '<', '>'].contains c

/-- The characters escaped in the query of a URL with a special scheme. -/
def specialQuery (c : Char) : Bool := query c || c == '\x27'

/-- The characters escaped in a path. -/
def path (c : Char) : Bool := fragment c || ['#', '?', '\x7b', '\x7d'].contains c

/-- The characters escaped in a user name or password. -/
def userinfo (c : Char) : Bool :=
  path c || ['/', ':', ';', '=', '@', '[', '\\', ']', '^', '|'].contains c

/-! ### Encoding and decoding -/

/-- A byte as an escape. -/
def escape (b : UInt8) : List Char := '%' :: Text.hexByte b

/-- A character, escaped if it belongs to the set or is not ASCII. -/
def encodeChar (set : Char → Bool) (c : Char) : List Char :=
  if set c || 0x80 ≤ c.toNat then (Bytes.ofString (String.singleton c)).flatMap escape else [c]

/-- A text with the characters of a set escaped. Percent signs are kept. -/
def encode (set : Char → Bool) (text : List Char) : String :=
  String.ofList (text.flatMap (encodeChar set))

/-- The value of a digit in base 16. -/
def digit? (b : UInt8) : Option Nat :=
  if 0x30 ≤ b && b ≤ 0x39 then some (b.toNat - 0x30)
  else if 0x41 ≤ b && b ≤ 0x46 then some (b.toNat - 0x37)
  else if 0x61 ≤ b && b ≤ 0x66 then some (b.toNat - 0x57)
  else none

/-- The bytes of a text, escapes read as the bytes they stand for. -/
def decode : Bytes → Bytes
  | p :: a :: b :: rest =>
    match digit? a, digit? b with
    | some x, some y =>
      if p = 0x25 then (x * 16 + y).toUInt8 :: decode rest else p :: decode (a :: b :: rest)
    | _, _ => p :: decode (a :: b :: rest)
  | [p, a] => [p, a]
  | [p] => [p]
  | [] => []

end Vendoring.Percent
