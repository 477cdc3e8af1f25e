/-
Quoted text in messages and log lines.

* `quote`: a text between double quotes. Quotes and backslashes are escaped
  by a backslash; tab, line feed, carriage return and NUL have short escapes;
  every other character that is not shown as it is becomes `\u{hex}`.
* `quoteBytes`: the same for a path, where every byte of an ill-formed subpart
  is written `\xHH`.
-/
import Vendoring.Text.CharTable
import Vendoring.Text.Utf8

namespace Vendoring.Text

/-- Whether a character is shown as it is inside quotes, quotes and
backslashes apart. -/
def isPlain (c : Char) : Bool :=
  if c.toNat < 0x7F then 0x20 ≤ c.toNat
  else !inRanges unprintable c.toNat && !inRanges combining c.toNat

/-- The digits of a number in base 16, lower case, without padding. -/
def hexDigits (n : Nat) : List Char := Nat.toDigits 16 n

/-- A character inside double quotes. -/
def escape (c : Char) : List Char :=
  match c with
  | '"' => ['\\', '"']
  | '\\' => ['\\', '\\']
  | '\t' => ['\\', 't']
  | '\n' => ['\\', 'n']
  | '\r' => ['\\', 'r']
  | '\x00' => ['\\', '0']
  | c => if isPlain c then [c] else ['\\', 'u', '\x7b'] ++ hexDigits c.toNat ++ ['\x7d']

/-- A text between double quotes. -/
def quote (s : String) : String :=
  String.ofList ('"' :: s.toList.flatMap escape ++ ['"'])

/-- One byte in base 16, upper case, two digits. -/
def hexByte (b : UInt8) : List Char :=
  let digit (n : Nat) : Char := if n < 10 then Char.ofNat (48 + n) else Char.ofNat (55 + n)
  [digit (b.toNat / 16), digit (b.toNat % 16)]

/-- A chunk of a path inside double quotes. -/
def escapeChunk : Utf8.Chunk → List Char
  | .scalar c => escape c
  | .broken bytes => bytes.flatMap fun b => '\\' :: 'x' :: hexByte b

/-- A byte string between double quotes. -/
def quoteBytes (b : Bytes) : String :=
  String.ofList ('"' :: (Utf8.chunks b).flatMap escapeChunk ++ ['"'])

end Vendoring.Text
