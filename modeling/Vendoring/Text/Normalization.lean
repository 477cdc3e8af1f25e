/-
Texts with their characters put together.

* `decompose`: a composed character as its parts.
* `arrange`: marks in ascending order of their classes; marks of one class keep
  their order, and nothing passes a character without a class.
* `joinMarks`: every mark joined to the last character without a class, if
  nothing between them stands in the way.
* `composed`: all three after one another, so that texts which look alike are
  equal.
-/
import Vendoring.Text.Composition

namespace Vendoring.Text

/-- The class of a mark; other characters have class zero. -/
def combiningClass (c : Char) : Nat :=
  ((combiningClasses.find? c.toNat).bind (·.values.head?)).getD 0

/-! ### Syllables of Hangul -/

/-- The two parts of a syllable: its last consonant and what stands before it,
or its vowel and its first consonant. -/
def syllableParts? (n : Nat) : Option (Nat × Nat) :=
  if 0xAC00 ≤ n && n ≤ 0xD7A3 then
    let i := n - 0xAC00
    if i % 28 = 0 then some (0x1100 + i / 588, 0x1161 + i % 588 / 28)
    else some (n - i % 28, 0x11A7 + i % 28)
  else none

/-- The syllable of two parts. -/
def syllable? (a b : Nat) : Option Nat :=
  if 0x1100 ≤ a && a ≤ 0x1112 && 0x1161 ≤ b && b ≤ 0x1175 then
    some (0xAC00 + ((a - 0x1100) * 21 + (b - 0x1161)) * 28)
  else if 0xAC00 ≤ a && a ≤ 0xD7A3 && (a - 0xAC00) % 28 = 0 && 0x11A8 ≤ b && b ≤ 0x11C2 then
    some (a + (b - 0x11A7))
  else none

/-! ### Parts and wholes -/

/-- The two parts of a composed character. -/
def parts? (n : Nat) : Option (Nat × Nat) :=
  match syllableParts? n, composites.find? n with
  | some parts, _ => some parts
  | none, some ⟨_, _, _, [a, b]⟩ => some (a, b)
  | none, _ => none

/-- The character that two others make up. No character below U+0300 is a second
part. -/
def whole? (a b : Nat) : Option Nat :=
  if b < 0x300 then none
  else
    match syllable? a b with
    | some n => some n
    | none => (List.find? (fun e => e.values == [a, b]) composites).map (·.first)

/-- The parts of a character, its first part taken apart up to a depth. -/
def decomposeWithin : Nat → Nat → List Nat
  | 0, n => [n]
  | depth + 1, n =>
    match parts? n with
    | some (a, b) => decomposeWithin depth a ++ [b]
    | none => [n]

/-- A character as its parts. No character is composed more than three times
over. -/
def decompose (c : Char) : List Char := (decomposeWithin 3 c.toNat).map Char.ofNat

/-! ### Order of marks -/

/-- Puts a character at the end of a text, before marks of higher classes. The
text is held last character first. -/
def arrangeOne (c : Char) : List Char → List Char
  | [] => [c]
  | d :: passed =>
    if combiningClass c != 0 && combiningClass c < combiningClass d then
      d :: arrangeOne c passed
    else c :: d :: passed

/-- A text with its marks in order. -/
def arrange (text : List Char) : List Char :=
  (text.foldl (fun passed c => arrangeOne c passed) []).reverse

/-! ### Joining -/

/-- A text while marks are joined to it: what is finished, the last character
without a class, and the marks after it that could not be joined. All are held
last character first. -/
structure Joining where
  finished : List Char
  base : Option Char
  marks : List Char

/-- The text so far, last character first. -/
def Joining.passed (j : Joining) : List Char := j.marks ++ j.base.toList ++ j.finished

/-- Takes one more character. -/
def Joining.take (j : Joining) (c : Char) : Joining :=
  let isFree := j.marks.head?.all fun m => combiningClass m < combiningClass c
  match j.base.bind fun b => if isFree then whole? b.toNat c.toNat else none with
  | some n => { j with base := some (Char.ofNat n) }
  | none =>
    if combiningClass c = 0 then ⟨j.passed, some c, []⟩
    else { j with marks := c :: j.marks }

/-- A text with its marks joined to the characters they belong to. -/
def joinMarks (text : List Char) : List Char :=
  (text.foldl Joining.take ⟨[], none, []⟩).passed.reverse

/-- A text with its characters put together. -/
def composed (text : List Char) : List Char := joinMarks (arrange (text.flatMap decompose))

end Vendoring.Text
