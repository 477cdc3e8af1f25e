/-
Tables of code points in a compact notation.

* `Table.read`: a table from its notation. Entries stand between blanks and
  line breaks; an entry is a code point or a closed range `first-last`,
  followed by `/step` if only every so many code points of the range count, and
  by `>` and numbers between `+` if the entry gives values. All numbers are in
  base 16.
* `Table.find?`, `Table.has`: the entry of a code point.
-/
namespace Vendoring.Text

/-- Whether a code point lies in one of the ranges. -/
def inRanges (ranges : List (Nat × Nat)) (n : Nat) : Bool :=
  ranges.any fun r => r.1 ≤ n && n ≤ r.2

/-- Some code points and the values that belong to them. -/
structure Entry where
  first : Nat
  last : Nat
  step : Nat
  values : List Nat
deriving DecidableEq, Repr

/-- Whether an entry is about a code point. -/
def Entry.covers (e : Entry) (n : Nat) : Bool :=
  e.first ≤ n && n ≤ e.last && (n - e.first) % e.step == 0

/-- A table lists its entries in ascending order. -/
abbrev Table := List Entry

namespace Table

/-- The value of a digit in base 16, letters in upper case. -/
def digitValue (c : Char) : Nat := if c.isDigit then c.toNat - 0x30 else c.toNat - 0x37

/-- The number that digits spell. -/
def number (digits : String) : Nat := digits.toList.foldl (fun n c => 16 * n + digitValue c) 0

/-- The entry that a source and values spell. -/
def entryOf (source : String) (values : List Nat) : Entry :=
  let (range, step) := match source.splitOn "/" with
    | [range, step] => (range, number step)
    | _ => (source, 1)
  match (range.splitOn "-").map number with
  | [first, last] => ⟨first, last, step, values⟩
  | _ => ⟨number range, number range, step, values⟩

/-- One entry. -/
def entry (text : String) : Entry :=
  match text.splitOn ">" with
  | [source, values] => entryOf source ((values.splitOn "+").map number)
  | _ => entryOf text []

/-- The table a text spells. -/
def read (text : String) : Table :=
  ((text.map fun c => if c == '\n' then ' ' else c).splitOn " ").filterMap fun word =>
    if word.isEmpty then none else some (entry word)

/-- The entry of a code point. Entries that begin beyond it are not looked
at. -/
def find? (n : Nat) : Table → Option Entry
  | [] => none
  | e :: rest => if n < e.first then none else if e.covers n then some e else find? n rest

/-- Whether a table is about a code point. -/
def has (t : Table) (n : Nat) : Bool := (t.find? n).isSome

end Table

end Vendoring.Text
