/-
Labels of host names in ASCII.

* `Punycode.encode`: a label as ASCII letters, digits and hyphens. The ASCII
  characters stand first; then every other character, in ascending order of
  code points, is told by how far an insertion machine runs before it is put
  in.
* `Punycode.decode?`: the label that is told in this way. It is none where a
  number is not finished, runs too far or leads to no character.
-/
namespace Vendoring.Punycode

/-- Digit values 0 to 35 as `a` to `z` and `0` to `9`. -/
def digit (d : Nat) : Char := if d < 26 then Char.ofNat (0x61 + d) else Char.ofNat (0x16 + d)

/-- The least value that the digit at a position must reach for another digit
to follow. -/
def threshold (bias position : Nat) : Nat := max 1 (min 26 (position - bias))

/-- A number as digits of varying base, the lowest first. Only the last digit
lies below its threshold. -/
def distance (bias position n : Nat) : List Char :=
  let t := threshold bias position
  if n < t then [digit n]
  else digit (t + (n - t) % (36 - t)) :: distance bias (position + 36) ((n - t) / (36 - t))
termination_by n
decreasing_by
  have : 1 ≤ threshold bias position := Nat.le_max_left ..
  have := Nat.div_le_self (n - threshold bias position) (36 - threshold bias position)
  omega

/-- How often a number must be divided by 35 until it is at most 455, times
36, and what is left. -/
def shrink (n : Nat) : Nat × Nat :=
  if 455 < n then
    let (k, rest) := shrink (n / 35)
    (k + 36, rest)
  else (0, n)
termination_by n
decreasing_by omega

/-- The bias after a number was written for the character that is the
`count`-th of the label; a first number is damped more. -/
def adapt (n count : Nat) (first : Bool) : Nat :=
  let n := if first then n / 700 else n / 2
  let (k, rest) := shrink (n + n / count)
  k + 36 * rest / (rest + 38)

/-- The insertion machine: what it wrote, how far it ran since, the bias, and
how many characters are in place. -/
structure Machine where
  written : List Char
  run : Nat
  bias : Nat
  placed : Nat

/-- Passes one character of the label while inserting the code point `point`. -/
def Machine.pass (basic point : Nat) (m : Machine) (c : Char) : Machine :=
  if c.toNat < point then { m with run := m.run + 1 }
  else if c.toNat = point then
    ⟨m.written ++ distance m.bias 36 m.run, 0,
      adapt m.run (m.placed + 1) (m.placed == basic), m.placed + 1⟩
  else m

/-- Inserts code points in ascending order, from `least` on. -/
def Machine.insertAll (label : List Char) (basic : Nat) :
    List Nat → Nat → Machine → Machine
  | [], _, m => m
  | point :: points, least, m =>
    let m := { m with run := m.run + (point - least) * (m.placed + 1) }
    let m := label.foldl (Machine.pass basic point) m
    insertAll label basic points (point + 1) { m with run := m.run + 1 }

/-- A label in ASCII. -/
def encode (label : List Char) : List Char :=
  let basic := label.filter (·.toNat < 0x80)
  let points := ((label.filter (0x80 ≤ ·.toNat)).map Char.toNat).mergeSort.eraseDups
  let start : Machine := ⟨[], 0, 72, basic.length⟩
  basic ++ (if basic.isEmpty then [] else ['-']) ++
    (Machine.insertAll label basic.length points 0x80 start).written

/-! ### Reading back -/

/-- The value of a digit. -/
def value? (c : Char) : Option Nat :=
  if c.isLower then some (c.toNat - 0x61)
  else if c.isUpper then some (c.toNat - 0x41)
  else if c.isDigit then some (c.toNat - 0x16)
  else none

/-- How far the insertion machine may run. -/
def limit : Nat := 0x100000000

/-- Adds the number at the front of a text to `run`, and tells what follows it.
`weight` is what a digit at this position counts. -/
def advance? (bias position weight run : Nat) : List Char → Option (Nat × List Char)
  | [] => none
  | c :: rest =>
    match value? c with
    | none => none
    | some d =>
      let t := threshold bias position
      if limit ≤ run + d * weight then none
      else if d < t then some (run + d * weight, rest)
      else if limit ≤ weight * (36 - t) then none
      else advance? bias (position + 36) (weight * (36 - t)) (run + d * weight) rest

/-- A number takes up at least one character. -/
theorem length_of_advance? {bias position weight run n : Nat} {text rest : List Char}
    (h : advance? bias position weight run text = some (n, rest)) :
    rest.length < text.length := by
  induction text generalizing position weight run with
  | nil => simp [advance?] at h
  | cons c text ih =>
    simp only [advance?] at h
    split at h
    · simp at h
    · split at h
      · simp at h
      · split at h
        · simp only [Option.some.injEq, Prod.mk.injEq] at h
          simp [h.2]
        · split at h
          · simp at h
          · exact Nat.lt_succ_of_lt (ih h)

/-- Inserts characters into `placed` as the numbers of a text tell. `point` is
the code point that is inserted next, `run` the place where the last one was
put in. -/
def insertions? (placed : List Char) (point run bias : Nat) (text : List Char) :
    Option (List Char) :=
  if text.isEmpty then some placed
  else
    match _h : advance? bias 36 1 run text with
    | none => none
    | some (n, rest) =>
      let count := placed.length + 1
      let point := point + n / count
      if point.isValidChar then
        insertions? (placed.insertIdx (n % count) (Char.ofNat point)) point (n % count + 1)
          (adapt (n - run) count (run == 0)) rest
      else none
termination_by text.length
decreasing_by exact length_of_advance? _h

/-- The label that a text in ASCII spells. The ASCII characters of the label
stand before the last hyphen, which does not stand at the front. -/
def decode? (text : List Char) : Option (List Char) :=
  let basic := ((text.reverse.dropWhile (· ≠ '-')).drop 1).reverse
  let numbers := if basic.isEmpty then text else text.drop (basic.length + 1)
  insertions? basic 0x80 0 72 numbers

end Vendoring.Punycode
