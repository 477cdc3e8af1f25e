/-
Numbers, truth values and dates.

* `integer`: decimal, or with a base in front; it must fit 64 bits.
* `float`: decimal with a fraction or an exponent; a number above all finite
  doubles is refused.
* `dateTime`: a date, a time, or both, each part in its range.
* `scalar`: any of these.
-/
import Vendoring.Toml.Value

namespace Vendoring.Toml

/-- A decimal digit. -/
def isDecimal (c : Char) : Bool := '0' ≤ c && c ≤ '9'

/-- The value of a digit in any of the bases used here. -/
def digitValue (c : Char) : Nat :=
  if isDecimal c then c.toNat - 48
  else if 'a' ≤ c && c ≤ 'f' then c.toNat - 87
  else c.toNat - 55

/-- The number some digits spell. -/
def ofDigits (base : Nat) (digits : List Char) : Nat :=
  digits.foldl (fun n c => n * base + digitValue c) 0

/-- Digits, with single underscores between them, which are left out. -/
def moreDigits (isDigit : Char → Bool) : List Char → List Char × List Char
  | [] => ([], [])
  | '_' :: c :: rest =>
    if isDigit c then
      let x := moreDigits isDigit rest
      (c :: x.1, x.2)
    else ([], '_' :: c :: rest)
  | c :: rest =>
    if isDigit c then
      let x := moreDigits isDigit rest
      (c :: x.1, x.2)
    else ([], c :: rest)

/-- At least one digit, then more of them. -/
def digits (isDigit : Char → Bool) : Reader (List Char)
  | c :: rest =>
    if isDigit c then
      let x := moreDigits isDigit rest
      some (c :: x.1, x.2)
    else none
  | [] => none

/-- A sign, if there is one: whether it is a minus, and the text after it. -/
def sign : List Char → Bool × List Char
  | '-' :: rest => (true, rest)
  | '+' :: rest => (false, rest)
  | s => (false, s)

/-- The digits of a decimal number, which has no needless zero in front. -/
def decimalDigits : Reader (List Char)
  | '0' :: rest => some (['0'], rest)
  | s => digits isDecimal s

/-- Integers fit 64 bits with a sign. -/
def fits (n : Int) : Bool := -0x8000000000000000 ≤ n && n ≤ 0x7FFFFFFFFFFFFFFF

/-- A number in another base than ten, after the mark of the base. -/
def basedInteger (base : Nat) (isDigit : Char → Bool) : Reader Value
  | s => do
    let (ds, rest) ← digits isDigit s
    let n : Int := ofDigits base ds
    if fits n then some (.integer n, rest) else none

/-- An integer. -/
def integer : Reader Value
  | '0' :: 'x' :: s =>
    basedInteger 16 (fun c => isDecimal c || ('a' ≤ c && c ≤ 'f') || ('A' ≤ c && c ≤ 'F')) s
  | '0' :: 'o' :: s => basedInteger 8 (fun c => '0' ≤ c && c ≤ '7') s
  | '0' :: 'b' :: s => basedInteger 2 (fun c => c == '0' || c == '1') s
  | s => do
    let (negative, s) := sign s
    let (ds, rest) ← decimalDigits s
    let n : Int := ofDigits 10 ds
    let n := if negative then -n else n
    if fits n then some (.integer n, rest) else none

/-! ### Floats -/

/-- Whether `m * 10 ^ e` rounds to a finite double: it is below the middle
between the largest double and the next power of two. -/
def isFinite (m : Nat) (e : Int) : Bool :=
  let limit := Nat.pow 2 1024 - Nat.pow 2 970
  if m = 0 then true
  else if 310 < e then false
  else if 0 ≤ e then m * Nat.pow 10 e.toNat < limit
  else if (toString m).length ≤ e.natAbs then true
  else m < limit * Nat.pow 10 e.natAbs

/-- The exponent of a float. -/
def exponent : Reader Int
  | c :: s =>
    if c == 'e' || c == 'E' then do
      let (negative, s) := sign s
      let (ds, rest) ← digits isDecimal s
      let n : Int := ofDigits 10 ds
      some (if negative then -n else n, rest)
    else none
  | [] => none

/-- The fraction of a float. -/
def fraction : Reader (List Char)
  | '.' :: s => digits isDecimal s
  | _ => none

/-- What `rest` leaves of `s`. -/
def readPart (s rest : List Char) : String := .ofList (s.take (s.length - rest.length))

/-- A float spelled with digits. -/
def decimalFloat : Reader Value
  | s => do
    let (negative, s₁) := sign s
    let (whole, s₂) ← decimalDigits s₁
    let (part, e, rest) ←
      match fraction s₂ with
      | some (part, s₃) =>
        match exponent s₃ with
        | some (e, rest) => some (part, e, rest)
        | none => some (part, 0, s₃)
      | none => (exponent s₂).map fun x => ([], x.1, x.2)
    if negative || isFinite (ofDigits 10 (whole ++ part)) (e - part.length) then
      some (.float (readPart s rest), rest)
    else none

/-- A float spelled with a word. -/
def wordFloat : Reader Value
  | s =>
    match (sign s).2 with
    | 'i' :: 'n' :: 'f' :: rest => some (.float (readPart s rest), rest)
    | 'n' :: 'a' :: 'n' :: rest => some (.float (readPart s rest), rest)
    | _ => none

/-! ### Dates and times -/

/-- Exactly `n` digits. -/
def fixedDigits : Nat → Reader (List Char)
  | 0, s => some ([], s)
  | n + 1, c :: s =>
    if isDecimal c then (fixedDigits n s).map fun x => (c :: x.1, x.2) else none
  | _ + 1, [] => none

/-- A number of `width` digits from `low` to `high`. -/
def bounded (width low high : Nat) : Reader Nat
  | s => do
    let (ds, rest) ← fixedDigits width s
    let n := ofDigits 10 ds
    if low ≤ n ∧ n ≤ high then some (n, rest) else none

/-- The text after a character. -/
def char? (c : Char) : List Char → Option (List Char)
  | d :: rest => if d = c then some rest else none
  | [] => none

/-- The number of days in a month. -/
def daysIn (year month : Nat) : Nat :=
  if month = 2 then
    if year % 4 = 0 ∧ (year % 100 ≠ 0 ∨ year % 400 = 0) then 29 else 28
  else if month = 4 ∨ month = 6 ∨ month = 9 ∨ month = 11 then 30
  else 31

/-- The text after a date. -/
def date? (s : List Char) : Option (List Char) := do
  let (year, s) ← bounded 4 0 9999 s
  let s ← char? '-' s
  let (month, s) ← bounded 2 1 12 s
  let s ← char? '-' s
  let (_, s) ← bounded 2 1 (daysIn year month) s
  some s

/-- The text after a time; a leap second is allowed. -/
def time? (s : List Char) : Option (List Char) := do
  let (_, s) ← bounded 2 0 23 s
  let s ← char? ':' s
  let (_, s) ← bounded 2 0 59 s
  let s ← char? ':' s
  let (_, s) ← bounded 2 0 60 s
  match s with
  | '.' :: c :: rest => if isDecimal c then some (rest.dropWhile isDecimal) else none
  | '.' :: [] => none
  | s => some s

/-- The text after an offset from universal time, which is less than a day. -/
def offset? : List Char → Option (List Char)
  | 'Z' :: rest => some rest
  | 'z' :: rest => some rest
  | c :: s =>
    if c == '+' || c == '-' then do
      let (_, s) ← bounded 2 0 23 s
      let s ← char? ':' s
      let (_, s) ← bounded 2 0 59 s
      some s
    else none
  | [] => none

/-- The text after a date, a time, or a date and a time with or without an
offset. -/
def dateTime? (s : List Char) : Option (List Char) :=
  match date? s with
  | none => time? s
  | some afterDate =>
    let afterTime? :=
      match afterDate with
      | c :: rest => if c == 'T' || c == 't' || c == ' ' then time? rest else none
      | [] => none
    match afterTime? with
    | none => some afterDate
    | some afterTime => some ((offset? afterTime).getD afterTime)

/-- A date or time. -/
def dateTime : Reader Value
  | s => (dateTime? s).map fun rest => (.datetime (readPart s rest), rest)

/-! ### Any of them -/

/-- The first of two readers that succeeds. -/
def orElse {α : Type} (a b : Reader α) : Reader α
  | s => match a s with
    | some x => some x
    | none => b s

/-- A truth value. -/
def boolean : Reader Value
  | 't' :: 'r' :: 'u' :: 'e' :: rest => some (.boolean true, rest)
  | 'f' :: 'a' :: 'l' :: 's' :: 'e' :: rest => some (.boolean false, rest)
  | _ => none

/-- A number, truth value or date. What a longer reading covers is never cut
short, since nothing that follows a value could continue it. -/
def scalar : Reader Value :=
  orElse boolean (orElse dateTime (orElse decimalFloat (orElse wordFloat integer)))

end Vendoring.Toml
