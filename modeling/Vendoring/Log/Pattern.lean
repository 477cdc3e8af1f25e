/-
The patterns that a directive may give for the value of a field.

* `Pattern.isWellFormed`: whether a text is a regular expression: groups and
  classes are closed, there is something to repeat before every repetition,
  and every escape is known. Bounds of words and counted repetitions do not
  occur.
* `Pattern.isValue`: whether a text is a value or a pattern for values.
-/
import Vendoring.Text.Alphanumeric

namespace Vendoring.Pattern

/-- What an escape or a character of a class stands for. -/
inductive Atom where
  /-- One character. -/
  | literal (c : Char)
  /-- A set of characters. -/
  | set
  /-- A place in the text. -/
  | place
deriving DecidableEq, Repr

/-! ### Escapes -/

/-- The value of a digit in base 16. -/
def hexDigit? (c : Char) : Option Nat :=
  if c.isDigit then some (c.toNat - 0x30)
  else if 'a' ≤ c && c ≤ 'f' then some (c.toNat - 0x57)
  else if 'A' ≤ c && c ≤ 'F' then some (c.toNat - 0x37)
  else none

/-- The character that a number of digits stands for. -/
def hexChar? (count : Nat) (text : List Char) : Option (Atom × List Char) := do
  let digits ← (text.take count).mapM hexDigit?
  let n := digits.foldl (fun n d => 16 * n + d) 0
  if digits.length = count && n.isValidChar then
    return (.literal (Char.ofNat n), text.drop count)
  else none

/-- What an escape stands for, the backslash apart, and what follows it. -/
def escape? : List Char → Option (Atom × List Char)
  | [] => none
  | c :: rest =>
    if c == 'x' then hexChar? 2 rest
    else if c == 'u' then hexChar? 4 rest
    else if c == 'U' then hexChar? 8 rest
    else if c == 'p' || c == 'P' then
      match rest with
      | k :: rest =>
        if ['C', 'L', 'M', 'N', 'P', 'S', 'Z'].contains k.toUpper then some (.set, rest) else none
      | [] => none
    else if ['d', 'D', 's', 'S', 'w', 'W'].contains c then some (.set, rest)
    else if c == 'A' || c == 'z' then some (.place, rest)
    else if ['a', 'f', 't', 'n', 'r', 'v'].contains c then some (.literal c, rest)
    else if c.toNat < 0x80 && !c.isAlphanum && c != '<' && c != '>' then some (.literal c, rest)
    else none

/-! ### Classes -/

/-- The names of classes between brackets and colons. -/
def namedClasses : List String :=
  ["alnum", "alpha", "ascii", "blank", "cntrl", "digit", "graph", "lower", "print", "punct",
    "space", "upper", "word", "xdigit"]

/-- What follows a named class, its first bracket apart. -/
def namedClass? : List Char → Option (List Char)
  | ':' :: text =>
    let text := if text.head? = some '^' then text.drop 1 else text
    let name := text.takeWhile (· ≠ ':')
    match text.dropWhile (· ≠ ':') with
    | ':' :: ']' :: rest => if namedClasses.contains (String.ofList name) then some rest else none
    | _ => none
  | _ => none

/-- What follows the opening of a class: a negation, and characters that are
special only further on. -/
def openClass (text : List Char) : List Char :=
  let text := if text.head? = some '^' then text.drop 1 else text
  match text with
  | ']' :: rest => rest
  | _ => text.dropWhile (· = '-')

/-- One item of a class. -/
def item? : List Char → Option (Atom × List Char)
  | [] => none
  | '\\' :: rest => (escape? rest).filter (·.1 ≠ .place)
  | c :: rest => some (.literal c, rest)

/-- An item or a range of a class. -/
def range? (text : List Char) : Option (List Char) := do
  let (first, rest) ← item? text
  match rest with
  | '-' :: next :: more =>
    if next == ']' || next == '-' then return rest
    else
      match first, ← item? (next :: more) with
      | .literal a, (.literal b, rest) => if a ≤ b then return rest else none
      | _, _ => none
  | _ => return rest

/-- What follows a class. `depth` counts the classes around the place, `fuel`
the steps that are left. -/
def class? : Nat → Nat → List Char → Option (List Char)
  | 0, _, _ => none
  | _, _, [] => none
  | fuel + 1, depth, c :: rest =>
    if c == '[' then
      match namedClass? rest with
      | some rest => class? fuel depth rest
      | none => class? fuel (depth + 1) (openClass rest)
    else if c == ']' then if depth = 0 then some rest else class? fuel (depth - 1) rest
    else if (c == '&' || c == '-' || c == '~') && rest.head? = some c then
      class? fuel depth (rest.drop 1)
    else
      match range? (c :: rest) with
      | some rest => class? fuel depth rest
      | none => none

/-! ### Groups -/

/-- Whether a character may stand in the name of a group. -/
def isNameChar (c : Char) : Bool :=
  c == '_' || c == '.' || c == '[' || c == ']' || Text.isAlphanumeric c

/-- Flags, each at most once, with one hyphen that does not stand last. -/
def areFlags (flags : List Char) : Bool :=
  flags.all (['i', 'm', 's', 'U', 'u', 'x', 'R', '-'].contains ·) &&
    flags.eraseDups.length == flags.length && flags.getLast? != some '-'

/-- How a group begins. -/
inductive Opening where
  /-- A group, with its name if it has one. -/
  | group (name : Option (List Char))
  /-- Flags for what follows. -/
  | flags

/-- The beginning of a group, its parenthesis apart, and what follows it. -/
def opening? : List Char → Option (Opening × List Char)
  | '?' :: 'P' :: '<' :: text => named? text
  | '?' :: '<' :: text => named? text
  | '?' :: text =>
    let flags := text.takeWhile fun c => c ≠ ':' && c ≠ ')'
    if !areFlags flags then none
    else
      match text.drop flags.length with
      | ':' :: rest => some (.group none, rest)
      | _ :: rest => if flags.isEmpty then none else some (.flags, rest)
      | [] => none
  | text => some (.group none, text)
where
  /-- A group with a name. -/
  named? (text : List Char) : Option (Opening × List Char) :=
    let name := text.takeWhile (· ≠ '>')
    match name, text.drop name.length with
    | first :: _, _ :: rest =>
      if name.all isNameChar && (first == '_' || (Text.isAlphanumeric first && !first.isDigit)) then
        some (.group (some name), rest)
      else none
    | _, _ => none

/-! ### Whole patterns -/

/-- What was met on the way through a pattern. -/
structure Met where
  /-- How many groups are open. -/
  groups : Nat := 0
  /-- The names of groups. -/
  names : List (List Char) := []
  /-- Whether there is something to repeat. -/
  repeatable : Bool := false

/-- Whether a text goes on as a pattern. `fuel` counts the steps left. -/
def goesOn : Nat → Met → List Char → Bool
  | 0, _, _ => false
  | _, m, [] => m.groups == 0
  | fuel + 1, m, c :: rest =>
    if c == '(' then
      match opening? rest with
      | some (.group none, rest) =>
        goesOn fuel { m with groups := m.groups + 1, repeatable := false } rest
      | some (.group (some name), rest) =>
        !m.names.contains name &&
          goesOn fuel ⟨m.groups + 1, name :: m.names, false⟩ rest
      | some (.flags, rest) => goesOn fuel { m with repeatable := false } rest
      | none => false
    else if c == ')' then
      m.groups != 0 && goesOn fuel { m with groups := m.groups - 1, repeatable := true } rest
    else if c == '|' then goesOn fuel { m with repeatable := false } rest
    else if c == '*' || c == '+' || c == '?' then m.repeatable && goesOn fuel m rest
    else if c == '\x7b' then false
    else
      let rest? :=
        if c == '[' then class? fuel 0 (openClass rest)
        else if c == '\\' then (escape? rest).map Prod.snd
        else some rest
      match rest? with
      | some rest => goesOn fuel { m with repeatable := true } rest
      | none => false

/-- Whether a text is a regular expression. -/
def isWellFormed (text : List Char) : Bool := goesOn (text.length + 1) {} text

/-! ### Values -/

/-- Whether a text is a decimal number, its sign apart. -/
def isNumber (text : List Char) : Bool :=
  let whole := text.takeWhile Char.isDigit
  let rest := text.drop whole.length
  let (fraction, rest) := match rest with
    | '.' :: rest => (rest.takeWhile Char.isDigit, rest.dropWhile Char.isDigit)
    | rest => ([], rest)
  let isExponent : List Char → Bool
    | e :: '+' :: digits => (e == 'e' || e == 'E') && !digits.isEmpty && digits.all Char.isDigit
    | e :: '-' :: digits => (e == 'e' || e == 'E') && !digits.isEmpty && digits.all Char.isDigit
    | e :: digits => (e == 'e' || e == 'E') && !digits.isEmpty && digits.all Char.isDigit
    | [] => true
  (!(whole ++ fraction).isEmpty && isExponent rest) ||
    ["inf", "infinity", "nan"].contains (String.ofList (text.map Char.toLower))

/-- Whether a text is a value or a pattern for values. Numbers with a sign are
values, though no pattern may begin with that sign. -/
def isValue : List Char → Bool
  | '+' :: text => isNumber text
  | text => isWellFormed text

end Vendoring.Pattern
