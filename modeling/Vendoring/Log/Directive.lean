/-
Directives: which events a log shows.

* `Directive`: the events of a source, inside a scope or with a field, up to a
  level.
* `Directive.parse?`: a directive from `source[scope{field=value}]=level`, of
  which each part may be missing. A word alone is a level if it can be.
-/
import Vendoring.Log.Pattern
import Vendoring.Text.Utf8
import Vendoring.Log

namespace Vendoring

/-- A field that is asked for. -/
structure FieldTest where
  name : String
  /-- Whether its value is asked for too. -/
  hasValue : Bool
deriving DecidableEq, Repr

/-- Shows events up to a level; none means no event at all. Without a source it
is about all of them. -/
structure Directive where
  source : Option String := none
  scope : Option String := none
  field : Option FieldTest := none
  level : Option Level := some .trace
deriving DecidableEq, Repr

namespace Directive

/-! ### Words -/

/-- The number a word spells: decimal digits, after a plus if there is one. -/
def number? (word : String) : Option Nat :=
  let digits := match word.toList with
    | '+' :: rest => rest
    | rest => rest
  if digits.isEmpty || !digits.all Char.isDigit then none
  else some (digits.foldl (fun n c => 10 * n + (c.toNat - 0x30)) 0)

/-- The level a word or number stands for; the outer option tells whether it
stands for one. -/
def level? (word : String) : Option (Option Level) :=
  match number? word, word.toLower with
  | some 0, _ | _, "off" => some none
  | some 1, _ | _, "error" => some (some .error)
  | some 2, _ | _, "warn" => some (some .warn)
  | some 3, _ | _, "info" => some (some .info)
  | some 4, _ | _, "debug" => some (some .debug)
  | some 5, _ | _, "trace" => some (some .trace)
  | _, _ => none

/-- Whether the source of a directive may begin with a character. -/
def startsSource (c : Char) : Bool :=
  c == '-' || c == ':' || c == '_' || Text.isAlphanumeric c

/-- The field that a text asks for. A value is given after the first equals
sign, up to the next one. -/
def fieldTest? (text : String) : Option FieldTest :=
  match text.splitOn "=" with
  | [name] => if name.isEmpty then none else some ⟨name, false⟩
  | name :: value :: _ => if Pattern.isValue value.toList then some ⟨name, true⟩ else none
  | [] => none

/-! ### Blanks -/

/-- Characters that do not count around a directive. -/
def isBlank (c : Char) : Bool :=
  let n := c.toNat
  (0x9 ≤ n && n ≤ 0xD) || n == 0x20 || n == 0x85 || n == 0xA0 || n == 0x1680 ||
    (0x2000 ≤ n && n ≤ 0x200A) || n == 0x2028 || n == 0x2029 || n == 0x202F || n == 0x205F ||
    n == 0x3000

/-- A text without the blanks around it. -/
def trim (text : List Char) : List Char :=
  ((text.dropWhile isBlank).reverse.dropWhile isBlank).reverse

/-! ### Marks and pieces -/

/-- The first of some marks in a text that begins at place `i`: the mark, its
place, and what follows it. Places count bytes. -/
def seek (marks : List Char) (i : Nat) : List Char → Option (Char × Nat × List Char)
  | [] => none
  | c :: rest => if marks.contains c then some (c, i, rest) else seek marks (i + c.utf8Size) rest

/-- The piece of a text between two places. -/
def piece? (text : String) (first last : Nat) : Option String :=
  Bytes.toString? (((Bytes.ofString text).take last).drop first)

/-- The piece of a text from a place on. -/
def pieceFrom? (text : String) (first : Nat) : Option String :=
  Bytes.toString? ((Bytes.ofString text).drop first)

/-- The level that begins at a place. -/
def levelFrom? (text : String) (i : Nat) : Option (Option Level) := do
  let word ← pieceFrom? text i
  if word.isEmpty then return some .trace else level? word

/-- A directive after its brackets: it ends, or tells its level. -/
def finish? (text : String) (d : Directive) (i : Nat) : List Char → Option Directive
  | [] => some d
  | '=' :: _ => (levelFrom? text (i + 1)).map fun level => { d with level }
  | _ => none

/-- A directive from inside its brackets on. -/
def bracket? (text : String) (source : Option String) (i : Nat) (rest : List Char) :
    Option Directive := do
  let (mark, j, rest) ← seek [']', '\x7b'] i rest
  let scope ← piece? text i j
  if mark == ']' then finish? text { source, scope := some scope } (j + 1) rest
  else
    let (_, k, rest) ← seek ['\x7d'] (j + 1) rest
    let field ← fieldTest? (← piece? text (j + 1) k)
    let scope := if scope.isEmpty then none else some scope
    match rest with
    | ']' :: rest => finish? text { source, scope, field := some field } (k + 2) rest
    | _ => none

/-- The directive a text spells. Marks are looked for without the blanks around
the text, and the pieces between them are cut from the text with its blanks, at
the same places. -/
def parse? (text : String) : Option Directive :=
  let trimmed := trim text.toList
  match trimmed with
  | [] => none
  | '[' :: rest => bracket? text none 1 rest
  | c :: _ =>
    if !startsSource c then none
    else
      match seek ['=', '['] 0 trimmed with
      | none =>
        match level? text with
        | some level => some { level }
        | none => some { source := some text }
      | some (mark, i, rest) => do
        let source ← piece? text 0 i
        if mark == '=' then return { source := some source, level := ← levelFrom? text (i + 1) }
        else bracket? text (some source) (i + 1) rest

/-! ### Events -/

/-- Whether a directive is about an event. There are no scopes, and values are
looked at in scopes only. -/
def isAbout (d : Directive) (e : Event) : Bool :=
  d.scope.isNone && d.source.all (·.isPrefixOf e.source) &&
    d.field.all fun f => !f.hasValue && e.hasField f.name

/-- Whether a directive is as specific as another: it has a longer source, or
one as long and a field, or a field with a later name. -/
def covers (a b : Directive) : Bool :=
  let length (d : Directive) : Nat := (d.source.map (·.length + 1)).getD 0
  if length a != length b then length b < length a
  else
    match a.field, b.field with
    | _, none => true
    | none, some _ => false
    | some f, some g => !(f.name < g.name)

end Directive

end Vendoring
