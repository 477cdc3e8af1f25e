/-
Reading a reply from the bytes a server sends.

* `Head.read?`: the status line and the fields. Lines end in a line feed, with
  or without a carriage return; blank lines may stand in front.
* `Head.framing?`: how the end of the body is told.
* `body?`: the body, if the bytes hold all of it.
* `receive`: the reply in what a server sent; interim heads are passed over.
-/
import Vendoring.Http.Reply

namespace Vendoring.Http

/-- What a server sent, and whether it ended the connection after that. -/
structure Stream where
  bytes : Bytes
  closed : Bool
deriving DecidableEq, Repr

/-- A line of a head. -/
structure Field where
  name : Bytes
  value : Bytes
deriving DecidableEq, Repr

/-- What stands before a body. -/
structure Head where
  /-- The version after `HTTP/1.`, zero or one. -/
  minor : Nat
  status : Nat
  fields : List Field
deriving DecidableEq, Repr

/-- The bytes of a line feed, a carriage return and a colon. -/
def lineFeed : UInt8 := 0x0A
@[inherit_doc lineFeed] def carriageReturn : UInt8 := 0x0D
@[inherit_doc lineFeed] def colon : UInt8 := 0x3A

/-! ### Lines -/

/-- The bytes up to a line feed, and those after it. -/
def splitLine : Bytes → Option (Bytes × Bytes)
  | [] => none
  | b :: rest =>
    if b = lineFeed then some ([], rest)
    else (splitLine rest).map fun (line, after) => (b :: line, after)

/-- What follows a line is shorter than what it was cut from. -/
theorem length_lt_of_splitLine {b line rest : Bytes} (h : splitLine b = some (line, rest)) :
    rest.length < b.length := by
  induction b generalizing line with
  | nil => simp [splitLine] at h
  | cons x b ih =>
    simp only [splitLine] at h
    split at h
    · simp_all
    · obtain ⟨⟨line', rest'⟩, h', heq⟩ := Option.map_eq_some_iff.1 h
      obtain ⟨-, rfl⟩ := Prod.mk.inj heq
      exact Nat.lt_succ_of_lt (ih h')

/-- A line without the carriage return at its end. -/
def dropReturn (line : Bytes) : Bytes :=
  if line.getLast? = some carriageReturn then line.dropLast else line

/-- Spaces and tabs. -/
def isBlank (b : UInt8) : Bool := b == 0x20 || b == 0x09

/-- A byte string without the blanks around it. -/
def trim (b : Bytes) : Bytes := ((b.dropWhile isBlank).reverse.dropWhile isBlank).reverse

/-- ASCII letters in lower case. -/
def lowerCase (b : Bytes) : Bytes := b.map fun x => if 0x41 ≤ x && x ≤ 0x5A then x + 0x20 else x

/-- A byte that may stand in the name of a field. -/
def isNameByte (b : UInt8) : Bool :=
  (0x30 ≤ b && b ≤ 0x39) || (0x41 ≤ b && b ≤ 0x5A) || (0x5E ≤ b && b ≤ 0x7A) ||
    (Bytes.ofString "!#$%&'*+-.|~").contains b

/-- A byte that may stand in the value of a field: anything but a control
character, tabs apart. -/
def isValueByte (b : UInt8) : Bool := b == 0x09 || (0x20 ≤ b && b != 0x7F)

/-! ### Heads -/

/-- The number of three digits. -/
def status? : Bytes → Option Nat
  | [a, b, c] =>
    let digit (x : UInt8) : Option Nat :=
      if 0x30 ≤ x && x ≤ 0x39 then some (x.toNat - 0x30) else none
    do return (← digit a) * 100 + (← digit b) * 10 + (← digit c)
  | _ => none

/-- The version and status of a status line. The reason after them is free
text and may be missing. -/
def statusLine? (line : Bytes) : Option (Nat × Nat) := do
  let minor ←
    if (Bytes.ofString "HTTP/1.0 ").isPrefixOf line then some 0
    else if (Bytes.ofString "HTTP/1.1 ").isPrefixOf line then some 1
    else none
  let rest := line.drop 9
  let status ← status? (rest.take 3)
  match rest.drop 3 with
  | [] => if 100 ≤ status then some (minor, status) else none
  | blank :: reason =>
    if blank = 0x20 && reason.all isValueByte && 100 ≤ status then some (minor, status)
    else none

/-- A field: a name, a colon directly after it, a value. -/
def field? (line : Bytes) : Option Field :=
  match line.dropWhile isNameByte with
  | b :: value =>
    let name := line.takeWhile isNameByte
    let value := trim value
    if b = colon && !name.isEmpty && value.all isValueByte then some ⟨name, value⟩ else none
  | [] => none

/-- The fields up to an empty line, and what follows it. -/
def fields? (b : Bytes) : Option (List Field × Bytes) :=
  match _hb : splitLine b with
  | none => none
  | some (line, rest) =>
    if (dropReturn line).isEmpty then some ([], rest)
    else do
      let field ← field? (dropReturn line)
      let (fields, after) ← fields? rest
      return (field :: fields, after)
termination_by b.length
decreasing_by exact length_lt_of_splitLine _hb

/-- The first line that is not blank, and what follows it. -/
def firstLine? (b : Bytes) : Option (Bytes × Bytes) :=
  match _hb : splitLine b with
  | none => none
  | some (line, rest) =>
    if (dropReturn line).isEmpty then firstLine? rest else some (dropReturn line, rest)
termination_by b.length
decreasing_by exact length_lt_of_splitLine _hb

/-- How many fields a head may have. -/
def maxFields : Nat := 100

namespace Head

/-- A head at the front of what was sent, and what follows it. -/
def read? (b : Bytes) : Option (Head × Bytes) := do
  let (line, rest) ← firstLine? b
  let (minor, status) ← statusLine? line
  let (fields, rest) ← fields? rest
  if fields.length ≤ maxFields then return (⟨minor, status, fields⟩, rest) else none

/-- The values of all fields of a name, in order. -/
def values (h : Head) (name : String) : List Bytes :=
  (h.fields.filter fun f => lowerCase f.name == Bytes.ofString name).map Field.value

/-- Whether a head only announces another one. -/
def isInterim (h : Head) : Bool := 100 ≤ h.status && h.status ≤ 199 && h.status != 101

end Head

/-! ### Bodies -/

/-- How the end of a body is told. -/
inductive Framing where
  /-- There is no body. -/
  | empty
  /-- The body has a known length. -/
  | sized (n : Nat)
  /-- The body comes in chunks of known length. -/
  | chunked
  /-- The body ends with the connection. -/
  | untilClosed
deriving DecidableEq, Repr

/-- A byte string cut at every comma, without the blanks around the parts. -/
def commaParts (b : Bytes) : List Bytes :=
  let rec go : Bytes → List Bytes
    | [] => [[]]
    | x :: rest =>
      if x = 0x2C then [] :: go rest
      else
        match go rest with
        | [] => [[x]]
        | part :: parts => (x :: part) :: parts
  (go b).map trim

/-- The largest size of a chunk, and the largest length of a body. -/
def maxChunk : Nat := 0xFFFFFFFFFFFFFFFF
@[inherit_doc maxChunk] def maxLength : Nat := 0xFFFFFFFFFFFFFFFD

/-- The number that decimal digits spell, if a body may be that long. -/
def length? (b : Bytes) : Option Nat :=
  let n := b.foldl (fun n d => n * 10 + (d.toNat - 0x30)) 0
  if !b.isEmpty && b.all (fun d => 0x30 ≤ d && d ≤ 0x39) && n ≤ maxLength then some n else none

/-- The length that all values agree on. -/
def commonLength? (values : List Bytes) : Option Nat := do
  match ← (values.flatMap commaParts).mapM length? with
  | n :: rest => if rest.all (· == n) then some n else none
  | [] => none

/-- How the end of the body after a head is told; a head that tells it in a
wrong way is refused. -/
def Head.framing? (h : Head) : Option Framing :=
  if h.status = 101 || h.status = 204 || h.status = 304 then some .empty
  else
    match (h.values "transfer-encoding").getLast? with
    | some encoding =>
      if h.minor = 0 then none
      else if ((commaParts encoding).getLast?.map lowerCase) == some (Bytes.ofString "chunked")
      then some .chunked
      else some .untilClosed
    | none =>
      match h.values "content-length" with
      | [] => some .untilClosed
      | values => (commonLength? values).map .sized

/-- The value of a digit in base 16. -/
def hexValue? (b : UInt8) : Option Nat :=
  if 0x30 ≤ b && b ≤ 0x39 then some (b.toNat - 0x30)
  else if 0x41 ≤ b && b ≤ 0x46 then some (b.toNat - 0x37)
  else if 0x61 ≤ b && b ≤ 0x66 then some (b.toNat - 0x57)
  else none

/-- The size of a chunk: digits in base 16, then blanks, then anything after a
semicolon. -/
def chunkSize? (line : Bytes) : Option Nat :=
  let digits := line.takeWhile fun b => (hexValue? b).isSome
  let n := digits.foldl (fun n d => n * 16 + (hexValue? d).getD 0) 0
  let after := (line.drop digits.length).dropWhile isBlank
  if !digits.isEmpty && n ≤ maxChunk && (after.isEmpty || after.head? == some 0x3B) &&
      !line.contains carriageReturn then some n
  else none

/-- The chunks of a body put together. The chunk of size zero ends it, and
fields may follow that. -/
def chunks? (b : Bytes) : Option Bytes :=
  match _hb : splitLine b with
  | none => none
  | some (line, rest) =>
    if line.getLast? = some carriageReturn then
      match chunkSize? line.dropLast with
      | none => none
      | some 0 => (fields? rest).map fun _ => []
      | some n =>
        match _hr : rest.drop n with
        | cr :: lf :: after =>
          if cr = carriageReturn && lf = lineFeed then (chunks? after).map (rest.take n ++ ·)
          else none
        | _ => none
    else none
termination_by b.length
decreasing_by
  have := length_lt_of_splitLine _hb
  have := congrArg List.length _hr
  simp only [List.length_drop, List.length_cons] at this
  omega

/-- The body at the front of a stream, if all of it is there. -/
def body? (framing : Framing) (s : Stream) : Option Bytes :=
  match framing with
  | .empty => some []
  | .sized n => if n ≤ s.bytes.length then some (s.bytes.take n) else none
  | .chunked => chunks? s.bytes
  | .untilClosed => if s.closed then some s.bytes else none

/-! ### Replies -/

/-- The first head that is not an interim one, and what follows it. The bound
counts heads. -/
def finalHead? : Nat → Bytes → Option (Head × Bytes)
  | 0, _ => none
  | bound + 1, b =>
    match Head.read? b with
    | some (h, rest) => if h.isInterim then finalHead? bound rest else some (h, rest)
    | none => none

/-- The reply a server sent. Every head is at least one byte long, so the bound
on heads is never met. -/
def receive (s : Stream) : Except Fault Reply :=
  match finalHead? (s.bytes.length + 1) s.bytes with
  | none => .error .unanswered
  | some (h, rest) =>
    match h.framing? with
    | none => .error .unanswered
    | some framing =>
      match body? framing ⟨rest, s.closed⟩ with
      | none => .error .broken
      | some body => .ok ⟨h.status, (h.values "location").head?, body⟩

end Vendoring.Http
