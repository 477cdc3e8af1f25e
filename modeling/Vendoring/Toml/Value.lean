/-
Values of configuration documents, and the characters documents are made of.

* `Toml.Value`, `Toml.Table`: what a document holds.
* `Toml.Reader`: reads a piece off the front of a text.
* `skipBlanks`, `newline?`, `lineEnd?`, `skipFiller`: what may stand between
  the pieces.
-/
namespace Vendoring.Toml

/-- A value. Floats and dates are kept as they are written: nothing here
computes with them. -/
inductive Value where
  | string (s : String)
  | integer (n : Int)
  | float (text : String)
  | boolean (b : Bool)
  | datetime (text : String)
  | array (items : List Value)
  | table (entries : List (String × Value))
deriving Repr, Inhabited

/-- Keys and their values, in the order they were written. -/
abbrev Table := List (String × Value)

/-- Reads a piece off the front of a text and gives the text after it, or
fails. -/
abbrev Reader (α : Type) := List Char → Option (α × List Char)

/-- Space and tab. -/
def isBlank (c : Char) : Bool := c == ' ' || c == '\t'

/-- Characters that may stand in a comment: tab and everything that is no
control character. -/
def isText (c : Char) : Bool :=
  c == '\t' || (0x20 ≤ c.toNat && c.toNat ≤ 0x7E) || 0x80 ≤ c.toNat

/-- The text after leading blanks. -/
def skipBlanks (s : List Char) : List Char := s.dropWhile isBlank

/-- The text after one line end. -/
def newline? : List Char → Option (List Char)
  | '\n' :: rest => some rest
  | '\r' :: '\n' :: rest => some rest
  | _ => none

/-- The text after a comment, if one stands at the front. -/
def skipComment : List Char → List Char
  | '#' :: rest => rest.dropWhile isText
  | s => s

/-- The text after the rest of a line, which may hold blanks and a comment
only. -/
def lineEnd? (s : List Char) : Option (List Char) :=
  match skipComment (skipBlanks s) with
  | [] => some []
  | rest => newline? rest

/-- Where filler reading stands: between lines, inside a comment, or after a
carriage return. -/
inductive FillerState where
  | open
  | comment
  | return
deriving DecidableEq, Repr

/-- The text after blanks, line ends and comments, as they may stand between
the items of an array. -/
def skipFillerFrom : FillerState → List Char → Option (List Char)
  | .return, '\n' :: rest => skipFillerFrom .open rest
  | .return, _ => none
  | _, [] => some []
  | .open, c :: rest =>
    if isBlank c || c == '\n' then skipFillerFrom .open rest
    else if c == '#' then skipFillerFrom .comment rest
    else if c == '\r' then skipFillerFrom .return rest
    else some (c :: rest)
  | .comment, c :: rest =>
    if isText c then skipFillerFrom .comment rest
    else if c == '\n' then skipFillerFrom .open rest
    else if c == '\r' then skipFillerFrom .return rest
    else none

@[inherit_doc skipFillerFrom]
def skipFiller (s : List Char) : Option (List Char) := skipFillerFrom .open s

end Vendoring.Toml
