/-
Texts cut into pieces.

* `splitAt`: a text cut at every occurrence of a character.
* `lines`: the lines of a text. A line ends before a line feed, and before the
  carriage return in front of one; nothing after the last line feed is no line.
-/
namespace Vendoring.Text

/-- A text cut at every occurrence of a character, the empty parts kept. -/
def splitAt (sep : Char) : List Char → List (List Char)
  | [] => [[]]
  | c :: rest =>
    if c = sep then [] :: splitAt sep rest
    else
      match splitAt sep rest with
      | [] => [[c]]
      | part :: parts => (c :: part) :: parts

/-- A line without the carriage return at its end. -/
def dropReturn (line : List Char) : List Char :=
  if line.getLast? = some '\r' then line.dropLast else line

/-- The lines of a text. -/
def lines (text : String) : List String :=
  let parts := splitAt '\n' text.toList
  let ended := parts.dropLast.map fun l => String.ofList (dropReturn l)
  match parts.getLast? with
  | some [] => ended
  | some last => ended ++ [String.ofList last]
  | none => ended

end Vendoring.Text
