/-
Documents written out.

* `quoted`: a text as a string on one line. Quotes, backslashes and control
  characters are escaped.
* `settingLine`, `tableLine`, `elementLine`: the lines of a document.
-/
import Vendoring.Text.Quoted

namespace Vendoring.Toml

/-- A character inside a string on one line. -/
def escaped (c : Char) : List Char :=
  if c = '"' || c = '\\' then ['\\', c]
  else if c.toNat < 0x20 || c.toNat = 0x7F then
    ['\\', 'u', '0', '0'] ++ Text.hexByte c.toNat.toUInt8
  else [c]

/-- A text as a string on one line. -/
def quoted (s : String) : String := String.ofList ('"' :: s.toList.flatMap escaped ++ ['"'])

/-- A line that gives a key a value. -/
def settingLine (key value : String) : String := key ++ " = " ++ value ++ "\n"

/-- A line that gives a key a text. -/
def textLine (key value : String) : String := settingLine key (quoted value)

/-- The lines that begin a table. -/
def tableLine (name : String) : String := "\n[" ++ name ++ "]\n"

/-- The lines that begin an element of an array of tables. -/
def elementLine (name : String) : String := "\n[[" ++ name ++ "]]\n"

end Vendoring.Toml
