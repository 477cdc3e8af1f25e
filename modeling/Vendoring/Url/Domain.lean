/-
Host names in ASCII.

* `Domain.spelling?`: a label as it is read. One that begins with `xn--` stands
  for the characters it encodes.
* `Domain.isLabel`: a label does not begin with a mark, and its joiners are in
  their places.
* `Domain.ascii?`: a host name with every label in ASCII and lower case. There
  is none if a character is not admitted, a label is not in order, or an
  encoded label says what could be said without encoding.
-/
import Vendoring.Text.Mark
import Vendoring.Text.Normalization
import Vendoring.Text.Pieces
import Vendoring.Url.Domain.Direction
import Vendoring.Url.Domain.Joiner
import Vendoring.Url.Domain.Mapping
import Vendoring.Url.Punycode

namespace Vendoring.Domain

/-- What marks an encoded label. -/
def marker : List Char := ['x', 'n', '-', '-']

/-- Whether a text is in ASCII. -/
def isAscii (text : List Char) : Bool := text.all (·.toNat < 0x80)

/-- How many characters an encoded label may have after its mark. -/
def maxEncoded : Nat := 2000

/-- How many characters a label may have that has to be encoded. -/
def maxSpelled : Nat := 1000

/-- Whether an encoded label was worth encoding: it holds a character outside
ASCII, and its characters stand for themselves. -/
def isEncodable (label : List Char) : Bool :=
  !isAscii label && label.all isValid && Text.composed label == label

/-- A label as it is read. -/
def spelling? (label : List Char) : Option (List Char) :=
  if marker.isPrefixOf label then
    let encoded := label.drop marker.length
    if isAscii encoded && encoded.length ≤ maxEncoded then
      (Punycode.decode? encoded).filter isEncodable
    else none
  else some label

/-- A label as it stands in a host name in ASCII. -/
def asciiLabel? (label : List Char) : Option (List Char) :=
  if isAscii label then some label
  else if label.length ≤ maxSpelled then some (marker ++ Punycode.encode label)
  else none

/-- Whether a label, as it is read, may stand in a host name. -/
def isLabel (label : List Char) : Bool :=
  !label.head?.any Text.isMark && joinersInPlace [] label

/-- Whether labels, as they are read, make up a host name. -/
def isName (labels : List (List Char)) : Bool :=
  labels.all isLabel && (!labels.any isBidirectional || labels.all isOrdered)

/-- A host name in ASCII and lower case. -/
def ascii? (name : List Char) : Option (List Char) := do
  let labels := Text.splitAt '.' (Text.composed (← map? name))
  if isName (← labels.mapM spelling?) then
    return ['.'].intercalate (← labels.mapM asciiLabel?)
  else none

end Vendoring.Domain
