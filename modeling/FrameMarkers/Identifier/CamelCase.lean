import FrameMarkers.Text.Alphabetic
import FrameMarkers.Text.Casing
import FrameMarkers.Text.CodeTable

namespace FrameMarkers.Identifier

def words (delimiters : List Char) (name : List Char) : List (List Char) :=
  ((name.splitOnP delimiters.contains).filter (!Text.isBlank ·)).map Text.lower

def isNumber (word : List Char) : Bool :=
  word.all Text.isNumeric

-- In pairs from the left.
def joinNumbers : List (List Char) → List (List Char)
  | first :: second :: rest =>
    if isNumber first && isNumber second then (first ++ '_' :: second) :: joinNumbers rest
    else first :: joinNumbers (second :: rest)
  | [word] => [word]
  | [] => []

def joinCapitalized : List (List Char) → List Char
  | [] => []
  | first :: rest => first ++ rest.flatMap Text.capitalize

-- A name without letters and numbers is left as it is.
def camelCase (delimiters : List Char) (name : List Char) : List Char :=
  if name.any Text.isAlphanumeric then joinCapitalized (joinNumbers (words delimiters name))
  else name

end FrameMarkers.Identifier

namespace FrameMarkers

abbrev Normalizer := String → String

namespace Normalizer

def asWritten : Normalizer :=
  id

def ofDelimiters (delimiters : List Char) : Normalizer :=
  if delimiters.isEmpty then asWritten
  else fun name => String.ofList (Identifier.camelCase delimiters name.toList)

end Normalizer

end FrameMarkers
