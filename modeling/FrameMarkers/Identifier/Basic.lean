import FrameMarkers.Text.Category
import FrameMarkers.Text.CodeTable

namespace FrameMarkers

structure Identifier where
  text : String
  quoted : Bool
deriving DecidableEq, Repr

namespace Identifier

def hardKeywords : List String := [
  "as", "as?", "break", "class", "continue", "do", "else", "false", "for", "fun", "if", "in",
  "!in", "interface", "is", "!is", "null", "object", "package", "return", "super", "this",
  "throw", "true", "try", "typealias", "typeof", "val", "var", "when", "while"]

-- A generated property may carry modifiers.
def modifierKeywords : List String := [
  "abstract", "actual", "annotation", "companion", "const", "crossinline", "data", "enum",
  "expect", "external", "final", "infix", "inline", "inner", "internal", "lateinit", "noinline",
  "open", "operator", "out", "override", "private", "protected", "public", "reified", "sealed",
  "suspend", "tailrec", "vararg"]

def isReserved (word : String) : Bool :=
  hardKeywords.contains word || modifierKeywords.contains word

def quotingChars : List Char := [
  ' ', '\x60', '(', ')', '\x7b', '\x7d', '[', ']', '.', '<', '>', '\'', '"', '/', '|', '\\', '!',
  '?', '@', ':', ';', '%', '^', '&', '*', '#', '$', '-']

def forbiddenChars : List Char :=
  ['<', '>', ':', '.', '/', '[', ']', '\x60', ';', '\\', '\n', '\r']

def isWordChar (c : Char) : Bool :=
  Text.isCasedOrModifierLetter c || Text.isDecimalDigit c

def needsQuoting (name : String) : Bool :=
  Text.isBlank name.toList
    || name.toList.head?.any Text.isDecimalDigit
    || name.toList.any quotingChars.contains
    || isReserved name
    || name.toList.all (· == '_')
    || name.toList.any fun c => c != '_' && !isWordChar c

-- A colon depends on what follows it.
def substitute : Char → Char
  | '<' => '\x7b'
  | '>' => '\x7d'
  | '[' => '\x7b'
  | ']' => '\x7d'
  | '/' => '-'
  | '\x60' => '\''
  | '.' => ' '
  | ';' => ' '
  | '\\' => ' '
  | '\n' => ' '
  | '\r' => ' '
  | c => c

-- A colon becomes a dash between spaces, and takes a second colon or a space that follows it along.
def sanitize : List Char → List Char
  | [] => []
  | ':' :: ':' :: rest => ' ' :: '-' :: ' ' :: sanitize rest
  | ':' :: ' ' :: rest => ' ' :: '-' :: ' ' :: sanitize rest
  | ':' :: rest => ' ' :: '-' :: ' ' :: sanitize rest
  | c :: rest => substitute c :: sanitize rest

def ofName (name : String) : Identifier :=
  if needsQuoting name then ⟨String.ofList (sanitize name.toList), true⟩ else ⟨name, false⟩

def append (first second : Identifier) : Identifier :=
  ⟨first.text ++ second.text, first.quoted || second.quoted⟩

instance : Append Identifier := ⟨append⟩

def declared (identifier : Identifier) : String :=
  if identifier.quoted then "`" ++ identifier.text ++ "`" else identifier.text

end Identifier

end FrameMarkers
