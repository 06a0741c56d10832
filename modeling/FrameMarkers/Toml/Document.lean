import FrameMarkers.Toml.Quoted
import FrameMarkers.Toml.Scalar
import FrameMarkers.Toml.Table

namespace FrameMarkers.Toml

abbrev Reader := StateT (List Char) Option

namespace Reader

def char (c : Char) : Reader Unit := do
  match ← get with
  | d :: rest => if c = d then set rest else failure
  | [] => failure

def repeated {α : Type} (item : Reader α) (text : List Char) : List α × List Char :=
  match item text with
  | none => ([], text)
  | some (value, rest) =>
    if _moved : rest.length < text.length then
      let (values, rest) := repeated item rest
      (value :: values, rest)
    else ([value], rest)
termination_by text.length

def many {α : Type} (item : Reader α) : Reader (List α) :=
  fun text => some (repeated item text)

def separated {α : Type} (mark : Char) (item : Reader α) : Reader (List α) := do
  let first ← item
  let others ← many (char mark *> item)
  pure (first :: others)

def blanks : Reader Unit :=
  modify (·.dropWhile fun c => c == ' ' || c == '\t')

def lineEnd : Reader Unit := do
  match ← get with
  | [] => pure ()
  | '\n' :: rest => set rest
  | '\r' :: '\n' :: rest => set rest
  | _ => failure

def comment : Reader Unit :=
  modify fun text =>
    match text with
    | '#' :: rest => rest.dropWhile isPrintable
    | text => text

def restOfLine : Reader Unit := do
  blanks
  comment
  lineEnd

def dropGap (inComment : Bool) : List Char → List Char
  | [] => []
  | '\n' :: rest => dropGap false rest
  | '\r' :: '\n' :: rest => dropGap false rest
  | c :: rest =>
    if inComment then if isPrintable c then dropGap true rest else c :: rest
    else if c = ' ' ∨ c = '\t' then dropGap false rest
    else if c = '#' then dropGap true rest
    else c :: rest

def gap : Reader Unit :=
  modify (dropGap false)

def maxDepth : Nat :=
  80

def isBareKeyChar (c : Char) : Bool :=
  c.isAlphanum || c == '-' || c == '_'

def simpleKey : Reader String := do
  let text ← get
  match text with
  | '"' :: rest =>
    let (key, rest) ← basic rest
    set rest
    pure (String.ofList key)
  | '\'' :: rest =>
    let (key, rest) ← literal rest
    set rest
    pure (String.ofList key)
  | _ =>
    let key := text.takeWhile isBareKeyChar
    if key.isEmpty then failure
    else
      set (text.dropWhile isBareKeyChar)
      pure (String.ofList key)

def key : Reader (List String) := do
  let parts ← separated '.' (blanks *> simpleKey <* blanks)
  if parts.length < maxDepth then pure parts else failure

def pair (value : Reader Toml) : Reader (List String × Toml) := do
  let key ← key
  char '='
  blanks
  pure (key, ← value)

-- A comma may stand after the last item.
def arrayItems (value : Reader Toml) : Reader (List Toml) := do
  let items ← separated ',' (gap *> value <* gap) <|> pure []
  unless items.isEmpty do char ',' <|> pure ()
  gap
  char ']'
  pure items

-- A table in braces stands on one line.
def inlinePairs (value : Reader Toml) : Reader (List (List String × Toml)) := do
  let pairs ← separated ',' (pair value <* blanks) <|> pure []
  blanks
  char '\x7d'
  pure pairs

def scalar : Reader Toml := do
  let text ← get
  match quoted? text with
  | some (content, rest) =>
    set rest
    pure (.string content)
  | none =>
    let (value, rest) ← bare? text
    set rest
    pure value

def value : (depth : Nat) → Reader Toml
  | 0 => scalar
  | depth + 1 => do
    match ← get with
    | '[' :: rest =>
      set rest
      pure (.array (← arrayItems (value depth)))
    | '\x7b' :: rest =>
      set rest
      let pairs ← inlinePairs (value depth)
      pure (.table .inline (← assemble pairs))
    | _ => scalar

end Reader

inductive Statement where
  | table (key : List String)
  | item (key : List String)
  | pair (key : List String) (value : Toml)

namespace Reader

def statement : Reader (Option Statement) := do
  blanks
  match ← get with
  | [] => failure
  | '\n' :: _ => lineEnd; pure none
  | '\r' :: _ => lineEnd; pure none
  | '#' :: _ => restOfLine; pure none
  | '[' :: '[' :: rest =>
    set rest
    let key ← key
    char ']'
    char ']'
    restOfLine
    pure (some (.item key))
  | '[' :: rest =>
    set rest
    let key ← key
    char ']'
    restOfLine
    pure (some (.table key))
  | _ =>
    let (key, value) ← pair (value (maxDepth - 1))
    restOfLine
    pure (some (.pair key value))

def statements (text : List Char) : Option (List Statement) :=
  let text := if text.head? = some (Char.ofNat 0xFEFF) then text.drop 1 else text
  match (many statement <* blanks).run text with
  | some (statements, []) => some (statements.filterMap id)
  | _ => none

end Reader

def build (root : Members) (current : List String) : List Statement → Option Members
  | [] => some root
  | .table path :: rest => do build (← openTable path root) path rest
  | .item path :: rest => do build (← openItem path root) path rest
  | .pair path value :: rest => do
    let root ← descend .implied (fun _ members => assign path value members) current .header root
    build root current rest

def parse (text : String) : Option Members := do
  build [] [] (← Reader.statements text.toList)

end FrameMarkers.Toml
