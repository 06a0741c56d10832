import FrameMarkers.Json.Source

namespace FrameMarkers.Json

inductive Token where
  | mark (char : Char)
  | string (body : List Char)
  | scalar (value : Source)

namespace Token

def marks : List Char :=
  ['[', ']', '\x7b', '\x7d', ',', ':']

def blanks : List Char :=
  [' ', '\n', '\t', '\r']

def word? (word : List Char) : Option Source :=
  match String.ofList word with
  | "null" => some .null
  | "true" => some (.bool true)
  | "false" => some (.bool false)
  | literal => (Numeral.ofWord? word).map (.number literal)

-- The characters read so far have the last one first.
inductive Position where
  | between
  | inString (read : List Char)
  | inEscape (read : List Char)
  | inWord (read : List Char)

def start (c : Char) : List Token × Position :=
  if blanks.contains c then ([], .between)
  else if marks.contains c then ([.mark c], .between)
  else if c = '"' then ([], .inString [])
  else ([], .inWord [c])

def step : Position → Char → Option (List Token × Position)
  | .between, c => some (start c)
  | .inString read, c =>
    if c = '"' then
      if Quoted.isBody read.reverse then some ([.string read.reverse], .between) else none
    else if c = '\\' then some ([], .inEscape (c :: read))
    else some ([], .inString (c :: read))
  | .inEscape read, c => some ([], .inString (c :: read))
  | .inWord read, c =>
    if blanks.contains c || marks.contains c || c == '"' then
      (word? read.reverse).map fun value => (.scalar value :: (start c).1, (start c).2)
    else some ([], .inWord (c :: read))

def scanFrom : Position → List Char → Option (List Token)
  | .between, [] => some []
  | .inWord read, [] => (word? read.reverse).map ([.scalar ·])
  | .inString _, [] => none
  | .inEscape _, [] => none
  | position, c :: rest => do
    let (tokens, position) ← step position c
    let others ← scanFrom position rest
    pure (tokens ++ others)

def scan (text : List Char) : Option (List Token) :=
  scanFrom .between text

end Token

end FrameMarkers.Json
