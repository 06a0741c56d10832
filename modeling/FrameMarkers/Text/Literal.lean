namespace FrameMarkers.Text

def escapeChar (c : Char) : List Char :=
  if c = '\\' then ['\\', '\\']
  else if c = '$' then ['\\', '$']
  else if c = '"' then ['\\', '"']
  else if c = '\n' then ['\\', 'n']
  else if c = '\r' then ['\\', 'r']
  else [c]

def escape (text : List Char) : List Char :=
  text.flatMap escapeChar

def unescapeChar : Char → Option Char
  | '\\' => some '\\'
  | '$' => some '$'
  | '"' => some '"'
  | 'n' => some '\n'
  | 'r' => some '\r'
  | _ => none

-- An unknown escape has no meaning.
def unescape : List Char → Option (List Char)
  | [] => some []
  | '\\' :: [] => none
  | '\\' :: c :: rest => do
    let image ← unescapeChar c
    let text ← unescape rest
    pure (image :: text)
  | c :: rest => (unescape rest).map (c :: ·)

def literal (text : String) : String :=
  String.ofList (escape text.toList)

end FrameMarkers.Text
