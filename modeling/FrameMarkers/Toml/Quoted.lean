import FrameMarkers.Text.Decimal

namespace FrameMarkers.Toml

open Text (baseValue? scalarChar?)

def isPrintable (c : Char) : Bool :=
  c == '\t' || (0x20 ≤ c.toNat && c.toNat != 0x7F)

def shortEscape? : Char → Option Char
  | 'b' => some '\x08'
  | 't' => some '\t'
  | 'n' => some '\n'
  | 'f' => some '\x0c'
  | 'r' => some '\r'
  | '"' => some '"'
  | '\\' => some '\\'
  | _ => none

def codeEscape? (digits : List Char) : Option Char :=
  (baseValue? 16 digits).bind scalarChar?

def andChar (c : Char) : Option (List Char × List Char) → Option (List Char × List Char) :=
  (·.map fun (text, rest) => (c :: text, rest))

def basic : List Char → Option (List Char × List Char)
  | [] => none
  | '"' :: rest => some ([], rest)
  | '\\' :: 'u' :: a :: b :: c :: d :: rest => do
    let char ← codeEscape? [a, b, c, d]
    andChar char (basic rest)
  | '\\' :: 'U' :: a :: b :: c :: d :: e :: f :: g :: h :: rest => do
    let char ← codeEscape? [a, b, c, d, e, f, g, h]
    andChar char (basic rest)
  | '\\' :: c :: rest => do
    let char ← shortEscape? c
    andChar char (basic rest)
  | c :: rest => if isPrintable c && c != '\\' then andChar c (basic rest) else none

def literal : List Char → Option (List Char × List Char)
  | [] => none
  | '\'' :: rest => some ([], rest)
  | c :: rest => if isPrintable c then andChar c (literal rest) else none

-- A backslash before it joins the lines.
def endsLine : List Char → Bool
  | ' ' :: rest => endsLine rest
  | '\t' :: rest => endsLine rest
  | '\n' :: _ => true
  | '\r' :: '\n' :: _ => true
  | _ => false

-- After a backslash at the end of a line, white space is left out up to the next character. One or
-- two quotation marks may stand before the closing ones.
def basicLines (joining : Bool) : List Char → Option (List Char × List Char)
  | [] => none
  | '\n' :: rest => if joining then basicLines true rest else andChar '\n' (basicLines false rest)
  | '\r' :: '\n' :: rest =>
    if joining then basicLines true rest else andChar '\n' (basicLines false rest)
  | '"' :: '"' :: '"' :: '"' :: '"' :: rest => some (['"', '"'], rest)
  | '"' :: '"' :: '"' :: '"' :: rest => some (['"'], rest)
  | '"' :: '"' :: '"' :: rest => some ([], rest)
  | '\\' :: 'u' :: a :: b :: c :: d :: rest => do
    let char ← codeEscape? [a, b, c, d]
    andChar char (basicLines false rest)
  | '\\' :: 'U' :: a :: b :: c :: d :: e :: f :: g :: h :: rest => do
    let char ← codeEscape? [a, b, c, d, e, f, g, h]
    andChar char (basicLines false rest)
  | '\\' :: c :: rest =>
    if endsLine (c :: rest) then basicLines true rest
    else do
      let char ← shortEscape? c
      andChar char (basicLines false rest)
  | c :: rest =>
    if joining && (c == ' ' || c == '\t') then basicLines true rest
    else if isPrintable c && c != '\\' then andChar c (basicLines false rest)
    else none

-- One or two quotation marks may stand before the closing ones.
def literalLines : List Char → Option (List Char × List Char)
  | [] => none
  | '\n' :: rest => andChar '\n' (literalLines rest)
  | '\r' :: '\n' :: rest => andChar '\n' (literalLines rest)
  | '\'' :: '\'' :: '\'' :: '\'' :: '\'' :: rest => some (['\'', '\''], rest)
  | '\'' :: '\'' :: '\'' :: '\'' :: rest => some (['\''], rest)
  | '\'' :: '\'' :: '\'' :: rest => some ([], rest)
  | c :: rest => if isPrintable c then andChar c (literalLines rest) else none

def dropLineEnd : List Char → List Char
  | '\n' :: rest => rest
  | '\r' :: '\n' :: rest => rest
  | text => text

def quoted? (text : List Char) : Option (String × List Char) :=
  let read : Option (List Char × List Char) :=
    match text with
    | '"' :: '"' :: '"' :: rest => basicLines false (dropLineEnd rest)
    | '\'' :: '\'' :: '\'' :: rest => literalLines (dropLineEnd rest)
    | '"' :: rest => basic rest
    | '\'' :: rest => literal rest
    | _ => none
  read.map fun (text, rest) => (String.ofList text, rest)

end FrameMarkers.Toml
