import FrameMarkers.Text.Decimal

namespace FrameMarkers.Json.Quoted

open Text (baseValue? scalarChar?)

-- An escape may stand for half a character.
def surrogatePair? (high low : Nat) : Option Char :=
  if 0xD800 ≤ high ∧ high < 0xDC00 ∧ 0xDC00 ≤ low ∧ low < 0xE000 then
    some (Char.ofNat (0x10000 + (high - 0xD800) * 0x400 + (low - 0xDC00)))
  else none

def shortEscape? : Char → Option Char
  | '"' => some '"'
  | '\\' => some '\\'
  | '/' => some '/'
  | 'b' => some '\x08'
  | 'f' => some '\x0c'
  | 'n' => some '\n'
  | 'r' => some '\r'
  | 't' => some '\t'
  | _ => none

def isBody : List Char → Bool
  | [] => true
  | '\\' :: 'u' :: a :: b :: c :: d :: rest => (baseValue? 16 [a, b, c, d]).isSome && isBody rest
  | '\\' :: c :: rest => (shortEscape? c).isSome && isBody rest
  | c :: rest => 0x20 ≤ c.toNat && c != '\\' && isBody rest

def unescape : List Char → Option (List Char)
  | [] => some []
  | '\\' :: 'u' :: a :: b :: c :: d :: rest =>
    match (baseValue? 16 [a, b, c, d]).bind scalarChar? with
    | some char => (unescape rest).map (char :: ·)
    | none =>
      match rest with
      | '\\' :: 'u' :: e :: f :: g :: h :: rest => do
        let high ← baseValue? 16 [a, b, c, d]
        let low ← baseValue? 16 [e, f, g, h]
        let char ← surrogatePair? high low
        (unescape rest).map (char :: ·)
      | _ => none
  | '\\' :: c :: rest => do
    let char ← shortEscape? c
    (unescape rest).map (char :: ·)
  | c :: rest => if c.toNat < 0x20 ∨ c = '\\' then none else (unescape rest).map (c :: ·)

def text? (body : List Char) : Option String :=
  (unescape body).map String.ofList

end FrameMarkers.Json.Quoted
