import FrameMarkers.Text.Decimal

namespace FrameMarkers.Json

open Text (appendDigit decimalValue fitsScaled)

structure Numeral where
  whole : List Char
  fraction : List Char
  exponent : Int

namespace Numeral

def isDigits (text : List Char) : Bool :=
  !text.isEmpty && text.all Char.isDigit

def isWhole (text : List Char) : Bool :=
  isDigits text && (text.head? != some '0' || text.length == 1)

def exponent? : List Char → Option Int
  | '-' :: digits => if isDigits digits then some (-(decimalValue digits : Int)) else none
  | '+' :: digits => if isDigits digits then some (decimalValue digits) else none
  | digits => if isDigits digits then some (decimalValue digits) else none

def exponentPart? : List Char → Option Int
  | [] => some 0
  | c :: rest => if c = 'e' ∨ c = 'E' then exponent? rest else none

def ofUnsigned? (word : List Char) : Option Numeral :=
  let whole := word.takeWhile Char.isDigit
  let rest := word.dropWhile Char.isDigit
  if isWhole whole then
    match rest with
    | '.' :: rest =>
      let fraction := rest.takeWhile Char.isDigit
      if fraction.isEmpty then none
      else (exponentPart? (rest.dropWhile Char.isDigit)).map (⟨whole, fraction, ·⟩)
    | rest => (exponentPart? rest).map (⟨whole, [], ·⟩)
  else none

def ofWord? : List Char → Option Numeral
  | '-' :: word => ofUnsigned? word
  | word => ofUnsigned? word

def significandLimit : Nat :=
  0x10000000000000000

def extend (value : Nat) : List Char → Nat × List Char
  | [] => (value, [])
  | digit :: rest =>
    if appendDigit value digit < significandLimit then extend (appendDigit value digit) rest
    else (value, digit :: rest)

-- The digits that are left before the point count for the power, those behind it for nothing.
def scaled (numeral : Numeral) : Nat × Int :=
  let (value, wholeRest) := extend 0 numeral.whole
  let (value, fractionRest) := extend value numeral.fraction
  (value,
    numeral.exponent + wholeRest.length + fractionRest.length - numeral.fraction.length)

def isFinite (numeral : Numeral) : Bool :=
  fitsScaled numeral.scaled.1 numeral.scaled.2

end Numeral

end FrameMarkers.Json
