import FrameMarkers.Text.Decimal
import FrameMarkers.Toml.Basic

namespace FrameMarkers.Toml

open Text (baseValue? decimalValue fitsDouble)

def isDigitRun (base : Nat) : List Char → Bool
  | [] => false
  | [c] => (baseValue? base [c]).isSome
  | c :: '_' :: rest => (baseValue? base [c]).isSome && isDigitRun base rest
  | c :: rest => (baseValue? base [c]).isSome && isDigitRun base rest

def plain (word : List Char) : List Char :=
  word.filter (· != '_')

def splitSign : List Char → Bool × List Char
  | '-' :: rest => (true, rest)
  | '+' :: rest => (false, rest)
  | word => (false, word)

def isWhole (word : List Char) : Bool :=
  isDigitRun 10 word && (word.head? != some '0' || word.length == 1)

-- Integers are less than this and not less than its negative.
def integerLimit : Nat :=
  0x8000000000000000

def fits (base : Nat) (digits : List Char) : Bool :=
  isDigitRun base digits && (baseValue? base (plain digits)).any (· < integerLimit)

-- Those of other bases than ten have no sign.
def isInteger (word : List Char) : Bool :=
  match word with
  | '0' :: 'x' :: digits => fits 16 digits
  | '0' :: 'o' :: digits => fits 8 digits
  | '0' :: 'b' :: digits => fits 2 digits
  | _ =>
    let (negative, digits) := splitSign word
    isWhole digits
      && decimalValue (plain digits) < integerLimit + (if negative then 1 else 0)

def exponent? (word : List Char) : Option Int :=
  let (negative, digits) := splitSign word
  if isDigitRun 10 digits then
    let value : Int := decimalValue (plain digits)
    some (if negative then -value else value)
  else none

def exponentPart? : List Char → Option (Option Int)
  | [] => some none
  | c :: rest => if c = 'e' ∨ c = 'E' then (exponent? rest).map some else none

-- A floating number has a fraction or an exponent, or both.
def floating? (word : List Char) : Option (List Char × Int) :=
  let isDigit := fun (c : Char) => c.isDigit || c == '_'
  let whole := word.takeWhile isDigit
  if isWhole whole then
    match word.dropWhile isDigit with
    | '.' :: rest =>
      let fraction := rest.takeWhile isDigit
      if isDigitRun 10 fraction then
        (exponentPart? (rest.dropWhile isDigit)).map fun exponent =>
          (plain (whole ++ fraction), exponent.getD 0 - (plain fraction).length)
      else none
    | rest => do
      let exponent ← (exponentPart? rest).bind id
      pure (plain whole, exponent)
  else none

-- A number with digits may not be too large for double precision.
def isFloating (word : List Char) : Bool :=
  let (negative, unsigned) := splitSign word
  unsigned == "inf".toList || unsigned == "nan".toList
    || (floating? unsigned).any fun (digits, exponent) => negative || fitsDouble digits exponent

def twoDigits? (first second : Char) (low high : Nat) : Option Nat :=
  if first.isDigit && second.isDigit then
    let value := decimalValue [first, second]
    if low ≤ value ∧ value ≤ high then some value else none
  else none

def monthLength (year month : Nat) : Nat :=
  let isLeapYear := year % 4 = 0 ∧ (year % 100 ≠ 0 ∨ year % 400 = 0)
  if month = 2 then if isLeapYear then 29 else 28
  else if month ∈ [4, 6, 9, 11] then 30
  else 31

def date? : List Char → Option (List Char)
  | a :: b :: c :: d :: '-' :: e :: f :: '-' :: g :: h :: rest => do
    if [a, b, c, d].all Char.isDigit then
      let month ← twoDigits? e f 1 12
      let _ ← twoDigits? g h 1 (monthLength (decimalValue [a, b, c, d]) month)
      pure rest
    else none
  | _ => none

def time? : List Char → Option (List Char)
  | a :: b :: ':' :: c :: d :: ':' :: e :: f :: rest => do
    let _ ← twoDigits? a b 0 23
    let _ ← twoDigits? c d 0 59
    let _ ← twoDigits? e f 0 60
    match rest with
    | '.' :: fraction =>
      if (fraction.head?).any Char.isDigit then pure (fraction.dropWhile Char.isDigit) else none
    | _ => pure rest
  | _ => none

def isOffset : List Char → Bool
  | [] => true
  | ['Z'] => true
  | ['z'] => true
  | [sign, a, b, ':', c, d] =>
    (sign == '+' || sign == '-') && (twoDigits? a b 0 23).isSome && (twoDigits? c d 0 59).isSome
  | _ => false

def isTimeWithOffset (word : List Char) : Bool :=
  (time? word).any isOffset

def isDate (word : List Char) : Bool :=
  (time? word).any List.isEmpty
    || (date? word).any fun rest =>
      match rest with
      | [] => true
      | c :: time => (c == 'T' || c == 't') && isTimeWithOffset time

def isWordChar (c : Char) : Bool :=
  c.isAlphanum || c == '+' || c == '-' || c == '_' || c == '.' || c == ':'

def ofWord? (word : List Char) : Option Toml :=
  if word == "true".toList then some (.bool true)
  else if word == "false".toList then some (.bool false)
  else if isInteger word || isFloating word then some .number
  else if isDate word then some .date
  else none

def bare? (text : List Char) : Option (Toml × List Char) := do
  let word := text.takeWhile isWordChar
  let rest := text.dropWhile isWordChar
  let value ← ofWord? word
  match rest with
  | ' ' :: after =>
    if (date? word).any List.isEmpty && isTimeWithOffset (after.takeWhile isWordChar) then
      pure (value, after.dropWhile isWordChar)
    else pure (value, rest)
  | _ => pure (value, rest)

end FrameMarkers.Toml
