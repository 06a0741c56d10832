namespace FrameMarkers.Text

def appendDigit (value : Nat) (digit : Char) : Nat :=
  10 * value + (digit.toNat - '0'.toNat)

def decimalValue (digits : List Char) : Nat :=
  digits.foldl appendDigit 0

def hexDigit? (c : Char) : Option Nat :=
  if '0' ≤ c ∧ c ≤ '9' then some (c.toNat - '0'.toNat)
  else if 'a' ≤ c ∧ c ≤ 'f' then some (c.toNat - 'a'.toNat + 10)
  else if 'A' ≤ c ∧ c ≤ 'F' then some (c.toNat - 'A'.toNat + 10)
  else none

def baseValue? (base : Nat) (digits : List Char) : Option Nat :=
  digits.foldlM (fun value digit => do
    let digit ← hexDigit? digit
    if digit < base then some (base * value + digit) else none) 0

def scalarChar? (code : Nat) : Option Char :=
  if code < 0xD800 ∨ 0xDFFF < code ∧ code < 0x110000 then some (Char.ofNat code) else none

def doubleBits : Nat :=
  53

-- Of two that are equally near, the one whose last digit is even.
def roundToBits (bits value : Nat) : Nat :=
  let unit := Nat.pow 2 (value.log2 + 1 - bits)
  let units := value / unit
  let rest := value % unit
  if unit < 2 * rest ∨ (unit = 2 * rest ∧ units % 2 = 1) then (units + 1) * unit else units * unit

-- Half a unit above the largest double.
def overflowBound : Nat :=
  Nat.pow 2 1024 - Nat.pow 2 970

def fitsDouble (digits : List Char) (exponent : Int) : Bool :=
  let value := decimalValue digits
  if value = 0 then true
  else if 310 < exponent then false
  else if exponent + digits.length < 0 then true
  else if exponent < 0 then value < overflowBound * Nat.pow 10 exponent.natAbs
  else value * Nat.pow 10 exponent.natAbs < overflowBound

def maxPower : Nat :=
  308

-- Both factors are rounded first.
def fitsScaled (significand : Nat) (exponent : Int) : Bool :=
  significand == 0 || exponent < 0
    || (exponent ≤ maxPower
      && roundToBits doubleBits significand * roundToBits doubleBits (Nat.pow 10 exponent.toNat)
        < overflowBound)

end FrameMarkers.Text
