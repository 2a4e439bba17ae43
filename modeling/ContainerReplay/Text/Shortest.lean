import ContainerReplay.Text.Numeral

/-!
# The shortest decimal of a binary number

A finite binary number stands for the reals that round to it.  Its text is the decimal with the
fewest digits among them, the closest if there are several, found by exact arithmetic.
-/

set_option autoImplicit false

namespace ContainerReplay.Text

/-- The number `significand · 2 ^ exponent`. -/
structure Binary where
  significand : Nat
  exponent : Int
  /-- Whether the gap to the number below is half the gap to the number above. -/
  narrowBelow : Bool
  deriving Repr, DecidableEq

namespace Binary

/-- The absolute value of a finite number of 64 bits. -/
def ofBits (bits : UInt64) : Binary :=
  let scale := ((bits >>> 52) &&& 0x7FF).toNat
  let fraction := (bits &&& 0xFFFFFFFFFFFFF).toNat
  if scale = 0 then ⟨fraction, -1074, false⟩
  else ⟨Nat.pow 2 52 + fraction, (scale : Int) - 1075, fraction = 0 ∧ 1 < scale⟩

def compareScaled (first : Nat) (tens : Int) (second : Nat) (twos : Int) : Ordering :=
  compare (first * Nat.pow 10 tens.toNat * Nat.pow 2 (-twos).toNat)
    (second * Nat.pow 2 twos.toNat * Nat.pow 10 (-tens).toNat)

/-- Whether `digits · 10 ^ tens` rounds to the number; a half goes to the even significand. -/
def readsBack (number : Binary) (digits : Nat) (tens : Int) : Bool :=
  -- what rounds to the number lies between these, in quarters of its last place
  let low := 4 * number.significand - (if number.narrowBelow then 1 else 2)
  let high := 4 * number.significand + 2
  let withEnds := number.significand % 2 = 0
  let below := compareScaled digits tens low (number.exponent - 2)
  let above := compareScaled digits tens high (number.exponent - 2)
  (below = .gt || (withEnds && below = .eq)) && (above = .lt || (withEnds && above = .eq))

def numerator (number : Binary) : Nat :=
  number.significand * Nat.pow 2 number.exponent.toNat

def denominator (number : Binary) : Nat :=
  Nat.pow 2 (-number.exponent).toNat

/-- The least `k` for which a positive value is below `10 ^ k`. -/
def magnitude (number : Binary) : Int :=
  let guess := ((Nat.toDigits 10 number.numerator).length : Int) -
    (Nat.toDigits 10 number.denominator).length
  -- the numbers of digits leave a choice between two
  match compareScaled 1 guess number.significand number.exponent with
  | .gt => guess
  | .eq => guess + 1
  | .lt => guess + 1

def inUnits (number : Binary) (tens : Int) : Nat :=
  number.numerator * Nat.pow 10 (-tens).toNat / (number.denominator * Nat.pow 10 tens.toNat)

/-- Of two neighbours in units of `10 ^ tens` the closer one; in the middle, the even one. -/
def closer (number : Binary) (lower : Nat) (tens : Int) : Nat :=
  match compareScaled (2 * lower + 1) tens (2 * number.significand) number.exponent with
  | .gt => lower
  | .lt => lower + 1
  | .eq => if lower % 2 = 0 then lower else lower + 1

/-- The decimal in units of `10 ^ tens` that reads back, if there is one. -/
def decimalAt (number : Binary) (tens : Int) : Option Nat :=
  let lower := number.inUnits tens
  match number.readsBack lower tens, number.readsBack (lower + 1) tens with
  | true, true => some (number.closer lower tens)
  | true, false => some lower
  | false, true => some (lower + 1)
  | false, false => none

/-- Tries ever more digits; the last attempt is taken as it is. -/
def shortestFrom (number : Binary) (magnitude : Int) : Nat → Nat → Nat × Int
  | 0, digits => (number.closer (number.inUnits (magnitude - digits)) (magnitude - digits),
      magnitude - digits)
  | attempts + 1, digits =>
      match number.decimalAt (magnitude - digits) with
      | some decimal => (decimal, magnitude - digits)
      | none => shortestFrom number magnitude attempts (digits + 1)

def stripZeros : Nat → Nat × Int → Nat × Int
  | 0, decimal => decimal
  | steps + 1, (digits, tens) =>
      if digits % 10 = 0 ∧ digits ≠ 0 then stripZeros steps (digits / 10, tens + 1)
      else (digits, tens)

/-- The digits and the power of ten of the shortest decimal of a positive number. -/
def shortest (number : Binary) : Nat × Int :=
  stripZeros 18 (number.shortestFrom number.magnitude 16 1)

end Binary

/-- Where the positional notation of numbers ends: the first digit stands at one of the places from
`10 ^ -5` to `10 ^ 15`. -/
def isPositional (magnitude : Int) : Bool :=
  -5 < magnitude && magnitude ≤ 16

/-- Lays out digits times a power of ten: positionally with at least one decimal place, or with an
exponent that shows its sign. -/
def layOut (digits : Nat) (tens : Int) : String :=
  let shown := Nat.toDigits 10 digits
  let magnitude := (shown.length : Int) + tens
  if isPositional magnitude then
    if 0 ≤ tens then String.ofList (shown ++ List.replicate tens.toNat '0') ++ ".0"
    else if 0 < magnitude then
      String.ofList (shown.take magnitude.toNat ++ '.' :: shown.drop magnitude.toNat)
    else "0." ++ String.ofList (List.replicate (-magnitude).toNat '0' ++ shown)
  else
    let places := match shown with
      | [] => []
      | [digit] => [digit]
      | digit :: rest => digit :: '.' :: rest
    String.ofList places ++ (if 0 < magnitude then "e+" else "e") ++ toString (magnitude - 1)

def floatText (number : Float) : String :=
  let bits := number.toBits
  let sign := if 0x8000000000000000 ≤ bits then "-" else ""
  let binary := Binary.ofBits bits
  if binary.significand = 0 then sign ++ "0.0"
  else
    let (digits, tens) := binary.shortest
    sign ++ layOut digits tens

end ContainerReplay.Text
