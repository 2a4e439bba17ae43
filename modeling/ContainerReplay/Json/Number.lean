import ContainerReplay.Json.Fault
import ContainerReplay.Text.Shortest

/-!
# Numbers in a JSON text

No form that is read wants a number, so a number is only described.  An integer of up to 64 bits
is described by its digits; any other number by the binary number that it is taken for, which is
computed from the digits that fit 64 bits and one power of ten.
-/

set_option autoImplicit false

namespace ContainerReplay.Json

def startsWithDigit : List Char → Bool
  | [] => false
  | c :: _ => (Text.digitValue? c).isSome

def dropDigits (cs : List Char) : List Char :=
  cs.dropWhile fun c => (Text.digitValue? c).isSome

def countDigits (cs : List Char) : Nat :=
  (cs.takeWhile fun c => (Text.digitValue? c).isSome).length

/-- Digits taken onto a number as long as it stays within a limit. -/
structure DigitRun where
  value : Nat
  taken : Nat
  rest : List Char

/-- Takes digits onto `value` as long as the result stays within `limit`. -/
def takeDigits (limit value taken : Nat) : List Char → DigitRun
  | [] => ⟨value, taken, []⟩
  | c :: rest =>
      match Text.digitValue? c with
      | none => ⟨value, taken, c :: rest⟩
      | some digit =>
          if value * 10 + digit ≤ limit then
            takeDigits limit (value * 10 + digit) (taken + 1) rest
          else ⟨value, taken, c :: rest⟩

def powerOfTen (exponent : Nat) : Float :=
  Float.ofScientific 1 false exponent

/-- Multiplies by a power of ten, in steps for small results; `none` if the result is too large. -/
def scaleByTen : Nat → Float → Int → Option Float
  | 0, value, _ => some value
  | steps + 1, value, exponent =>
      if exponent.natAbs ≤ 308 then
        if 0 ≤ exponent then
          let scaled := value * powerOfTen exponent.natAbs
          if scaled.isInf then none else some scaled
        else some (value / powerOfTen exponent.natAbs)
      else if value == 0 then some value
      else if 0 ≤ exponent then none
      else scaleByTen steps (value / powerOfTen 308) (exponent + 308)

def floating (negative : Bool) (significand : Nat) (exponent : Int) : Except Fault Found :=
  match scaleByTen 4 (Float.ofScientific significand false 0) exponent with
  | none => .error .numberOutOfRange
  | some value => .ok (.floating (Text.floatText (if negative then -value else value)))

def exponentLimit : Nat := 2147483647

/-- Describes a number from behind the sign of its exponent. -/
def exponentDigits (negative : Bool) (significand : Nat) (start : Int) (falling : Bool)
    (cs : List Char) : Except Fault Found :=
  match cs with
  | [] => .error .endInValue
  | _ =>
      if startsWithDigit cs then
        let run := takeDigits exponentLimit 0 0 cs
        if startsWithDigit run.rest then
          -- an exponent beyond its bound makes the number infinite or zero
          if significand ≠ 0 ∧ falling = false then .error .numberOutOfRange
          else floating negative 0 0
        else if falling then floating negative significand (start - run.value)
        else floating negative significand (start + run.value)
      else .error .invalidNumber

/-- Describes a number whose decimals have been read: an exponent may follow. -/
def afterDecimals (negative : Bool) (significand : Nat) (start : Int) (cs : List Char) :
    Except Fault Found :=
  match cs with
  | 'e' :: '+' :: rest => exponentDigits negative significand start false rest
  | 'E' :: '+' :: rest => exponentDigits negative significand start false rest
  | 'e' :: '-' :: rest => exponentDigits negative significand start true rest
  | 'E' :: '-' :: rest => exponentDigits negative significand start true rest
  | 'e' :: rest => exponentDigits negative significand start false rest
  | 'E' :: rest => exponentDigits negative significand start false rest
  | _ => floating negative significand start

def decimals (negative : Bool) (significand : Nat) (before : Int) (cs : List Char) :
    Except Fault Found :=
  let run := takeDigits Text.maxUInt64 significand 0 cs
  let start := before - run.taken
  -- decimals that do not fit are dropped without rounding
  if startsWithDigit run.rest then
    afterDecimals negative run.value start (dropDigits run.rest)
  else if run.taken = 0 then
    match cs with
    | [] => .error .endInValue
    | _ => .error .invalidNumber
  else afterDecimals negative run.value start run.rest

/-- Describes a number whose whole part is `significand · 10 ^ exponent`. -/
def afterWhole (negative : Bool) (significand : Nat) (exponent : Nat) (cs : List Char) :
    Except Fault Found :=
  match cs with
  | '.' :: rest => decimals negative significand exponent rest
  | _ => afterDecimals negative significand exponent cs

def isFractional : List Char → Bool
  | '.' :: _ => true
  | 'e' :: _ => true
  | 'E' :: _ => true
  | _ => false

/-- Describes a whole number; a negative one of more than 63 bits, and negative zero, is
floating. -/
def whole (negative : Bool) (value : Nat) : Except Fault Found :=
  if negative = false then .ok (.integer (Text.decimal value))
  else if 0 < value ∧ value ≤ Nat.pow 2 63 then .ok (.integer ("-" ++ Text.decimal value))
  else floating true value 0

def describeNumber (negative : Bool) (cs : List Char) : Except Fault Found :=
  match cs with
  | [] => .error .endInValue
  | '0' :: rest =>
      if startsWithDigit rest then .error .invalidNumber
      else if isFractional rest then afterWhole negative 0 0 rest
      else whole negative 0
  | _ =>
      if startsWithDigit cs then
        let run := takeDigits Text.maxUInt64 0 0 cs
        if startsWithDigit run.rest then
          afterWhole negative run.value (countDigits run.rest) (dropDigits run.rest)
        else if isFractional run.rest then afterWhole negative run.value 0 run.rest
        else whole negative run.value
      else .error .invalidNumber

end ContainerReplay.Json
