import ContainerReplay.Text.Numeral

/-!
# Which texts could be taken for something else

A plain text in a YAML document may read as no value, a truth value or a number.  Such texts are
quoted, so that they stay texts.
-/

set_option autoImplicit false

namespace ContainerReplay.Yaml

/-- The words for no value, truth values and the numbers that are not finite. -/
def reservedWords : List String :=
  ["~", "null", "Null", "NULL", "true", "True", "TRUE", "false", "False", "FALSE",
    ".inf", ".Inf", ".INF", "+.inf", "+.Inf", "+.INF", "-.inf", "-.Inf", "-.INF",
    ".nan", ".NaN", ".NAN"]

def digitIn? (base : Nat) (c : Char) : Option Nat :=
  let value :=
    if '0' ≤ c ∧ c ≤ '9' then c.toNat - '0'.toNat
    else if 'a' ≤ c ∧ c ≤ 'f' then c.toNat - 'a'.toNat + 10
    else if 'A' ≤ c ∧ c ≤ 'F' then c.toNat - 'A'.toNat + 10
    else 16
  if value < base then some value else none

def digitsIn? (base value : Nat) : List Char → Option Nat
  | [] => some value
  | c :: rest =>
      match digitIn? base c with
      | none => none
      | some digit => digitsIn? base (value * base + digit) rest

def isBounded (base limit : Nat) (digits : List Char) : Bool :=
  match digits with
  | [] => false
  | _ =>
      match digitsIn? base 0 digits with
      | none => false
      | some value => value ≤ limit

/-- Whether a text is a base mark with digits, or decimal digits, within a limit. -/
def isMagnitude (limit : Nat) : List Char → Bool
  | '0' :: 'x' :: digits => isBounded 16 limit digits
  | '0' :: 'o' :: digits => isBounded 8 limit digits
  | '0' :: 'b' :: digits => isBounded 2 limit digits
  | digits => isBounded 10 limit digits

/-- Whether a text is an integer of at most 128 bits. -/
def isInteger : List Char → Bool
  | '-' :: rest => isMagnitude (Nat.pow 2 127) rest
  | '+' :: rest => isMagnitude (Nat.pow 2 128 - 1) rest
  | rest => isMagnitude (Nat.pow 2 128 - 1) rest

def isZeroPadded : List Char → Bool
  | '0' :: c :: rest => (c :: rest).all fun c => (Text.digitValue? c).isSome
  | _ => false

def unsigned : List Char → List Char
  | '+' :: rest => rest
  | '-' :: rest => rest
  | cs => cs

def digitsOf (cs : List Char) : List Char :=
  cs.takeWhile fun c => (Text.digitValue? c).isSome

def behindDigits (cs : List Char) : List Char :=
  cs.dropWhile fun c => (Text.digitValue? c).isSome

def decimalValue (digits : List Char) : Nat :=
  (digitsIn? 10 0 digits).getD 0

/-- The least number that is rounded to infinity. -/
def infinityBound : Nat := Nat.pow 2 1024 - Nat.pow 2 970

/-- Whether `digits · 10 ^ exponent` is rounded to a finite number. -/
def isFinite (digits : List Char) (exponent : Int) : Bool :=
  let value := decimalValue digits
  if value = 0 then true
  else
    let places := (Nat.toDigits 10 value).length + exponent
    -- far from the bound the places decide, and no large power is computed
    if places < 300 then true
    else if 310 < places then false
    else value * Nat.pow 10 exponent.toNat < infinityBound * Nat.pow 10 (-exponent).toNat

/-- The exponent of a number from behind its digits; `none` if it is malformed. -/
def exponent? : List Char → Option Int
  | [] => some 0
  | c :: rest =>
      if c = 'e' ∨ c = 'E' then
        let digits := unsigned rest
        match digits, behindDigits digits with
        | [], _ => none
        | _, _ :: _ => none
        | _, [] =>
            match rest with
            | '-' :: _ => some (-(decimalValue digits : Int))
            | _ => some (decimalValue digits)
      else none

def isFiniteNumber (cs : List Char) : Bool :=
  let whole := digitsOf cs
  match behindDigits cs with
  | '.' :: rest =>
      let decimals := digitsOf rest
      match whole ++ decimals, exponent? (behindDigits rest) with
      | [], _ => false
      | _, none => false
      | digits, some exponent => isFinite digits (exponent - decimals.length)
  | rest =>
      match whole, exponent? rest with
      | [], _ => false
      | _, none => false
      | digits, some exponent => isFinite digits exponent

/-- Whether a text could be taken for something other than a text. -/
def isAmbiguous (content : String) : Bool :=
  let cs := content.toList
  cs.isEmpty || reservedWords.contains content || isInteger cs || isZeroPadded (unsigned cs) ||
    isFiniteNumber (unsigned cs)

end ContainerReplay.Yaml
