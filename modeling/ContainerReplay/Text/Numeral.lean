/-!
# Numbers and truth values in settings and descriptors

Decimal integers with an optional sign, and the two words for truth values, each with the cause of
a refusal.  Digits are read from the left, and the first one that cannot be taken decides the cause.
-/

set_option autoImplicit false

namespace ContainerReplay.Text

/-- Why a text is not an integer of the wanted range, or not a truth value. -/
inductive NumeralError where
  | empty
  | invalidDigit
  | tooLarge
  | tooSmall
  | notBoolean
  deriving Repr, DecidableEq

def NumeralError.message : NumeralError → String
  | .empty => "cannot parse integer from empty string"
  | .invalidDigit => "invalid digit found in string"
  | .tooLarge => "number too large to fit in target type"
  | .tooSmall => "number too small to fit in target type"
  | .notBoolean => "provided string was not `true` or `false`"

def digitValue? (c : Char) : Option Nat :=
  if '0' ≤ c ∧ c ≤ '9' then some (c.toNat - '0'.toNat) else none

def readDigits (limit : Nat) (overflow : NumeralError) (value : Nat) :
    List Char → Except NumeralError Nat
  | [] => .ok value
  | c :: rest =>
      match digitValue? c with
      | none => .error .invalidDigit
      | some digit =>
          if value * 10 + digit ≤ limit then readDigits limit overflow (value * 10 + digit) rest
          else .error overflow

/-- A natural number of at most `limit`, with an optional plus sign. -/
def readNat (limit : Nat) (text : String) : Except NumeralError Nat :=
  match text.toList with
  | [] => .error .empty
  | ['+'] => .error .invalidDigit
  | '+' :: digits => readDigits limit .tooLarge 0 digits
  | digits => readDigits limit .tooLarge 0 digits

/-- An integer from `-limit - 1` to `limit`, with an optional sign. -/
def readInt (limit : Nat) (text : String) : Except NumeralError Int :=
  match text.toList with
  | [] => .error .empty
  | ['+'] => .error .invalidDigit
  | ['-'] => .error .invalidDigit
  | '+' :: digits => (readDigits limit .tooLarge 0 digits).map Int.ofNat
  | '-' :: digits => (readDigits (limit + 1) .tooSmall 0 digits).map fun n => -Int.ofNat n
  | digits => (readDigits limit .tooLarge 0 digits).map Int.ofNat

/-- The largest signed 32-bit integer, the bound of a start-up order. -/
def maxInt32 : Nat := 2147483647

def maxUInt64 : Nat := 18446744073709551615

/-- Exactly the words `true` and `false`. -/
def readBool (text : String) : Except NumeralError Bool :=
  if text = "true" then .ok true
  else if text = "false" then .ok false
  else .error .notBoolean

def decimal (n : Nat) : String :=
  String.ofList (Nat.toDigits 10 n)

def hexDigit (n : Nat) : Char :=
  Nat.digitChar n

def hexadecimal (n : Nat) : List Char :=
  Nat.toDigits 16 n

end ContainerReplay.Text
