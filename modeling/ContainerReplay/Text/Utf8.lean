/-!
# Text from bytes

A byte sequence is a text exactly if it is well-formed UTF-8; otherwise the fault says where the
first ill-formed sequence starts.
-/

set_option autoImplicit false

namespace ContainerReplay.Text

/-- The first place where bytes stop being UTF-8. -/
inductive Utf8Fault where
  /-- `length` bytes from `index` on begin no well-formed sequence. -/
  | invalid (length index : Nat)
  /-- The bytes end inside the sequence that starts at `index`. -/
  | incomplete (index : Nat)
  deriving Repr, DecidableEq

def Utf8Fault.message : Utf8Fault → String
  | .invalid length index => s!"invalid utf-8 sequence of {length} bytes from index {index}"
  | .incomplete index => s!"incomplete utf-8 byte sequence from index {index}"

def isContinuation (b : UInt8) : Bool :=
  0x80 ≤ b && b ≤ 0xBF

/-- The second bytes that may follow a lead byte of three. -/
def secondOfThree (lead second : UInt8) : Bool :=
  if lead = 0xE0 then 0xA0 ≤ second && second ≤ 0xBF
  else if lead = 0xED then 0x80 ≤ second && second ≤ 0x9F
  else isContinuation second

/-- The second bytes that may follow a lead byte of four. -/
def secondOfFour (lead second : UInt8) : Bool :=
  if lead = 0xF0 then 0x90 ≤ second && second ≤ 0xBF
  else if lead = 0xF4 then 0x80 ≤ second && second ≤ 0x8F
  else isContinuation second

/-- What begins with a byte. -/
inductive Utf8Sequence where
  /-- A well-formed sequence of `length` bytes for one character. -/
  | char (c : Char) (length : Nat)
  /-- `length` bytes that begin no well-formed sequence. -/
  | invalid (length : Nat)
  /-- The bytes end inside a sequence. -/
  | incomplete
  deriving Repr, DecidableEq

def payload (b : UInt8) : Nat :=
  b.toNat % 0x40

/-- The sequence of a lead byte and the bytes after it.  An invalid one counts the bytes that could
begin a sequence, and at least the lead. -/
def sequenceAt (lead : UInt8) (rest : List UInt8) : Utf8Sequence :=
  let n := lead.toNat
  if n < 0x80 then .char (Char.ofNat n) 1
  else if 0xC2 ≤ n ∧ n ≤ 0xDF then
    match rest with
    | [] => .incomplete
    | second :: _ =>
        if isContinuation second then
          .char (Char.ofNat ((n - 0xC0) * 0x40 + payload second)) 2
        else .invalid 1
  else if 0xE0 ≤ n ∧ n ≤ 0xEF then
    match rest with
    | [] => .incomplete
    | second :: rest =>
        if secondOfThree lead second = false then .invalid 1
        else
          match rest with
          | [] => .incomplete
          | third :: _ =>
              if isContinuation third then
                .char (Char.ofNat
                  ((n - 0xE0) * 0x1000 + payload second * 0x40 + payload third)) 3
              else .invalid 2
  else if 0xF0 ≤ n ∧ n ≤ 0xF4 then
    match rest with
    | [] => .incomplete
    | second :: rest =>
        if secondOfFour lead second = false then .invalid 1
        else
          match rest with
          | [] => .incomplete
          | third :: rest =>
              if isContinuation third = false then .invalid 2
              else
                match rest with
                | [] => .incomplete
                | fourth :: _ =>
                    if isContinuation fourth then
                      .char (Char.ofNat ((n - 0xF0) * 0x40000 + payload second * 0x1000 +
                        payload third * 0x40 + payload fourth)) 4
                    else .invalid 3
  else .invalid 1

def firstFaultFrom : Nat → Nat → List UInt8 → Utf8Fault
  | 0, index, _ => .incomplete index
  | _ + 1, index, [] => .incomplete index
  | steps + 1, index, lead :: rest =>
      match sequenceAt lead rest with
      | .char _ length => firstFaultFrom steps (index + length) (rest.drop (length - 1))
      | .invalid length => .invalid length index
      | .incomplete => .incomplete index

def firstFault (bytes : List UInt8) : Utf8Fault :=
  firstFaultFrom bytes.length 0 bytes

/-- The characters of bytes, with a replacement character for whatever begins no sequence. -/
def replacingFrom : Nat → List UInt8 → List Char
  | 0, _ => []
  | _ + 1, [] => []
  | steps + 1, lead :: rest =>
      match sequenceAt lead rest with
      | .char c length => c :: replacingFrom steps (rest.drop (length - 1))
      | .invalid length => '\uFFFD' :: replacingFrom steps (rest.drop (length - 1))
      | .incomplete => ['\uFFFD']

def replacing (bytes : List UInt8) : List Char :=
  replacingFrom bytes.length bytes

def decodeUtf8 (bytes : ByteArray) : Except Utf8Fault String :=
  match String.fromUTF8? bytes with
  | some text => .ok text
  | none => .error (firstFault bytes.data.toList)

end ContainerReplay.Text
