import ContainerReplay.Json.Skip

/-!
# Reading records

A record is an object with named fields, or a list of its fields in order.  Fields that need not be
there may be left out, in a list only at its end; unknown names are passed over.
-/

set_option autoImplicit false

namespace ContainerReplay.Json

/-- One field of a record that is read piece by piece into `σ`. -/
structure Field (σ : Type) where
  name : String
  isRequired : Bool
  /-- Whether the field has been read. -/
  isRead : σ → Bool
  /-- Reads the field. -/
  read : σ → Reader σ

/-- The form of a record: its name and its fields. -/
structure RecordForm (σ α : Type) where
  name : String
  fields : List (Field σ)
  /-- Nothing has been read. -/
  start : σ
  /-- The record, unless a field is missing that must be there. -/
  finish : σ → Except Fault α

def demand {α : Type} (name : String) : Option α → Except Fault α
  | some value => .ok value
  | none => .error (.missingField name)

def Field.of {σ α : Type} (name : String) (isRequired : Bool) (reader : Reader α)
    (get : σ → Option α) (put : σ → α → σ) : Field σ where
  name := name
  isRequired := isRequired
  isRead := fun state => (get state).isSome
  read := fun state cs => (reader cs).map fun read => (put state read.1, read.2)

/-- Goes past the quote in front of the next key, if there is a key; otherwise past the end. -/
def nextKey (isFirst : Bool) (cs : List Char) : Except Fault (Bool × List Char) :=
  match skipSpace cs with
  | [] => .error .endInObject
  | '\x7d' :: rest => .ok (false, rest)
  | c :: rest =>
      if isFirst then
        if c = '"' then .ok (true, rest) else .error .keyNotText
      else if c = ',' then
        match skipSpace rest with
        | [] => .error .endInValue
        | '"' :: rest => .ok (true, rest)
        | '\x7d' :: _ => .error .trailingComma
        | _ => .error .keyNotText
      else .error .expectedObjectEnd

def readMember {σ : Type} (fields : List (Field σ)) (key : String) (state : σ) : Reader σ :=
  fun cs =>
    match fields.find? (fun field => field.name == key) with
    | none =>
        match passColon cs with
        | .error fault => .error fault
        | .ok rest => (skipValue rest).map fun rest => (state, rest)
    | some field =>
        -- a repeated key is refused before its value is looked at
        if field.isRead state then .error (.duplicateField key)
        else
          match passColon cs with
          | .error fault => .error fault
          | .ok rest => field.read state rest

/-- Reads members up to the end of an object; the text's length bounds the steps. -/
def membersFrom {σ : Type} (fields : List (Field σ)) : Nat → Bool → σ → Reader σ
  | 0, _, _, _ => .error .endInObject
  | steps + 1, isFirst, state, cs =>
      match nextKey isFirst cs with
      | .error fault => .error fault
      | .ok (false, rest) => .ok (state, rest)
      | .ok (true, rest) =>
          match stringRest rest with
          | .error fault => .error fault
          | .ok (key, rest) =>
              match readMember fields key state rest with
              | .error fault => .error fault
              | .ok (state, rest) => membersFrom fields steps false state rest

/-- Reads fields in order from the items of a list; `place` is the number of the next field. -/
def elementsFrom {σ : Type} (wanted : String) : List (Field σ) → Nat → Bool → σ → Reader σ
  | [], _, _, state, cs => .ok (state, cs)
  | field :: fields, place, isFirst, state, cs =>
      match nextItem isFirst cs with
      | .error fault => .error fault
      | .ok none =>
          -- a shorter list leaves out the last fields
          if field.isRequired then .error (.wrongLength place wanted)
          else elementsFrom wanted fields (place + 1) isFirst state cs
      | .ok (some item) =>
          match field.read state item with
          | .error fault => .error fault
          | .ok (state, rest) => elementsFrom wanted fields (place + 1) false state rest

def fieldCount (count : Nat) : String :=
  if count = 1 then "1 element" else s!"{count} elements"

def record {σ α : Type} (form : RecordForm σ α) : Reader α := fun cs =>
  let wanted := "struct " ++ form.name
  match skipSpace cs with
  | '\x7b' :: rest =>
      match membersFrom form.fields (rest.length + 1) true form.start rest with
      | .error fault => .error fault
      | .ok (state, rest) => (form.finish state).map fun value => (value, rest)
  | '[' :: rest =>
      match elementsFrom (wanted ++ " with " ++ fieldCount form.fields.length) form.fields 0 true
          form.start rest with
      | .error fault => .error fault
      | .ok (state, rest) =>
          match form.finish state with
          | .error fault => .error fault
          | .ok value => (endOfList rest).map fun rest => (value, rest)
  | other => .error (refuse wanted other)

/-! ## Names from a fixed set -/

def variant {α : Type} (known : List String) (ofText? : String → Option α) (name : String) :
    Except Fault α :=
  match ofText? name with
  | some value => .ok value
  | none => .error (.unknownVariant name known)

def named {α : Type} (known : List String) (ofText? : String → Option α) : Reader α := fun cs =>
  match Reader.text cs with
  | .error fault => .error fault
  | .ok (name, rest) => (variant known ofText? name).map fun value => (value, rest)

def endOfVariant (cs : List Char) : Except Fault (List Char) :=
  match skipSpace cs with
  | [] => .error .endInObject
  | '\x7d' :: rest => .ok rest
  | _ => .error .expectedValue

def variantKey (cs : List Char) : Except Fault (String × List Char) :=
  match skipSpace cs with
  | [] => .error .endInObject
  | '"' :: rest => stringRest rest
  | '\x7d' :: _ => .error .expectedValue
  | _ => .error .keyNotText

/-- Reads a name from a fixed set, given as a string or as the key of an object without a value. -/
def tagged {α : Type} (known : List String) (ofText? : String → Option α) : Reader α := fun cs =>
  match skipSpace cs with
  | [] => .error .endInValue
  | '"' :: rest => named known ofText? ('"' :: rest)
  | '\x7b' :: rest =>
      match variantKey rest with
      | .error fault => .error fault
      | .ok (name, rest) =>
          match variant known ofText? name with
          | .error fault => .error fault
          | .ok value =>
              match passColon rest with
              | .error fault => .error fault
              | .ok rest =>
                  match Reader.nothing rest with
                  | .error fault => .error fault
                  | .ok (_, rest) => (endOfVariant rest).map fun rest => (value, rest)
  | _ => .error .expectedValue

end ContainerReplay.Json
