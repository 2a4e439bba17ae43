import ContainerReplay.Detection.Error
import ContainerReplay.Text.Blank
import ContainerReplay.Text.Utf8

/-!
# The encoding of a descriptor

A descriptor is UTF-8 unless its declaration names one of the spellings of Latin-1, in which every
byte is the character of its number.
-/

set_option autoImplicit false

namespace ContainerReplay.Descriptor

def bytesOf (text : String) : List UInt8 :=
  text.toUTF8.data.toList

/-- Bytes without the mark that UTF-8 files may begin with. -/
def withoutMark : List UInt8 → List UInt8
  | 0xEF :: 0xBB :: 0xBF :: rest => rest
  | bytes => bytes

/-- The bytes before the first `?>`, if there is one. -/
def beforeDeclarationEnd : List UInt8 → Option (List UInt8)
  | [] => none
  | 0x3F :: 0x3E :: _ => some []
  | b :: rest =>
      match beforeDeclarationEnd rest with
      | none => none
      | some bytes => some (b :: bytes)

def isEncodingChar (c : Char) : Bool :=
  c.isAlphanum || c == '.' || c == '_' || c == '-'

def isQuote (c : Char) : Bool :=
  c == '"' || c == '\''

/-- The quoted encoding name at the front, after white space, an equals sign and white space. -/
def assignedName? (cs : List Char) : Option (List Char) :=
  match cs.dropWhile Text.isBlank with
  | '=' :: rest =>
      match rest.dropWhile Text.isBlank with
      | open_ :: rest =>
          let name := rest.takeWhile isEncodingChar
          match rest.drop name.length with
          | close :: _ =>
              -- the two quotes need not be alike
              if isQuote open_ && isQuote close && !name.isEmpty then some name else none
          | [] => none
      | [] => none
  | _ => none

def encodingName? : List Char → Option (List Char)
  | [] => none
  | c :: rest =>
      if "encoding".toList.isPrefixOf (c :: rest) then
        match assignedName? ((c :: rest).drop 8) with
        | some name => some name
        | none => encodingName? rest
      else encodingName? rest

/-- The encoding that the declaration of a document names, in lower case. -/
def declaredEncoding? (bytes : List UInt8) : Option String :=
  let content := withoutMark bytes
  if (bytesOf "<?xml").isPrefixOf content then
    match beforeDeclarationEnd content with
    | none => none
    | some declaration =>
        -- the declaration is looked at before its encoding is known, so that any bytes must do
        (encodingName? (Text.replacing declaration)).map fun name =>
          Text.lowerAscii (String.ofList name)
  else none

def latin1Names : List String :=
  ["iso-8859-1", "iso8859-1", "iso_8859-1", "latin1", "latin-1", "l1"]

def latin1 (bytes : List UInt8) : List Char :=
  bytes.map fun b => Char.ofNat b.toNat

def decode (resource : String) (bytes : ByteArray) : Except DetectionError (List Char) :=
  if (declaredEncoding? bytes.data.toList).any latin1Names.contains then
    .ok (latin1 bytes.data.toList)
  else
    -- every other name, known or not, leaves UTF-8
    match Text.decodeUtf8 bytes with
    | .ok text => .ok text.toList
    | .error fault => .error (.malformed resource fault.message)

end ContainerReplay.Descriptor
