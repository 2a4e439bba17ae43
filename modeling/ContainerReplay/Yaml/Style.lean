import ContainerReplay.Yaml.Scalar

/-!
# How a text is written in a YAML document

A text is written plainly, between single or double quotes, or as a block of lines; the first of
these that can hold it is taken, a text with line feeds preferring the block.
-/

set_option autoImplicit false

namespace ContainerReplay.Yaml

inductive Style where
  | plain
  | single
  | double
  | literal
  deriving Repr, DecidableEq

def isBreak (c : Char) : Bool :=
  c == '\n' || c == '\r' || c == '\u0085' || c == '\u2028' || c == '\u2029'

def isSpecial (c : Char) : Bool :=
  let n := c.toNat
  !(n == 0xA || (0x20 ≤ n && n ≤ 0x7E) || (0xA0 ≤ n && n ≤ 0xD7FF) ||
    (0xE000 ≤ n && n ≤ 0xFFFD && n != 0xFEFF) || 0x10000 ≤ n)

def hasPair (first second : Char → Bool) : List Char → Bool
  | [] => false
  | [_] => false
  | c :: d :: rest => (first c && second d) || hasPair first second (d :: rest)

def isSpace (c : Char) : Bool := c == ' '

def isGap (c : Char) : Bool :=
  c == ' ' || c == '\t' || isBreak c

def needsEscapes (cs : List Char) : Bool :=
  cs.any isSpecial || hasPair isSpace isBreak cs || hasPair isBreak isSpace cs

def indicators : List Char :=
  ['#', ',', '[', ']', '\x7b', '\x7d', '&', '*', '!', '|', '>', '\'', '"', '%', '@', '\x60']

def gapFollows : List Char → Bool
  | [] => true
  | c :: _ => isGap c

def startsWithIndicator : List Char → Bool
  | [] => false
  | c :: rest =>
      indicators.contains c || ((c == '?' || c == ':' || c == '-') && gapFollows rest)

def hasColonMark : List Char → Bool
  | [] => false
  | c :: rest => (c == ':' && gapFollows rest) || hasColonMark rest

def startsWithDocumentMark : List Char → Bool
  | '-' :: '-' :: '-' :: _ => true
  | '.' :: '.' :: '.' :: _ => true
  | _ => false

def isSpaceOrBreak (c : Char) : Bool := isSpace c || isBreak c

def canBePlain (cs : List Char) : Bool :=
  !(needsEscapes cs || cs.any isBreak || cs.head?.any isSpaceOrBreak ||
    cs.getLast?.any isSpaceOrBreak || startsWithDocumentMark cs || startsWithIndicator cs ||
    hasColonMark cs || hasPair isGap (· == '#') cs)

def canBeLiteral (cs : List Char) : Bool :=
  !(cs.any isSpecial || hasPair isSpace isBreak cs || cs.getLast?.any isSpace)

def styleOf (content : String) : Style :=
  let cs := content.toList
  if '\n' ∈ cs then
    if canBeLiteral cs then .literal else .double
  else if isAmbiguous content = false ∧ canBePlain cs then .plain
  else if needsEscapes cs then .double
  else .single

def upperHex (width n : Nat) : List Char :=
  let digits := (Nat.toDigits 16 n).map Char.toUpper
  List.replicate (width - digits.length) '0' ++ digits

def shortEscape? (c : Char) : Option Char :=
  match c.toNat with
  | 0x00 => some '0'
  | 0x07 => some 'a'
  | 0x08 => some 'b'
  | 0x09 => some 't'
  | 0x0A => some 'n'
  | 0x0B => some 'v'
  | 0x0C => some 'f'
  | 0x0D => some 'r'
  | 0x1B => some 'e'
  | 0x22 => some '"'
  | 0x5C => some '\\'
  | 0x85 => some 'N'
  | 0x2028 => some 'L'
  | 0x2029 => some 'P'
  | _ => none

def escapeChar (c : Char) : List Char :=
  if isSpecial c || isBreak c || c == '"' || c == '\\' then
    match shortEscape? c with
    | some letter => ['\\', letter]
    | none =>
        if c.toNat ≤ 0xFF then '\\' :: 'x' :: upperHex 2 c.toNat
        else if c.toNat ≤ 0xFFFF then '\\' :: 'u' :: upperHex 4 c.toNat
        else '\\' :: 'U' :: upperHex 8 c.toNat
  else [c]

/-- Characters in which each line behind a line end begins with an indentation. -/
def indentLines (indent : List Char) (double : Char → List Char) :
    Bool → List Char → List Char
  | _, [] => []
  | behindBreak, c :: rest =>
      if isBreak c then c :: indentLines indent double true rest
      else
        (if behindBreak then indent else []) ++ double c ++ indentLines indent double false rest

def doubleQuote (c : Char) : List Char :=
  if c = '\'' then ['\'', '\''] else [c]

/-- What is said in front of a block: that it begins with a gap, and how it ends. -/
def blockHeader (cs : List Char) : List Char :=
  let start := if cs.head?.any isSpaceOrBreak then ['2'] else []
  let finish := match cs.reverse with
    | [] => ['-']
    | [c] => if isBreak c then ['+'] else ['-']
    | c :: d :: _ => if isBreak c then (if isBreak d then ['+'] else []) else ['-']
  '|' :: start ++ finish

/-- The end of a line behind what has been written, unless it ends a line already. -/
def lineEnd (cs : List Char) : List Char :=
  if cs.getLast?.any isBreak then [] else ['\n']

def writtenText (column : Nat) (content : String) : List Char :=
  let cs := content.toList
  let indent := List.replicate column ' '
  match styleOf content with
  | .plain => cs ++ ['\n']
  | .single =>
      let inner := indentLines indent doubleQuote false cs
      let closing := if cs.getLast?.any isBreak then indent else []
      '\'' :: inner ++ closing ++ ['\'', '\n']
  | .double => '"' :: cs.flatMap escapeChar ++ ['"', '\n']
  | .literal =>
      blockHeader cs ++ '\n' :: indentLines indent (fun c => [c]) true cs ++ lineEnd cs

end ContainerReplay.Yaml
