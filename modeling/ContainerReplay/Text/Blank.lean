/-!
# Blank space, trimming and splitting

Blank characters are those with the Unicode property White_Space.  Every operation works on the
character list of a text, so that each law is one about lists.
-/

set_option autoImplicit false

namespace ContainerReplay.Text

/-- The Unicode property White_Space; U+200B and U+FEFF do not have it. -/
def isBlank (c : Char) : Bool :=
  let n := c.toNat
  (0x9 ≤ n && n ≤ 0xD) || n == 0x20 || n == 0x85 || n == 0xA0 || n == 0x1680 ||
    (0x2000 ≤ n && n ≤ 0x200A) || n == 0x2028 || n == 0x2029 || n == 0x202F || n == 0x205F ||
    n == 0x3000

def trimmed (cs : List Char) : List Char :=
  ((cs.dropWhile isBlank).reverse.dropWhile isBlank).reverse

def trim (text : String) : String :=
  String.ofList (trimmed text.toList)

/-- The trimmed text, unless nothing is left of it. -/
def nonBlank? (text : String) : Option String :=
  match trimmed text.toList with
  | [] => none
  | cs => some (String.ofList cs)

/-- The pieces of a character list between the occurrences of a separator; never empty. -/
def splitAt (separator : Char) : List Char → List (List Char)
  | [] => [[]]
  | c :: rest =>
      if c = separator then [] :: splitAt separator rest
      else
        match splitAt separator rest with
        | [] => [[c]]
        | piece :: pieces => (c :: piece) :: pieces

/-- The trimmed items of a comma-separated list, blank items left out. -/
def listItems (text : String) : List String :=
  (splitAt ',' text.toList).filterMap fun piece =>
    match trimmed piece with
    | [] => none
    | cs => some (String.ofList cs)

def dropLeading (unwanted : Char) (cs : List Char) : List Char :=
  cs.dropWhile (· == unwanted)

def dropTrailing (unwanted : Char) (cs : List Char) : List Char :=
  (dropLeading unwanted cs.reverse).reverse

/-- Lower case for the ASCII letters, every other character unchanged. -/
def lowerAscii (text : String) : String :=
  String.ofList (text.toList.map Char.toLower)

theorem splitAt_ne_nil (separator : Char) (cs : List Char) : splitAt separator cs ≠ [] := by
  cases cs with
  | nil => simp [splitAt]
  | cons c rest =>
      simp only [splitAt]
      split
      · simp
      · split <;> simp

end ContainerReplay.Text
