/-!
# Blanks

White space in the sense of the Unicode property of that name, and the ways to divide a text at
it.  Texts are lists of characters here; the callers hold strings.
-/

namespace HostWatch

/-- White space. -/
def isBlank (c : Char) : Bool :=
  let n := c.toNat
  (9 ≤ n && n ≤ 13) || n == 0x20 || n == 0x85 || n == 0xa0 || n == 0x1680 ||
    (0x2000 ≤ n && n ≤ 0x200a) || n == 0x2028 || n == 0x2029 || n == 0x202f || n == 0x205f ||
    n == 0x3000

/-- The text without blanks at its start. -/
def trimStart (s : List Char) : List Char := s.dropWhile isBlank

/-- The text without blanks at its end. -/
def trimEnd (s : List Char) : List Char := (s.reverse.dropWhile isBlank).reverse

/-- The text without blanks at its ends. -/
def trim (s : List Char) : List Char := trimEnd (trimStart s)

/-- The text without any blanks. -/
def removeBlanks (s : List Char) : List Char := s.filter fun c ↦ !isBlank c

/-- The pieces between blanks, given the current piece in reverse. -/
def splitWords : List Char → List Char → List (List Char)
  | [], [] => []
  | [], word => [word.reverse]
  | c :: cs, word =>
    if isBlank c then
      if word.isEmpty then splitWords cs [] else word.reverse :: splitWords cs []
    else splitWords cs (c :: word)

/-- The longest pieces without blanks, in order. -/
def words (s : List Char) : List (List Char) := splitWords s []

/-- The lines of a text, given the current line in reverse; the end of the text closes a line that
holds a character. -/
def splitLines : List Char → List Char → List (List Char)
  | [], [] => []
  | [], line => [line.reverse]
  | c :: cs, line =>
    if c = '\n' then line.reverse :: splitLines cs [] else splitLines cs (c :: line)

/-- The lines of a text; each line feed ends one. -/
def lines (s : List Char) : List (List Char) := splitLines s []

end HostWatch
