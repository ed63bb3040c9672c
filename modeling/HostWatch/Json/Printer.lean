import HostWatch.Json.Value
import HostWatch.Numeric.Decimal
/-!
# JSON text

Values are written compactly, without any white space, or over several lines with an indentation
of two spaces.  Both forms share their scalars.
-/

namespace HostWatch

namespace Json

/-- A character of a string: quotation mark and backslash get a backslash, control characters
their short escape or their code point, all others stand for themselves. -/
def stringChar (c : Char) : List Char :=
  if c = '"' ∨ c = '\\' then ['\\', c]
  else if c = '\x08' then ['\\', 'b']
  else if c = '\t' then ['\\', 't']
  else if c = '\n' then ['\\', 'n']
  else if c = '\x0c' then ['\\', 'f']
  else if c = '\r' then ['\\', 'r']
  else if c.toNat < 32 then
    ['\\', 'u', '0', '0'] ++ (if c.toNat < 16 then ['0'] else []) ++ Nat.toDigits 16 c.toNat
  else [c]

/-- A string between quotation marks. -/
def stringText (s : String) : List Char := '"' :: s.toList.flatMap stringChar ++ ['"']

/-- An integer. -/
def integerText (n : Int) : List Char := signText (decide (n < 0)) ++ decimalDigits n.natAbs

/-- The fewest digits that read back, an even last digit where two are equally near: positional
with a fraction for leading digits from `10 ^ -5` to `10 ^ 15`, with an exponent otherwise.  What
is not finite has no text and becomes null. -/
def floatText : Binary64 → List Char
  | .nan | .infinite _ => "null".toList
  | .finite negative r =>
    let d := shortestDecimal .even r
    let e := d.scientificExponent
    let magnitude :=
      if -5 ≤ e ∧ e ≤ 15 then
        if 0 ≤ d.exponent then d.positional ++ ['.', '0'] else d.positional
      else d.scientific
    signText negative ++ magnitude

mutual

/-- Compact text. -/
def compactText : Json → List Char
  | null => "null".toList
  | bool true => "true".toList
  | bool false => "false".toList
  | integer n => integerText n.val
  | float x => floatText x
  | string s => stringText s
  | array items => '[' :: compactItems items
  | object members => '\x7b' :: compactMembers members

/-- The items of an array and its closing bracket. -/
def compactItems : List Json → List Char
  | [] => [']']
  | [v] => compactText v ++ [']']
  | v :: w :: rest => compactText v ++ ',' :: compactItems (w :: rest)

/-- The members of an object and its closing brace. -/
def compactMembers : List (String × Json) → List Char
  | [] => ['\x7d']
  | [(k, v)] => stringText k ++ ':' :: (compactText v ++ ['\x7d'])
  | (k, v) :: m :: rest =>
    stringText k ++ ':' :: (compactText v ++ ',' :: compactMembers (m :: rest))

end

/-- A new line with the indentation of the given level. -/
def newLine (level : Nat) : List Char := '\n' :: List.replicate (2 * level) ' '

mutual

/-- Text over several lines; `level` is the indentation of the line it starts on. -/
def indentedText (level : Nat) : Json → List Char
  | array [] => ['[', ']']
  | array (v :: rest) =>
    '[' :: (newLine (level + 1) ++ indentedText (level + 1) v ++ indentedItems level rest)
  | object [] => ['\x7b', '\x7d']
  | object ((k, v) :: rest) =>
    '\x7b' :: (newLine (level + 1) ++ stringText k ++ ':' :: ' ' :: indentedText (level + 1) v ++
      indentedMembers level rest)
  | scalar => compactText scalar

/-- The items after the first and the closing bracket. -/
def indentedItems (level : Nat) : List Json → List Char
  | [] => newLine level ++ [']']
  | v :: rest =>
    ',' :: (newLine (level + 1) ++ indentedText (level + 1) v ++ indentedItems level rest)

/-- The members after the first and the closing brace. -/
def indentedMembers (level : Nat) : List (String × Json) → List Char
  | [] => newLine level ++ ['\x7d']
  | (k, v) :: rest =>
    ',' :: (newLine (level + 1) ++ stringText k ++ ':' :: ' ' :: indentedText (level + 1) v ++
      indentedMembers level rest)

end

/-- The value on one line. -/
def compact (v : Json) : String := .ofList (compactText v)

/-- The value over several lines. -/
def pretty (v : Json) : String := .ofList (indentedText 0 v)

end Json

end HostWatch
