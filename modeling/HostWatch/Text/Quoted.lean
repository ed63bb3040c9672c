import HostWatch.Text.Category
/-!
# Quoted text

Messages show foreign text between quotation marks.  Quotation marks and backslashes get a
backslash, the usual control characters their short escapes, and every other character that would
not show on its own is written by its code point.
-/

namespace HostWatch

/-- Letters and marks that show nothing on their own: the letters that stand for no sound, and the
marks of other categories than those of nonspacing and enclosing marks that extend the character
before them. -/
def hiddenSigns : CodeTable := .ofText
  ["9be 9d7 b3e b57 bbe bd7 cc0 cc2 cc7-cc8 cca-ccb cd5-cd6 d3e d57 dcf ddf 115f-1160 1715",
   "1734 1b35 1b3b 1b3d 1b43-1b44 1baa 1bf2-1bf3 302e-302f 3164 a953 a9c0 ffa0 111c0 11235",
   "1133e 1134d 11357 113b8 113c2 113c5 113c7-113c9 113cf 114b0 114bd 115af 116b6 11930 1193d",
   "11f41 16ff0-16ff1 1d165-1d166 1d16d-1d172"]

/-- Characters that show on their own but have no category yet. -/
def newSigns : CodeTable := .ofText
  ["88f c5c cdc 20c1 2b96 a7ce-a7cf a7d2 a7d4 a7f1 fbc3-fbd2 fd90-fd91 fdc8-fdce 10940-10959",
   "10ec5-10ec7 10ed0-10ed8 11b61 11b65 11b67 11db0-11ddb 11de0-11de9 16ea0-16eb8 16ebb-16ed3",
   "16ff2-16ff6 187f8-187ff 18d09-18d1e 18d80-18df2 1ccfa-1ccfc 1ceba-1ced0 1cee0-1cef0",
   "1e6c0-1e6de 1e6e0-1e6e2 1e6e4-1e6e5 1e6e7-1e6ed 1e6f0-1e6f4 1e6fe-1e6ff 1f6d8 1f777-1f77a",
   "1f8d0-1f8d8 1fa54-1fa57 1fa8a 1fa8e 1fac8 1facd 1faea 1faef 1fbfa 2b73a-2b73f 2cea2-2cead",
   "323b0-33479"]

/-- The character shows on its own: it is assigned, neither a control nor a separator other than
the space, and does not merge with its neighbour. -/
def showsAlone (c : Char) : Bool :=
  let n := c.toNat
  if n < 127 then 32 ≤ n
  else newSigns.contains n || !hiddenSigns.contains n &&
    match Category.of? c with
    | none | some .control | some .format | some .privateUse | some .lineSeparator
    | some .paragraphSeparator | some .spaceSeparator | some .nonspacingMark
    | some .enclosingMark => false
    | _ => true

/-- The hexadecimal digits of `n` in lower case. -/
def hexDigits (n : Nat) : List Char := Nat.toDigits 16 n

/-- The written form of one character within quotation marks. -/
def quotedChar (c : Char) : List Char :=
  if c = '\x00' then ['\\', '0']
  else if c = '\t' then ['\\', 't']
  else if c = '\r' then ['\\', 'r']
  else if c = '\n' then ['\\', 'n']
  else if c = '"' ∨ c = '\\' then ['\\', c]
  else if showsAlone c then [c]
  else ['\\', 'u', '{'] ++ hexDigits c.toNat ++ ['}']

/-- The text between quotation marks. -/
def quoted (s : String) : String :=
  .ofList ('"' :: s.toList.flatMap quotedChar ++ ['"'])

end HostWatch
