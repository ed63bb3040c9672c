import HostWatch.Text.Search
/-!
# Styled text

Texts for a terminal can be bold or dim and have a color.  A style is put around a text by control
sequences, or left out where colors are not wanted.
-/

namespace HostWatch

/-- A color of a terminal. -/
inductive Color where
  | red | green | yellow | cyan
  deriving DecidableEq, Repr

/-- The control code of a color. -/
def Color.code : Color → String
  | red => "31"
  | green => "32"
  | yellow => "33"
  | cyan => "36"

/-- How a text looks. -/
structure Style where
  /-- Bold. -/
  bold : Bool
  /-- Dim. -/
  dim : Bool
  /-- The color, unless it is the usual one. -/
  color : Option Color
  deriving DecidableEq, Repr

namespace Style

/-- As usual. -/
def plain : Style := ⟨false, false, none⟩

/-- Dim. -/
def dimmed : Style := ⟨false, true, none⟩

/-- In a color. -/
def ofColor (c : Color) : Style := ⟨false, false, some c⟩

/-- Bold and in a color. -/
def boldIn (c : Color) : Style := ⟨true, false, some c⟩

/-- The control codes of a style. -/
def codes (s : Style) : List String :=
  (if s.bold then ["1"] else []) ++ (if s.dim then ["2"] else []) ++
    (match s.color with
      | some c => [c.code]
      | none => [])

/-- The control sequence that ends all styles. -/
def reset : String := "\x1b[0m"

/-- The control sequence that starts a style. -/
def start (s : Style) : String := "\x1b[" ++ String.intercalate ";" s.codes ++ "m"

end Style

/-- A text in a style, if styles are wanted.  Where the text ends all styles itself, its style
starts again. -/
def paint (colors : Bool) (style : Style) (text : String) : String :=
  if !colors || style = .plain then text
  else
    let inner := replacePiece Style.reset.toList (Style.reset ++ style.start).toList text.toList
    style.start ++ .ofList inner ++ Style.reset

/-- A text with spaces after it up to a width. -/
def padRight (width : Nat) (text : String) : String :=
  text ++ .ofList (List.replicate (width - text.toList.length) ' ')

end HostWatch
