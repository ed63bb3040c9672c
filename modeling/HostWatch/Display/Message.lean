import HostWatch.Display.Style
/-!
# Messages on the terminal

Single lines in the style of what they tell, and the titles of sections.
-/

namespace HostWatch

namespace Display

/-- A line. -/
def line (text : String) : String := text ++ "\n"

/-- A warning. -/
def warning (colors : Bool) (text : String) : String :=
  line (paint colors (.boldIn .yellow) ("⚠️  Warning: " ++ text))

/-- A remark. -/
def info (colors : Bool) (text : String) : String := line (paint colors (.ofColor .cyan) text)

/-- A success. -/
def success (colors : Bool) (text : String) : String := line (paint colors (.boldIn .green) text)

/-- A failure. -/
def failure (colors : Bool) (text : String) : String := line (paint colors (.boldIn .red) text)

/-- The title of a section, underlined by as many hyphens as it has characters. -/
def title (colors : Bool) (text : String) : String :=
  line "" ++ line (paint colors (.boldIn .green) text) ++
    line (.ofList (List.replicate text.toList.length '-'))

end Display

end HostWatch
