import HostWatch.Json.Value
import HostWatch.Rule.Evaluate
/-!
# Messages

A message is a template whose placeholders are replaced: the machine's name, and the alerts under
either of two placeholders.  The placeholders are replaced one after another.
-/

namespace HostWatch

namespace Template

/-- Stands for the machine's name. -/
def namePlaceholder : List Char := "\x7b\x7bname\x7d\x7d".toList

/-- Stands for the alerts. -/
def alertsPlaceholder : List Char := "\x7b\x7bmsg\x7d\x7d".toList

/-- Stands for the alerts too. -/
def pairsPlaceholder : List Char := "\x7b\x7bkvs\x7d\x7d".toList

/-- The template with its placeholders replaced, on lists of characters. -/
def fillChars (template name alerts : List Char) : List Char :=
  replacePiece pairsPlaceholder alerts
    (replacePiece alertsPlaceholder alerts (replacePiece namePlaceholder name template))

/-- The template with its placeholders replaced. -/
def fill (template name alerts : String) : String :=
  .ofList (fillChars template.toList name.toList alerts.toList)

end Template

namespace Alert

/-- An alert in two lines: when, and what. -/
def text (a : Alert) : String := a.time ++ "\n" ++ a.key ++ ": " ++ a.value

/-- Alerts one below the other. -/
def list (alerts : List Alert) : String := String.intercalate "\n" (alerts.map text)

end Alert

/-- The template filled for some alerts. -/
def Template.fillAlerts (template name : String) (alerts : List Alert) : String :=
  fill template name (Alert.list alerts)

namespace Json

mutual

/-- The value with the placeholders of every string within replaced; keys stay as they are. -/
def fillStrings (name alerts : String) : Json → Json
  | string s => string (Template.fill s name alerts)
  | array items => array (fillItems name alerts items)
  | object members => object (fillMembers name alerts members)
  | v => v

/-- The items of an array, filled. -/
def fillItems (name alerts : String) : List Json → List Json
  | [] => []
  | v :: rest => fillStrings name alerts v :: fillItems name alerts rest

/-- The members of an object, filled. -/
def fillMembers (name alerts : String) : List (String × Json) → List (String × Json)
  | [] => []
  | (k, v) :: rest => (k, fillStrings name alerts v) :: fillMembers name alerts rest

end

end Json

end HostWatch
