import HostWatch.Config.Problem
import HostWatch.Display.Message
/-!
# A configuration on the terminal

The effective settings, and every rule and push with a mark that tells whether it can be used.
-/

namespace HostWatch

namespace Display

/-- Marks what can be used and what cannot. -/
def mark (colors : Bool) (usable : Bool) : String :=
  if usable then paint colors (.ofColor .green) "✓" else paint colors (.ofColor .red) "✗"

/-- The line of a rule. -/
def ruleLine (colors : Bool) (r : Rule) : String :=
  line ("  " ++ match r.validate with
    | .ok t => mark colors true ++ " " ++ r.text ++ " (" ++ t.kind.name ++ ")"
    | .error e => mark colors false ++ " " ++ r.text ++ ": " ++ e.message)

/-- A push under its name and its service. -/
def pushText (p : Push) : String := p.name ++ " [" ++ p.service.name ++ "]"

/-- The line of a push. -/
def pushLine (colors : Bool) (p : Push) : String :=
  line ("  " ++ match p.channel with
    | .ok c =>
      mark colors true ++ " " ++ pushText p ++ " " ++ paint colors .dimmed c.target.describe
    | .error e => mark colors false ++ " " ++ pushText p ++ ": " ++ e.message)

/-- The settings in effect, and warnings about those that are not as written. -/
def settings (colors : Bool) (path : String) (c : Config) : String × Log :=
  let (interval, intervalLog) := c.effectiveInterval
  let (rate, rateLog) := c.effectiveRate
  (title colors "Config" ++
    line ("  File:     " ++ paint colors (.ofColor .cyan) path) ++
    line ("  Version:  " ++ .ofList (decimalDigits c.version.toNat)) ++
    line ("  Name:     " ++ c.name) ++
    line ("  Interval: " ++ interval.secondsText) ++
    line ("  Rate:     " ++ .ofList (decimalDigits rate.times) ++ " push(es) per " ++
      rate.window.secondsText),
    intervalLog ++ rateLog)

/-- Some problems and their number. -/
def countText (n : Nat) : String := .ofList (decimalDigits n) ++ " problem(s)"

/-- Whether a configuration has problems. -/
def conclusion (colors : Bool) (problems : List Problem) : String :=
  line "" ++
    if problems.isEmpty then success colors "✓ Config is valid"
    else failure colors ("✗ " ++ countText problems.length ++ " found")

/-- A configuration, and warnings about settings that are not as written. -/
def config (colors : Bool) (path : String) (c : Config) : String × Log :=
  let (settingsText, log) := settings colors path c
  (settingsText ++
    title colors "Rules" ++ String.join (c.rules.map (ruleLine colors)) ++
    title colors "Pushes" ++ String.join (c.pushes.map (pushLine colors)) ++
    conclusion colors c.problems, log)

end Display

end HostWatch
