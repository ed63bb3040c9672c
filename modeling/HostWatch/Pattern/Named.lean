import HostWatch.Pattern.CharSet
import HostWatch.Text.Age
import HostWatch.Text.Boundary
import HostWatch.Text.Script
import HostWatch.Text.Search
/-!
# Sets by name

Properties, general categories and scripts are named loosely: case, blanks, hyphens, low lines and
a leading `is` do not count.  A name alone means a property, a category or a script, whichever is
found first; a name and a value mean a category, a script, an age or a class of characters that
decides where texts are divided.
-/

namespace HostWatch

namespace Category

/-- The names of a category in lower case and without separators. -/
def names : Category → List String
  | uppercaseLetter => ["lu", "uppercaseletter"]
  | lowercaseLetter => ["ll", "lowercaseletter"]
  | titlecaseLetter => ["lt", "titlecaseletter"]
  | modifierLetter => ["lm", "modifierletter"]
  | otherLetter => ["lo", "otherletter"]
  | nonspacingMark => ["mn", "nonspacingmark"]
  | spacingMark => ["mc", "spacingmark"]
  | enclosingMark => ["me", "enclosingmark"]
  | decimalNumber => ["nd", "decimalnumber", "digit"]
  | letterNumber => ["nl", "letternumber"]
  | otherNumber => ["no", "othernumber"]
  | connectorPunctuation => ["pc", "connectorpunctuation"]
  | dashPunctuation => ["pd", "dashpunctuation"]
  | openPunctuation => ["ps", "openpunctuation"]
  | closePunctuation => ["pe", "closepunctuation"]
  | initialPunctuation => ["pi", "initialpunctuation"]
  | finalPunctuation => ["pf", "finalpunctuation"]
  | otherPunctuation => ["po", "otherpunctuation"]
  | mathSymbol => ["sm", "mathsymbol"]
  | currencySymbol => ["sc", "currencysymbol"]
  | modifierSymbol => ["sk", "modifiersymbol"]
  | otherSymbol => ["so", "othersymbol"]
  | spaceSeparator => ["zs", "spaceseparator"]
  | lineSeparator => ["zl", "lineseparator"]
  | paragraphSeparator => ["zp", "paragraphseparator"]
  | control => ["cc", "control", "cntrl"]
  | format => ["cf", "format"]
  | privateUse => ["co", "privateuse"]

end Category

namespace CharSet

/-- The assigned characters. -/
def assigned : CharSet := ofCategories Category.all

/-- Groups of categories and their names. -/
def categoryGroups : List (List String × CharSet) :=
  [(["any"], any),
    (["ascii"], ascii),
    (["assigned"], assigned),
    (["cn", "unassigned"], compl assigned),
    (["lc", "casedletter"], ofCategories [.uppercaseLetter, .lowercaseLetter, .titlecaseLetter]),
    (["l", "letter"], letter),
    (["m", "mark", "combiningmark"], mark),
    (["n", "number"], ofCategories [.decimalNumber, .letterNumber, .otherNumber]),
    (["p", "punctuation", "punct"],
      ofCategories [.connectorPunctuation, .dashPunctuation, .openPunctuation, .closePunctuation,
        .initialPunctuation, .finalPunctuation, .otherPunctuation]),
    (["s", "symbol"],
      ofCategories [.mathSymbol, .currencySymbol, .modifierSymbol, .otherSymbol]),
    (["z", "separator"], ofCategories [.spaceSeparator, .lineSeparator, .paragraphSeparator]),
    (["c", "other"],
      union (ofCategories [.control, .format, .privateUse]) (compl assigned))]

/-- A category or a group of categories by its name. -/
def category? (name : String) : Option CharSet :=
  match Category.all.find? fun k ↦ k.names.contains name with
  | some k => some (table k.codes)
  | none => (categoryGroups.find? fun g ↦ g.1.contains name).map Prod.snd

/-- A script by its name. -/
def script? (name : String) : Option CharSet := (Script.named? name).map fun s ↦ table s.codes

/-- A script by its name, with the characters that it shares. -/
def sharedScript? (name : String) : Option CharSet :=
  (Script.named? name).map fun s ↦ table s.extended

/-- Names that mean a category although a property has them too. -/
def reservedNames : List String := ["cf", "sc", "lc"]

/-- What a loose name stands for: small letters without separators and without a leading `is`. -/
def looseName (name : List Char) : String :=
  let strip (s : List Char) : List Char :=
    (s.filter fun c ↦ c ≠ ' ' && c ≠ '_' && c ≠ '-' && c.toNat < 128).map Char.toLower
  match name with
  | c :: d :: rest =>
    if c.toLower = 'i' ∧ d.toLower = 's' then
      if strip rest = ['c'] then "isc" else .ofList (strip rest)
    else .ofList (strip name)
  | _ => .ofList (strip name)

/-- The set of a name alone. -/
def named? (name : List Char) : Option CharSet :=
  let name := looseName name
  let property? := if reservedNames.contains name then none else Property.named? name
  match property? with
  | some p => some (ofProperty p)
  | none => category? name <|> script? name

/-- The set of a class of characters by its name. -/
def ofClass? (classes : List Property) (name : String) : Option CharSet :=
  (classes.find? fun p ↦ p.names.contains name).map ofProperty

/-- The set of a name and a value. -/
def valued? (name value : List Char) : Option CharSet :=
  let name := looseName name
  let value := looseName value
  if name = "gc" ∨ name = "generalcategory" then category? value
  else if name = "sc" ∨ name = "script" then script? value
  else if name = "scx" ∨ name = "scriptextensions" then sharedScript? value
  else if name = "age" then (Age.upTo? value Age.all).map table
  else if name = "gcb" ∨ name = "graphemeclusterbreak" then ofClass? GraphemeClass.all value
  else if name = "wb" ∨ name = "wordbreak" then ofClass? WordClass.all value
  else if name = "sb" ∨ name = "sentencebreak" then ofClass? SentenceClass.all value
  else none

/-- The set that a text names, and whether its complement is meant: a name alone, or a name and a
value with one of three signs between them, the first of which denies. -/
def ofText? (s : List Char) : Option (CharSet × Bool) :=
  match splitAtPiece ['!', '='] s with
  | [_] =>
    match splitFirst ':' s with
    | some (name, value) => (valued? name value).map (·, false)
    | none =>
      match splitFirst '=' s with
      | some (name, value) => (valued? name value).map (·, false)
      | none => (named? s).map (·, false)
  | [name, value] => (valued? name value).map (·, true)
  | _ => none

end CharSet

end HostWatch
