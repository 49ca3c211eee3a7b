import ManifestPolicy.Unicode.Property
import ManifestPolicy.Unicode.Script

/-!
# Sets of code points by name

The general categories, scripts and binary properties by the names they have in
patterns. Case, blanks, dashes, underscores and an initial "is" do not matter in a
name.
-/

namespace ManifestPolicy
namespace CodeSet

/-- The union of sets. -/
def unions (sets : List CodeSet) : CodeSet := .ofRanges (sets.flatMap CodeSet.ranges)

/-- Letters that have case. -/
def casedLetter : CodeSet :=
  unions [Category.uppercaseLetter, Category.lowercaseLetter, Category.titlecaseLetter]

/-- The general categories with their names. -/
def namedCategories : List (List String × CodeSet) := [
  (["any"], all),
  (["ascii"], range 0 0x7F),
  (["assigned"], Category.assigned),
  (["c", "other"], unions [Category.control, Category.format, Category.privateUse,
    Category.unassigned]),
  (["cc", "control", "cntrl"], Category.control),
  (["cf", "format"], Category.format),
  (["cn", "unassigned"], Category.unassigned),
  (["co", "privateuse"], Category.privateUse),
  (["l", "letter"], unions [casedLetter, Category.modifierLetter, Category.otherLetter]),
  (["lc", "casedletter"], casedLetter),
  (["ll", "lowercaseletter"], Category.lowercaseLetter),
  (["lm", "modifierletter"], Category.modifierLetter),
  (["lo", "otherletter"], Category.otherLetter),
  (["lt", "titlecaseletter"], Category.titlecaseLetter),
  (["lu", "uppercaseletter"], Category.uppercaseLetter),
  (["m", "mark", "combiningmark"], CodeProperty.mark),
  (["mc", "spacingmark"], Category.spacingMark),
  (["me", "enclosingmark"], Category.enclosingMark),
  (["mn", "nonspacingmark"], Category.nonspacingMark),
  (["n", "number"], unions [Category.decimalNumber, Category.letterNumber,
    Category.otherNumber]),
  (["nd", "decimalnumber", "digit"], Category.decimalNumber),
  (["nl", "letternumber"], Category.letterNumber),
  (["no", "othernumber"], Category.otherNumber),
  (["p", "punctuation", "punct"], unions [Category.connectorPunctuation,
    Category.dashPunctuation, Category.openPunctuation, Category.closePunctuation,
    Category.initialPunctuation, Category.finalPunctuation, Category.otherPunctuation]),
  (["pc", "connectorpunctuation"], Category.connectorPunctuation),
  (["pd", "dashpunctuation"], Category.dashPunctuation),
  (["pe", "closepunctuation"], Category.closePunctuation),
  (["pf", "finalpunctuation"], Category.finalPunctuation),
  (["pi", "initialpunctuation"], Category.initialPunctuation),
  (["po", "otherpunctuation"], Category.otherPunctuation),
  (["ps", "openpunctuation"], Category.openPunctuation),
  (["s", "symbol"], unions [Category.mathSymbol, Category.currencySymbol,
    Category.modifierSymbol, Category.otherSymbol]),
  (["sc", "currencysymbol"], Category.currencySymbol),
  (["sk", "modifiersymbol"], Category.modifierSymbol),
  (["sm", "mathsymbol"], Category.mathSymbol),
  (["so", "othersymbol"], Category.otherSymbol),
  (["z", "separator"], unions [Category.spaceSeparator, Category.lineSeparator,
    Category.paragraphSeparator]),
  (["zl", "lineseparator"], Category.lineSeparator),
  (["zp", "paragraphseparator"], Category.paragraphSeparator),
  (["zs", "spaceseparator"], Category.spaceSeparator)]

/-- The set that a table lists under a name. -/
def lookup (name : String) (table : List (List String × CodeSet)) : Option CodeSet :=
  (table.find? fun entry => entry.1.contains name).map Prod.snd

/-- A name without what does not matter in it. -/
def normalizeName (name : List Char) : String :=
  let lower := (name.map Char.toLower).filter fun character => character.toNat < 0x80
  let isPrefixed := name.take 2 |>.map Char.toLower |> (· == ['i', 's'])
  let rest := if isPrefixed then lower.drop 2 else lower
  let kept := rest.filter fun character => !" _-".toList.contains character
  if isPrefixed && kept == ['c'] then "isc" else String.ofList kept

/-- The set that has a name of its own: a property, a category or a script. -/
def ofName? (name : List Char) : Option CodeSet :=
  let name := normalizeName name
  (lookup name CodeProperty.named <|> lookup name namedCategories)
    <|> lookup name Script.named

/-- The set of the code points for which a named property has a named value. -/
def ofNamedValue? (property value : List Char) : Option CodeSet :=
  let property := normalizeName property
  let value := normalizeName value
  if property == "gc" || property == "generalcategory" then lookup value namedCategories
  else if property == "sc" || property == "script" then lookup value Script.named
  else none

end CodeSet
end ManifestPolicy
