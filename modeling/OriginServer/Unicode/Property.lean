import OriginServer.Unicode.Ages
import OriginServer.Unicode.BinaryProperties
import OriginServer.Unicode.Breaks
import OriginServer.Unicode.CategoryTables
import OriginServer.Unicode.CharSet
import OriginServer.Unicode.ScriptExtensions
import OriginServer.Unicode.Scripts

/-!
# Character properties by name

A property of characters is named alone, as a general category, a script or a binary property, or by
the name of a property and one of its values. Names are compared loosely: the case of letters,
blanks, hyphens, underscores and a leading `is` do not matter.
-/
namespace OriginServer.Unicode

/-- The general categories, each with its names in their loose form and its tables. -/
def categories : List (List String × List String) :=
  let cased := [uppercaseLetterTable, lowercaseLetterTable, titlecaseLetterTable]
  let letters := cased ++ [modifierLetterTable, otherLetterTable]
  let marks := [nonspacingMarkTable, spacingMarkTable, enclosingMarkTable]
  let numbers := [decimalNumberTable, letterNumberTable, otherNumberTable]
  let punctuation := [connectorPunctuationTable, dashPunctuationTable, openPunctuationTable,
    closePunctuationTable, initialPunctuationTable, finalPunctuationTable, otherPunctuationTable]
  let symbols := [mathSymbolTable, currencySymbolTable, modifierSymbolTable, otherSymbolTable]
  let separators := [spaceSeparatorTable, lineSeparatorTable, paragraphSeparatorTable]
  let others := [controlTable, formatTable, privateUseTable, unassignedTable]
  [(["l", "letter"], letters), (["lc", "casedletter"], cased),
   (["lu", "uppercaseletter"], [uppercaseLetterTable]),
   (["ll", "lowercaseletter"], [lowercaseLetterTable]),
   (["lt", "titlecaseletter"], [titlecaseLetterTable]),
   (["lm", "modifierletter"], [modifierLetterTable]),
   (["lo", "otherletter"], [otherLetterTable]),
   (["m", "mark", "combiningmark"], marks), (["mn", "nonspacingmark"], [nonspacingMarkTable]),
   (["mc", "spacingmark"], [spacingMarkTable]), (["me", "enclosingmark"], [enclosingMarkTable]),
   (["n", "number"], numbers), (["nd", "decimalnumber", "digit"], [decimalNumberTable]),
   (["nl", "letternumber"], [letterNumberTable]), (["no", "othernumber"], [otherNumberTable]),
   (["p", "punctuation", "punct"], punctuation),
   (["pc", "connectorpunctuation"], [connectorPunctuationTable]),
   (["pd", "dashpunctuation"], [dashPunctuationTable]),
   (["ps", "openpunctuation"], [openPunctuationTable]),
   (["pe", "closepunctuation"], [closePunctuationTable]),
   (["pi", "initialpunctuation"], [initialPunctuationTable]),
   (["pf", "finalpunctuation"], [finalPunctuationTable]),
   (["po", "otherpunctuation"], [otherPunctuationTable]),
   (["s", "symbol"], symbols), (["sm", "mathsymbol"], [mathSymbolTable]),
   (["sc", "currencysymbol"], [currencySymbolTable]),
   (["sk", "modifiersymbol"], [modifierSymbolTable]),
   (["so", "othersymbol"], [otherSymbolTable]),
   (["z", "separator"], separators), (["zs", "spaceseparator"], [spaceSeparatorTable]),
   (["zl", "lineseparator"], [lineSeparatorTable]),
   (["zp", "paragraphseparator"], [paragraphSeparatorTable]),
   (["c", "other"], others), (["cc", "control", "cntrl"], [controlTable]),
   (["cf", "format"], [formatTable]), (["co", "privateuse"], [privateUseTable]),
   (["cn", "unassigned"], [unassignedTable])]

/-- The set of some tables. -/
def setOfTables (tables : List String) : CharSet := .unions (tables.map CharSet.ofTable)

/-- The general category with a name. -/
def category? (name : String) : Option CharSet :=
  match name with
  | "any" => some .all
  | "ascii" => some ⟨[(0, 0x7F)]⟩
  | "assigned" => some (CharSet.ofTable unassignedTable).complement
  | _ => (categories.find? fun entry => entry.1.contains name).map fun entry =>
      setOfTables entry.2

/-- The entry of a list of named tables that has a name. -/
def named? (name : String) (entries : List (List String × String)) :
    Option (List String × String) :=
  entries.find? fun entry => entry.1.contains name

/-- The script with a name. -/
def script? (name : String) : Option CharSet :=
  (named? name scripts).map fun entry => CharSet.ofTable entry.2

/-- The characters that are used in the script with a name. -/
def scriptExtension? (name : String) : Option CharSet :=
  (named? name scripts).map fun entry =>
    let own := CharSet.ofTable entry.2
    match scriptExtensions.find? fun extension => entry.1.contains extension.1 with
    | some (_, removed, added) =>
      (own.difference (CharSet.ofTable removed)).union (CharSet.ofTable added)
    | none => own

/-- The binary property with a name. -/
def binary? (name : String) : Option CharSet :=
  (named? name binaryProperties).map fun entry => CharSet.ofTable entry.2

/-- Whether a name denotes a version of the character set, written `5.1` or `v51`. -/
def isVersion (name version : String) : Bool :=
  name == version || name == "v" ++ String.ofList (version.toList.filter (· != '.'))

/-- The characters that a version of the character set or an earlier one added. -/
def age? (name : String) : Option CharSet :=
  let earlier := ages.takeWhile fun entry => !isVersion name entry.1
  (ages[earlier.length]?).map fun entry => setOfTables ((earlier ++ [entry]).map (·.2))

/-- The value of a break property with a name. -/
def break? (entries : List (List String × String)) (name : String) : Option CharSet :=
  (named? name entries).map fun entry => CharSet.ofTable entry.2

/-- The properties that have values, by their names in the loose form. -/
def valued? (property value : String) : Option CharSet :=
  if ["gc", "generalcategory", "category"].contains property then category? value
  else if ["sc", "script"].contains property then script? value
  else if ["scx", "scriptextensions"].contains property then scriptExtension? value
  else if property == "age" then age? value
  else if ["gcb", "graphemeclusterbreak"].contains property then break? graphemeBreaks value
  else if ["wb", "wordbreak"].contains property then break? wordBreaks value
  else if ["sb", "sentencebreak"].contains property then break? sentenceBreaks value
  else none

/-- The loose form of a name: small letters without blanks, hyphens and underscores, and without a
leading `is`. Characters outside ASCII are dropped. The name `isc` is no form of `c`. -/
def looseName (name : List Char) : String :=
  let small := name.map Char.toLower
  let (marked, rest) := match small with
    | 'i' :: 's' :: rest => (true, rest)
    | rest => (false, rest)
  let kept := rest.filter fun char =>
    char.toNat ≤ 0x7F && char != ' ' && char != '_' && char != '-'
  if marked && kept == ['c'] then "isc" else String.ofList kept

/-- The set that a single name denotes. Three names of categories are also names of properties with
values; they denote the category. -/
def property? (name : List Char) : Option CharSet :=
  let loose := looseName name
  binary? loose <|> category? loose <|> script? loose

/-- The set that a property and one of its values denote. -/
def propertyValue? (property value : List Char) : Option CharSet :=
  valued? (looseName property) (looseName value)

/-- The decimal digits of all scripts. -/
def decimalDigits : CharSet := .ofTable decimalNumberTable

/-- The characters with the property White Space. -/
def whiteSpace : CharSet := .ofTable whiteSpaceTable

/-- The characters of words: alphabetic characters, marks, decimal digits, connectors and
joiners. -/
def wordChars : CharSet :=
  setOfTables [alphabeticTable, nonspacingMarkTable, spacingMarkTable, enclosingMarkTable,
    decimalNumberTable, connectorPunctuationTable, joinControlTable]

/-- Whether a character is alphabetic. -/
def isAlphabetic (char : Char) : Bool :=
  if char.toNat ≤ 0x7F then char.isAlpha else (CharSet.ofTable alphabeticTable).contains char

/-- Whether a character is alphabetic or a number. -/
def isAlphanumeric (char : Char) : Bool :=
  if char.toNat ≤ 0x7F then char.isAlphanum
  else isAlphabetic char ||
    (setOfTables [decimalNumberTable, letterNumberTable, otherNumberTable]).contains char

end OriginServer.Unicode
