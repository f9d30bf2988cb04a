import TableLexer.Unicode.Category
import TableLexer.Unicode.Property

/-!
# Contributory properties

The properties named `Other_…`. Each holds of the characters that have a derived
property although their category does not give it to them, so each is a derived set
less the categories that make it up. The two for identifiers and the one for
characters that are ignored by default are listed.
-/

namespace TableLexer.Unicode.Contributory

/-- Alphabetic, and neither letters nor numbers written as letters. -/
def alphabetic : CharSet := (Property.alphabetic.diff Category.letter).diff Category.letterNumber

/-- Extending a cluster, and neither nonspacing nor enclosing marks. -/
def graphemeExtend : CharSet :=
  (Property.graphemeExtend.diff Category.nonspacingMark).diff Category.enclosingMark

/-- Ignored by default, and neither format characters nor variation selectors. -/
def defaultIgnorable : CharSet := .ofHex
  "34F 115F-1160 17B4-17B5 2065 3164 FFA0 FFF0-FFF8 E0000 E0002-E001F E0080-E00FF E01F0-E0FFF"

/-- Starting an identifier for the sake of stability. -/
def idStart : CharSet := .ofHex "1885-1886 2118 212E 309B-309C"

/-- Continuing an identifier for the sake of stability. -/
def idContinue : CharSet := .ofHex "B7 387 1369-1371 19DA 200C-200D 30FB FF65"

/-- A set of `Property.named` less a category. -/
def beyond (name : String) (category : CharSet) : Option CharSet :=
  (Property.find? name).map (·.diff category)

/-- The contributory property with this name, written loosely. -/
def find? (name : String) : Option CharSet :=
  match name with
  | "otheralphabetic" | "oalpha" => some alphabetic
  | "otherdefaultignorablecodepoint" | "odi" => some defaultIgnorable
  | "othergraphemeextend" | "ogrext" => some graphemeExtend
  | "otheridcontinue" | "oidc" => some idContinue
  | "otheridstart" | "oids" => some idStart
  | "otherlowercase" | "olower" => beyond "lowercase" Category.lowercaseLetter
  | "othermath" | "omath" => beyond "math" Category.mathSymbol
  | "otheruppercase" | "oupper" => beyond "uppercase" Category.uppercaseLetter
  | _ => none

end TableLexer.Unicode.Contributory
