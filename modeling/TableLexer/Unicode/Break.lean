import TableLexer.Unicode.Category
import TableLexer.Unicode.Property
import TableLexer.Unicode.Script

/-!
# Break properties

The properties of Unicode 16 by which a text is broken into clusters of
characters, into words and into sentences. Most of their values are defined
by other properties, with a few characters added or left out. The value of the
characters that have no other one cannot be named.
-/

namespace TableLexer.Unicode.Break

/-- The binary property of a name. -/
def property (name : String) : CharSet := (Property.find? name).getD .empty

def joiner : CharSet := .ofHex "200D"

/-! ## Clusters -/

def extend : CharSet := (Property.graphemeExtend.union (property "emojimodifier")).diff joiner

/-- Marks that take up space, but for some of scripts in which words are written
without blanks. -/
def spacingMark : CharSet :=
  ((Category.spacingMark.union (.ofHex "E33 EB3")).diff extend).diff (.ofHex
    "102B-102C 1038 1062-1064 1067-106D 1083 1087-108C 108F 109A-109C 1A61 1A63-1A64 AA7B AA7D
    11720-11721")

/-- Characters that precede what they belong to. -/
def precede : CharSet := .ofHex
    "600-605 6DD 70F 890-891 8E2 D4E 110BD 110CD 111C2-111C3 113D1 1193F 11941 11A3A
    11A84-11A89 11D46 11F02"

def control : CharSet :=
  let invisible := Category.unassigned.inter (property "defaultignorablecodepoint")
  let all := CharSet.unions [Category.lineSeparator, Category.paragraphSeparator,
    Category.control, Category.format, invisible]
  all.diff (.unions [.ofHex "A D", joiner, extend, precede])

/-- The syllables of Hangul that end in a vowel. -/
def openSyllable : CharSet :=
  .ofIntervals ((List.range 399).map fun i => (0xAC00 + 28 * i, 0xAC00 + 28 * i))

/-- The values of the property for clusters, with their names in lower case and
without separators. -/
def clusterValues : List (List String × CharSet) := [
  (["cn", "control"], control),
  (["cr"], .ofHex "D"),
  (["ex", "extend"], extend),
  (["l"], .ofHex "1100-115F A960-A97C"),
  (["lf"], .ofHex "A"),
  (["lv"], openSyllable),
  (["lvt"], (CharSet.range 0xAC00 0xD7A3).diff openSyllable),
  (["pp", "prepend"], precede),
  (["ri", "regionalindicator"], property "regionalindicator"),
  (["sm", "spacingmark"], spacingMark),
  (["t"], .ofHex "11A8-11FF D7CB-D7FB"),
  (["v"], .ofHex "1160-11A7 D7B0-D7C6 16D63 16D67-16D6A"),
  (["zwj"], joiner)]

/-! ## Words -/

/-- Marks of all kinds, and what else belongs to the character before it. -/
def wordExtend : CharSet := extend.union (Category.spacingMark.diff joiner)

/-- Digits, and signs that belong to numbers. -/
def numeric : CharSet :=
  Category.decimalNumber.union (.ofHex "66B 600-605 6DD 890-891 8E2 110BD 110CD")

def wordFormat : CharSet :=
  Category.format.diff (.unions [.ofHex "200B", joiner, extend, precede])

def katakana : CharSet := ((Script.find? "katakana").getD .empty).union (.ofHex
    "3031-3035 309B-309C 30A0 30FC FF70")

def hebrewLetter : CharSet := ((Script.find? "hebrew").getD .empty).inter Category.otherLetter

/-- Letters of scripts in which words are written without blanks. -/
def withoutBlanks : CharSet := .ofHex
    "E01-E30 E32-E33 E40-E46 E81-E82 E84 E86-E8A E8C-EA3 EA5 EA7-EB0 EB2-EB3 EBD EC0-EC4 EC6
    EDC-EDF 1000-102A 103F 1050-1055 105A-105D 1061 1065-1066 106E-1070 1075-1081 108E
    1780-17B3 17D7 17DC 1950-196D 1970-1974 1980-19AB 19B0-19C9 1A20-1A54 1AA7 A9E0-A9E4
    A9E6-A9EF A9FA-A9FE AA60-AA76 AA7A AA7E-AAAF AAB1 AAB5-AAB6 AAB9-AABD AAC0 AAC2 AADB-AADD
    11700-1171A 11740-11746"

def letter : CharSet :=
  let more := CharSet.ofHex
    "2C2-2C5 2D2-2D7 2DE-2DF 2E5-2EB 2ED 2EF-2FF 55A-55C 55E 58A 5F3 70F A708-A716 A720-A721
    A789-A78A AB5B"
  (Property.alphabetic.union more).diff (.unions [property "ideographic", katakana,
    (Script.find? "hiragana").getD .empty, hebrewLetter, withoutBlanks, wordExtend])

/-- White space of words: blanks at which a line may break. -/
def wordSpace : CharSet := Category.spaceSeparator.diff (.ofHex "A0 2007 202F")

/-- The values of the property for words. -/
def wordValues : List (List String × CharSet) := [
  (["le", "aletter"], letter),
  (["cr"], .ofHex "D"),
  (["dq", "doublequote"], .ofHex "22"),
  (["extend"], wordExtend),
  (["ex", "extendnumlet"], Category.connectorPunctuation.union (.ofHex "202F")),
  (["fo", "format"], wordFormat),
  (["hl", "hebrewletter"], hebrewLetter),
  (["ka", "katakana"], katakana),
  (["lf"], .ofHex "A"),
  (["ml", "midletter"], .ofHex "3A B7 387 55F 5F4 2027 FE13 FE55 FF1A"),
  (["mn", "midnum"], .ofHex "2C 3B 37E 589 60C-60D 66C 7F8 2044 FE10 FE14 FE50 FE54 FF0C FF1B"),
  (["mb", "midnumlet"], .ofHex "2E 2018-2019 2024 FE52 FF07 FF0E"),
  (["nl", "newline"], .ofHex "B-C 85 2028-2029"),
  (["nu", "numeric"], numeric),
  (["ri", "regionalindicator"], property "regionalindicator"),
  (["sq", "singlequote"], .ofHex "27"),
  (["wsegspace"], wordSpace),
  (["zwj"], joiner)]

/-! ## Sentences -/

def separator : CharSet := .ofHex "85 2028-2029"

def sentenceExtend : CharSet :=
  .unions [Property.graphemeExtend, Category.spacingMark, joiner]

def sentenceFormat : CharSet := Category.format.diff (.unions [sentenceExtend, precede])

/-- Small letters. Those of the ordinary Georgian alphabet do not count, as it has
capitals for headings only. -/
def sentenceLower : CharSet :=
  ((property "lowercase").diff Property.graphemeExtend).diff (.ofHex "10D0-10FA 10FD-10FF")

def sentenceUpper : CharSet :=
  (Category.titlecaseLetter.union (property "uppercase")).diff (.ofHex "1C90-1CBA 1CBD-1CBF")

def sentenceLetter : CharSet :=
  (Property.alphabetic.union (.ofHex "5F3 70F")).diff
    (.unions [sentenceLower, sentenceUpper, sentenceExtend])

/-- Full stops, which may also stand inside of sentences. -/
def fullStop : CharSet := .ofHex "2E 2024 FE52 FF0E"

def sentenceEnd : CharSet := (property "sentenceterminal").diff fullStop

/-- Quotation marks and brackets. -/
def closing : CharSet :=
  (CharSet.unions [Category.openPunctuation, Category.closePunctuation,
    Category.initialPunctuation, Category.finalPunctuation,
    .ofHex "22 27 275B-2760 2E00-2E01 2E06-2E08 2E0B 1F676-1F678"]).diff
    (fullStop.union sentenceEnd)

/-- The values of the property for sentences. -/
def sentenceValues : List (List String × CharSet) := [
  (["at", "aterm"], fullStop),
  (["cl", "close"], closing),
  (["cr"], .ofHex "D"),
  (["ex", "extend"], sentenceExtend),
  (["fo", "format"], sentenceFormat),
  (["le", "oletter"], sentenceLetter),
  (["lf"], .ofHex "A"),
  (["lo", "lower"], sentenceLower),
  (["nu", "numeric"], numeric.union (.ofHex "66C")),
  (["sc", "scontinue"], .ofHex
    "2C-2D 3A-3B 37E 55D 60C-60D 7F8 1802 1808 2013-2014 3001 FE10-FE11 FE13-FE14 FE31-FE32
    FE50-FE51 FE54-FE55 FE58 FE63 FF0C-FF0D FF1A-FF1B FF64"),
  (["se", "sep"], separator),
  (["sp"], Property.whiteSpace.diff (separator.union (.ofHex "A D"))),
  (["st", "sterm"], sentenceEnd),
  (["up", "upper"], sentenceUpper)]

/-! ## Look-up -/

def findIn (values : List (List String × CharSet)) (name : String) : Option CharSet :=
  (values.find? fun entry => entry.1.contains name).map Prod.snd

def findCluster? (name : String) : Option CharSet := findIn clusterValues name

def findWord? (name : String) : Option CharSet := findIn wordValues name

def findSentence? (name : String) : Option CharSet := findIn sentenceValues name

end TableLexer.Unicode.Break
