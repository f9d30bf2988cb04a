import TableLexer.Text
import TableLexer.Unicode.Age
import TableLexer.Unicode.Break
import TableLexer.Unicode.Category
import TableLexer.Unicode.Contributory
import TableLexer.Unicode.Property
import TableLexer.Unicode.Script

/-!
# Named classes of characters

How a class of characters is named: by a binary property, a general category or a
script alone, or by a property and its value. Names are compared loosely: case,
blanks, dashes and underscores do not count, nor does `is` in front.
-/

namespace TableLexer.Unicode

/-- The name as it is compared. The name `isc` keeps its first letters: it stands
for a property of its own and not for the category `c`. -/
def looseName (name : Text) : String :=
  let bare := name.filter fun c => c.toNat < 0x80 && c ≠ ' ' && c ≠ '_' && c ≠ '-'
  let afterIs :=
    match name with
    | i :: s :: _ => i.toLower = 'i' && s.toLower = 's'
    | _ => false
  let lower := (if afterIs then bare.drop 2 else bare).map Char.toLower
  if afterIs && lower = ['c'] then "isc" else String.ofList lower

/-- The class of a name that stands alone. -/
def findClass? (name : Text) : Option CharSet :=
  let loose := looseName name
  Property.find? loose <|> Contributory.find? loose <|> Category.find? loose <|>
    Script.find? loose

/-- The class of the characters for which a property has a value. -/
def findValue? (property value : Text) : Option CharSet :=
  let value := looseName value
  match looseName property with
  | "gc" | "generalcategory" => Category.find? value
  | "sc" | "script" => Script.find? value
  | "scx" | "scriptextensions" => Script.findExtended? value
  | "age" => Age.find? value
  | "gcb" | "graphemeclusterbreak" => Break.findCluster? value
  | "wb" | "wordbreak" => Break.findWord? value
  | "sb" | "sentencebreak" => Break.findSentence? value
  | _ => none

/-- Cuts a text at the first place where `mark` stands. -/
def cutAt? (mark : Text) : Text → Option (Text × Text)
  | [] => none
  | c :: rest =>
      match Text.dropLead? (c :: rest) mark with
      | some after => some ([], after)
      | none => (cutAt? mark rest).map fun (front, after) => (c :: front, after)

/-- The marks that may stand between a property and its value. They mean the same:
whether the other characters are meant is said in front of the braces. A mark is
looked for only where the ones before it are missing. -/
def valueMarks : List Text := [['!', '='], [':'], ['=']]

/-- What the text in the braces of a named class stands for: a property and a value
with a mark between them, or a name. -/
def resolve? (text : Text) : Option CharSet :=
  match valueMarks.findSome? (cutAt? · text) with
  | some (property, value) => findValue? property value
  | none => findClass? text

end TableLexer.Unicode
