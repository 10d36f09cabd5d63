import GateRunner.Number.Digits
import GateRunner.Pattern.Categories
import GateRunner.Pattern.Properties
import GateRunner.Pattern.Scripts
import GateRunner.Pattern.Set

/-!
# Sets of characters by their properties

A set can be named by a property that characters have or have not, by a general category or by a script. Names are
compared without regard to case, blanks, hyphens and underscores, and a leading `is` is dropped. A name that stands
alone is looked for among the properties, then the categories, then the scripts; a name with a value says itself which
of these is meant.
-/

namespace GateRunner.Pattern

/-- The ranges of a written set, given the first code point that is not yet passed over. -/
def rangesOfWords : Nat → List String → CharSet
  | _, [] => []
  | start, word :: rest =>
    let digits := word.toList
    let low := start + digitsValue 16 (digits.takeWhile (· ≠ ':'))
    let high := low + digitsValue 16 ((digits.dropWhile (· ≠ ':')).drop 1)
    (low, high) :: rangesOfWords (high + 1) rest

/-- The words of a text, which stand between blanks and ends of lines. -/
def wordsOf (text : String) : List String :=
  ((text.map fun c => if c = '\n' then ' ' else c).splitOn " ").filter (· ≠ "")

/-- The set that a text of ranges stands for. -/
def CharSet.ofText (text : String) : CharSet := rangesOfWords 0 (wordsOf text)

/-- A name with everything left out that makes no difference. -/
def plainName (name : List Char) : String :=
  let name := match name with
    | 'i' :: 's' :: rest | 'I' :: 's' :: rest | 'i' :: 'S' :: rest | 'I' :: 'S' :: rest =>
      if plain rest = ['c'] then 'i' :: 's' :: rest else rest
    | _ => name
  String.ofList (plain name)
where
  /-- The letters of a name in lower case, and what else stands in it, without blanks, hyphens and underscores. -/
  plain (name : List Char) : List Char :=
    (name.filter fun c => c.toNat < 0x80 && c ≠ ' ' && c ≠ '_' && c ≠ '-').map Char.toLower

/-- Whether a plain name is one of those that a text lists. -/
def isNamed (name : String) (names : String) : Bool := (wordsOf names).any (fun n => plainName n.toList = name)

/-- The characters of all categories whose letters begin in one of the ways given. -/
def ofCategories (beginnings : List String) : CharSet :=
  CharSet.ofRanges <| categories.flatMap fun (letters, text) =>
    if beginnings.any (fun b => letters.startsWith b) then CharSet.ofText text else []

/-- The code points that are in no category: not assigned, and no surrogates. -/
def unassigned : CharSet := CharSet.complement (CharSet.union (ofCategories [""]) [(0xD800, 0xDFFF)])

/-- The names of categories and of groups of categories, and how the letters begin that they stand for. -/
def categoryNames : List (String × String) :=
  [("LC Cased_Letter", "Lu Ll Lt"), ("Pe Close_Punctuation", "Pe"), ("Pc Connector_Punctuation", "Pc"),
    ("Cc Control cntrl", "Cc"), ("Sc Currency_Symbol", "Sc"), ("Pd Dash_Punctuation", "Pd"),
    ("Nd Decimal_Number digit", "Nd"), ("Me Enclosing_Mark", "Me"), ("Pf Final_Punctuation", "Pf"),
    ("Cf Format", "Cf"), ("Pi Initial_Punctuation", "Pi"), ("L Letter", "L"), ("Nl Letter_Number", "Nl"),
    ("Zl Line_Separator", "Zl"), ("Ll Lowercase_Letter", "Ll"), ("M Mark Combining_Mark", "M"),
    ("Sm Math_Symbol", "Sm"), ("Lm Modifier_Letter", "Lm"), ("Sk Modifier_Symbol", "Sk"),
    ("Mn Nonspacing_Mark", "Mn"), ("N Number", "N"), ("Ps Open_Punctuation", "Ps"), ("Lo Other_Letter", "Lo"),
    ("No Other_Number", "No"), ("Po Other_Punctuation", "Po"), ("So Other_Symbol", "So"),
    ("Zp Paragraph_Separator", "Zp"), ("Co Private_Use", "Co"), ("P Punctuation punct", "P"), ("Z Separator", "Z"),
    ("Zs Space_Separator", "Zs"), ("Mc Spacing_Mark", "Mc"), ("S Symbol", "S"), ("Lt Titlecase_Letter", "Lt"),
    ("Lu Uppercase_Letter", "Lu")]

/-- The set of a general category. -/
def ofCategory? (name : String) : Option CharSet :=
  if name = "any" then some CharSet.all
  else if name = "ascii" then some [(0, 0x7F)]
  else if name = "assigned" then some (CharSet.complement unassigned)
  else if isNamed name "Cn Unassigned" then some unassigned
  else if isNamed name "C Other" then some (CharSet.union (ofCategories ["C"]) unassigned)
  else (categoryNames.find? fun (names, _) => isNamed name names).map fun (_, letters) => ofCategories (wordsOf letters)

/-- The set of a property that characters have or have not. -/
def ofBinaryProperty? (name : String) : Option CharSet :=
  (binaryProperties.find? fun p => isNamed name (p.name ++ " " ++ p.short)).map fun p =>
    CharSet.symDiff (ofCategories (wordsOf p.like)) (CharSet.ofText p.exceptions)

/-- The set of a script; in the wider sense, with the characters that other scripts use as well. -/
def ofScript? (wider : Bool) (name : String) : Option CharSet :=
  (scripts.find? fun s => isNamed name (s.name ++ " " ++ s.short)).map fun s =>
    if wider then CharSet.symDiff (CharSet.ofText s.members) (CharSet.ofText s.differing) else CharSet.ofText s.members

/-- The set of a name that stands alone. Three short names of categories are short names of other properties too, and
mean the categories. -/
def CharSet.ofName? (name : List Char) : Option CharSet :=
  let name := plainName name
  let binary := if name ∈ ["cf", "sc", "lc"] then none else ofBinaryProperty? name
  binary <|> ofCategory? name <|> ofScript? false name

/-- The set of a name with a value. -/
def CharSet.ofNameAndValue? (name value : List Char) : Option CharSet :=
  let name := plainName name
  let value := plainName value
  if isNamed name "gc General_Category" then ofCategory? value
  else if isNamed name "sc Script" then ofScript? false value
  else if isNamed name "scx Script_Extensions" then ofScript? true value
  else none

end GateRunner.Pattern
