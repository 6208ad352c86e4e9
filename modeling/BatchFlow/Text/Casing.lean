import BatchFlow.Shape
import BatchFlow.Text.CaseTable
import BatchFlow.Text.Ranges

/-! Changing the case of text: whole texts, words, and titles. -/

namespace BatchFlow.Text

/-- Whether the first character that is not passed over is a letter. -/
def meetsLetter (characters : List Char) : Bool :=
  match characters.dropWhile isCaseIgnorable with
  | c :: _ => isCased c
  | [] => false

/-- The lower case of a text, `before` being the characters to its left, nearest first. -/
def lowerFrom (before : List Char) : List Char → List Char
  | [] => []
  | c :: rest =>
    let image :=
      -- A capital sigma that ends a word has a small letter of its own.
      if c = 'Σ' then [if meetsLetter before && !meetsLetter rest then 'ς' else 'σ']
      else lowerChar c
    image ++ lowerFrom (c :: before) rest

/-- The lower case of a text. -/
def lower (characters : List Char) : List Char :=
  lowerFrom [] characters

/-- The upper case of a text. -/
def upper (characters : List Char) : List Char :=
  characters.flatMap upperChar

/-- The pieces between blanks, some of which may be empty. -/
def pieces : List Char → List (List Char)
  | [] => [[]]
  | c :: rest =>
    if isBlank c then [] :: pieces rest
    else match pieces rest with
      | piece :: more => (c :: piece) :: more
      | [] => [[c]]

/-- The words of a text, parted by any number of blanks. -/
def words (characters : List Char) : List (List Char) :=
  (pieces characters).filter (!·.isEmpty)

/-- Words written with one blank between neighbours. -/
def unwords (parts : List (List Char)) : List Char :=
  List.intercalate [' '] parts

/-- A word with its first character in upper case and the rest in lower case. -/
def capitalize : List Char → List Char
  | [] => []
  | first :: rest => upperChar first ++ lower rest

/-- Short articles, conjunctions and prepositions, which a title leaves in lower case. -/
def minorWords : List (List Char) :=
  ["a", "an", "the", "and", "or", "but", "in", "on", "at", "to", "for", "of", "with", "by"].map
    String.toList

/-- A word of a title: a minor word stays in lower case. -/
def titleWord (word : List Char) : List Char :=
  if lower word ∈ minorWords then lower word else capitalize word

/-- The words of a title, the first of which is always capitalized. -/
def titleWords : List (List Char) → List (List Char)
  | [] => []
  | first :: rest => capitalize first :: rest.map titleWord

/-- The ways of changing the case of a text. -/
inductive Casing where
  | upper
  | lower
  /-- The first letter of each word is capitalized. -/
  | proper
  /-- Like proper, but minor words after the first stay in lower case. -/
  | title
deriving DecidableEq

namespace Casing

/-- The characters of a text in the given case. -/
def convertChars (casing : Casing) (characters : List Char) : List Char :=
  match casing with
  | .upper => Text.upper characters
  | .lower => Text.lower characters
  | .proper => unwords ((words characters).map capitalize)
  | .title => unwords (titleWords (words characters))

/-- A text in the given case. -/
def convert (casing : Casing) (text : String) : String :=
  String.ofList (casing.convertChars text.toList)

/-- The word for a casing in configurations. -/
def name : Casing → String
  | .upper => "upper"
  | .lower => "lower"
  | .proper => "proper"
  | .title => "title"

/-- Every casing. -/
def all : List Casing := [.upper, .lower, .proper, .title]

/-- The casing of a given name. -/
def ofName? (text : String) : Option Casing :=
  all.find? (·.name == text)

/-- Reads the options of a change of case. -/
def read? {δ : Type} (format : Format δ) : δ → Option Casing :=
  format.record? ["case"] fun shape =>
    shape.required 0 "case" fun value => (format.choice? value).bind ofName?

end Casing

end BatchFlow.Text
