/-
# Named classes of characters

The classes that patterns name in Unicode's terms: categories, scripts, properties, ages and the
classes of segments.  Names are compared without regard to case, blanks, hyphens, underscores and
a leading `is`.
-/
import Dossier.Unicode.Age
import Dossier.Unicode.Segment

namespace Dossier

namespace Regex

/-! ## 1. Names -/

/-- A name as it is compared: in lower case and without blanks, hyphens, underscores and a leading
`is`. -/
def looseName (name : List Char) : List Char :=
  let rest := match name with
    | i :: s :: rest => if i.toLower = 'i' ∧ s.toLower = 's' then rest else name
    | _ => name
  let cleaned := (rest.filter fun c => !(c == ' ' || c == '_' || c == '-') && c.toNat < 128).map
    Char.toLower
  -- the name of another property, not of the category `C`
  if cleaned = ['c'] ∧ rest.length < name.length then ['i', 's', 'c'] else cleaned

/-- Whether a loose name is one of the given names. -/
def isNamed (names : List String) (loose : List Char) : Bool :=
  names.any fun name => looseName name.toList == loose

/-! ## 2. Categories -/

/-- The groups of categories and what belongs to them: the categories whose short names begin with
the letter of the group. -/
def categoryGroups : List (List String × Char) :=
  [(["l", "letter"], 'L'), (["m", "mark", "combiningmark"], 'M'), (["n", "number"], 'N'),
    (["p", "punctuation", "punct"], 'P'), (["s", "symbol"], 'S'), (["z", "separator"], 'Z'),
    (["c", "other"], 'C')]

/-- The characters of the categories whose short names begin with a letter. -/
def categoriesOf (letter : Char) : CharSet :=
  let members := (generalCategories.filter fun g => g.short.toList.head? == some letter).map
    (·.members)
  if letter = 'C' then .unionAll (unassigned :: members) else .unionAll members

/-- The category, or group of categories, of a loose name.  Surrogates are no characters, so that
their category has no class. -/
def category? (loose : List Char) : Option CharSet :=
  if loose = "any".toList then some .all
  else if loose = "assigned".toList then some unassigned.complement
  else if loose = "ascii".toList then some (.range 0 0x7F)
  else if isNamed ["cn", "unassigned"] loose then some unassigned
  else if isNamed ["lc", "casedletter"] loose then
    some (.unionAll [categoryLu.members, categoryLl.members, categoryLt.members])
  else if loose = "cntrl".toList then some categoryCc.members
  else if loose = "digit".toList then some categoryNd.members
  else
    match categoryGroups.find? fun g => isNamed g.1 loose with
    | some (_, letter) => some (categoriesOf letter)
    | none => (generalCategories.find? fun g => isNamed [g.short, g.long] loose).map (·.members)

/-! ## 3. Other classes -/

def script? (loose : List Char) : Option Script :=
  Script.all.find? fun s => isNamed s.names loose

def property? (loose : List Char) : Option CharSet :=
  -- short names that are also those of properties without a class
  if isNamed ["cf", "sc", "lc"] loose then none
  else (CharProperty.all.find? fun p => isNamed p.names loose).map (·.members)

def segmentClass? (classes : List SegmentClass) (loose : List Char) : Option CharSet :=
  (classes.find? fun c => isNamed c.names loose).map (·.members)

/-- The class of a name that stands alone: a property, a category or a script. -/
def namedClass? (name : List Char) : Option CharSet :=
  let loose := looseName name
  property? loose <|> category? loose <|> (script? loose).map (·.members)

/-- The class of a property and its value. -/
def valueClass? (property value : List Char) : Option CharSet :=
  let property := looseName property
  let value := looseName value
  if isNamed ["gc", "generalcategory"] property then category? value
  else if isNamed ["sc", "script"] property then (script? value).map (·.members)
  else if isNamed ["scx", "scriptextensions"] property then (script? value).map (·.extension)
  else if isNamed ["age"] property then ageSet? fun name => isNamed [name] value
  else if isNamed ["gcb", "graphemeclusterbreak"] property then
    segmentClass? SegmentClass.cluster value
  else if isNamed ["wb", "wordbreak"] property then segmentClass? SegmentClass.word value
  else if isNamed ["sb", "sentencebreak"] property then segmentClass? SegmentClass.sentence value
  else none

end Regex

end Dossier
