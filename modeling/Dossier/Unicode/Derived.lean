/-
# Derived properties of characters

The properties of Unicode with the values yes and no that follow from general categories, from
listed properties and from the mappings of case.  `CharProperty.all` has these and the listed ones.
-/
import Dossier.Unicode.Case
import Dossier.Unicode.Category
import Dossier.Unicode.Property

namespace Dossier

namespace CharProperty

/-! ## 1. Letters -/

/-- All letters. -/
def letters : CharSet :=
  .unionAll [categoryLu.members, categoryLl.members, categoryLt.members, categoryLm.members,
    categoryLo.members]

def lowercase : CharProperty :=
  ⟨["Lower", "Lowercase"], categoryLl.members.union otherLowercase.members⟩

def uppercase : CharProperty :=
  ⟨["Upper", "Uppercase"], categoryLu.members.union otherUppercase.members⟩

def alphabetic : CharProperty :=
  ⟨["Alpha", "Alphabetic"], .unionAll [letters, categoryNl.members, lowercase.members,
    uppercase.members, otherAlphabetic.members]⟩

def math : CharProperty :=
  ⟨["Math"], categorySm.members.union otherMath.members⟩

def cased : CharProperty :=
  ⟨["Cased"], .unionAll [lowercase.members, uppercase.members, categoryLt.members]⟩

/-- The punctuation that may stand between the letters of a word. -/
def midLetters : CharSet := .ofLines ["3A B7 387 55F 5F4 2027 FE13 FE55 FF1A"]

/-- The punctuation that may stand between the letters of a word and between digits. -/
def midNumLetters : CharSet := .ofLines ["2E 2018-2019 2024 FE52 FF07 FF0E"]

def caseIgnorable : CharProperty :=
  ⟨["CI", "Case_Ignorable"], .unionAll [categoryMn.members, categoryMe.members, categoryCf.members,
    categoryLm.members, categorySk.members, midLetters, midNumLetters, .single '\'']⟩

/-! ## 2. Changes of case -/

def changesWhenLowercased : CharProperty :=
  ⟨["CWL", "Changes_When_Lowercased"], (CharRun.sources lowerRuns).union (.single '\u0130')⟩

def changesWhenUppercased : CharProperty :=
  ⟨["CWU", "Changes_When_Uppercased"],
    (CharRun.sources upperRuns).union (.ofCodes (longUpper.filterMap List.head?))⟩

/-- A character in title case does not change, nor does a Georgian letter; of the capital digraphs
only the first letter stays a capital. -/
def changesWhenTitlecased : CharProperty :=
  ⟨["CWT", "Changes_When_Titlecased"],
    ((changesWhenUppercased.members.difference categoryLt.members).difference
      (.ofLines ["10D0-10FA 10FD-10FF"])).union (.ofLines ["1C4 1C7 1CA 1F1"])⟩

def changesWhenCasemapped : CharProperty :=
  ⟨["CWCM", "Changes_When_Casemapped"], .unionAll [changesWhenLowercased.members,
    changesWhenUppercased.members, changesWhenTitlecased.members]⟩

/-- Folding goes to lower case, but for Cherokee, where it goes to upper case, and it also changes
variants of letters. -/
def changesWhenCasefolded : CharProperty :=
  ⟨["CWCF", "Changes_When_Casefolded"],
    (changesWhenLowercased.members.difference (.range 0x13A0 0x13F5)).union (.ofLines [
      "B5 DF 149 17F 345 3C2 3D0-3D1 3D5-3D6 3F0-3F1 3F5 587 13F8-13FD 1C80-1C88 1E9A-1E9B",
      "1F80-1F87 1F90-1F97 1FA0-1FA7 1FB2-1FB4 1FB7 1FC2-1FC4 1FC7 1FF2-1FF4 1FF7 AB70-ABBF",
      "FB00-FB06 FB13-FB17"])⟩

/-! ## 3. Identifiers -/

/-- What patterns of any kind may use as syntax. -/
def patternCharacters : CharSet := patternSyntax.members.union patternWhiteSpace.members

def idStart : CharProperty :=
  ⟨["IDS", "ID_Start"], (CharSet.unionAll [letters, categoryNl.members,
    otherIdStart.members]).difference patternCharacters⟩

def idContinue : CharProperty :=
  ⟨["IDC", "ID_Continue"], (CharSet.unionAll [idStart.members, categoryMn.members,
    categoryMc.members, categoryNd.members, categoryPc.members,
    otherIdContinue.members]).difference patternCharacters⟩

/-- The characters that would not stay parts of identifiers under normalisation. -/
def unstableParts : CharSet := .ofLines [
  "37A 309B-309C FC5E-FC63 FDFA-FDFB FE70-FE7E/2"]

def xidStart : CharProperty :=
  ⟨["XIDS", "XID_Start"],
    (idStart.members.difference unstableParts).difference (.ofLines ["E33 EB3 FF9E-FF9F"])⟩

def xidContinue : CharProperty :=
  ⟨["XIDC", "XID_Continue"], idContinue.members.difference unstableParts⟩

/-! ## 4. Clusters and display -/

def graphemeExtend : CharProperty :=
  ⟨["Gr_Ext", "Grapheme_Extend"], .unionAll [categoryMe.members, categoryMn.members,
    otherGraphemeExtend.members]⟩

def graphemeBase : CharProperty :=
  ⟨["Gr_Base", "Grapheme_Base"], (CharSet.unionAll [categoryCc.members, categoryCf.members,
    categoryCo.members, unassigned, categoryZl.members, categoryZp.members,
    graphemeExtend.members]).complement⟩

/-- Format characters with a display of their own are not ignored. -/
def defaultIgnorable : CharProperty :=
  ⟨["DI", "Default_Ignorable_Code_Point"],
    ((CharSet.unionAll [otherDefaultIgnorable.members, categoryCf.members,
      variationSelector.members]).difference prependedConcatenationMark.members).difference
        (.ofLines ["FFF9-FFFB 13430-1343F"])⟩

/-! ## 5. All properties -/

def all : List CharProperty :=
  listed ++ [lowercase, uppercase, alphabetic, math, cased, caseIgnorable, changesWhenLowercased,
    changesWhenUppercased, changesWhenTitlecased, changesWhenCasemapped, changesWhenCasefolded,
    idStart, idContinue, xidStart, xidContinue, graphemeExtend, graphemeBase, defaultIgnorable]

end CharProperty

end Dossier
