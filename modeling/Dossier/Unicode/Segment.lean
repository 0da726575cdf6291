/-
# Segments of texts

The classes by which Unicode, version 16, finds the bounds of clusters of characters, of words and
of sentences.  Within one of the three a character is of one class at most.
-/
import Dossier.Unicode.Derived
import Dossier.Unicode.Script

namespace Dossier

/-- A class of characters: its names and its code points. -/
structure SegmentClass where
  names : List String
  members : CharSet

namespace SegmentClass

/-! ## 1. Marks -/

/-- Numbers are formed with concatenation marks; the abbreviation mark goes with letters. -/
def numberMarks : CharSet :=
  CharProperty.prependedConcatenationMark.members.difference (.single '\u070F')

/-- What continues a cluster. -/
def clusterExtend : CharSet :=
  CharProperty.graphemeExtend.members.union CharProperty.emojiModifier.members

/-- What continues a word. -/
def wordExtend : CharSet :=
  (clusterExtend.union categoryMc.members).difference (.single '\u200D')

/-- What continues a sentence. -/
def sentenceExtend : CharSet :=
  .unionAll [CharProperty.graphemeExtend.members, categoryMc.members, .single '\u200D']

/-- The members of a script. -/
def scriptMembers (name : String) : CharSet :=
  .unionAll ((Script.all.filter fun s => s.names.contains name).map (·.members))

/-! ## 2. Clusters -/

/-- The Hangul syllables of a consonant and a vowel: one in every 28. -/
def openSyllables : CharSet := .ofCodes ((List.range 399).map fun i => 0xAC00 + 28 * i)

def cluster : List SegmentClass := [
  ⟨["CR"], .single '\r'⟩,
  ⟨["LF"], .single '\n'⟩,
  ⟨["CN", "Control"],
    ((((CharSet.unionAll [categoryZl.members, categoryZp.members, categoryCc.members,
      categoryCf.members,
      unassigned.intersection CharProperty.defaultIgnorable.members]).difference
        (.ofLines ["A D 200C-200D"])).difference
          CharProperty.prependedConcatenationMark.members).difference clusterExtend)⟩,
  ⟨["EX", "Extend"], clusterExtend⟩,
  ⟨["ZWJ"], .single '\u200D'⟩,
  ⟨["RI", "Regional_Indicator"], CharProperty.regionalIndicator.members⟩,
  ⟨["PP", "Prepend"], CharProperty.prependedConcatenationMark.members.union (.ofLines [
    "D4E 111C2-111C3 113D1 1193F 11941 11A3A 11A84-11A89 11D46 11F02"])⟩,
  ⟨["SM", "SpacingMark"],
    ((categoryMc.members.union (.ofLines ["E33 EB3"])).difference clusterExtend).difference
      (.ofLines ["102B-102C 1038 1062-1064 1067-106D 1083 1087-108C 108F 109A-109C 1A61 1A63-1A64",
        "AA7B AA7D 11720-11721"])⟩,
  ⟨["L"], .ofLines ["1100-115F A960-A97C"]⟩,
  ⟨["V"], .ofLines ["1160-11A7 D7B0-D7C6 16D63 16D67-16D6A"]⟩,
  ⟨["T"], .ofLines ["11A8-11FF D7CB-D7FB"]⟩,
  ⟨["LV"], openSyllables⟩,
  ⟨["LVT"], (CharSet.range 0xAC00 0xD7A3).difference openSyllables⟩]

/-! ## 3. Words -/

def hebrewLetters : CharSet := (scriptMembers "Hebrew").intersection categoryLo.members

def katakana : CharSet :=
  (scriptMembers "Katakana").union (.ofLines ["3031-3035 309B-309C 30A0 30FC FF70"])

/-- The scripts that put no blanks between words. -/
def unspacedScripts : CharSet :=
  .unionAll (["Thai", "Lao", "Myanmar", "Khmer", "Tai_Le", "New_Tai_Lue", "Tai_Tham", "Tai_Viet",
    "Ahom"].map scriptMembers)

/-- Signs that go with the letters of words. -/
def letterSigns : CharSet := .ofLines [
  "B8 2C2-2C5 2D2-2D7 2DE-2DF 2E5-2EB 2ED 2EF-2FF 55A-55C 55E 58A 5F3 70F A708-A716 A720-A721",
  "A789-A78A AB5B"]

def word : List SegmentClass := [
  ⟨["CR"], .single '\r'⟩,
  ⟨["LF"], .single '\n'⟩,
  ⟨["NL", "Newline"], .ofLines ["B-C 85 2028-2029"]⟩,
  ⟨["Extend"], wordExtend⟩,
  ⟨["ZWJ"], .single '\u200D'⟩,
  ⟨["RI", "Regional_Indicator"], CharProperty.regionalIndicator.members⟩,
  ⟨["FO", "Format"],
    ((categoryCf.members.difference (.range 0x200B 0x200D)).difference
      CharProperty.prependedConcatenationMark.members).difference wordExtend⟩,
  ⟨["KA", "Katakana"], katakana⟩,
  ⟨["HL", "Hebrew_Letter"], hebrewLetters⟩,
  ⟨["LE", "ALetter"],
    (CharProperty.alphabetic.members.union letterSigns).difference (.unionAll [
      CharProperty.ideographic.members, katakana, unspacedScripts, scriptMembers "Hiragana",
      wordExtend, hebrewLetters])⟩,
  ⟨["SQ", "Single_Quote"], .single '\''⟩,
  ⟨["DQ", "Double_Quote"], .single '"'⟩,
  ⟨["MB", "MidNumLet"], CharProperty.midNumLetters⟩,
  ⟨["ML", "MidLetter"], CharProperty.midLetters⟩,
  ⟨["MN", "MidNum"], .ofLines [
    "2C 3B 37E 589 60C-60D 66C 7F8 2044 FE10 FE14 FE50 FE54 FF0C FF1B"]⟩,
  ⟨["NU", "Numeric"], .unionAll [categoryNd.members, numberMarks, .ofLines ["66B 19DA"]]⟩,
  ⟨["EX", "ExtendNumLet"], categoryPc.members.union (.single '\u202F')⟩,
  ⟨["WSegSpace"], .ofLines ["20 1680 2000-2006 2008-200A 205F 3000"]⟩]

/-! ## 4. Sentences -/

/-- Marks that may end a sentence or an abbreviation. -/
def stops : CharSet := .ofLines ["2E 2024 FE52 FF0E"]

def sentenceLower : CharSet :=
  (CharProperty.lowercase.members.difference sentenceExtend).difference
    (.ofLines ["10D0-10FA 10FD-10FF"])

def sentenceUpper : CharSet :=
  (categoryLt.members.union CharProperty.uppercase.members).difference
    (.ofLines ["1C90-1CBA 1CBD-1CBF"])

def sentence : List SegmentClass := [
  ⟨["CR"], .single '\r'⟩,
  ⟨["LF"], .single '\n'⟩,
  ⟨["EX", "Extend"], sentenceExtend⟩,
  ⟨["SE", "Sep"], .ofLines ["85 2028-2029"]⟩,
  ⟨["FO", "Format"],
    ((categoryCf.members.difference (.range 0x200C 0x200D)).difference numberMarks).difference
      sentenceExtend⟩,
  ⟨["SP", "Sp"],
    CharProperty.whiteSpace.members.difference (.ofLines ["A D 85 2028-2029"])⟩,
  ⟨["LO", "Lower"], sentenceLower⟩,
  ⟨["UP", "Upper"], sentenceUpper⟩,
  ⟨["LE", "OLetter"],
    (CharProperty.alphabetic.members.union (.single '\u05F3')).difference
      (.unionAll [sentenceLower, sentenceUpper, sentenceExtend])⟩,
  ⟨["NU", "Numeric"], .unionAll [categoryNd.members, numberMarks, .ofLines ["66B-66C 19DA"]]⟩,
  ⟨["AT", "ATerm"], stops⟩,
  ⟨["SC", "SContinue"], .ofLines [
    "2C-2D 3A-3B 37E 55D 60C-60D 7F8 1802 1808 2013-2014 3001 FE10-FE11 FE13-FE14 FE31-FE32",
    "FE50-FE51 FE54-FE55 FE58 FE63 FF0C-FF0D FF1A-FF1B FF64"]⟩,
  ⟨["ST", "STerm"], CharProperty.sentenceTerminal.members.difference stops⟩,
  ⟨["CL", "Close"], .unionAll [categoryPs.members, categoryPe.members, categoryPi.members,
    categoryPf.members, .ofLines [
      "22 27 275B-2760 2E00-2E01 2E06-2E08 2E0B 1F676-1F678"]]⟩]

end SegmentClass

end Dossier
