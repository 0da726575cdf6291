/-
# Characters of version 17

Patterns know the characters of Unicode as of version 16.  The letters and numbers in the names of
groups, and the letters of either case that the names of fields are made of, are those of version
17.  This module has what version 17 adds to them.
-/
import Dossier.Unicode.Table

namespace Dossier

/-- The added letters and marks that are alphabetic. -/
def laterAlphabetic : CharSet := .ofLines [
  "88F C5C CDC A7CE-A7CF A7D2-A7D4/2 A7F1 10940-10959 10EC5-10EC7 10EFA-10EFB 11B60-11B67",
  "11DB0-11DDB 16EA0-16EB8 16EBB-16ED3 16FF2-16FF6 187F8-187FF 18D09-18D1E 18D80-18DF2",
  "1E6C0-1E6DE 1E6E0-1E6F5 1E6FE-1E6FF 2B73A-2B73F 2CEA2-2CEAD 323B0-33479"]

/-- The added digits and letters that are numbers. -/
def laterNumbers : CharSet := .ofLines ["11DE0-11DE9 16FF4-16FF6"]

/-- What becomes of added letters, and of their partners, in upper case. -/
def laterUpperRuns : List CharRun := CharRun.ofLines [
  "A7CF,A7CF,1,-1 A7D3,A7D5,2,-1 16EBB,16ED3,1,-1B"]

/-- What becomes of added letters, and of their partners, in lower case. -/
def laterLowerRuns : List CharRun := CharRun.ofLines [
  "A7CE,A7CE,1,1 A7D2,A7D4,2,1 16EA0,16EB8,1,1B"]

end Dossier
