import TokenGrammar.Text.Property

/-!
Characters that version 17 of the character standard adds to version 16. Text that is shown and
the case of settings go by the newer version.
-/

namespace TokenGrammar.Text.Newer

/-- New capital letters, all with a small letter. -/
def uppercase : CharSet := .ofLines ["A7CE A7D2 A7D4 16EA0-16EB8"]

def lowercase : CharSet := .ofLines ["A7CF A7F1 16EBB-16ED3"]

def letters : CharSet := .ofLines [
  "88F C5C CDC 10940-10959 10EC5-10EC7 11DB0-11DDB 16FF2-16FF3 187F8-187FF 18D09-18D1E",
  "18D80-18DF2 1E6C0-1E6DE 1E6E0-1E6E2 1E6E4-1E6E5 1E6E7-1E6ED 1E6F0-1E6F4 1E6FE-1E6FF",
  "2B73A-2B73F 2CEA2-2CEAD 323B0-33479"]

/-- New marks that are written over or under another character. -/
def nonspacingMarks : CharSet := .ofLines [
  "1ACF-1ADD 1AE0-1AEB 10EFA-10EFB 11B60 11B62-11B64 11B66 1E6E3 1E6E6 1E6EE-1E6EF 1E6F5"]

def spacingMarks : CharSet := .ofLines ["11B61 11B65 11B67"]

def numbers : CharSet := .ofLines ["11DE0-11DE9 16FF4-16FF6"]

/-- New numbers that count as letters. -/
def letterNumbers : CharSet := .ofLines ["16FF4-16FF6"]

def symbols : CharSet := .ofLines [
  "20C1 2B96 FBC3-FBD2 FD90-FD91 FDC8-FDCE 10ED0-10ED8 1CCFA-1CCFC 1CEBA-1CED0 1CEE0-1CEF0",
  "1F6D8 1F777-1F77A 1F8D0-1F8D8 1FA54-1FA57 1FA8A 1FA8E 1FAC8 1FACD 1FAEA 1FAEF 1FBFA"]

/-- New letters that do not matter to whether a word ends. -/
def modifierLetters : CharSet := .ofLines ["A7F1 10EC5 11DD9 16FF2-16FF3 1E6FF"]

/-- New characters that stand for themselves. -/
def shown : CharSet :=
  .unionAll [uppercase, lowercase, letters, spacingMarks, numbers, symbols]

/-- New marks among letters that count as letters. -/
def alphabeticMarks : CharSet := .ofLines [
  "10EFA-10EFB 11B60-11B67 1E6E3 1E6E6 1E6EE-1E6EF 1E6F5"]

def alphabetic : CharSet :=
  .unionAll [uppercase, lowercase, letters, letterNumbers, alphabeticMarks]

/-- A letter that had case before. -/
def uncased : CharSet := .ofLines ["295"]

end TokenGrammar.Text.Newer
