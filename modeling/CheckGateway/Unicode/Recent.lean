/-
Code points that version 17 of the standard assigned. The other tables
know version 16, as patterns do; text is shown, and group names are read,
by version 17.
-/
import CheckGateway.Unicode.Property

namespace CheckGateway.Unicode.Recent

/-- The code points that version 17 assigned, with their class. -/
def rows : List (Nat × Nat × Category) :=
  [
    (0x88F, 0x88F, .otherLetter),
    (0xC5C, 0xC5C, .otherLetter),
    (0xCDC, 0xCDC, .otherLetter),
    (0x1ACF, 0x1ADD, .nonspacingMark),
    (0x1AE0, 0x1AEB, .nonspacingMark),
    (0x20C1, 0x20C1, .currencySymbol),
    (0x2B96, 0x2B96, .otherSymbol),
    (0xA7CE, 0xA7CE, .uppercaseLetter),
    (0xA7CF, 0xA7CF, .lowercaseLetter),
    (0xA7D2, 0xA7D2, .uppercaseLetter),
    (0xA7D4, 0xA7D4, .uppercaseLetter),
    (0xA7F1, 0xA7F1, .modifierLetter),
    (0xFBC3, 0xFBD2, .otherSymbol),
    (0xFD90, 0xFD91, .otherSymbol),
    (0xFDC8, 0xFDCE, .otherSymbol),
    (0x10940, 0x10959, .otherLetter),
    (0x10EC5, 0x10EC5, .modifierLetter),
    (0x10EC6, 0x10EC7, .otherLetter),
    (0x10ED0, 0x10ED0, .otherPunctuation),
    (0x10ED1, 0x10ED8, .otherSymbol),
    (0x10EFA, 0x10EFB, .nonspacingMark),
    (0x11B60, 0x11B60, .nonspacingMark),
    (0x11B61, 0x11B61, .spacingMark),
    (0x11B62, 0x11B64, .nonspacingMark),
    (0x11B65, 0x11B65, .spacingMark),
    (0x11B66, 0x11B66, .nonspacingMark),
    (0x11B67, 0x11B67, .spacingMark),
    (0x11DB0, 0x11DD8, .otherLetter),
    (0x11DD9, 0x11DD9, .modifierLetter),
    (0x11DDA, 0x11DDB, .otherLetter),
    (0x11DE0, 0x11DE9, .decimalNumber),
    (0x16EA0, 0x16EB8, .uppercaseLetter),
    (0x16EBB, 0x16ED3, .lowercaseLetter),
    (0x16FF2, 0x16FF3, .modifierLetter),
    (0x16FF4, 0x16FF6, .letterNumber),
    (0x187F8, 0x187FF, .otherLetter),
    (0x18D09, 0x18D1E, .otherLetter),
    (0x18D80, 0x18DF2, .otherLetter),
    (0x1CCFA, 0x1CCFC, .otherSymbol),
    (0x1CEBA, 0x1CED0, .otherSymbol),
    (0x1CEE0, 0x1CEEF, .otherSymbol),
    (0x1CEF0, 0x1CEF0, .mathSymbol),
    (0x1E6C0, 0x1E6DE, .otherLetter),
    (0x1E6E0, 0x1E6E2, .otherLetter),
    (0x1E6E3, 0x1E6E3, .nonspacingMark),
    (0x1E6E4, 0x1E6E5, .otherLetter),
    (0x1E6E6, 0x1E6E6, .nonspacingMark),
    (0x1E6E7, 0x1E6ED, .otherLetter),
    (0x1E6EE, 0x1E6EF, .nonspacingMark),
    (0x1E6F0, 0x1E6F4, .otherLetter),
    (0x1E6F5, 0x1E6F5, .nonspacingMark),
    (0x1E6FE, 0x1E6FE, .otherLetter),
    (0x1E6FF, 0x1E6FF, .modifierLetter),
    (0x1F6D8, 0x1F6D8, .otherSymbol),
    (0x1F777, 0x1F77A, .otherSymbol),
    (0x1F8D0, 0x1F8D8, .mathSymbol),
    (0x1FA54, 0x1FA57, .otherSymbol),
    (0x1FA8A, 0x1FA8A, .otherSymbol),
    (0x1FA8E, 0x1FA8E, .otherSymbol),
    (0x1FAC8, 0x1FAC8, .otherSymbol),
    (0x1FACD, 0x1FACD, .otherSymbol),
    (0x1FAEA, 0x1FAEA, .otherSymbol),
    (0x1FAEF, 0x1FAEF, .otherSymbol),
    (0x1FBFA, 0x1FBFA, .otherSymbol),
    (0x2B73A, 0x2B73F, .otherLetter),
    (0x2CEA2, 0x2CEAD, .otherLetter),
    (0x323B0, 0x33479, .otherLetter)]

/-- The decoded table. -/
def table : RunTable Category :=
  rows.map fun row => ((row.1, row.2.1), row.2.2)

/-- The class of a character in version 17. -/
def category (c : Char) : Category :=
  (table.get? c.toNat).getD (Category.ofChar c)

/-- Marks of version 17 that count as letters. -/
def letterMarks : CodePointSet :=
  .ofList [(0x10EFA, 0x10EFB), (0x11B60, 0x11B67), (0x1E6E3, 0x1E6F5)]

/-- A letter or what counts as one, in version 17. -/
def isAlphabetic (c : Char) : Bool :=
  Property.alphabetic.holds c
    || (table.get? c.toNat).any fun kind =>
        (Category.letterNumber :: Category.letters).contains kind
          || letterMarks.contains c.toNat

/-- A number of any kind, in version 17. -/
def isNumeric (c : Char) : Bool :=
  Category.numbers.contains (category c)

end CheckGateway.Unicode.Recent
