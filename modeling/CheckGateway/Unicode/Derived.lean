/-
Properties of Unicode 16 that the standard derives from classes and from
listed properties. Each definition follows the standard's own, with the
exceptions listed where the standard goes through a mapping of characters.
-/
import CheckGateway.Unicode.Category
import CheckGateway.Unicode.Listed

namespace CheckGateway.Unicode.Derived

open Category (members)

/-- Small letters, and what looks and works like them. -/
def lowercase : CodePointSet :=
  members [.lowercaseLetter] ∪ Listed.otherLowercase

/-- Capital letters, and what looks and works like them. -/
def uppercase : CodePointSet :=
  members [.uppercaseLetter] ∪ Listed.otherUppercase

/-- Whatever is small, capital or in between. -/
def cased : CodePointSet :=
  .unionAll [lowercase, uppercase, members [.titlecaseLetter]]

/-- Letters, letter numbers, and marks that belong to letters. -/
def alphabetic : CodePointSet :=
  .unionAll [lowercase, uppercase, Listed.otherAlphabetic,
    members [.titlecaseLetter, .modifierLetter, .otherLetter, .letterNumber]]

/-- Mathematical symbols and letters. -/
def math : CodePointSet := members [.mathSymbol] ∪ Listed.otherMath

/-- What continues a grapheme: marks above and below, and some others. -/
def graphemeExtend : CodePointSet :=
  members [.enclosingMark, .nonspacingMark] ∪ Listed.otherGraphemeExtend

/-- What a grapheme can begin with. -/
def graphemeBase : CodePointSet :=
  (CodePointSet.unionAll [graphemeExtend,
    members (.lineSeparator :: .paragraphSeparator :: Category.others)]).outside

/-- What a renderer without a glyph for it shows as nothing. -/
def defaultIgnorableCodePoint : CodePointSet :=
  CodePointSet.unionAll [Listed.otherDefaultIgnorableCodePoint,
      members [.format], Listed.variationSelector]
    \ .unionAll [Listed.whiteSpace, Listed.prependedConcatenationMark,
      .ofList [(0xFFF9, 0xFFFB), (0x13430, 0x1345F)]]

/-- What identifiers are not made of. -/
def pattern : CodePointSet := Listed.patternSyntax ∪ Listed.patternWhiteSpace

/-- What an identifier can begin with. -/
def idStart : CodePointSet :=
  CodePointSet.unionAll [members (.letterNumber :: Category.letters),
    Listed.otherIdStart] \ pattern

/-- What an identifier can go on with. -/
def idContinue : CodePointSet :=
  CodePointSet.unionAll [idStart, Listed.otherIdContinue,
    members [.nonspacingMark, .spacingMark, .decimalNumber,
      .connectorPunctuation]] \ pattern

/-- Capital letters that have no small form. -/
def capitalsWithoutLower : CodePointSet := .ofTable [
    "978 3 7469 1 4 1 3 3 2 3 2 1 3 5 6 1 3 1 3 2 2 2 1 1 10 2 5 1 111290 26 26 26 26 26 ",
    "26 1 1 2 2 1 2 2 2 4 1 8 26 26 26 2 1 4 2 8 1 7 27 2 1 4 1 5 1 1 3 7 27 26 26 26 26 ",
    "26 26 26 26 26 26 26 30 25 33 25 33 25 33 25 33 25 33 1 6501 26 6 26 6 26"]

/-- Small letters that have no capital form. -/
def smallWithoutUpper : CodePointSet := .ofTable [
    "170 1 15 1 125 1 84 1 28 2 14 1 3 1 98 1 18 6 27 1 2 1 1 1 2 3 2 1 4 1 5 2 1 1 2 2 1 ",
    "7 1 2 1 1 2 3 6 5 1 1 1 8 2 26 7 2 30 5 149 1 129 1 355 1 39 1 2931 1 3075 121 1 3 1 ",
    "16 1 49 220 2 1 1 465 1 13 1 16 13 109 1 3 2 3 1 27 1 4 1 4 1 2 2 8 4 2855 1 2 1 2 7 ",
    "102 1 31159 2 146 2 62 9 21 1 6 1 25 1 35 1 1 1 28 3 3 3 821 35 1 7 1 14 23574 1 2 3 ",
    "1 42 1 9 52319 26 26 7 1 18 26 26 26 4 1 1 1 7 1 11 26 26 26 26 26 26 26 26 26 26 26 ",
    "26 26 26 26 26 26 28 28 25 1 6 26 25 1 6 26 25 1 6 26 25 1 6 26 25 1 6 1 1 1844 10 1 ",
    "20 6 6 261 62"]

/-- Letters that have a capital form and are their own title form. -/
def smallOwnTitle : CodePointSet := .ofList
   [(0x1C5, 0x1C5), (0x1C8, 0x1C8), (0x1CB, 0x1CB), (0x1F2, 0x1F2),
    (0x10D0, 0x10FA), (0x10FD, 0x10FF), (0x1F88, 0x1F8F), (0x1F98, 0x1F9F),
    (0x1FA8, 0x1FAF), (0x1FBC, 0x1FBC), (0x1FCC, 0x1FCC), (0x1FFC, 0x1FFC)]

/-- Capital letters whose title form differs from them. -/
def capitalsWithTitle : CodePointSet := .ofList
   [(0x1C4, 0x1C4), (0x1C7, 0x1C7), (0x1CA, 0x1CA), (0x1F1, 0x1F1)]

/-- Capital letters that folding leaves as they are. -/
def foldedCapitals : CodePointSet := .ofList
   [(0x13A0, 0x13F5)]

/-- Letters other than capitals that folding changes. -/
def foldedSmall : CodePointSet := .ofTable [
    "181 1 41 1 105 1 53 1 453 1 124 1 13 2 3 2 25 2 3 1 401 1 3696 6 2178 9 529 2 228 8 ",
    "8 8 8 8 10 3 2 1 10 3 2 1 42 3 2 1 35704 80 20288 7 12 5"]

/-- Starts of identifiers that normalisation may turn into something else. -/
def unstableStart : CodePointSet := .ofList
   [(0x37A, 0x37A), (0xE33, 0xE33), (0xEB3, 0xEB3), (0x309B, 0x309C),
    (0xFC5E, 0xFC63), (0xFDFA, 0xFDFB), (0xFE70, 0xFE70), (0xFE72, 0xFE72),
    (0xFE74, 0xFE74), (0xFE76, 0xFE76), (0xFE78, 0xFE78), (0xFE7A, 0xFE7A),
    (0xFE7C, 0xFE7C), (0xFE7E, 0xFE7E), (0xFF9E, 0xFF9F)]

/-- Parts of identifiers that normalisation may turn into something else. -/
def unstableContinue : CodePointSet := .ofList
   [(0x37A, 0x37A), (0x309B, 0x309C), (0xFC5E, 0xFC63), (0xFDFA, 0xFDFB),
    (0xFE70, 0xFE70), (0xFE72, 0xFE72), (0xFE74, 0xFE74), (0xFE76, 0xFE76),
    (0xFE78, 0xFE78), (0xFE7A, 0xFE7A), (0xFE7C, 0xFE7C), (0xFE7E, 0xFE7E)]

/-- Starts of identifiers that stay so under normalisation. -/
def xidStart : CodePointSet := idStart \ unstableStart

/-- Parts of identifiers that stay so under normalisation. -/
def xidContinue : CodePointSet := idContinue \ unstableContinue

/-- What differs from its small form. -/
def changesWhenLowercased : CodePointSet :=
  (uppercase ∪ members [.titlecaseLetter]) \ capitalsWithoutLower

/-- What differs from its capital form. -/
def changesWhenUppercased : CodePointSet :=
  (lowercase ∪ members [.titlecaseLetter]) \ smallWithoutUpper

/-- What differs from its title form. -/
def changesWhenTitlecased : CodePointSet :=
  (changesWhenUppercased \ smallOwnTitle) ∪ capitalsWithTitle

/-- What differs from its folded form. -/
def changesWhenCasefolded : CodePointSet :=
  (changesWhenLowercased \ foldedCapitals) ∪ foldedSmall

/-- What differs from one of its forms. -/
def changesWhenCasemapped : CodePointSet :=
  .unionAll [changesWhenLowercased, changesWhenUppercased,
    changesWhenTitlecased]

/-- Punctuation inside words: between letters, or between letters and
between digits. -/
def midWord : CodePointSet := .ofList
    [(0x27, 0x27), (0x2E, 0x2E), (0x3A, 0x3A), (0xB7, 0xB7), (0x387, 0x387),
    (0x55F, 0x55F), (0x5F4, 0x5F4), (0x2018, 0x2019), (0x2024, 0x2024),
    (0x2027, 0x2027), (0xFE13, 0xFE13), (0xFE52, 0xFE52), (0xFE55, 0xFE55),
    (0xFF07, 0xFF07), (0xFF0E, 0xFF0E), (0xFF1A, 0xFF1A)]

/-- What is skipped when the letters beside a letter are looked at. -/
def caseIgnorable : CodePointSet :=
  midWord ∪ members [.nonspacingMark, .enclosingMark, .format,
    .modifierLetter, .modifierSymbol]

/-- Hexadecimal digits, also of full width. -/
def hexDigit : CodePointSet :=
  Listed.asciiHexDigit
    ∪ .ofList [(0xFF10, 0xFF19), (0xFF21, 0xFF26), (0xFF41, 0xFF46)]

/-- What a mathematical identifier can go on with besides `idContinue`. -/
def idCompatMathContinue : CodePointSet :=
  Listed.idCompatMathStart
    ∪ .ofList [(0xB2, 0xB3), (0xB9, 0xB9), (0x2070, 0x2070),
      (0x2074, 0x207E), (0x2080, 0x208E)]

end CheckGateway.Unicode.Derived
