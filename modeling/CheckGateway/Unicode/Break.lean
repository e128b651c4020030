/-
The places in a text where graphemes, words and sentences can end are
found by classes of code points. Each of the three partitions of Unicode 16
is a list of rules: a code point belongs to the first class whose rule
holds of it, and to none if no rule holds.
-/
import CheckGateway.Unicode.Property
import CheckGateway.Unicode.Script

namespace CheckGateway.Unicode.Break

open Category (members)

/-- A rule: the names of a class and the code points that it claims. -/
structure Rule where
  names : List String
  claim : CodePointSet

/-- The class with a name: what its rule claims and none before it. -/
def classNamed? (name : String) (before : CodePointSet) :
    List Rule → Option CodePointSet
  | [] => none
  | rule :: rest =>
      if rule.names.contains name then some (rule.claim \ before)
      else classNamed? name (before ∪ rule.claim) rest

-- ============================================================ graphemes

/-- The Hangul syllables without a final consonant. -/
def openSyllables : CodePointSet :=
  .ofList ((List.range 399).map fun i => (0xAC00 + 28 * i, 0xAC00 + 28 * i))

/-- Spacing marks that start a grapheme of their own. -/
def detachedMarks : CodePointSet := .ofList
  [(0x102B, 0x102C), (0x1038, 0x1038), (0x1062, 0x1064), (0x1067, 0x106D),
    (0x1083, 0x1083), (0x1087, 0x108C), (0x108F, 0x108F), (0x109A, 0x109C),
    (0x1A61, 0x1A61), (0x1A63, 0x1A64), (0xAA7B, 0xAA7B), (0xAA7D, 0xAA7D),
    (0x11720, 0x11721)]

/-- Consonant signs that belong to the letter after them. -/
def leadingSigns : CodePointSet := .ofList
  [(0xD4E, 0xD4E), (0x111C2, 0x111C3), (0x113D1, 0x113D1), (0x1193F, 0x1193F),
    (0x11941, 0x11941), (0x11A3A, 0x11A3A), (0x11A84, 0x11A89),
    (0x11D46, 0x11D46), (0x11F02, 0x11F02)]

/-- The classes between which graphemes end. -/
def grapheme : List Rule := [
  ⟨["cr"], .single 0xD⟩,
  ⟨["lf"], .single 0xA⟩,
  ⟨["zwj"], .single 0x200D⟩,
  ⟨["extend", "ex"],
    Property.graphemeExtend.members ∪ Property.emojiModifier.members⟩,
  ⟨["control", "cn"], .unionAll [
    members [.lineSeparator, .paragraphSeparator, .control],
    members [.format] \ Property.prependedConcatenationMark.members,
    members [.unassigned] ∩ Property.defaultIgnorableCodePoint.members]⟩,
  ⟨["regionalindicator", "ri"], Property.regionalIndicator.members⟩,
  ⟨["prepend", "pp"],
    Property.prependedConcatenationMark.members ∪ leadingSigns⟩,
  ⟨["spacingmark", "sm"],
    (members [.spacingMark] ∪ .ofList [(0xE33, 0xE33), (0xEB3, 0xEB3)])
      \ detachedMarks⟩,
  ⟨["l"], .ofList [(0x1100, 0x115F), (0xA960, 0xA97C)]⟩,
  ⟨["v"], .ofList [(0x1160, 0x11A7), (0xD7B0, 0xD7C6), (0x16D63, 0x16D63),
    (0x16D67, 0x16D6A)]⟩,
  ⟨["t"], .ofList [(0x11A8, 0x11FF), (0xD7CB, 0xD7FB)]⟩,
  ⟨["lv"], openSyllables⟩,
  ⟨["lvt"], .range 0xAC00 0xD7A3⟩]

-- ================================================================ words

/-- Digits, the points inside numbers, and the signs around numbers. -/
def numeric : CodePointSet := .unionAll [
  members [.decimalNumber], .range 0x66B 0x66C, .single 0x19DA,
  Property.prependedConcatenationMark.members \ .single 0x70F]

/-- Signs that stand in words like letters. -/
def wordSigns : CodePointSet := .ofList
  [(0xB8, 0xB8), (0x2C2, 0x2C5), (0x2D2, 0x2D7), (0x2DE, 0x2DF),
    (0x2E5, 0x2EB), (0x2ED, 0x2ED), (0x2EF, 0x2FF), (0x55A, 0x55C),
    (0x55E, 0x55E), (0x58A, 0x58A), (0x5F3, 0x5F3), (0x70F, 0x70F),
    (0xA708, 0xA716), (0xA720, 0xA721), (0xA789, 0xA78A), (0xAB5B, 0xAB5B)]

/-- Scripts whose words are not told apart by their letters. -/
def unspacedScripts : CodePointSet := .unionAll
  (["ahom", "hira", "khmr", "lana", "laoo", "mymr", "tale", "talu", "tavt",
    "thai"].map Script.members)

/-- The classes between which words end. -/
def word : List Rule := [
  ⟨["doublequote", "dq"], .single 0x22⟩,
  ⟨["singlequote", "sq"], .single 0x27⟩,
  ⟨["cr"], .single 0xD⟩,
  ⟨["lf"], .single 0xA⟩,
  ⟨["newline", "nl"],
    .ofList [(0xB, 0xC), (0x85, 0x85), (0x2028, 0x2029)]⟩,
  ⟨["zwj"], .single 0x200D⟩,
  ⟨["extend"], .unionAll [Property.graphemeExtend.members,
    members [.spacingMark], Property.emojiModifier.members]⟩,
  ⟨["regionalindicator", "ri"], Property.regionalIndicator.members⟩,
  ⟨["numeric", "nu"], numeric \ .single 0x66C⟩,
  ⟨["format", "fo"],
    members [.format] \ .ofList [(0x70F, 0x70F), (0x200B, 0x200B)]⟩,
  ⟨["katakana", "ka"], Script.members "kana" ∪ .ofList
    [(0x3031, 0x3035), (0x309B, 0x309C), (0x30A0, 0x30A0), (0x30FC, 0x30FC),
      (0xFF70, 0xFF70)]⟩,
  ⟨["hebrewletter", "hl"], Script.members "hebr" ∩ members [.otherLetter]⟩,
  ⟨["aletter", "le"], (Property.alphabetic.members ∪ wordSigns)
    \ (Property.ideographic.members ∪ unspacedScripts)⟩,
  ⟨["midnumlet", "mb"], .ofList
    [(0x2E, 0x2E), (0x2018, 0x2019), (0x2024, 0x2024), (0xFE52, 0xFE52),
      (0xFF07, 0xFF07), (0xFF0E, 0xFF0E)]⟩,
  ⟨["midletter", "ml"], .ofList
    [(0x3A, 0x3A), (0xB7, 0xB7), (0x387, 0x387), (0x55F, 0x55F),
      (0x5F4, 0x5F4), (0x2027, 0x2027), (0xFE13, 0xFE13), (0xFE55, 0xFE55),
      (0xFF1A, 0xFF1A)]⟩,
  ⟨["midnum", "mn"], .ofList
    [(0x2C, 0x2C), (0x3B, 0x3B), (0x37E, 0x37E), (0x589, 0x589),
      (0x60C, 0x60D), (0x66C, 0x66C), (0x7F8, 0x7F8), (0x2044, 0x2044),
      (0xFE10, 0xFE10), (0xFE14, 0xFE14), (0xFE50, 0xFE50),
      (0xFE54, 0xFE54), (0xFF0C, 0xFF0C), (0xFF1B, 0xFF1B)]⟩,
  ⟨["extendnumlet", "ex"],
    members [.connectorPunctuation] ∪ .single 0x202F⟩,
  ⟨["wsegspace"], members [.spaceSeparator]
    \ .ofList [(0xA0, 0xA0), (0x2007, 0x2007), (0x202F, 0x202F)]⟩]

-- ============================================================ sentences

/-- Punctuation after which a sentence goes on. -/
def sentenceCommas : CodePointSet := .ofList
  [(0x2C, 0x2D), (0x3A, 0x3B), (0x37E, 0x37E), (0x55D, 0x55D),
    (0x60C, 0x60D), (0x7F8, 0x7F8), (0x1802, 0x1802), (0x1808, 0x1808),
    (0x2013, 0x2014), (0x3001, 0x3001), (0xFE10, 0xFE11), (0xFE13, 0xFE14),
    (0xFE31, 0xFE32), (0xFE50, 0xFE51), (0xFE54, 0xFE55), (0xFE58, 0xFE58),
    (0xFE63, 0xFE63), (0xFF0C, 0xFF0D), (0xFF1A, 0xFF1B), (0xFF64, 0xFF64)]

/-- Marks of quotation besides the initial and final punctuation. -/
def quotes : CodePointSet := .ofList
  [(0x22, 0x22), (0x27, 0x27), (0x275B, 0x2760), (0x2E00, 0x2E01),
    (0x2E06, 0x2E08), (0x2E0B, 0x2E0B), (0x1F676, 0x1F678)]

/-- The classes between which sentences end. -/
def sentence : List Rule := [
  ⟨["cr"], .single 0xD⟩,
  ⟨["lf"], .single 0xA⟩,
  ⟨["extend", "ex"], .unionAll [Property.graphemeExtend.members,
    .single 0x200D, members [.spacingMark]]⟩,
  ⟨["sep", "se"], .ofList [(0x85, 0x85), (0x2028, 0x2029)]⟩,
  ⟨["numeric", "nu"], numeric⟩,
  ⟨["format", "fo"], members [.format]⟩,
  ⟨["sp"], Property.whiteSpace.members⟩,
  ⟨["lower", "lo"], Property.lowercase.members
    \ .ofList [(0x10D0, 0x10FA), (0x10FD, 0x10FF)]⟩,
  ⟨["upper", "up"],
    (members [.titlecaseLetter] ∪ Property.uppercase.members)
      \ .ofList [(0x1C90, 0x1CBA), (0x1CBD, 0x1CBF)]⟩,
  ⟨["oletter", "le"], Property.alphabetic.members ∪ .single 0x5F3⟩,
  ⟨["aterm", "at"], .ofList
    [(0x2E, 0x2E), (0x2024, 0x2024), (0xFE52, 0xFE52), (0xFF0E, 0xFF0E)]⟩,
  ⟨["scontinue", "sc"], sentenceCommas⟩,
  ⟨["sterm", "st"], Property.sentenceTerminal.members⟩,
  ⟨["close", "cl"], members [.openPunctuation, .closePunctuation,
    .initialPunctuation, .finalPunctuation] ∪ quotes⟩]

end CheckGateway.Unicode.Break
