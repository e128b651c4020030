/-
The properties of Unicode 16 that a code point has or has not, by name.
-/
import CheckGateway.Unicode.Derived
import CheckGateway.Text.Blank

namespace CheckGateway.Unicode

/-- A property that a code point has or has not. -/
inductive Property where
  | asciiHexDigit | alphabetic | bidiControl | bidiMirrored | caseIgnorable
  | cased | changesWhenCasefolded | changesWhenCasemapped
  | changesWhenLowercased | changesWhenTitlecased | changesWhenUppercased
  | dash | defaultIgnorableCodePoint | deprecated | diacritic | emoji
  | emojiComponent | emojiModifier | emojiModifierBase | emojiPresentation
  | extendedPictographic | extender | graphemeBase | graphemeExtend
  | graphemeLink | hexDigit | hyphen | idsBinaryOperator
  | idsTrinaryOperator | idsUnaryOperator | idCompatMathContinue
  | idCompatMathStart | idContinue | idStart | ideographic | joinControl
  | logicalOrderException | lowercase | math | modifierCombiningMark
  | noncharacterCodePoint | otherAlphabetic
  | otherDefaultIgnorableCodePoint | otherGraphemeExtend | otherIdContinue
  | otherIdStart | otherLowercase | otherMath | otherUppercase
  | patternSyntax | patternWhiteSpace | prependedConcatenationMark
  | quotationMark | radical | regionalIndicator | sentenceTerminal
  | softDotted | terminalPunctuation | unifiedIdeograph | uppercase
  | variationSelector | whiteSpace | xidContinue | xidStart
  deriving DecidableEq, Repr

namespace Property

/-- The code points with a property. -/
def members : Property → CodePointSet
  | asciiHexDigit => Listed.asciiHexDigit
  | alphabetic => Derived.alphabetic
  | bidiControl => Listed.bidiControl
  | bidiMirrored => Listed.bidiMirrored
  | caseIgnorable => Derived.caseIgnorable
  | cased => Derived.cased
  | changesWhenCasefolded => Derived.changesWhenCasefolded
  | changesWhenCasemapped => Derived.changesWhenCasemapped
  | changesWhenLowercased => Derived.changesWhenLowercased
  | changesWhenTitlecased => Derived.changesWhenTitlecased
  | changesWhenUppercased => Derived.changesWhenUppercased
  | dash => Listed.dash
  | defaultIgnorableCodePoint => Derived.defaultIgnorableCodePoint
  | deprecated => Listed.deprecated
  | diacritic => Listed.diacritic
  | emoji => Listed.emoji
  | emojiComponent => Listed.emojiComponent
  | emojiModifier => Listed.emojiModifier
  | emojiModifierBase => Listed.emojiModifierBase
  | emojiPresentation => Listed.emojiPresentation
  | extendedPictographic => Listed.extendedPictographic
  | extender => Listed.extender
  | graphemeBase => Derived.graphemeBase
  | graphemeExtend => Derived.graphemeExtend
  | graphemeLink => Listed.graphemeLink
  | hexDigit => Derived.hexDigit
  | hyphen => Listed.hyphen
  | idsBinaryOperator => Listed.idsBinaryOperator
  | idsTrinaryOperator => Listed.idsTrinaryOperator
  | idsUnaryOperator => Listed.idsUnaryOperator
  | idCompatMathContinue => Derived.idCompatMathContinue
  | idCompatMathStart => Listed.idCompatMathStart
  | idContinue => Derived.idContinue
  | idStart => Derived.idStart
  | ideographic => Listed.ideographic
  | joinControl => Listed.joinControl
  | logicalOrderException => Listed.logicalOrderException
  | lowercase => Derived.lowercase
  | math => Derived.math
  | modifierCombiningMark => Listed.modifierCombiningMark
  | noncharacterCodePoint => Listed.noncharacterCodePoint
  | otherAlphabetic => Listed.otherAlphabetic
  | otherDefaultIgnorableCodePoint => Listed.otherDefaultIgnorableCodePoint
  | otherGraphemeExtend => Listed.otherGraphemeExtend
  | otherIdContinue => Listed.otherIdContinue
  | otherIdStart => Listed.otherIdStart
  | otherLowercase => Listed.otherLowercase
  | otherMath => Listed.otherMath
  | otherUppercase => Listed.otherUppercase
  | patternSyntax => Listed.patternSyntax
  | patternWhiteSpace => Listed.patternWhiteSpace
  | prependedConcatenationMark => Listed.prependedConcatenationMark
  | quotationMark => Listed.quotationMark
  | radical => Listed.radical
  | regionalIndicator => Listed.regionalIndicator
  | sentenceTerminal => Listed.sentenceTerminal
  | softDotted => Listed.softDotted
  | terminalPunctuation => Listed.terminalPunctuation
  | unifiedIdeograph => Listed.unifiedIdeograph
  | uppercase => Derived.uppercase
  | variationSelector => Listed.variationSelector
  | whiteSpace => Listed.whiteSpace
  | xidContinue => Derived.xidContinue
  | xidStart => Derived.xidStart

/-- A character has the property. -/
def holds (property : Property) (c : Char) : Bool :=
  property.members.contains c.toNat

/-- The property White_Space and the blanks are one set. -/
theorem whiteSpace_holds (c : Char) : whiteSpace.holds c = Text.isBlank c := by
  show Listed.whiteSpace.contains c.toNat = _
  rw [Listed.whiteSpace, CodePointSet.contains_ofList, Bool.eq_iff_iff]
  simp only [inRange, List.any_cons, List.any_nil, Text.isBlank, Bool.or_eq_true,
    Bool.and_eq_true, decide_eq_true_eq, beq_iff_eq, Bool.false_eq_true,
    or_false]
  omega

/-- The names of each property, written in lower case without spaces,
hyphens and underscores. -/
def named : List (List String × Property) :=
  [
    (["asciihexdigit", "ahex"], .asciiHexDigit),
    (["alphabetic", "alpha"], .alphabetic),
    (["bidicontrol", "bidic"], .bidiControl),
    (["bidimirrored", "bidim"], .bidiMirrored),
    (["caseignorable", "ci"], .caseIgnorable),
    (["cased"], .cased),
    (["changeswhencasefolded", "cwcf"], .changesWhenCasefolded),
    (["changeswhencasemapped", "cwcm"], .changesWhenCasemapped),
    (["changeswhenlowercased", "cwl"], .changesWhenLowercased),
    (["changeswhentitlecased", "cwt"], .changesWhenTitlecased),
    (["changeswhenuppercased", "cwu"], .changesWhenUppercased),
    (["dash"], .dash),
    (["defaultignorablecodepoint", "di"], .defaultIgnorableCodePoint),
    (["deprecated", "dep"], .deprecated),
    (["diacritic", "dia"], .diacritic),
    (["emoji"], .emoji),
    (["emojicomponent", "ecomp"], .emojiComponent),
    (["emojimodifier", "emod"], .emojiModifier),
    (["emojimodifierbase", "ebase"], .emojiModifierBase),
    (["emojipresentation", "epres"], .emojiPresentation),
    (["extendedpictographic", "extpict"], .extendedPictographic),
    (["extender", "ext"], .extender),
    (["graphemebase", "grbase"], .graphemeBase),
    (["graphemeextend", "grext"], .graphemeExtend),
    (["graphemelink", "grlink"], .graphemeLink),
    (["hexdigit", "hex"], .hexDigit),
    (["hyphen"], .hyphen),
    (["idsbinaryoperator", "idsb"], .idsBinaryOperator),
    (["idstrinaryoperator", "idst"], .idsTrinaryOperator),
    (["idsunaryoperator", "idsu"], .idsUnaryOperator),
    (["idcompatmathcontinue"], .idCompatMathContinue),
    (["idcompatmathstart"], .idCompatMathStart),
    (["idcontinue", "idc"], .idContinue),
    (["idstart", "ids"], .idStart),
    (["ideographic", "ideo"], .ideographic),
    (["joincontrol", "joinc"], .joinControl),
    (["logicalorderexception", "loe"], .logicalOrderException),
    (["lowercase", "lower"], .lowercase),
    (["math"], .math),
    (["modifiercombiningmark", "mcm"], .modifierCombiningMark),
    (["noncharactercodepoint", "nchar"], .noncharacterCodePoint),
    (["otheralphabetic", "oalpha"], .otherAlphabetic),
    (["otherdefaultignorablecodepoint", "odi"], .otherDefaultIgnorableCodePoint),
    (["othergraphemeextend", "ogrext"], .otherGraphemeExtend),
    (["otheridcontinue", "oidc"], .otherIdContinue),
    (["otheridstart", "oids"], .otherIdStart),
    (["otherlowercase", "olower"], .otherLowercase),
    (["othermath", "omath"], .otherMath),
    (["otheruppercase", "oupper"], .otherUppercase),
    (["patternsyntax", "patsyn"], .patternSyntax),
    (["patternwhitespace", "patws"], .patternWhiteSpace),
    (["prependedconcatenationmark", "pcm"], .prependedConcatenationMark),
    (["quotationmark", "qmark"], .quotationMark),
    (["radical"], .radical),
    (["regionalindicator", "ri"], .regionalIndicator),
    (["sentenceterminal", "sterm"], .sentenceTerminal),
    (["softdotted", "sd"], .softDotted),
    (["terminalpunctuation", "term"], .terminalPunctuation),
    (["unifiedideograph", "uideo"], .unifiedIdeograph),
    (["uppercase", "upper"], .uppercase),
    (["variationselector", "vs"], .variationSelector),
    (["whitespace", "wspace", "space"], .whiteSpace),
    (["xidcontinue", "xidc"], .xidContinue),
    (["xidstart", "xids"], .xidStart)]

/-- The property with a name. -/
def ofName? (name : String) : Option Property :=
  (named.find? fun entry => entry.1.contains name).map Prod.snd

end Property

end CheckGateway.Unicode
