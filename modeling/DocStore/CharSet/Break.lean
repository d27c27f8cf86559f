import DocStore.CharSet.Property

namespace DocStore.CharSet

def code (n : Nat) : CharSet := ranges [(n, n)]

-- Takes from every class what a class before it has: a character belongs to the first class
-- of a list that describes it.
def ranked (before : CharSet) : List Named → List Named
  | [] => []
  | c :: rest => ⟨c.names, diff c.set before⟩ :: ranked (union c.set before) rest

def scriptRuns (name : String) : List Text.Run :=
  (Text.scripts.filter (·.names.contains name)).flatMap fun s => Text.readRuns s.own

def hangulSyllables : CharSet := ranges [(0xac00, 0xd7a3)]

-- The syllables without a final consonant.
def openSyllables : CharSet := runs [⟨0xac00, 0xd788, 28⟩]

-- Spacing marks of writing systems in which they are bases all the same.
def separateMarks : CharSet :=
  ranges
    [(0x102b, 0x102c), (0x1038, 0x1038), (0x1062, 0x1064), (0x1067, 0x106d), (0x1083, 0x1083),
      (0x1087, 0x108c), (0x108f, 0x108f), (0x109a, 0x109c), (0x1a61, 0x1a61), (0x1a63, 0x1a64),
      (0xaa7b, 0xaa7b), (0xaa7d, 0xaa7d), (0x11720, 0x11721)]

-- Consonants that are written before the others of their syllable.
def leadingConsonants : CharSet :=
  ranges
    [(0xd4e, 0xd4e), (0x111c2, 0x111c3), (0x113d1, 0x113d1), (0x1193f, 0x1193f),
      (0x11941, 0x11941), (0x11a3a, 0x11a3a), (0x11a84, 0x11a89), (0x11d46, 0x11d46),
      (0x11f02, 0x11f02)]

def graphemeBreaks : List Named :=
  ranked none
    [
      ⟨["CR"], code 0xd⟩,
      ⟨["LF"], code 0xa⟩,
      ⟨["ZWJ"], code 0x200d⟩,
      ⟨["Extend", "EX"], union graphemeExtend (runs Text.emojiModifier)⟩,
      ⟨["Regional_Indicator", "RI"], runs Text.regionalIndicator⟩,
      ⟨["Prepend", "PP"], union (runs Text.prependedConcatenationMark) leadingConsonants⟩,
      ⟨["Control", "CN"],
        union (runs (Text.controls ++ Text.formats ++ Text.lineSeparators ++ Text.paragraphSeparators))
          (inter unassigned defaultIgnorable)⟩,
      ⟨["SpacingMark", "SM"],
        union (diff (runs Text.spacingMarks) separateMarks) (ranges [(0xe33, 0xe33), (0xeb3, 0xeb3)])⟩,
      ⟨["L"], ranges [(0x1100, 0x115f), (0xa960, 0xa97c)]⟩,
      ⟨["V"],
        ranges [(0x1160, 0x11a7), (0xd7b0, 0xd7c6), (0x16d63, 0x16d63), (0x16d67, 0x16d6a)]⟩,
      ⟨["T"], ranges [(0x11a8, 0x11ff), (0xd7cb, 0xd7fb)]⟩,
      ⟨["LV"], openSyllables⟩,
      ⟨["LVT"], hangulSyllables⟩
    ]

-- Marks in front of a number, which count as digits of it.
def numberMarks : CharSet :=
  ranges
    [(0x600, 0x605), (0x6dd, 0x6dd), (0x890, 0x891), (0x8e2, 0x8e2), (0x110bd, 0x110bd),
      (0x110cd, 0x110cd)]

-- Letters of scripts that put no space between words.
def unspacedLetters : CharSet :=
  ranges
    [(0xe01, 0xe3a), (0xe40, 0xe4e), (0xe81, 0xe82), (0xe84, 0xe84), (0xe86, 0xe8a),
      (0xe8c, 0xea3), (0xea5, 0xea5), (0xea7, 0xebd), (0xec0, 0xec4), (0xec6, 0xec6),
      (0xec8, 0xece), (0xedc, 0xedf), (0x1000, 0x103f), (0x1050, 0x108f), (0x109a, 0x109f),
      (0x1780, 0x17d3), (0x17d7, 0x17d7), (0x17dc, 0x17dd), (0x1950, 0x196d), (0x1970, 0x1974),
      (0x1980, 0x19ab), (0x19b0, 0x19c9), (0x19da, 0x19da), (0x19de, 0x19df), (0x1a20, 0x1a5e),
      (0x1a60, 0x1a7c), (0x1aa0, 0x1aad), (0xa9e0, 0xa9ef), (0xa9fa, 0xa9fe), (0xaa60, 0xaac2),
      (0xaadb, 0xaadf), (0x11700, 0x1171a), (0x1171d, 0x1172b), (0x1173a, 0x1173b),
      (0x1173f, 0x11746)]

-- Signs that stand in words like letters.
def letterSigns : CharSet :=
  ranges
    [(0xb8, 0xb8), (0x2c2, 0x2c5), (0x2d2, 0x2d7), (0x2de, 0x2df), (0x2e5, 0x2eb), (0x2ed, 0x2ed),
      (0x2ef, 0x2ff), (0x55a, 0x55c), (0x55e, 0x55e), (0x58a, 0x58a), (0x5f3, 0x5f3),
      (0x70f, 0x70f), (0xa708, 0xa716), (0xa720, 0xa721), (0xa789, 0xa78a), (0xab5b, 0xab5b)]

def wordBreaks : List Named :=
  ranked none
    [
      ⟨["CR"], code 0xd⟩,
      ⟨["LF"], code 0xa⟩,
      ⟨["Newline", "NL"], ranges [(0xb, 0xc), (0x85, 0x85), (0x2028, 0x2029)]⟩,
      ⟨["ZWJ"], code 0x200d⟩,
      ⟨["Regional_Indicator", "RI"], runs Text.regionalIndicator⟩,
      ⟨["Extend"], union graphemeExtend (runs (Text.spacingMarks ++ Text.emojiModifier))⟩,
      ⟨["Format", "FO"],
        diff (runs Text.formats)
          (union (runs Text.prependedConcatenationMark) (ranges [(0x200b, 0x200d)]))⟩,
      ⟨["WSegSpace"],
        diff (runs Text.spaceSeparators) (ranges [(0xa0, 0xa0), (0x2007, 0x2007), (0x202f, 0x202f)])⟩,
      ⟨["ExtendNumLet", "EX"], union (runs Text.connectors) (code 0x202f)⟩,
      ⟨["Numeric", "NU"], union (runs Text.digitNumbers) (union numberMarks (code 0x66b))⟩,
      ⟨["Double_Quote", "DQ"], code 0x22⟩,
      ⟨["Single_Quote", "SQ"], code 0x27⟩,
      ⟨["MidNumLet", "MB"],
        ranges
          [(0x2e, 0x2e), (0x2018, 0x2019), (0x2024, 0x2024), (0xfe52, 0xfe52), (0xff07, 0xff07),
            (0xff0e, 0xff0e)]⟩,
      ⟨["MidLetter", "ML"],
        ranges
          [(0x3a, 0x3a), (0xb7, 0xb7), (0x387, 0x387), (0x55f, 0x55f), (0x5f4, 0x5f4),
            (0x2027, 0x2027), (0xfe13, 0xfe13), (0xfe55, 0xfe55), (0xff1a, 0xff1a)]⟩,
      ⟨["MidNum", "MN"],
        ranges
          [(0x2c, 0x2c), (0x3b, 0x3b), (0x37e, 0x37e), (0x589, 0x589), (0x60c, 0x60d), (0x66c, 0x66c),
            (0x7f8, 0x7f8), (0x2044, 0x2044), (0xfe10, 0xfe10), (0xfe14, 0xfe14), (0xfe50, 0xfe50),
            (0xfe54, 0xfe54), (0xff0c, 0xff0c), (0xff1b, 0xff1b)]⟩,
      ⟨["Katakana", "KA"],
        union (runs (scriptRuns "Katakana"))
          (ranges
            [(0x3031, 0x3035), (0x309b, 0x309c), (0x30a0, 0x30a0), (0x30fc, 0x30fc), (0xff70, 0xff70)])⟩,
      ⟨["Hebrew_Letter", "HL"], inter (runs (scriptRuns "Hebrew")) (runs Text.otherLetters)⟩,
      ⟨["ALetter", "LE"],
        diff (union (runs Text.alphabetic) letterSigns)
          (union unspacedLetters (runs (Text.ideographic ++ scriptRuns "Hiragana")))⟩
    ]

-- Letters of a script whose capitals begin no sentence.
def georgianSmall : CharSet := ranges [(0x10d0, 0x10fa), (0x10fd, 0x10ff)]

def georgianCapital : CharSet := ranges [(0x1c90, 0x1cba), (0x1cbd, 0x1cbf)]

def sentenceBreaks : List Named :=
  ranked none
    [
      ⟨["CR"], code 0xd⟩,
      ⟨["LF"], code 0xa⟩,
      ⟨["Sep", "SE"], ranges [(0x85, 0x85), (0x2028, 0x2029)]⟩,
      ⟨["Extend", "EX"], union graphemeExtend (union (runs Text.spacingMarks) (code 0x200d))⟩,
      ⟨["Sp"], blanks⟩,
      ⟨["ATerm", "AT"], ranges [(0x2e, 0x2e), (0x2024, 0x2024), (0xfe52, 0xfe52), (0xff0e, 0xff0e)]⟩,
      ⟨["STerm", "ST"], runs Text.sentenceTerminal⟩,
      ⟨["SContinue", "SC"],
        ranges
          [(0x2c, 0x2d), (0x3a, 0x3b), (0x37e, 0x37e), (0x55d, 0x55d), (0x60c, 0x60d), (0x7f8, 0x7f8),
            (0x1802, 0x1802), (0x1808, 0x1808), (0x2013, 0x2014), (0x3001, 0x3001), (0xfe10, 0xfe11),
            (0xfe13, 0xfe14), (0xfe31, 0xfe32), (0xfe50, 0xfe51), (0xfe54, 0xfe55), (0xfe58, 0xfe58),
            (0xfe63, 0xfe63), (0xff0c, 0xff0d), (0xff1a, 0xff1b), (0xff64, 0xff64)]⟩,
      ⟨["Numeric", "NU"], union (runs Text.digitNumbers) (union numberMarks (ranges [(0x66b, 0x66c)]))⟩,
      ⟨["Format", "FO"], diff (runs Text.formats) (code 0x200c)⟩,
      ⟨["Close", "CL"],
        union (runs (Text.openingMarks ++ Text.closingMarks ++ Text.initialQuotes ++ Text.finalQuotes))
          (ranges
            [(0x22, 0x22), (0x27, 0x27), (0x275b, 0x2760), (0x2e00, 0x2e01), (0x2e06, 0x2e08),
              (0x2e0b, 0x2e0b), (0x1f676, 0x1f678)])⟩,
      ⟨["Upper", "UP"], diff (union uppercase (runs Text.titleLetters)) georgianCapital⟩,
      ⟨["Lower", "LO"], diff lowercase georgianSmall⟩,
      ⟨["OLetter", "LE"], union (runs Text.alphabetic) (ranges [(0xa0, 0xa0), (0x5f3, 0x5f3)])⟩
    ]

end DocStore.CharSet
