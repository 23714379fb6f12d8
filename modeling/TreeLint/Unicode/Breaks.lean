import TreeLint.Unicode.Binary
import TreeLint.Unicode.Script

/-!
How characters stand at the breaks between clusters, words and sentences, as of version 16.0 of the
Unicode standard. Each of the three properties has values. The names of a value are in lower case
without blanks, dashes and underscores. Characters that no value holds have no name for theirs.
-/
namespace TreeLint.Unicode

/-- Adds some characters to a set and takes others out, each by a table. -/
def amended (s : CharSet) (more less : List String) : CharSet :=
  (s.union (.ofTable more)).diff (.ofTable less)

/-- The two-part syllables of Hangul: every 28th one, which has no final consonant. -/
def openSyllables : CharSet :=
  .ofRuns ((List.range 399).map fun i => (0xAC00 + 28 * i, 0xAC00 + 28 * i))

def hangulSyllables : CharSet := .ofRange 0xAC00 0xD7A3

/-- Characters that go with the one before them: what extends a cluster, and spacing marks. -/
def attached : CharSet := Binary.graphemeExtend.chars.union Category.mc.chars

/-- How a character stands in a cluster of characters that read as one. -/
inductive ClusterBreak
  | control | cr | extend | l | lf | lv | lvt | prepend | regionalIndicator | spacingMark | t | v
  | zwj
deriving DecidableEq, Repr

namespace ClusterBreak

def all : List ClusterBreak :=
  [.control, .cr, .extend, .l, .lf, .lv, .lvt, .prepend, .regionalIndicator, .spacingMark, .t, .v,
  .zwj]

def names : ClusterBreak → List String
  | .control => ["control", "cn"]
  | .cr => ["cr"]
  | .extend => ["extend", "ex"]
  | .l => ["l"]
  | .lf => ["lf"]
  | .lv => ["lv"]
  | .lvt => ["lvt"]
  | .prepend => ["prepend", "pp"]
  | .regionalIndicator => ["regionalindicator", "ri"]
  | .spacingMark => ["spacingmark", "sm"]
  | .t => ["t"]
  | .v => ["v"]
  | .zwj => ["zwj"]

def chars : ClusterBreak → CharSet
  | .control => amended
    ((Category.charsOf [.cc, .cf, .zl, .zp]).union
      (Category.cn.chars.inter Binary.defaultIgnorable.chars)) []
    ["A D 600-605 6DD 70F 890-891 8E2 200C-200D 110BD 110CD E0020-E007F"]
  | .cr => .single '\r'
  | .extend => amended (Binary.graphemeExtend.chars.union Binary.emojiModifier.chars) [] ["200D"]
  | .l => .ofTable
    ["1100-115F A960-A97C"]
  | .lf => .single '\n'
  | .lv => openSyllables
  | .lvt => hangulSyllables.diff openSyllables
  | .prepend => amended Binary.prependedConcatenationMark.chars
    ["D4E 111C2-111C3 113D1 1193F 11941 11A3A 11A84-11A89 11D46 11F02"] []
  | .regionalIndicator => Binary.regionalIndicator.chars
  | .spacingMark => amended (Category.mc.chars.diff Binary.graphemeExtend.chars) ["E33 EB3"]
    ["102B-102C 1038 1062-1064 1067-106D 1083 1087-108C 108F 109A-109C 1A61 1A63-1A64 AA7B AA7D",
     "11720-11721"]
  | .t => .ofTable
    ["11A8-11FF D7CB-D7FB"]
  | .v => .ofTable
    ["1160-11A7 D7B0-D7C6 16D63 16D67-16D6A"]
  | .zwj => .ofTable ["200D"]

/-- The characters of a value by one of its names. -/
def ofName? (name : String) : Option CharSet :=
  (all.find? (·.names.contains name)).map chars

end ClusterBreak

/-- How a character stands in a word. -/
inductive WordBreak
  | aLetter | cr | doubleQuote | extend | extendNumLet | format | hebrewLetter | katakana | lf
  | midLetter | midNum | midNumLet | newline | numeric | regionalIndicator | singleQuote
  | wSegSpace | zwj
deriving DecidableEq, Repr

namespace WordBreak

def all : List WordBreak :=
  [.aLetter, .cr, .doubleQuote, .extend, .extendNumLet, .format, .hebrewLetter, .katakana, .lf,
  .midLetter, .midNum, .midNumLet, .newline, .numeric, .regionalIndicator, .singleQuote,
  .wSegSpace, .zwj]

def names : WordBreak → List String
  | .aLetter => ["aletter", "le"]
  | .cr => ["cr"]
  | .doubleQuote => ["doublequote", "dq"]
  | .extend => ["extend"]
  | .extendNumLet => ["extendnumlet", "ex"]
  | .format => ["format", "fo"]
  | .hebrewLetter => ["hebrewletter", "hl"]
  | .katakana => ["katakana", "ka"]
  | .lf => ["lf"]
  | .midLetter => ["midletter", "ml"]
  | .midNum => ["midnum", "mn"]
  | .midNumLet => ["midnumlet", "mb"]
  | .newline => ["newline", "nl"]
  | .numeric => ["numeric", "nu"]
  | .regionalIndicator => ["regionalindicator", "ri"]
  | .singleQuote => ["singlequote", "sq"]
  | .wSegSpace => ["wsegspace"]
  | .zwj => ["zwj"]

def hebrewLetters : CharSet := ((Script.ofName? "hebr").getD .empty).inter Category.lo.chars

def katakanaSigns : CharSet :=
  ((Script.ofName? "kana").getD .empty).union (.ofTable ["3031-3035 309B-309C 30A0 30FC FF70"])

def extending : CharSet := amended (attached.union Binary.emojiModifier.chars) [] ["200D"]

/-- Signs that are not letters but stand in words as letters do. -/
def letterLike : CharSet := .ofTable
  ["2C2-2C5 2D2-2D7 2DE-2DF 2E5-2EB 2ED 2EF-2FF 55A-55C 55E 58A 5F3 70F A708-A716 A720-A721",
   "A789-A78A AB5B"]

/-- Letters of scripts that put no blanks between words. -/
def unspaced : CharSet :=
  (Binary.ideographic.chars.union ((Script.ofName? "hira").getD .empty)).union (.ofTable
    ["E01-E30 E32-E33 E40-E46 E81-E82 E84 E86-E8A E8C-EA3 EA5 EA7-EB0 EB2-EB3 EBD EC0-EC4 EC6",
     "EDC-EDF 1000-102A 103F 1050-1055 105A-105D 1061 1065-1066 106E-1070 1075-1081 108E",
     "1780-17B3 17D7 17DC 1950-196D 1970-1974 1980-19AB 19B0-19C9 1A20-1A54 1AA7 A9E0-A9E4",
     "A9E6-A9EF A9FA-A9FE AA60-AA76 AA7A AA7E-AAAF AAB1 AAB5-AAB6 AAB9-AABD AAC0 AAC2 AADB-AADD",
     "11700-1171A 11740-11746"])

def chars : WordBreak → CharSet
  | .aLetter => (((Binary.alphabetic.chars.union letterLike).diff unspaced).diff
    (katakanaSigns.union hebrewLetters)).diff extending
  | .cr => .single '\r'
  | .doubleQuote => .single '"'
  | .extend => extending
  | .extendNumLet => amended Category.pc.chars ["202F"] []
  | .format => amended Category.cf.chars []
    ["600-605 6DD 70F 890-891 8E2 200B-200D 110BD 110CD E0020-E007F"]
  | .hebrewLetter => hebrewLetters
  | .katakana => katakanaSigns
  | .lf => .single '\n'
  | .midLetter => .ofTable
    ["3A B7 387 55F 5F4 2027 FE13 FE55 FF1A"]
  | .midNum => .ofTable
    ["2C 3B 37E 589 60C-60D 66C 7F8 2044 FE50 FE54 FF0C FF1B"]
  | .midNumLet => .ofTable
    ["2E 2018-2019 2024 FE52 FF07 FF0E"]
  | .newline => .ofTable
    ["B-C 85 2028-2029"]
  | .numeric => amended Category.nd.chars ["600-605 66B 6DD 890-891 8E2 19DA 110BD 110CD"] []
  | .regionalIndicator => Binary.regionalIndicator.chars
  | .singleQuote => .single '\''
  | .wSegSpace => amended Category.zs.chars [] ["A0 2007 202F"]
  | .zwj => .ofTable ["200D"]

/-- The characters of a value by one of its names. -/
def ofName? (name : String) : Option CharSet :=
  (all.find? (·.names.contains name)).map chars

end WordBreak

/-- How a character stands in a sentence. -/
inductive SentenceBreak
  | aTerm | close | cr | extend | format | lf | lower | numeric | oLetter | sContinue | sep | sp
  | sTerm | upper
deriving DecidableEq, Repr

namespace SentenceBreak

def all : List SentenceBreak :=
  [.aTerm, .close, .cr, .extend, .format, .lf, .lower, .numeric, .oLetter, .sContinue, .sep, .sp,
  .sTerm, .upper]

def names : SentenceBreak → List String
  | .aTerm => ["aterm", "at"]
  | .close => ["close", "cl"]
  | .cr => ["cr"]
  | .extend => ["extend", "ex"]
  | .format => ["format", "fo"]
  | .lf => ["lf"]
  | .lower => ["lower", "lo"]
  | .numeric => ["numeric", "nu"]
  | .oLetter => ["oletter", "le"]
  | .sContinue => ["scontinue", "sc"]
  | .sep => ["sep", "se"]
  | .sp => ["sp"]
  | .sTerm => ["sterm", "st"]
  | .upper => ["upper", "up"]

/-- Small letters, but for those of Georgian, whose two cases are not told apart here. -/
def small : CharSet :=
  amended (Binary.lowercase.chars.diff Binary.graphemeExtend.chars) [] ["10D0-10FA 10FD-10FF"]

def capital : CharSet :=
  amended (Category.lt.chars.union Binary.uppercase.chars) [] ["1C90-1CBA 1CBD-1CBF"]

def extending : CharSet := amended attached ["200D"] []

def chars : SentenceBreak → CharSet
  | .aTerm => .ofTable
    ["2E 2024 FE52 FF0E"]
  | .close => amended
    ((Category.charsOf [.ps, .pe, .pi, .pf]).union Binary.quotationMark.chars)
    ["275B-2760 2E00-2E01 2E06-2E08 2E0B 1F676-1F678"] ["FF02 FF07"]
  | .cr => .single '\r'
  | .extend => extending
  | .format => amended Category.cf.chars []
    ["600-605 6DD 890-891 8E2 200C-200D 110BD 110CD E0020-E007F"]
  | .lf => .single '\n'
  | .lower => small
  | .numeric => amended Category.nd.chars ["600-605 66B-66C 6DD 890-891 8E2 19DA 110BD 110CD"] []
  | .oLetter => amended
    (((Binary.alphabetic.chars.diff small).diff capital).diff extending) ["5F3"] []
  | .sContinue => .ofTable
    ["2C-2D 3A-3B 37E 55D 60C-60D 7F8 1802 1808 2013-2014 3001 FE10-FE11 FE13-FE14 FE31-FE32",
     "FE50-FE51 FE54-FE55 FE58 FE63 FF0C-FF0D FF1A-FF1B FF64"]
  | .sep => .ofTable
    ["85 2028-2029"]
  | .sp => amended Binary.whiteSpace.chars [] ["A D 85 2028-2029"]
  | .sTerm => amended Binary.sentenceTerminal.chars [] ["2E 2024 FE52 FF0E"]
  | .upper => capital

/-- The characters of a value by one of its names. -/
def ofName? (name : String) : Option CharSet :=
  (all.find? (·.names.contains name)).map chars

end SentenceBreak

end TreeLint.Unicode
