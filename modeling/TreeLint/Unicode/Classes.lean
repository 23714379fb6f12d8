import TreeLint.Unicode.Binary

/-!
The character classes that words, digits and blanks are told by, over all of Unicode.
-/
namespace TreeLint.Unicode

/-- Blanks and line ends. -/
def spaces : CharSet := Binary.whiteSpace.chars

/-- The decimal digits of every script. -/
def digits : CharSet := Category.nd.chars

/-- Letters, marks, decimal digits, connector punctuation and the two joiners. -/
def words : CharSet :=
  (Binary.alphabetic.chars.union (Category.charsOf [.mn, .mc, .me, .nd, .pc])).union
    Binary.joinControl.chars

def wordIndex : CharSet.Index := words.index

def isSpace (c : Char) : Bool :=
  if c.toNat < 128 then c = ' ' || ('\t' ≤ c && c ≤ '\r') else spaces.contains c

/-- Whether a character is part of a word. -/
def isWord (c : Char) : Bool :=
  if c.toNat < 128 then c.isAlphanum || c = '_' else wordIndex.contains c

/-- A text without the blanks at its two ends. -/
def trim (s : String) : String :=
  String.ofList ((s.toList.dropWhile isSpace).reverse.dropWhile isSpace).reverse

end TreeLint.Unicode
