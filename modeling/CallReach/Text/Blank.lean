/-!
# Blank characters and words

`isBlank` is the class of characters that separate words: the white space of every script and the
four ASCII information separators.  `words` cuts a text at runs of blanks, `trim` removes the blanks
at both ends.
-/

namespace CallReach.Text

/-- White space of any script, and the information separators U+001C to U+001F. -/
def isBlank (c : Char) : Bool :=
  let n := c.toNat
  (0x09 ≤ n && n ≤ 0x0D) || (0x1C ≤ n && n ≤ 0x20) || n == 0x85 || n == 0xA0 || n == 0x1680 ||
    (0x2000 ≤ n && n ≤ 0x200A) || n == 0x2028 || n == 0x2029 || n == 0x202F || n == 0x205F ||
    n == 0x3000

/-- The words of a list of characters, where `word` is the part of a word read so far, backwards. -/
def wordsFrom : (word rest : List Char) → List (List Char)
  | [], [] => []
  | word, [] => [word.reverse]
  | word, c :: rest =>
    if isBlank c then
      if word.isEmpty then wordsFrom [] rest else word.reverse :: wordsFrom [] rest
    else wordsFrom (c :: word) rest

/-- The maximal runs of characters that are not blank, in order. -/
def words (s : String) : List String :=
  (wordsFrom [] s.toList).map String.ofList

/-- The characters without those of a class at both ends. -/
def trimBy (edge : Char → Bool) (cs : List Char) : List Char :=
  ((cs.dropWhile edge).reverse.dropWhile edge).reverse

/-- The characters without the blanks at both ends. -/
def trimChars (cs : List Char) : List Char := trimBy isBlank cs

/-- The text without the blanks at both ends. -/
def trim (s : String) : String :=
  String.ofList (trimChars s.toList)

end CallReach.Text
