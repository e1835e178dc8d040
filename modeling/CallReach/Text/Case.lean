import CallReach.Text.CaseTable

/-!
# Lower case and capitals

`lower` maps every character of a text to lower case, in the way that depends on the context for
one letter only: a capital sigma becomes a final sigma at the end of a word.  `capitalize` puts the
first character in title case and the others in lower case.
-/

namespace CallReach.Text

/-- The image of a code point under the first run that lists it. -/
def CaseRuns.shift? (runs : CaseRuns) (n : Nat) : Option Nat :=
  (runs.find? fun (first, last, stride, _) =>
    first ≤ n && n ≤ last && (n - first) % stride == 0).map
      fun (_, _, _, shift) => ((n : Int) + shift).toNat

/-- The characters a character is mapped to by a table of runs and a table of special cases. -/
def mapCase (runs : CaseRuns) (special : Array (Nat × List Nat)) (c : Char) : List Char :=
  match special.find? (·.1 == c.toNat) with
  | some (_, image) => image.map Char.ofNat
  | none => [((runs.shift? c.toNat).map Char.ofNat).getD c]

/-- The lower case of a character out of context. -/
def lowerChar (c : Char) : List Char :=
  if c.toNat < 0x80 then [c.toLower] else mapCase lowerRuns lowerSpecial c

/-- The title case of a character. -/
def titleChar (c : Char) : List Char :=
  if c.toNat < 0x80 then [c.toUpper] else mapCase titleRuns titleSpecial c

/-- Whether the nearest character that is not ignored for case is a letter with a case. -/
def nextIsCased : List Char → Bool
  | [] => false
  | c :: rest =>
    if caseIgnorable.contains c.toNat then nextIsCased rest else casedRanges.contains c.toNat

/-- Lower case of the characters after `before` (given backwards).  A capital sigma that follows a
cased letter and precedes none is written as a final sigma. -/
def lowerFrom (before : List Char) : List Char → List Char
  | [] => []
  | c :: rest =>
    (if c.toNat == 0x3A3 then
      if nextIsCased before && !nextIsCased rest then [Char.ofNat 0x3C2] else [Char.ofNat 0x3C3]
    else lowerChar c) ++ lowerFrom (c :: before) rest

/-- The text in lower case. -/
def lower (s : String) : String :=
  String.ofList (lowerFrom [] s.toList)

/-- The text with its first character in title case and the others in lower case. -/
def capitalize (s : String) : String :=
  match s.toList with
  | [] => ""
  | c :: rest => String.ofList (titleChar c ++ lowerFrom [c] rest)

end CallReach.Text
