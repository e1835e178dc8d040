import CallReach.Text.NormalTable

/-!
# The normal form of names

Two names that are compatible are the same name, so a name is read as its normal form: variants of
characters are expanded, marks are put in the order of their classes, and what can be put together
again is put together.  This is the form NFKC of Unicode 14 on texts of the characters of names.
-/

namespace CallReach.Text

/-- Runs of code points in a row, and what each expands to. -/
def expansions : Array (Nat × Nat × List Nat) :=
  ((records expansionText).filterMap fun
    | first :: count :: expansion => some (first, count, expansion)
    | _ => none).toArray

/-- Runs of marks in a row, and their class. -/
def classes : Array (Nat × Nat × Nat) :=
  ((records classText).filterMap fun
    | [first, count, markClass] => some (first, count, markClass)
    | _ => none).toArray

/-- Two code points, and the one they make. -/
def pairs : Array (Nat × Nat × Nat) :=
  ((records pairText).filterMap fun
    | [first, second, both] => some (first, second, both)
    | _ => none).toArray

/-! ### Syllables of Hangul, which are made of two or three letters by a rule -/

/-- The first syllable. -/
def firstSyllable : Nat := 0xAC00

/-- The first of the 19 leading consonants. -/
def firstLead : Nat := 0x1100

/-- The first of the 21 vowels. -/
def firstVowel : Nat := 0x1161

/-- The code point before the 27 trailing consonants. -/
def beforeTrail : Nat := 0x11A7

/-- The letters of a syllable. -/
def syllable? (n : Nat) : Option (List Nat) :=
  if firstSyllable ≤ n && n < firstSyllable + 19 * 21 * 28 then
    let k := n - firstSyllable
    let trail := k % 28
    some ([firstLead + k / 588, firstVowel + k % 588 / 28] ++
      if trail = 0 then [] else [beforeTrail + trail])
  else none

/-- The syllable that two letters, or a syllable and a letter, make. -/
def syllableOf? (n m : Nat) : Option Nat :=
  if firstLead ≤ n && n < firstLead + 19 && firstVowel ≤ m && m < firstVowel + 21 then
    some (firstSyllable + ((n - firstLead) * 21 + (m - firstVowel)) * 28)
  else if firstSyllable ≤ n && n < firstSyllable + 19 * 21 * 28 && (n - firstSyllable) % 28 == 0 &&
      beforeTrail < m && m < beforeTrail + 28 then
    some (n + (m - beforeTrail))
  else none

/-! ### The normal form -/

/-- What a code point expands to. -/
def expand (n : Nat) : List Nat :=
  match syllable? n with
  | some letters => letters
  | none =>
    match expansions.find? fun (first, count, _) => first ≤ n && n ≤ first + count with
    | some (first, _, expansion) =>
      expansion.dropLast ++ (expansion.getLast?.map (· + (n - first))).toList
    | none => [n]

/-- The class of a mark; other characters are of class zero. -/
def markClass (n : Nat) : Nat :=
  match classes.find? fun (first, count, _) => first ≤ n && n ≤ first + count with
  | some (_, _, c) => c
  | none => 0

/-- Puts a code point before others that are in order: behind the marks of smaller classes at the
front. -/
def insertMark (n : Nat) : List Nat → List Nat
  | [] => [n]
  | m :: rest =>
    if markClass m != 0 && markClass m < markClass n then m :: insertMark n rest else n :: m :: rest

/-- The code points with the marks after each character in the order of their classes. -/
def orderMarks (codes : List Nat) : List Nat := codes.foldr insertMark []

/-- The code point that two make. -/
def together? (n m : Nat) : Option Nat :=
  match syllableOf? n m with
  | some k => some k
  | none => (pairs.find? fun (first, second, _) => first == n && second == m).map fun (_, _, k) => k

/-- Puts code points together: a mark joins the last character before it, unless a mark of a class
that is not smaller stands between them.  `starter` is that character, and `marks` are the marks that
have not joined it, the last one first. -/
def compose (starter : Option Nat) (marks : List Nat) : List Nat → List Nat
  | [] => starter.toList ++ marks.reverse
  | n :: rest =>
    let blocked := marks.head?.any fun m => markClass n ≤ markClass m
    match starter.bind fun s => if blocked then none else together? s n with
    | some both => compose (some both) marks rest
    | none =>
      if markClass n = 0 then starter.toList ++ marks.reverse ++ compose (some n) [] rest
      else compose starter (n :: marks) rest

/-- The normal form of the characters of a name. -/
def normalForm (cs : List Char) : List Char :=
  (compose none [] (orderMarks (cs.flatMap fun c => expand c.toNat))).map Char.ofNat

end CallReach.Text
