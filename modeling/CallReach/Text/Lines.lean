/-!
# Lines of text

A text is shown by its first line, which ends at the first character of any script that ends lines.
-/

namespace CallReach.Text

/-- Whether a character ends a line. -/
def isLineEnd (c : Char) : Bool :=
  (0x0A ≤ c.toNat && c.toNat ≤ 0x0D) || (0x1C ≤ c.toNat && c.toNat ≤ 0x1E) || c.toNat == 0x85 ||
    c.toNat == 0x2028 || c.toNat == 0x2029

/-- The first line of a text. -/
def firstLine (s : String) : String := String.ofList (s.toList.takeWhile (!isLineEnd ·))

end CallReach.Text
