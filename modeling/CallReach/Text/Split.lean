/-!
# Parts between separators

`splitChars` cuts a list of characters at every occurrence of a separator, so there is one part more
than there are separators and a part may be empty.
-/

namespace CallReach.Text

/-- The parts of a list of characters between the occurrences of a separator. -/
def splitChars (separator : Char) : List Char → List (List Char)
  | [] => [[]]
  | c :: rest =>
    if c == separator then [] :: splitChars separator rest
    else
      match splitChars separator rest with
      | part :: parts => (c :: part) :: parts
      | [] => [[c]]

/-- The parts of a text between the occurrences of a separator. -/
def split (separator : Char) (s : String) : List String :=
  (splitChars separator s.toList).map String.ofList

end CallReach.Text
