/-!
# What source text is read on

Two things about source text are not in it: which characters have which names, so that an escape can
name one, and whether the stack of the machine is deep enough for the nesting of the text.  Both are
left open; a plain host knows no names and has no end to its stack.
-/

namespace CallReach.Source

/-- How a stack comes to its end: by too many calls, or by too many levels of the grammar. -/
inductive Overflow where
  | calls
  | grammar
  deriving DecidableEq, Repr

/-- A machine that reads source text. -/
structure Host where
  /-- The code point of the character of a name. -/
  characterNamed : String → Option Nat := fun _ => none
  /-- How a text is too deep for the stack, if it is. -/
  overflow? : String → Option Overflow := fun _ => none

end CallReach.Source
