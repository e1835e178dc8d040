import CallReach.Program.Basic
import CallReach.Report.Console

/-!
# Listings of positions

Every position of a program with its reference, kind, text and line, under the name of its function.
-/

namespace CallReach

open CallReach.Data (Value)
open CallReach.Report (Palette)

namespace Program

/-- A position as plain data. -/
def positionValue (p : Position) (i : Instruction) : Value :=
  .record [("ref", .text p.ref), ("function", .text p.function), ("block", .text p.block),
    ("index", .nat p.index), ("kind", .text i.kind.name), ("line", .int i.line),
    ("text", .text i.text)]

/-- The positions of a program as plain data, in function and block order. -/
def listing (M : Program) : List Value :=
  M.positions.map fun (p, i) => positionValue p i

end Program

namespace Report

/-- The least width of a reference in a listing. -/
def referenceWidth : Nat := 40

/-- A text filled up with blanks to a width. -/
def padRight (width : Nat) (s : String) : String := s.pushn ' ' (width - s.length)

/-- The line of a position. -/
def positionLine (palette : Palette) (position : Value) : Except RecordError String := do
  let line ← Record.get position "line"
  let ref ← Record.get position "ref"
  let kind ← Record.get position "kind"
  let text ← Record.get position "text"
  let suffix := if line.truthy then " (line " ++ line.plain ++ ")" else ""
  pure ("  " ++ padRight referenceWidth ref.plain ++ " " ++ palette.paint [.white] kind.plain ++
    "  " ++ text.plain ++ suffix)

/-- The lines of positions, `current` being the function of the position before.  The name of a
function stands above its positions, after an empty line when it is not the first line. -/
def positionLines (palette : Palette) (current : Value) (first : Bool) :
    List Value → Except RecordError (List String)
  | [] => .ok []
  | position :: rest => do
    let function ← Record.get position "function"
    let title := if function.sameKey current then []
      else (if first then [] else [""]) ++ [palette.paint [.cyan, .bold] function.plain]
    let line ← positionLine palette position
    pure (title ++ [line] ++ (← positionLines palette function false rest))

/-- A listing of positions. -/
def positionPage (palette : Palette) (positions : List Value) : Except RecordError String := do
  pure ("\n".intercalate (← positionLines palette .null true positions))

end Report

end CallReach
