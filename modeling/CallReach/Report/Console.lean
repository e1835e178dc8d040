import CallReach.Report.Clock
import CallReach.Report.Summary
import CallReach.Text.Case

/-!
# Reports on a terminal

Reports are laid out under a heading, one paragraph each, with a summary at the end.  On a terminal
the parts that matter are coloured: targets that were found in green, others in red.
-/

namespace CallReach.Report

open CallReach.Data (Value)

/-- The inks of a terminal. -/
inductive Ink where
  | green
  | red
  | white
  | cyan
  | bold
  deriving DecidableEq, Repr

/-- The control sequence that starts an ink. -/
def Ink.start : Ink → String
  | .green => "\x1b[32m"
  | .red => "\x1b[31m"
  | .white => "\x1b[37m"
  | .cyan => "\x1b[36m"
  | .bold => "\x1b[1m"

/-- Whether inks are used. -/
inductive Palette where
  | plain
  | colored
  deriving DecidableEq, Repr

/-- The palette when colours are wanted or not, on a terminal or not. -/
def Palette.choose (wanted terminal : Bool) : Palette :=
  if wanted && terminal then .colored else .plain

/-- A text in some inks. -/
def Palette.paint (palette : Palette) (inks : List Ink) (text : String) : String :=
  match palette with
  | .plain => text
  | .colored => String.join (inks.map Ink.start) ++ text ++ "\x1b[0m"

/-- What a page of reports shows. -/
structure ConsoleOptions where
  summary : Bool := true
  /-- The counters of each search. -/
  stats : Bool := false
  /-- The program in the heading, when it is not the one of the first report. -/
  program : Option String := none
  deriving DecidableEq, Repr

/-- The width of a page. -/
def pageWidth : Nat := 80

/-- A line of one character across the page. -/
def rule (c : Char) : String := "".pushn c pageWidth

/-- The program in the heading. -/
def programTitle (options : ConsoleOptions) (reports : List Value) : Except RecordError String :=
  match options.program, reports with
  | some title, _ => .ok title
  | none, [] => .ok "Unknown"
  | none, first :: _ => do pure (← Record.get first "program").plain

/-- The heading of a page. -/
def heading (palette : Palette) (clock : Clock) (program : String) : List String :=
  [palette.paint [.cyan] (rule '='),
    palette.paint [.cyan, .bold] " CALLDIST DISTANCE REPORT",
    palette.paint [.cyan] (" Generated: " ++ clock.readable),
    palette.paint [.cyan] (" Program: " ++ program),
    palette.paint [.cyan] (rule '='),
    ""]

/-- The texts of a list, the characters of a text, the keys of a map. -/
def textItems : Value → Except RecordError (List String)
  | .list items => items.mapM text
  | .text s => .ok (s.toList.map fun c => String.ofList [c])
  | .map entries => entries.mapM fun (k, _) => text k
  | _ => .error .unfit
where
  /-- A value that must be a text. -/
  text : Value → Except RecordError String
    | .text s => .ok s
    | _ => .error .unfit

/-- The line of the initial stack, when there is one. -/
def stackLine (report : Value) : Except RecordError (List String) := do
  if ← Record.holds report "initial_stack" then
    let calls ← textItems (← Record.get report "initial_stack")
    pure ["    Call stack: " ++ " > ".intercalate calls]
  else pure []

/-- The line of the distance, or of the reason why there is none. -/
def distanceLine (palette : Palette) (report : Value) : Except RecordError String := do
  if ← Record.holds report "reachable" then
    let distance ← Record.get report "distance"
    pure ("    Distance: " ++ palette.paint [.green, .bold] distance.plain)
  else
    let reason ← Record.get report "stop_reason"
    pure ("    Distance: " ++ palette.paint [.red, .bold] "UNREACHABLE" ++
      palette.paint [.white] (" (" ++ reason.plain ++ ")"))

/-- The name of a counter for readers: blanks for underscores, and a capital. -/
def counterTitle (key : String) : String :=
  Text.capitalize (key.map fun c => if c == '_' then ' ' else c)

/-- The lines of the counters. -/
def statLines (report : Value) : Except RecordError (List String) := do
  match ← Record.get? report "stats" with
  | none => pure []
  | some (.map entries) =>
    entries.mapM fun (k, v) =>
      match k with
      | .text key => pure ("    " ++ counterTitle key ++ ": " ++ v.plain)
      | _ => throw .notARecord
  | some _ => throw .notARecord

/-- The lines of the report with a number. -/
def paragraph (palette : Palette) (options : ConsoleOptions) (number : Nat) (report : Value) :
    Except RecordError (List String) := do
  let start ← Record.get report "start"
  let target ← Record.get report "target"
  let title := "[" ++ toString number ++ "] " ++ start.plain ++ " -> " ++ target.plain
  let stack ← stackLine report
  let distance ← distanceLine palette report
  let iterations ← Record.get report "iterations"
  let stats ← if options.stats then statLines report else pure []
  pure ([palette.paint [.bold] title] ++ stack ++
    [distance, "    Iterations: " ++ iterations.plain] ++ stats ++ [""])

/-- The lines of the reports, numbered from `number`. -/
def paragraphs (palette : Palette) (options : ConsoleOptions) :
    (number : Nat) → List Value → Except RecordError (List String)
  | _, [] => .ok []
  | number, report :: rest => do
    let lines ← paragraph palette options number report
    pure (lines ++ (← paragraphs palette options (number + 1) rest))

/-- The lines of a summary. -/
def summaryLines (palette : Palette) (s : Summary) : List String :=
  [palette.paint [.cyan, .bold] "SUMMARY", rule '-', "Queries: " ++ toString s.queries,
    "Reachable: " ++ palette.paint [.green] (toString s.reachable) ++ "  Unreachable: " ++
      palette.paint [.red] (toString s.unreachable)] ++
    (match s.minDistance with
    | some .null | none => []
    | some d => ["Minimum distance: " ++ d.plain]) ++
    ["Total iterations: " ++ s.totalIterations.plain]

/-- A page of reports. -/
def page (palette : Palette) (options : ConsoleOptions) (clock : Clock) (reports : List Value) :
    Except RecordError String := do
  let title ← programTitle options reports
  let body ← paragraphs palette options 1 reports
  let summary ← if options.summary then do
    pure (summaryLines palette (← Summary.ofReports reports))
    else pure []
  pure ("\n".intercalate (heading palette clock title ++ body ++ summary))

end CallReach.Report
