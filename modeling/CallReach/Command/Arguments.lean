import CallReach.Command.Help
import CallReach.Text.Integer
import CallReach.Text.Quoted

/-!
# Arguments of the command

A grammar lists the options of a command.  Arguments are sorted first: an argument that starts with a
dash is an option when the grammar knows it, in full or by an unambiguous abbreviation, unless it is a
negative number or holds a blank; after a pair of dashes there are no options.  Then they are taken
from left to right.  Options the grammar does not know, and arguments that no option asks for, are
left unused.

Main definitions:

* `Grammar.sort` — what each argument is.
* `Grammar.take` — the options with their values, and what is left unused.
* `Invocation.parse` — the command that the arguments ask for.
-/

namespace CallReach.Command

/-- Why arguments lead to no command that could be run. -/
inductive Stop where
  /-- A text was asked for. -/
  | shown (text : String)
  /-- The arguments of a program are wrong. -/
  | wrong (program complaint : String) (usage : String)
  deriving DecidableEq, Repr

/-- What an option is for. -/
inductive Purpose where
  /-- It is given or not. -/
  | flag
  /-- It has a value; the last one counts. -/
  | value
  /-- It has a value each time it is given, and all count. -/
  | values
  /-- Its value is an integer. -/
  | integer
  /-- Its value is one of some words. -/
  | choice (words : List String)
  /-- It asks for a text. -/
  | ask (text : String)
  deriving DecidableEq, Repr

/-- An option of a command. -/
structure Switch where
  names : List String
  purpose : Purpose
  required : Bool := false
  deriving DecidableEq, Repr

namespace Switch

/-- The names of an option in messages. -/
def title (s : Switch) : String := "/".intercalate s.names

/-- Whether an option has a value. -/
def hasValue (s : Switch) : Bool :=
  match s.purpose with
  | .flag | .ask _ => false
  | _ => true

end Switch

/-- The options of a command. -/
structure Grammar where
  program : String
  switches : List Switch
  usage : String

/-- What an argument is. -/
inductive Mark where
  | plain
  /-- The pair of dashes after which there are no options. -/
  | dashes
  /-- An option, by the name it was recognised as, and what follows the name in the same argument,
  behind an equals sign or not. -/
  | option (switch : Switch) (name : String) (attached : Option (Bool × String))
  /-- An option that the grammar does not know. -/
  | unknown
  deriving DecidableEq, Repr

/-- An option that was given, with its value. -/
abbrev Given := String × String

/-- An option without a value was given. -/
def Switch.give (s : Switch) : Except Stop Given :=
  match s.purpose with
  | .ask text => .error (.shown text)
  | _ => .ok (s.title, "")

namespace Grammar

variable (g : Grammar)

/-- The arguments are wrong. -/
def complain {α : Type} (text : String) : Except Stop α :=
  .error (.wrong g.program text g.usage)

/-- An option was given wrongly. -/
def complainOf {α : Type} (s : Switch) (text : String) : Except Stop α :=
  g.complain ("argument " ++ s.title ++ ": " ++ text)

/-- All names with their options, in order. -/
def named : List (String × Switch) :=
  g.switches.flatMap fun s => s.names.map fun name => (name, s)

/-- The option of a name. -/
def switch? (name : String) : Option Switch := (g.named.find? (·.1 == name)).map (·.2)

/-- A text up to its first equals sign, and what follows the sign. -/
def cutAtEquals (arg : String) : String × Option String :=
  let cs := arg.toList
  let name := String.ofList (cs.takeWhile (· != '='))
  match cs.dropWhile (· != '=') with
  | [] => (name, none)
  | _ :: rest => (name, some (String.ofList rest))

/-- Whether an argument is a negative number, whole or with a point. -/
def isNegativeNumber (arg : String) : Bool :=
  let isDigit (c : Char) := (Text.digit? c).isSome
  match arg.toList with
  | '-' :: rest =>
    let rest := if rest.getLast? == some '\n' then rest.dropLast else rest
    let after := rest.dropWhile isDigit
    match after with
    | [] => !rest.isEmpty
    | '.' :: places => !places.isEmpty && places.all isDigit
    | _ => false
  | _ => false

/-- The options that an argument may abbreviate.  One that starts with two dashes abbreviates every
name that starts with it; one that starts with a single dash may be a name of one letter with
something attached. -/
def candidates (arg : String) : List Mark :=
  match arg.toList with
  | '-' :: '-' :: _ =>
    let (start, value) := cutAtEquals arg
    (g.named.filter fun (name, _) => start.toList.isPrefixOf name.toList).map fun (name, s) =>
      .option s name (value.map fun v => (true, v))
  | cs =>
    (g.named.filter fun (name, _) => name.toList == cs.take 2).map fun (name, s) =>
      .option s name (some (false, String.ofList (cs.drop 2)))

/-- The name that an option was recognised as. -/
def markName : Mark → String
  | .option _ name _ => name
  | _ => ""

/-- What an argument before any pair of dashes is. -/
def mark (arg : String) : Except Stop Mark :=
  match arg.toList with
  | '-' :: rest =>
    match g.switch? arg with
    | some s => .ok (.option s arg none)
    | none =>
      if rest.isEmpty then .ok .plain
      else
        let (name, value) := cutAtEquals arg
        match value, g.switch? name with
        | some v, some s => .ok (.option s name (some (true, v)))
        | _, _ =>
          match g.candidates arg with
          | [m] => .ok m
          | [] => .ok (if isNegativeNumber arg || rest.contains ' ' then .plain else .unknown)
          | ms => g.complain ("ambiguous option: " ++ arg ++ " could match " ++
              ", ".intercalate (ms.map markName))
  | _ => .ok .plain

/-- What the arguments are. -/
def sort : List String → Except Stop (List (String × Mark))
  | [] => .ok []
  | arg :: rest =>
    if arg == "--" then .ok ((arg, .dashes) :: rest.map fun a => (a, .plain))
    else do
      let m ← g.mark arg
      pure ((arg, m) :: (← sort rest))

/-- Checks the value of an option. -/
def checkValue (s : Switch) (value : String) : Except Stop Given :=
  let given : Given := (s.title, value)
  match s.purpose with
  | .integer =>
    match Text.integer? value with
    | some _ => .ok given
    | none => g.complainOf s ("invalid int value: " ++ Text.quoted value)
  | .choice words =>
    if words.contains value then .ok given
    else g.complainOf s ("invalid choice: " ++ Text.quoted value ++ " (choose from " ++
      ", ".intercalate (words.map Text.quoted) ++ ")")
  | _ => .ok given

/-- An option without a value has something attached to it.  A name of one letter may have more
letters attached that are such names themselves. -/
def giveLetters (s : Switch) : (sign : Bool) → (attached : List Char) → Except Stop Given
  | _, [] => g.complainOf s ("ignored explicit argument " ++ Text.quoted "")
  | sign, c :: rest =>
    if sign || c == '-' then
      g.complainOf s ("ignored explicit argument " ++ Text.quoted (String.ofList (c :: rest)))
    else if s.names.contains (String.ofList ['-', c]) then
      match rest with
      | [] => s.give
      | '=' :: rest => giveLetters s true rest
      | c :: rest => giveLetters s false (c :: rest)
    else s.give

/-- An option with what is attached to it. -/
def giveAttached (s : Switch) (name : String) (sign : Bool) (value : String) : Except Stop Given :=
  if s.hasValue then g.checkValue s value
  else if name.startsWith "--" then
    g.complainOf s ("ignored explicit argument " ++ Text.quoted value)
  else g.giveLetters s sign value.toList

/-- The options with their values, and the arguments that are left unused, in order. -/
def take : List (String × Mark) → Except Stop (List Given × List String)
  | [] => .ok ([], [])
  | (_, .option s name (some (sign, value))) :: rest => do
    let given ← g.giveAttached s name sign value
    let (more, unused) ← take rest
    pure (given :: more, unused)
  | (_, .option s _ none) :: rest =>
    if s.hasValue then
      match rest with
      | (value, .plain) :: rest => do
        let given ← g.checkValue s value
        let (more, unused) ← take rest
        pure (given :: more, unused)
      | _ => g.complainOf s "expected one argument"
    else do
      let given ← s.give
      let (more, unused) ← take rest
      pure (given :: more, unused)
  | (arg, _) :: rest => do
    let (more, unused) ← take rest
    pure (more, arg :: unused)

/-- The options that are required and were not given. -/
def absent (given : List Given) : List String :=
  (g.switches.filter fun s => s.required && !given.any (·.1 == s.title)).map Switch.title

/-- The options given by arguments, and the arguments that are left unused. -/
def parse (args : List String) : Except Stop (List Given × List String) := do
  let (given, unused) ← g.take (← g.sort args)
  match g.absent given with
  | [] => pure (given, unused)
  | names => g.complain ("the following arguments are required: " ++ ", ".intercalate names)

end Grammar

/-! ### The grammars -/

/-- The name of the command. -/
def programName : String := "calldist"

/-- The version of the command. -/
def versionText : String := programName ++ " 0.1.0\n"

/-- The option that asks for a page of help. -/
def helpSwitch (page : List String) : Switch :=
  { names := ["-h", "--help"], purpose := .ask (textOfLines page) }

/-- The options of the command itself. -/
def mainGrammar : Grammar where
  program := programName
  switches := [helpSwitch mainHelpLines, { names := ["--version"], purpose := .ask versionText }]
  usage := usage mainHelpLines

/-- An option with one name. -/
def switch (name : String) (purpose : Purpose) (required : Bool := false) : Switch :=
  { names := [name], purpose, required }

/-- The options that both commands have. -/
def commonSwitches : List Switch :=
  [switch "--program" .value true, switch "--debug" .flag, switch "--verbose" .flag,
    switch "--log-file" .value, switch "--no-color" .flag]

/-- The options of the command that measures distances. -/
def distanceGrammar : Grammar where
  program := programName ++ " distance"
  switches := helpSwitch distanceHelpLines :: commonSwitches ++
    [switch "--start" .values true, switch "--target" .value true, switch "--stack" .values,
      switch "--config" .value, switch "--max-distance" .integer,
      switch "--max-iterations" .integer, switch "--max-queue-length" .integer,
      switch "--format" (.choice ["console", "json"]), switch "--output" .value,
      switch "--pretty" .flag]
  usage := usage distanceHelpLines

/-- The options of the command that lists positions. -/
def listGrammar : Grammar where
  program := programName ++ " list"
  switches := helpSwitch listHelpLines :: commonSwitches
  usage := usage listHelpLines

/-! ### Invocations -/

/-- What both commands are told. -/
structure Common where
  program : String
  debug : Bool := false
  verbose : Bool := false
  logFile : Option String := none
  noColor : Bool := false
  deriving DecidableEq, Repr

/-- What the command that measures distances is told. -/
structure DistanceArguments where
  common : Common
  starts : List String
  target : String
  calls : List String := []
  config : Option String := none
  maxDistance : Option Int := none
  maxIterations : Option Int := none
  maxQueueLength : Option Int := none
  json : Bool := false
  output : Option String := none
  pretty : Bool := false
  deriving DecidableEq, Repr

/-- A command with its arguments. -/
inductive Invocation where
  /-- No command: the help is shown. -/
  | help
  | distance (arguments : DistanceArguments)
  | list (arguments : Common)
  deriving DecidableEq, Repr

/-- The files that a command may read or write. -/
def Invocation.files : Invocation → List String
  | .help => []
  | .distance a =>
    [a.common.program] ++ a.common.logFile.toList ++ a.config.toList ++ a.output.toList
  | .list a => [a.program] ++ a.logFile.toList

namespace Given

/-- The values that an option was given. -/
def all (given : List Given) (name : String) : List String :=
  (given.filter (·.1 == name)).map (·.2)

/-- The last value that an option was given. -/
def last? (given : List Given) (name : String) : Option String := (all given name).getLast?

/-- Whether an option was given. -/
def has (given : List Given) (name : String) : Bool := given.any (·.1 == name)

/-- The last integer that an option was given. -/
def integer? (given : List Given) (name : String) : Option Int :=
  (last? given name).bind Text.integer?

/-- What both commands are told. -/
def common (given : List Given) : Common where
  program := (last? given "--program").getD ""
  debug := has given "--debug"
  verbose := has given "--verbose"
  logFile := last? given "--log-file"
  noColor := has given "--no-color"

/-- What the command that measures distances is told. -/
def distance (given : List Given) : DistanceArguments where
  common := common given
  starts := all given "--start"
  target := (last? given "--target").getD ""
  calls := all given "--stack"
  config := last? given "--config"
  maxDistance := integer? given "--max-distance"
  maxIterations := integer? given "--max-iterations"
  maxQueueLength := integer? given "--max-queue-length"
  json := last? given "--format" == some "json"
  output := last? given "--output"
  pretty := has given "--pretty"

end Given

namespace Invocation

/-- The commands by name: their grammars, and what their options ask for. -/
def commands : List (String × Grammar × (List Given → Invocation)) :=
  [("distance", distanceGrammar, fun given => .distance (Given.distance given)),
    ("list", listGrammar, fun given => .list (Given.common given))]

/-- The command of a name with its arguments, and the arguments that are left unused. -/
def ofCommand (name : String) (args : List String) : Except Stop (Invocation × List String) :=
  match commands.find? (·.1 == name) with
  | none => mainGrammar.complain ("argument command: invalid choice: " ++ Text.quoted name ++
      " (choose from " ++ ", ".intercalate (commands.map fun c => Text.quoted c.1) ++ ")")
  | some (_, grammar, make) => do
    let (given, unused) ← grammar.parse args
    pure (make given, unused)

/-- Takes the arguments before the name of a command, which is the first plain one; all after it are
arguments of that command. -/
def takeMain : List (String × Mark) → Except Stop (Invocation × List String)
  | [] => .ok (.help, [])
  | (arg, .plain) :: rest => ofCommand arg (rest.map (·.1))
  | (arg, .dashes) :: rest =>
    match rest with
    | [] => .ok (.help, [arg])
    | rest => ofCommand arg (rest.map (·.1))
  | (_, .option s name (some (sign, value))) :: rest => do
    let _ ← mainGrammar.giveAttached s name sign value
    takeMain rest
  | (_, .option s _ none) :: rest => do
    let _ ← s.give
    takeMain rest
  | (arg, .unknown) :: rest => do
    let (invocation, unused) ← takeMain rest
    pure (invocation, arg :: unused)

/-- The command that arguments ask for. -/
def parse (args : List String) : Except Stop Invocation := do
  match ← takeMain (← mainGrammar.sort args) with
  | (invocation, []) => pure invocation
  | (_, unused) => mainGrammar.complain ("unrecognized arguments: " ++ " ".intercalate unused)

end Invocation

end CallReach.Command
