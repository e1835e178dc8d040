/-!
# Help

The pages that the command shows when it is asked for help.  A page starts with the usage, which is
also shown when the arguments are wrong.
-/

namespace CallReach.Command

/-- Lines as one text. -/
def textOfLines (lines : List String) : String :=
  String.join (lines.map (· ++ "\n"))

/-- What the command is for. -/
def mainHelpLines : List String := [
  "usage: calldist [-h] [--version] \x7bdistance,list\x7d ...",
  "",
  "calldist - call-stack-sensitive instruction distance analysis",
  "",
  "positional arguments:",
  "  \x7bdistance,list\x7d  Commands",
  "    distance       Measure the distance from start position(s) to a target",
  "    list           List every position reference of a program",
  "",
  "options:",
  "  -h, --help       show this help message and exit",
  "  --version        show program's version number and exit"]

/-- How distances are measured. -/
def distanceHelpLines : List String := [
  "usage: calldist distance [-h] --program PROGRAM [--debug] [--verbose]",
  "                         [--log-file LOG_FILE] [--no-color] --start START",
  "                         --target TARGET [--stack STACK] [--config CONFIG]",
  "                         [--max-distance MAX_DISTANCE]",
  "                         [--max-iterations MAX_ITERATIONS]",
  "                         [--max-queue-length MAX_QUEUE_LENGTH]",
  "                         [--format \x7bconsole,json\x7d] [--output OUTPUT]",
  "                         [--pretty]",
  "",
  "options:",
  "  -h, --help            show this help message and exit",
  "  --program PROGRAM     Program to analyze (YAML/JSON description or Python",
  "                        source file)",
  "  --debug               Enable debug output",
  "  --verbose             Enable verbose output",
  "  --log-file LOG_FILE   Path to log file for debug and analysis output",
  "  --no-color            Disable colored console output",
  "  --start START         Start position reference (repeatable), e.g.",
  "                        main:entry:0 or main@12",
  "  --target TARGET       Target position reference",
  "  --stack STACK         Call position already active at the start, outermost",
  "                        first (repeatable)",
  "  --config CONFIG       Path to configuration file (JSON or YAML)",
  "  --max-distance MAX_DISTANCE",
  "                        Override max_distance",
  "  --max-iterations MAX_ITERATIONS",
  "                        Override max_iterations",
  "  --max-queue-length MAX_QUEUE_LENGTH",
  "                        Override max_queue_length",
  "  --format \x7bconsole,json\x7d",
  "                        Output format (default: console)",
  "  --output OUTPUT       Path to output file",
  "  --pretty              Pretty-print JSON output"]

/-- How positions are listed. -/
def listHelpLines : List String := [
  "usage: calldist list [-h] --program PROGRAM [--debug] [--verbose]",
  "                     [--log-file LOG_FILE] [--no-color]",
  "",
  "options:",
  "  -h, --help           show this help message and exit",
  "  --program PROGRAM    Program to analyze (YAML/JSON description or Python",
  "                       source file)",
  "  --debug              Enable debug output",
  "  --verbose            Enable verbose output",
  "  --log-file LOG_FILE  Path to log file for debug and analysis output",
  "  --no-color           Disable colored console output"]

/-- The usage at the start of a page: the lines up to the first empty one. -/
def usage (lines : List String) : String :=
  textOfLines (lines.takeWhile (· != ""))

end CallReach.Command
