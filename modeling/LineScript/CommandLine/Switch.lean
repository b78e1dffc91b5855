/-! # Switches

The switches of the command line, their names, and which of them each command takes.
-/

namespace LineScript.CommandLine

inductive Switch where
  | help
  | verbose
  | config
  | debug
  | noTrace
  | pressButtons
  | json
  deriving DecidableEq, Repr

namespace Switch

def names : Switch → List String
  | help => ["-h", "--help"]
  | verbose => ["-v", "--verbose"]
  | config => ["-c", "--config"]
  | debug => ["-d", "--debug"]
  | noTrace => ["--no-trace"]
  | pressButtons => ["--press-buttons"]
  | json => ["--json"]

def takesValue : Switch → Bool
  | config => true
  | _ => false

def title (s : Switch) : String :=
  "/".intercalate s.names

end Switch

inductive Command where
  | run
  | check
  | functions
  deriving DecidableEq, Repr

namespace Command

def all : List Command :=
  [run, check, functions]

def name : Command → String
  | run => "run"
  | check => "check"
  | functions => "functions"

def ofName? (name : String) : Option Command :=
  all.find? (·.name = name)

end Command

/-- What a usage text is about: the program, or one of its commands. -/
inductive Topic where
  | program
  | command (c : Command)
  deriving DecidableEq, Repr

namespace Topic

/-- The switches of a topic, in the order in which they are looked through. -/
def switches : Topic → List Switch
  | program => [.help, .verbose]
  | command .run => [.help, .config, .debug, .noTrace, .pressButtons]
  | command .check => [.help, .json]
  | command .functions => [.help]

def name : Topic → String
  | program => "python -m jlang"
  | command c => "python -m jlang " ++ c.name

def usage : Topic → List String
  | program => ["usage: python -m jlang [-h] [-v] \x7brun,check,functions\x7d ..."]
  | command .run =>
    ["usage: python -m jlang run [-h] [-c FILE] [-d] [--no-trace] [--press-buttons]",
     "                           file"]
  | command .check => ["usage: python -m jlang check [-h] [--json] file"]
  | command .functions => ["usage: python -m jlang functions [-h] file"]

def details : Topic → List String
  | program =>
    ["JLang script interpreter",
     "",
     "positional arguments:",
     "  \x7brun,check,functions\x7d",
     "    run                 Run a JLang script",
     "    check               Check a script without running it",
     "    functions           List functions in a script",
     "",
     "options:",
     "  -h, --help            show this help message and exit",
     "  -v, --verbose         Enable developer logging on stderr"]
  | command .run =>
    ["positional arguments:",
     "  file                  Script file (.jlsh)",
     "",
     "options:",
     "  -h, --help            show this help message and exit",
     "  -c FILE, --config FILE",
     "                        YAML configuration file",
     "  -d, --debug           Show the debug log on stderr",
     "  --no-trace            Do not trace executed statements",
     "  --press-buttons       Press every window button after the run"]
  | command .check =>
    ["positional arguments:",
     "  file        Script file (.jlsh)",
     "",
     "options:",
     "  -h, --help  show this help message and exit",
     "  --json      Print diagnostics as JSON"]
  | command .functions =>
    ["positional arguments:",
     "  file        Script file (.jlsh)",
     "",
     "options:",
     "  -h, --help  show this help message and exit"]

def help (topic : Topic) : List String :=
  topic.usage ++ "" :: topic.details

end Topic

end LineScript.CommandLine
