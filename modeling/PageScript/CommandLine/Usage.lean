import PageScript.CommandLine.Arguments

/-!
# Help with command lines

What the program says about its command line, when it is asked for help or cannot make sense of it.
-/

namespace PageScript

namespace CommandLine

/-- How the program is called. -/
def usage : String := "Usage: pagescript [OPTIONS] <FILES>...\n"

/-- What an option does. -/
def Key.purpose : Key → String
  | .choice .baseUrl => "Base URL prefixed to relative `goto` paths"
  | .choice .timeout => "Default wait timeout in seconds [default: 30]"
  | .choice .defaultOffset => "Offset (px) used when scrolling elements into view [default: 0]"
  | .choice .workers => "Run scripts in parallel worker processes [default: 1]"
  | .switch .errors => "Abort a script on its first failing command"
  | .switch .headless => "Run in headless mode"
  | .switch .scrollToElement => "Scroll elements into view before interacting with them"
  | .switch .focus => "Bring the browser window to the front after launch"
  | .switch .demo => "Demo mode: cursor and keystroke overlays, typed input, random pauses"
  | .switch .strict => "Treat unknown commands and unresolved expressions as errors"
  | .switch .check => "Validate scripts without running"
  | .switch .quiet => "Quiet mode (only errors)"
  | .verbose => "Verbose output (-v for info and command echo, -vv for debug)"
  | .help => "Print help"
  | .version => "Print version"

/-- The help text. -/
def help : String :=
  "Run YAML/JSON browser automation scripts\n\n" ++ usage ++ "\nOptions:\n"
    ++ Text.join "" (Key.all.map fun k => "  --" ++ k.name ++ "  " ++ k.purpose ++ "\n")

/-- What is wrong with a command line. -/
def Fault.message : Fault → String
  | .noFiles => "the following required arguments were not provided: <FILES>..."
  | .unknownOption text => "unexpected argument '" ++ text ++ "' found"
  | .unfitValue option value => "invalid value '" ++ value ++ "' for '--" ++ option ++ "'"
  | .missingValue => "a value is required but none was supplied"
  | .repeated option => "the argument '--" ++ option ++ "' cannot be used multiple times"
  | .unexpectedValue option => "unexpected value for '--" ++ option ++ "' found; no more were expected"
  | .help => "help"
  | .version => "version"

end CommandLine

end PageScript
