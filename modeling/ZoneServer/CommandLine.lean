/-!
# The command line

The server takes one option, the path of its configuration file. Whatever follows the option is its
value. Help is given if it is asked for, and then nothing else may follow. Two hyphens alone end the
options, after which there must be nothing; anything else on the command line is an error.
-/

namespace ZoneServer

/-- What a command line asks for. -/
inductive CommandLine where
  /-- Serve with the configuration at a path. -/
  | serve (configuration : String)
  /-- Explain the command line. -/
  | help
  /-- Nothing that there is. -/
  | usageError
  deriving DecidableEq, Repr, Inhabited

namespace CommandLine

/-- The path of the configuration if none is given. -/
def defaultConfiguration : String := "./nameserver.toml"

/-- What the rest of a command line asks for, once help has been asked for. -/
def parseAfterHelp : List String → CommandLine
  | [] => .help
  | ["--"] => .help
  | "--help" :: rest => parseAfterHelp rest
  | "help" :: rest => parseAfterHelp rest
  | _ => .usageError

/-- What the rest of a command line asks for, if a path has been given or not. -/
def parseFrom (given : Option String) : List String → CommandLine
  | [] => .serve (given.getD defaultConfiguration)
  | ["--"] => .serve (given.getD defaultConfiguration)
  | "--help" :: rest => parseAfterHelp rest
  | "help" :: rest => parseAfterHelp rest
  | "--config" :: path :: rest =>
    if given.isSome then .usageError else parseFrom (some path) rest
  | _ => .usageError

/-- What a command line asks for. -/
def parse (arguments : List String) : CommandLine := parseFrom none arguments

end CommandLine

end ZoneServer
