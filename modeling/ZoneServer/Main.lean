import ZoneServer.CommandLine
import ZoneServer.Server.Reply
import ZoneServer.Settings.File

/-!
# The server as a program

The program reads its configuration, makes its zone and answers datagrams. Datagrams come on standard
input and replies go to standard output, one a line, in hexadecimal digits; a datagram that is not
answered gets an empty line.
-/

namespace ZoneServer.Program

/-- The octets that pairs of hexadecimal digits spell. -/
def octetsOf : List Char → Octets
  | high :: low :: rest => UInt8.ofNat (Text.hexValue [high, low]) :: octetsOf rest
  | _ => []

/-- The hexadecimal digits of octets. -/
def digitsOf (os : Octets) : String :=
  String.ofList (os.flatMap fun o => [Nat.digitChar (o.toNat / 16), Nat.digitChar (o.toNat % 16)])

/-- What there is of the files that could be the configuration at a path. -/
def directoryFor (path : String) : IO Directory := do
  let mut files := []
  for candidate in [path, path ++ ".toml"] do
    try
      let contents ← IO.FS.readFile candidate
      files := files ++ ((Directory.namesOf candidate).toList.map fun names => (names, contents))
    catch _ => pure ()
  return ⟨files⟩

/-- Answers one line after another. -/
partial def answerLines (handler : Handler) (policy : OversizePolicy) (input output : IO.FS.Stream) :
    IO Unit := do
  let line ← input.getLine
  if line.isEmpty then return
  let datagram := octetsOf (line.toList.filter Text.isHexDigit)
  output.putStrLn (((reply handler policy datagram).map digitsOf).getD "")
  output.flush
  answerLines handler policy input output

/-- Serves with the configuration at a path. -/
def serveFile (path : String) : IO UInt32 := do
  match Configuration.load (← directoryFor path) path with
  | .error cause =>
    IO.eprintln cause.message
    return 1
  | .ok configuration =>
    match Zone.ofEntries configuration.entries with
    | .error fault =>
      IO.eprintln fault.message
      return 1
    | .ok zone =>
      answerLines zone.respond configuration.server.oversize (← IO.getStdin) (← IO.getStdout)
      return 0

end ZoneServer.Program

/-- Does what the command line asks for. -/
def main (arguments : List String) : IO UInt32 := do
  match ZoneServer.CommandLine.parse arguments with
  | .serve path => ZoneServer.Program.serveFile path
  | .help =>
    IO.println "Usage: [--config <path>]"
    return 0
  | .usageError =>
    IO.eprintln "Run with --help for more information."
    return 1
