import EntityChat.CommandLine.Command

/-!
What the program says about itself and about each of its commands.
-/

namespace EntityChat.CommandLine

def versionText : String := "querylang 0.1.0\n"

def optionLines : List String :=
  ["Options:",
   "      --output <OUTPUT>  Output format (text or json) [default: text] [possible values: text, json]",
   "      --quiet            Suppress non-essential output",
   "  -v, --verbose...       Increase log verbosity (-v info, -vv debug, -vvv trace)",
   "  -h, --help             Print help"]

def Command.about : Command → String
  | .entity => "Parse a `create entity` statement"
  | .chat => "Parse a chat transcript (`name says \"text\"` lines)"
  | .tokens => "Print the token stream of a source file"
  | .fmt => "Print an entity statement in canonical form"

def helpAbout : String := "Print this message or the help of the given subcommand(s)"

def commandEntry (name about : String) : String :=
  "  " ++ name ++ String.ofList (List.replicate (8 - name.length) ' ') ++ about

def programLines : List String :=
  ["Querylang schema and chat parser", "", "Usage: querylang [OPTIONS] <COMMAND>", "", "Commands:"] ++
  (Command.all.map fun c => commandEntry c.name c.about) ++
  [commandEntry "help" helpAbout, ""] ++ optionLines ++ ["  -V, --version          Print version"]

def commandLines (c : Command) : List String :=
  [c.about, "", "Usage: querylang " ++ c.name ++ " [OPTIONS] <FILE>", "", "Arguments:",
   "  <FILE>  Path to the source file, or `-` for stdin", ""] ++ optionLines

def helpLines : List String :=
  [helpAbout, "", "Usage: querylang help [COMMAND]...", "", "Arguments:",
   "  [COMMAND]...  Print help for the subcommand(s)"]

inductive Topic
  | program
  | command (c : Command)
  | help
deriving DecidableEq

def Topic.text (t : Topic) : String :=
  let ls := match t with
    | program => programLines
    | command c => commandLines c
    | help => helpLines
  String.join (ls.map (· ++ "\n"))

end EntityChat.CommandLine
