import EntityChat.CommandLine.Help

/-!
Reading the arguments, from left to right. Settings may stand before the command and after it; the
ones after it win. A request for help or for the version is answered when it is met, and a value in
an argument of its own is only looked at when the next argument is taken up, so that of two faults
the one met first decides.
-/

namespace EntityChat.CommandLine

inductive Halt
  | misuse
  | version
  | help (t : Topic)
deriving DecidableEq

inductive Spelling
  | escape
  | long (name : String) (value : Option String)
  | short (letters : List Char)
  | plain
deriving DecidableEq

def Spelling.ofChars : List Char → Spelling
  | ['-', '-'] => escape
  | '-' :: '-' :: cs =>
    long (String.ofList (cs.takeWhile (· ≠ '=')))
      (match cs.dropWhile (· ≠ '=') with
        | [] => none
        | _ :: value => some (String.ofList value))
  | '-' :: c :: cs => short (c :: cs)
  | _ => plain

inductive Flag
  | quiet
  | verbose
  | version
  | help
deriving DecidableEq

def Flag.ofLetter? : Char → Option Flag
  | 'v' => some verbose
  | 'V' => some version
  | 'h' => some help
  | _ => none

def Flag.ofName? (s : String) : Option Flag :=
  if s = "quiet" then some quiet
  else if s = "verbose" then some verbose
  else if s = "version" then some version
  else if s = "help" then some help
  else none

/-- What has been taken up and not been looked at. -/
inductive Waiting
  | nothing
  | output
  | format (value : String)
  | file (value : String)
deriving DecidableEq

structure Given where
  format : Option Format
  quiet : Bool
  verbosity : Nat
  file : Option String
  waiting : Waiting
deriving DecidableEq

namespace Given

def nothing : Given := ⟨none, false, 0, none, .nothing⟩

def settle (g : Given) : Except Halt Given :=
  match g.waiting with
  | .nothing => .ok g
  | .output => .error .misuse
  | .format value =>
    match g.format, Format.ofName? value with
    | none, some f => .ok { g with format := some f, waiting := .nothing }
    | _, _ => .error .misuse
  | .file value =>
    if value = "" then .error .misuse
    else .ok { g with file := some value, waiting := .nothing }

def flag (command : Option Command) (g : Given) (f : Flag) : Except Halt Given := do
  let g ← g.settle
  match f, command with
  | .quiet, _ => if g.quiet then throw .misuse else return { g with quiet := true }
  | .verbose, _ => return { g with verbosity := g.verbosity + 1 }
  | .version, none => throw .version
  | .version, some _ => throw .misuse
  | .help, none => throw (.help .program)
  | .help, some c => throw (.help (.command c))

def long (command : Option Command) (g : Given) (name : String) (value : Option String) :
    Except Halt Given := do
  if name = "output" then
    let g ← g.settle
    match value with
    | none => return { g with waiting := .output }
    | some v => settle { g with waiting := .format v }
  else
    match Flag.ofName? name, value with
    | some f, none => g.flag command f
    | _, _ => throw .misuse

def short (command : Option Command) (g : Given) (letters : List Char) : Except Halt Given :=
  letters.foldlM (fun g c =>
    match Flag.ofLetter? c with
    | some f => g.flag command f
    | none => throw .misuse) g

def positional (g : Given) (value : String) : Except Halt Given := do
  let g ← g.settle
  if g.file.isSome then throw .misuse else return { g with waiting := .file value }

def behind (command : Command) (escaped : Bool) (g : Given) : List String → Except Halt Given
  | [] => g.settle
  | arg :: rest => do
    if escaped then
      let g ← g.positional arg
      behind command true g rest
    else
      match Spelling.ofChars arg.toList with
      | .escape => behind command true g rest
      | .long name value =>
        let g ← g.long (some command) name value
        behind command false g rest
      | .short letters =>
        let g ← g.short (some command) letters
        behind command false g rest
      | .plain =>
        if g.waiting = .output then
          behind command false { g with waiting := .format arg } rest
        else
          let g ← g.positional arg
          behind command false g rest

end Given

structure Request where
  command : Command
  file : String
  settings : Settings
deriving DecidableEq

def Request.merge (command : Command) (before after : Given) : Except Halt Request :=
  match after.file with
  | none => .error .misuse
  | some file =>
    .ok ⟨command, file,
      (after.format.or before.format).getD .text,
      before.quiet || after.quiet,
      if after.verbosity = 0 then before.verbosity else after.verbosity⟩

def helpHalt : List String → Halt
  | [] => .help .program
  | [name] =>
    match Command.ofName? name with
    | some c => .help (.command c)
    | none => if name = "help" then .help .help else .misuse
  | _ => .misuse

namespace Request

def before (g : Given) : List String → Except Halt Request
  | [] => .error .misuse
  | arg :: rest =>
    if g.waiting = .output then
      match Spelling.ofChars arg.toList with
      | .plain => before { g with waiting := .format arg } rest
      | _ => .error .misuse
    else
      match Command.ofName? arg with
      | some command => do
        let after ← Given.behind command false .nothing rest
        let g ← g.settle
        merge command g after
      | none =>
        if arg = "help" then .error (helpHalt rest)
        else
          match Spelling.ofChars arg.toList with
          | .long name value => do
            let g ← g.long none name value
            before g rest
          | .short letters => do
            let g ← g.short none letters
            before g rest
          | _ => .error .misuse

def ofArguments (args : List String) : Except Halt Request := before .nothing args

end Request

end EntityChat.CommandLine
