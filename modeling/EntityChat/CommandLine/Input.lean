/-!
What a run reads: the standard input or the file at a path. There may be nothing to read, for one
of the causes that the system tells apart, and what there is may be no text.
-/

namespace EntityChat.CommandLine

inductive ReadError
  | missing
  | isDirectory
  | notDirectory
  | notText
  | other (cause : String)
deriving DecidableEq

def ReadError.message : ReadError → String
  | missing => "No such file or directory (os error 2)"
  | isDirectory => "Is a directory (os error 21)"
  | notDirectory => "Not a directory (os error 20)"
  | notText => "stream did not contain valid UTF-8"
  | other cause => cause

def split : List Char → List (List Char)
  | [] => [[]]
  | c :: cs =>
    if c = '/' then [] :: split cs
    else
      match split cs with
      | [] => [[c]]
      | part :: parts => (c :: part) :: parts

def pathParts (path : String) : List String := (split path.toList).map String.ofList

/-- Whether the path names the standard input. A single dash does, also with slashes and dots that
change nothing behind it. -/
def isStandardInput (path : String) : Bool :=
  match pathParts path with
  | "-" :: rest => rest.all fun part => part == "" || part == "."
  | _ => false

end EntityChat.CommandLine
