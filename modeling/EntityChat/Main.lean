import EntityChat.CommandLine.Run

/-!
The program: it reads what the arguments ask for and prints what the run leaves behind.
-/

namespace EntityChat.CommandLine

/-- Why a file gave no bytes. The system tells a directory and a way through a file apart by the
number of the error alone. -/
def ReadError.ofSystem : IO.Error → ReadError
  | .noFileOrDirectory _ _ _ => missing
  | .inappropriateType _ code _ => if code = 21 ∨ code = 0 - 21 then isDirectory else notDirectory
  | e => other e.toString

def readContent (file : String) : IO (Except ReadError ByteArray) := do
  try
    if isStandardInput file then
      return .ok (← (← IO.getStdin).readBinToEnd)
    else
      return .ok (← IO.FS.readBinFile file)
  catch e =>
    return .error (.ofSystem e)

def runSystem (args : List String) : IO UInt32 := do
  let outcome ← runReading args readContent
  let out ← IO.getStdout
  out.putStr outcome.output
  out.flush
  (← IO.getStderr).putStr outcome.errors
  return UInt32.ofNat outcome.exit

end EntityChat.CommandLine

def main (args : List String) : IO UInt32 := EntityChat.CommandLine.runSystem args
