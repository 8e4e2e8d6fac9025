/-
The program behind the command line.
-/
import Groundwork.Cli.Run

set_option autoImplicit false

open Groundwork

/-- The content of a file, or why it cannot be read. -/
def readFile (file : String) : IO (Except String ByteArray) := do
  try
    return .ok (← IO.FS.readBinFile file)
  catch
    | .noFileOrDirectory _ code _ => return .error s!"No such file or directory (os error {code})"
    | e => return .error (toString e)

/-- Runs the command line. -/
def main (words : List String) : IO UInt32 := do
  let output ← Cli.run readFile words
  IO.print output.stdout
  IO.eprint output.stderr
  return output.code.toUInt32
