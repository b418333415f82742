import Larder.Command.Application
import Larder.Tree.Listing

/-!
# Larder — the program

Reads a listing of directories, files and links from the standard input and runs the command line
in that world. The standard output has what the command says, and the standard error the debug
records.
-/

namespace Larder

/-- Reads all lines of a stream, without their ends. -/
partial def readLines (stream : IO.FS.Stream) (lines : List String) : IO (List String) := do
  let line ← stream.getLine
  if line = "" then return lines.reverse
  else readLines stream (String.ofList (line.toList.filter (· ≠ '\n')) :: lines)

end Larder

/-- Runs the command line in the world that the standard input lists. -/
def main (args : List String) : IO UInt32 := do
  let lines ← Larder.readLines (← IO.getStdin) []
  let result := Larder.Application.run (Larder.Listing.ofLines lines).world args
  (← IO.getStdout).putStr result.stdout
  for line in result.log do
    (← IO.getStderr).putStrLn line
  return UInt32.ofNat result.status
