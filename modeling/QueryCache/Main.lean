import QueryCache.CommandLine.Rehearsal
import QueryCache.Json.Reader
/-!
# The program on its own

Runs the program with the arguments it is called with, in the world that one line of standard
input describes.
-/

def main (arguments : List String) : IO UInt32 := do
  let line ← (← IO.getStdin).getLine
  let world := QueryCache.CommandLine.Rehearsal.world ((QueryCache.Json.read? line).getD .null)
  let report := QueryCache.CommandLine.run world arguments
  for line in report.log do
    IO.eprintln line.text
  match report.ending with
  | .done output => IO.print output
  | .failed why => IO.eprintln why.message
  | .misused => IO.eprint QueryCache.CommandLine.Page.overview.text
  return report.ending.status.toUInt32
