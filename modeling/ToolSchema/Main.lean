/-
The program: print what `Cli.run` leaves behind, and end with its status.
-/
import ToolSchema.Cli

def main (args : List String) : IO UInt32 := do
  let out := ToolSchema.Cli.run args
  IO.print out.stdout
  IO.eprint out.stderr
  return out.status.toUInt32
