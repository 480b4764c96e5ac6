import DocFilter.Program.Arguments

/-!
# The program

Reads the arguments and, where a command needs it, the standard input, and
ends with status 0, or with 1 after an error, or with 2 when the arguments
stand for no command.
-/

open DocFilter.Program

def main (arguments : List String) : IO UInt32 := do
  let needsInput :=
    ((Command.ofArguments? arguments).map Command.needsInput).getD false
  let input ← if needsInput then
      (← IO.getStdin).readBinToEnd else pure ByteArray.empty
  match outcome arguments input with
  | .done output => IO.print output; return 0
  | .failed message => IO.eprintln message; return 1
  | .rejected => IO.eprintln "The arguments stand for no command."; return 2
