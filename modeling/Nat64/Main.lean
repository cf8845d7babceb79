import Nat64.Program

/-!
# The command line

Looks at the one path that the arguments lead to, and prints what `Program.report` makes of it.
-/

namespace Nat64

/-- What is found at a path. -/
def findEntry (path : String) : IO Entry := do
  try return .text (← IO.FS.readFile path)
  catch
    | .noFileOrDirectory .. => return .absent
    | _ => return .unreadable

/-- Prints a report. -/
def printReport (r : Report) : IO Unit := do
  IO.print r.output
  match r.failure with
  | none => return ()
  | some f =>
    IO.eprintln f.headline
    IO.eprintln ""
    IO.eprintln "Caused by:"
    for (cause, i) in f.causes.zipIdx do
      IO.eprintln s!"    {i}: {cause}"

end Nat64

/-- Runs the program; without a home directory a tilde stands for itself. -/
def main (args : List String) : IO UInt32 := do
  let home := (← IO.getEnv "HOME").getD "~"
  let entry ← match Nat64.Program.path? home args with
    | some path => Nat64.findEntry path
    | none => pure .absent
  let r := Nat64.Program.report { home, entry := fun _ => entry } args
  Nat64.printReport r
  if r.status = 2 then IO.eprintln Nat64.Topic.program.helpText
  return UInt32.ofNat r.status
