import TickTree.Program

/-!
# The command line

Reads the environment and the file `.env` of the working directory, runs the program and writes its
lines to the error stream.
-/

namespace TickTree.CommandLine

/-- The variables that the program looks at. -/
def variableKeys : List String := Program.filterKey :: Setting.all.map Setting.key

/-- The text of the environment file, or nothing if there is none. -/
def environmentText : IO String := do
  try IO.FS.readFile ".env" catch _ => return ""

/-- The environment's values of the variables that the program looks at. -/
def environmentTable : IO (List (String × String)) :=
  variableKeys.filterMapM fun key => return (← IO.getEnv key).map (key, ·)

/-- A random source in a state that no one can foresee. -/
def freshGenerator : IO Generator := do
  let bytes ← IO.getRandomBytes 32
  let word (i : Nat) : UInt32 :=
    (List.range 4).foldl (fun w j => (w <<< 8) ||| (bytes[4 * i + j]?.getD 0).toUInt32) 0
  return ⟨#v[word 0, word 1, word 2, word 3, word 4, word 5, word 6, word 7], 0⟩

/-- Runs the program once and returns its exit code. -/
def run : IO UInt32 := do
  let table ← environmentTable
  let some output := Program.output (← environmentText) (table.lookup ·) (← freshGenerator)
    | return 1
  let stderr ← IO.getStderr
  output.lines.forM stderr.putStrLn
  return UInt32.ofNat output.code

end TickTree.CommandLine

/-- The command line. -/
def main : IO UInt32 := TickTree.CommandLine.run
