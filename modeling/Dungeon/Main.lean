import Dungeon.CommandLine.Answer
import Dungeon.Random.Dice

/-!
# The program

Reads the files that a request names, prints the answer as indented JSON and ends with its code.
-/

namespace Dungeon.CommandLine

/-- The text of a file, if there is one that can be read. -/
def readText (path : String) : IO (Option String) := do
  try return some (← IO.FS.readFile path)
  catch _ => return none

/-- The texts of the files that a request names. -/
def readFiles (r : Request) : IO (List (String × Option String)) := do
  (r.file :: r.config.toList).mapM fun path => do return (path, ← readText path)

/-- Streams as runs draw from them; no predicate has a name. -/
def supply : Supply Random.Stream Unit Float where
  stream := nodeStream
  registry _ := none

def run (args : List String) : IO UInt32 := do
  let files ← match parse args with
    | .ok r => readFiles r
    | .error _ => pure []
  match respond supply () (fun path => (files.lookup path).join) args with
  | .ok a =>
    if let some v := a.output then IO.println (Json.indented 0 v)
    return a.code.toUInt32
  | .error f =>
    IO.eprintln f.described
    return 1

end Dungeon.CommandLine

def main (args : List String) : IO UInt32 := Dungeon.CommandLine.run args
