import Dungeon.CommandLine.Arguments

/-!
# Requests

What the arguments ask for: to validate a graph, to generate a layout, or to simulate a batch.
-/

namespace Dungeon.CommandLine

inductive Command
  | validate
  | generate (seed : Int) (parameters : List String) (retry : Bool) (attempts : Option Int)
  | simulate (runs firstSeed : Int) (workers : Option Int) (parameters : List String)

structure Request where
  command : Command
  /-- The path of the file with the generator. -/
  file : String
  generatorId : Option String := none
  /-- The path of the file with the settings. -/
  config : Option String := none
  /-- The log level is given and does not come from the settings. -/
  levelGiven : Bool := false

def generalFlags : List Flag :=
  [help, { name := "--config", takes := .text },
    { name := "--log-level", takes := .oneOf ["DEBUG", "INFO", "WARNING", "ERROR", "CRITICAL"] },
    { name := "--verbose", others := ["-v"] }, { name := "--json-logs" }]

def fileFlags : List Flag := [help, { name := "--generator-id", takes := .text }]

def parameterFlag : Flag := { name := "--param", takes := .text }

/-- The options of each command. -/
def commandFlags : List (String × List Flag) :=
  [("validate", fileFlags),
    ("generate", fileFlags ++ [{ name := "--seed", takes := .whole }, parameterFlag,
      { name := "--retry" }, { name := "--attempts", takes := .whole }]),
    ("simulate", fileFlags ++ [{ name := "--runs", takes := .whole },
      { name := "--seed-start", takes := .whole }, { name := "--workers", takes := .whole },
      parameterFlag])]

/-- The command of a name with its options. -/
def command (name : String) (s : Seen) : Command :=
  if name = "generate" then
    .generate ((s.whole? "--seed").getD 0) (s.all "--param") (s.has "--retry")
      (s.whole? "--attempts")
  else if name = "simulate" then
    .simulate ((s.whole? "--runs").getD 100) ((s.whole? "--seed-start").getD 0)
      (s.whole? "--workers") (s.all "--param")
  else .validate

/-- What the arguments ask for. -/
def parse (args : List String) : Except Stop Request := do
  match ← scan generalFlags true (← markAll generalFlags args) {} with
  | (_, []) => throw .misuse
  | (general, name :: rest) =>
    match commandFlags.lookup name with
    | none => throw .misuse
    | some flags =>
      let (s, _) ← scan flags false (← markAll flags rest) {}
      match s.word with
      | none => throw .misuse
      | some file =>
        if general.odd || s.odd then throw .misuse
        return {
          command := command name s, file
          generatorId := s.last? "--generator-id", config := general.last? "--config"
          levelGiven := general.has "--verbose" || general.has "--log-level" }

end Dungeon.CommandLine
