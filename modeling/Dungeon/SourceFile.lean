import Dungeon.Generator
import Dungeon.Json.Reader
import Dungeon.Text.Case
import Dungeon.Yaml.Document

/-!
# Files

Generators and settings come from files. A file whose name ends in `.yaml` or `.yml` holds YAML, any
other file JSON.
-/

namespace Dungeon

/-- A path with the text of the file there, if there is one. -/
structure SourceFile where
  path : String
  text : Option String

namespace SourceFile

variable {τ α : Type} [Scalar α]

/-- The ending of the last name of a path, with its point. A point at the start or at the end of the
name begins no ending. -/
def ending (path : String) : String :=
  let name := (path.toList.reverse.takeWhile (· != '/')).reverse
  let last := (name.reverse.takeWhile (· != '.')).reverse
  if last.isEmpty || name.length ≤ last.length + 1 then "" else String.ofList ('.' :: last)

def isYaml (f : SourceFile) : Bool := [".yaml", ".yml"].contains (Text.lower (ending f.path))

/-- The value of a YAML file; an empty file holds an empty object. -/
def readYaml (what : String) (f : SourceFile) : Except Fault (Value α) :=
  match f.text with
  | none => .error (.missingFile (what ++ " configuration") f.path)
  | some text => do
    match ← Yaml.read text with
    | .null => return .object []
    | v => return v

/-- The value of a file with generators. -/
def readProject (f : SourceFile) : Except Fault (Value α) :=
  if f.isYaml then f.readYaml "Generator"
  else
    match f.text with
    | none => .error (.missingFile "Generator" f.path)
    | some text => Json.readFile text

/-- The generator of a file. -/
def readGenerator (f : SourceFile) (id : Option String) : Except Fault (Generator τ α) := do
  Generator.read (← Generator.choose f.path id (← f.readProject))

end SourceFile

/-- Parameters that are given as texts `name=value` with values in YAML. -/
def Bindings.ofTexts {α : Type} [Scalar α] (pairs : List String) : Except Fault (Bindings α) :=
  pairs.foldlM (fun (b : Fields α) pair => do
    let name := pair.toList.takeWhile (· != '=')
    match pair.toList.dropWhile (· != '=') with
    | '=' :: value =>
      if name.isEmpty then throw (.parameterPair (Text.quote pair))
      let v ← if value.isEmpty then pure (.text "") else Yaml.read (String.ofList value)
      return b.insert (.text (String.ofList (Text.trim Text.isBlank name))) v
    | _ => throw (.parameterPair (Text.quote pair))) []

end Dungeon
