import ApiSchema.Json.Reader
import ApiSchema.Settings.Basic
import ApiSchema.Source.Files
import ApiSchema.Toml.Reader
import ApiSchema.Yaml.Load

namespace ApiSchema

abbrev Environment := List (String × String)

namespace Settings

def usualNames : List String := ["llmforge.yaml", "llmforge.yml"]

def projectFile : String := "pyproject.toml"

def projectTable : String := "llmforge"

def variableStart : String := "llmforge_"

/-- The entry of a setting: under its own name, else under one that differs in letter case. -/
def entryFor (entries : List (String × Value)) (name : String) : Option Value :=
  match entries.lookup name with
  | some v => some v
  | none => (entries.find? fun (key, _) => Text.lowerText key == name).map (·.2)

def variableFor (environment : Environment) (name : String) : Option String :=
  (environment.filter fun (key, _) => Text.lowerText key == variableStart ++ name).getLast?.map (·.2)

/-- The value that a variable gives. Only the indentation is no JSON, and a null is no value. -/
def variableValue (environment : Environment) (name : String) : Except Fault (Option Value) :=
  match variableFor environment name with
  | none => .ok none
  | some text =>
    if name == "indent" then .ok (some (.text text))
    else
      match Json.readWithin Json.usualDepth text.toList with
      | .ok v => .ok (if v.isNull then none else some v)
      | .error failure =>
        match failure.cause with
        | .depth => .error (.misuse .depth)
        | _ => .error (.badVariable name)

def named (entries : List (Scalar × Value)) : Except Fault (List (String × Value)) :=
  entries.mapM fun (key, v) =>
    match key with
    | .text name => .ok (name, v)
    | _ => .error (.misuse .kind)

def completed (environment : Environment) (entries : List (String × Value)) :
    Except Fault (List (String × Value)) := do
  let values ← names.mapM (variableValue environment)
  let known := (names.zip values).filterMap fun (name, given) =>
    ((entryFor entries name).or given).map (name, ·)
  return known ++ entries.filter fun (key, _) => !names.contains (Text.lowerText key)

def ofValue (environment : Environment) (path : Path) (data : Value) : Except Fault Settings := do
  match data with
  | .map entries =>
    let entries ← completed environment (← named entries)
    match settings (.object entries) with
    | .ok s => return s
    | .bad issues =>
      let first := issues.head?.getD ⟨[], .missing⟩
      throw (.settings (.invalid (first.cause.message false)) (some path.toString) (some first.place))
  | _ => throw (.settings .notMapping (some path.toString) none)

def malformedAt {α : Type} (path : Path) (cause : Cause) : Except Fault α :=
  .error (.settings (.malformed cause) (some path.toString) none)

def readFile (files : FileTree) (path : Path) : Except Fault Value :=
  match files.read path with
  | .error denial =>
    .error (.settings (.unreadable (denial.at path.toString)) (some path.toString) none)
  | .ok bytes => do
    let text ← textOf bytes
    if Text.lowerText path.suffix == ".json" then
      match Json.readWithin Json.usualDepth text.toList with
      | .ok v => return v
      | .error failure =>
        match failure.cause with
        | .longInteger => throw (.misuse .value)
        | .depth => throw (.misuse .depth)
        | _ => malformedAt path (.json (failure.message text.toList))
    else
      match Yaml.load .empty text with
      | .ok (graph, item) => return graph.value item
      | .error .malformed => malformedAt path .yaml
      | .error (.misuse m) => throw (.misuse m)

def projectSettings? (files : FileTree) (path : Path) : Except Fault (Option Value) :=
  match files.read path with
  | .error denial => .error (.file (denial.at path.toString))
  | .ok bytes => do
    let text ← textOf bytes
    match Toml.read text with
    | .error .malformed => throw .toml
    | .error .number => throw (.misuse .value)
    | .ok project =>
      let tools := (project.get? "tool").getD (.map [])
      if ← tools.holds projectTable then
        match tools.get? projectTable with
        | some v => return some v
        | none => throw (.misuse .kind)
      else return none

def load (files : FileTree) (environment : Environment) (path : Option String) :
    Except Fault Settings := do
  match path.filter (!·.isEmpty) with
  | some text =>
    let path := Path.ofString text
    if !files.exists? path then throw (.settings .notFound (some text) none)
    ofValue environment path (← readFile files path)
  | none =>
    let directory : Path := ⟨"/", files.current⟩
    match (usualNames.map directory.child).find? files.exists? with
    | some path => ofValue environment path (← readFile files path)
    | none =>
      let project := directory.child projectFile
      let found ← if files.exists? project then projectSettings? files project else pure none
      match found with
      | some v => ofValue environment project v
      | none => throw (.settings (.nowhere usualNames) (some directory.toString) none)

end Settings

end ApiSchema
