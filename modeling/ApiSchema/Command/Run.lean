import ApiSchema.Command.Arguments
import ApiSchema.Command.Layout
import ApiSchema.Command.Markup
import ApiSchema.Frontend.Registry
import ApiSchema.Output.Write
import ApiSchema.Settings.Load

namespace ApiSchema.Command

structure Session where
  surround : Surround
  environment : Environment := []
  now : Moment
  registry : Registry := {}
  printed : List String := []

/-- How a command ends before its last line: with an exit code, or by a fault that it does not
report itself. -/
inductive Stop where
  | exit (code : Nat)
  | fault (fault : Fault)

abbrev Running := ExceptT Stop (StateM Session)

def lineLimit : Nat := 1000

def versionText : String := "0.1.0"

def orStop {α : Type} (result : Except Fault α) : Running α :=
  match result with
  | .ok a => return a
  | .error fault => throw (.fault fault)

def printLines (lines : List (List Char)) : Running Unit := do
  if lines.any (·.any Text.isSurrogate) then throw (.fault (.misuse .encoding))
  modify fun s =>
    { s with printed := s.printed ++ lines.map fun line => String.ofList (Layout.trimRight line) }

def say (text : String) : Running Unit := do
  let plain ← orStop (Markup.plain text)
  printLines (Layout.wrap lineLimit plain.toList)

def failure (text : String) : Running Unit := say ("[red]Error:[/red] " ++ text)

/-- Runs a step on the files; what it changed stays changed when it fails. -/
def onFiles {α ε : Type} (step : ExceptT ε (StateM FileTree) α) : Running (Except ε α) := fun s =>
  let (result, files) := step.run.run s.surround.files
  (.ok result, { s with surround := { s.surround with files } })

def report (o : Outcome) : Running Unit := do
  o.warnings.forM fun warning => say ("[yellow]Warning:[/yellow] " ++ warning)
  o.errors.forM failure

def sayFailed (source : String) : Running Unit := say ("[red]Failed to parse " ++ source ++ "[/red]")

def parseSource (source provider : String) (name : Option String)
    (adjust : FrontendOptions → FrontendOptions) : Running Outcome := do
  let s ← get
  let o ← orStop (s.registry.parse s.surround (.named source) provider name adjust)
  report o
  return o

/-- The JSON text of a schema with a final line feed. The indentation is a number of 64 bits. -/
def schemaText (s : Schema) (indent : Int) : Running String := do
  if indent < 0 || twoTo 64 ≤ indent.toNat then throw (.fault (.misuse .range))
  match (s.stamped (← get).now).toJson (some indent.toNat) with
  | .ok text => return text ++ "\n"
  | .error fault => throw (.fault (.plain fault))

def summary (s : Schema) : Running Unit := do
  say ("[green]Parsed[/green] " ++ s.metadata.providerName ++ " API " ++ s.metadata.apiVersion)
  say ("  types: " ++ toString s.types.length)
  say ("  endpoints: " ++ toString s.endpoints.length)
  say ("  auth schemes: " ++ toString s.authentication.length)
  say ("  errors: " ++ toString s.errors.length)

def defaultIndent : Int := 2

def runParse (a : ParseArguments) : Running Unit := do
  let o ← parseSource a.source a.provider a.name fun options =>
    { options with resolveExternalRefs := !a.noResolve, strict := a.strict }
  match o.success, o.schema with
  | true, some schema =>
    match a.output.filter (!·.isEmpty) with
    | some output =>
      let text ← schemaText schema defaultIndent
      match ← onFiles (Writing.writeText (Path.ofString output) text) with
      | .ok () => say ("[dim]Wrote " ++ output ++ "[/dim]")
      | .error (.file fault) =>
        failure ("cannot write " ++ output ++ ": " ++ fault.text)
        throw (.exit 1)
      | .error fault => throw (.fault fault)
    | none => summary schema
  | _, _ =>
    sayFailed a.source
    throw (.exit 1)

def isOwn : Fault → Bool
  | .rejected _ | .misuse _ | .slot _ | .language _ | .file _ | .toml | .badVariable _ | .plain _
  | .markup _ => false
  | _ => true

/-- Whether a fault in the outputs of a document is reported: one of the program's own, or a refusal
of the system. -/
def isReported : Fault → Bool
  | .file _ => true
  | fault => isOwn fault

abbrev OutputStep (α : Type) := ExceptT String Running α

def orSay {α : Type} (result : Except Fault α) : OutputStep α :=
  match result with
  | .ok a => return a
  | .error fault => if isReported fault then throw fault.message else throw (m := Running) (.fault fault)

def writeCatalog (schema : Schema) (directory : Path) (language : Language) :
    OutputStep (List String) := do
  let options : OutputOptions :=
    { outputDir := directory.toString, packageName := schema.metadata.providerId }
  let file ← orSay (Catalog.file (Mapper.make schema language []) options)
  orSay (← ExceptT.lift (onFiles (Writing.writeFiles directory [file])))

def writeOutputs (settings : Settings) (directory : Path) (schema : Schema) :
    OutputStep (List String) := do
  orSay (← ExceptT.lift (onFiles (Writing.makeDirectories directory)))
  let path := directory.child "schema.json"
  let text ← ExceptT.lift (schemaText schema settings.indent)
  orSay (← ExceptT.lift (onFiles (Writing.writeText path text)))
  let catalogs ← settings.targets.mapM (writeCatalog schema directory)
  return path.toString :: catalogs.flatten

/-- The line that is shown while a document is processed must be free of stray tags, and be bytes. -/
def showProgress (source : String) : Running Unit := do
  let line ← orStop (Markup.plain ("[progress.description]Parsing " ++ source ++ "..."))
  if !Text.isEncodable line then throw (.fault (.misuse .encoding))

def generateOne (settings : Settings) (d : DocumentSettings) : Running Bool := do
  showProgress d.source
  let o ← parseSource d.source d.provider d.providerName fun options =>
    { options with
      includeDeprecated := d.includeDeprecated
      resolveExternalRefs := d.resolveExternalRefs, strict := d.strict }
  match o.success, o.schema with
  | true, some schema =>
    let directory := Path.ofString (d.output.getD "")
    match ← (writeOutputs settings directory schema).run with
    | .ok written =>
      say "[dim]Generated files:[/dim]"
      written.forM fun path => say ("  - " ++ path)
      return true
    | .error message =>
      failure message
      return false
  | _, _ =>
    sayFailed d.source
    return false

def runGenerate (path : Option String) : Running Unit := do
  let s ← get
  match Settings.load s.surround.files s.environment path with
  | .error fault =>
    if !isOwn fault then throw (.fault fault)
    failure fault.message
    throw (.exit 1)
  | .ok settings =>
    let ended ← settings.documents.mapM (generateOne settings)
    if !ended.all id then throw (.exit 1)

def typeRows (m : Mapper) (t : TypeDefinition) : Mapping (List (List String)) := do
  if !(← get).names.contains t.id then return []
  let name ← m.typeName t.id
  match t.shape.properties with
  | [] => return [[name, "", t.shape.kind]]
  | properties =>
    properties.mapM fun p => do
      let mapped ← m.mapProperty p
      return [name, p.name, mapped.expression]

def plainCells (cells : List String) : Running (List (List Char)) :=
  cells.mapM fun cell => String.toList <$> orStop (Markup.plain cell)

def runTypes (source provider : String) (language : Language) : Running Unit := do
  let o ← parseSource source provider none id
  match o.schema with
  | none => throw (.exit 1)
  | some schema =>
    let m := Mapper.make schema language []
    let rows ← orStop (m.run (schema.types.mapM (typeRows m))).1
    let title ← orStop (Markup.plain
      (schema.metadata.providerName ++ " types (" ++ language.name ++ ")"))
    let cells ← rows.flatten.mapM plainCells
    printLines (Layout.table title.toList (["Type", "Field", "Expression"].map String.toList) cells)

def run : Command → Running Unit
  | .parse arguments => runParse arguments
  | .generate settings => runGenerate settings
  | .types source language provider => runTypes source provider language
  | .providers => do (← get).registry.available.forM say
  | .version => say ("llmforge version: " ++ versionText)

structure Ending where
  exitCode : Nat
  printed : List String
  files : FileTree
  fault : Option Fault

def usageCode : Nat := 2

def execute (s : Session) (arguments : List String) : Ending :=
  match ofArguments arguments with
  | none => ⟨usageCode, [], s.surround.files, none⟩
  | some command =>
    let (result, s) := (run command).run.run s
    let ended (code : Nat) (fault : Option Fault) : Ending :=
      ⟨code, s.printed, s.surround.files, fault⟩
    match result with
    | .ok () => ended 0 none
    | .error (.exit code) => ended code none
    | .error (.fault fault) => ended 1 (some fault)

end ApiSchema.Command
