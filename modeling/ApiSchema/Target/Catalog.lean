import ApiSchema.Check.Record
import ApiSchema.Target.Mapping

namespace ApiSchema

structure OutputOptions where
  outputDir : String
  packageName : String
  packageVersion : String := "0.1.0"
  license : String := "Apache-2.0"
  includeExamples : Bool := true
  includeTests : Bool := true

open Check in
def outputOptions : Check OutputOptions := fun v =>
  (record "GenerationOptions" v).andThen fun r =>
    OutputOptions.mk <$> required r ["outputDir", "output_dir"] text <*>
      required r ["packageName", "package_name"] text <*>
      withDefault r ["packageVersion", "package_version"] "0.1.0" text <*>
      withDefault r ["license"] "Apache-2.0" text <*>
      withDefault r ["includeExamples", "include_examples"] true flag <*>
      withDefault r ["includeTests", "include_tests"] true flag

structure OutputFile where
  path : String
  content : String
  executable : Bool := false

/-- The package name in lower case; other characters than letters, digits and hyphens become
hyphens. -/
def packageName (name : String) : String :=
  String.ofList ((Text.lower name.toList).map fun c =>
    if c.isLower || c.isDigit || c == '-' then c else '-')

namespace Catalog

def merged (entries : List (String × Value)) : Value :=
  .map (entries.foldl (fun done (k, v) => insertEntry done (.text k) v) [])

def flagged (name : String) (on : Bool) : List (Scalar × Value) :=
  if on then field name (.bool true) else []

def describe (mapped : Mapped) : Value :=
  .map (field "expression" (.text mapped.expression) ++ field "imports" (.strings mapped.imports) ++
    flagged "nullable" mapped.nullable ++ flagged "presenceFlag" mapped.presenceFlag ++
    field? "constraints" Constraints.dump mapped.constraints ++
    field? "metadata" Detail.toValue mapped.detail)

def isListed (t : TypeDefinition) : Bool :=
  match t.shape with
  | .enum .. | .union .. => true
  | .object properties .. => !properties.isEmpty && !t.isPlaceholder
  | .primitive .. | .array .. => false

def typeParts (m : Mapper) : Shape → Mapping (List (Scalar × Value))
  | .object properties .. => do
    let fields ← properties.mapM fun p => return (p.name, describe (← m.mapProperty p))
    return field "fields" (merged fields)
  | .enum values _ => return field "values" (.list (values.map fun v => v.value.toValue))
  | _ => return []

def typeEntry (m : Mapper) (t : TypeDefinition) : Mapping Value := do
  let name ← m.typeName t.id
  return .map (field "id" (.text t.id) ++ field "name" (.text t.name) ++
    field "kind" (.text t.shape.kind) ++ field "typeName" (.text name) ++ (← typeParts m t.shape))

def statusText : Status → Except Fault String
  | .code n => printed (isShort n) (decimalText n)
  | .text s => .ok s

def parameterEntry (m : Mapper) (p : Parameter) : Mapping (String × Value) :=
  return (p.name, describe (← m.mapType p.type { required := p.required }))

def responseEntry (m : Mapper) (r : Response) : Mapping (List (String × Value)) :=
  match r.type with
  | some ref => return [(← ofExcept (statusText r.status), describe (← m.mapType ref {}))]
  | none => return []

def endpointEntry (m : Mapper) (e : Endpoint) : Mapping Value := do
  let parameters ← e.parameters.mapM (parameterEntry m)
  let responses ← e.responses.mapM (responseEntry m)
  let body ← match e.requestBody with
    | some body =>
      pure (field "requestBody" (describe (← m.mapType body.type { required := body.required })))
    | none => pure []
  return .map (field "operationId" (.text e.operationId) ++ field "method" (.text e.method.name) ++
    field "path" (.text e.path) ++ field "parameters" (merged parameters) ++
    field "responses" (merged responses.flatten) ++ body)

def content (m : Mapper) (options : OutputOptions) : Mapping Value := do
  let types ← (m.schema.types.filter isListed).mapM (typeEntry m)
  let endpoints ← m.schema.endpoints.mapM (endpointEntry m)
  return .object [("language", .text m.language.name),
    ("package", .text (packageName options.packageName)),
    ("version", .text options.packageVersion), ("types", .list types),
    ("endpoints", .list endpoints)]

def plainScalar : Scalar → Except Fault Scalar
  | .int n => printed (isShort n) (.int n)
  | .bytes b => .ok (.text (Scalar.bytes b).display)
  | .date d => .ok (.text (Scalar.date d).display)
  | .moment m => .ok (.text (Scalar.moment m).display)
  | other => .ok other

def plainKey : Scalar → Except Fault String
  | .text s => .ok s
  | .null => .ok "null"
  | .bool b => .ok (if b then "true" else "false")
  | .int n => printed (isShort n) (decimalText n)
  | .float x => .ok (String.ofList (Json.Style.catalog.float x))
  | .bytes _ | .date _ | .moment _ => .error (.misuse .kind)

def usualDepth : Nat := 980

/-- A value as the catalog's JSON has it: pairs are lists, and sets are put as texts. -/
def plainWithin : Nat → Value → Except Fault Value
  | 0, _ => .error (.misuse .depth)
  | _ + 1, .scalar s => return .scalar (← plainScalar s)
  | depth + 1, .list items => return .list (← items.mapM (plainWithin depth))
  | depth + 1, .map entries =>
    return .map (← entries.mapM fun (k, v) => return (.text (← plainKey k), ← plainWithin depth v))
  | _ + 1, .set members => return .text (← (Value.set members).shown)
  | depth + 1, .pair a b => return .list [← plainWithin depth a, ← plainWithin depth b]
  | _ + 1, .loop _ => .error (.misuse .value)

def jsonText (v : Value) : Except Fault String :=
  return Json.Style.catalog.render (← plainWithin usualDepth v) ++ "\n"

def file (m : Mapper) (options : OutputOptions) : Except Fault OutputFile := do
  let text ← jsonText (← (m.run (content m options)).1)
  return { path := "types." ++ m.language.name ++ ".json", content := text }

end Catalog

structure OutputResult where
  files : List OutputFile := []
  warnings : List String := []
  errors : List String := []

def OutputResult.success (r : OutputResult) : Bool := r.errors.isEmpty

end ApiSchema
