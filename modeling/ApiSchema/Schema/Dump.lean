import ApiSchema.Json.Printer
import ApiSchema.Schema.Basic
import ApiSchema.Value.Plain

namespace ApiSchema

abbrev Dumped := Except PlainFault Value

def field (name : String) (v : Value) : List (Scalar × Value) := [(.text name, v)]

def field? {α : Type} (name : String) (write : α → Value) : Option α → List (Scalar × Value)
  | some a => field name (write a)
  | none => []

def Literal.toValue (l : Literal) : Value := .scalar l.toScalar

def Bound.toValue : Bound → Value
  | .flag b => .bool b
  | .number x => .float x

def textMap (entries : List (String × String)) : Value :=
  .map (entries.map fun (k, v) => (.text k, .text v))

def fieldsValue (fields : Fields) : Value := .map (fields.map fun (k, v) => (.text k, v))

def freeForm? (name : String) : Option Fields → Except PlainFault (List (Scalar × Value))
  | some fields =>
    return field name (.map (← plainEntries Value.plain (fields.map fun (k, v) => (.text k, v))))
  | none => return []

def TypeRef.dump (r : TypeRef) : Value :=
  .map (field "typeId" (.text r.typeId) ++ field "nullable" (.bool r.nullable))

def Constraints.dump (c : Constraints) : Value :=
  .map (field? "minLength" .int c.minLength ++ field? "maxLength" .int c.maxLength ++
    field? "pattern" .text c.pattern ++ field? "format" .text c.format ++
    field? "minimum" .float c.minimum ++ field? "maximum" .float c.maximum ++
    field? "exclusiveMinimum" Bound.toValue c.exclusiveMinimum ++
    field? "exclusiveMaximum" Bound.toValue c.exclusiveMaximum ++
    field? "multipleOf" .float c.multipleOf ++
    field? "enum" (fun values => .list (values.map Literal.toValue)) c.enum)

/-- A declared default: a value stands first, a null last. -/
def dumpDefault (default : Option Value) (rest : List (Scalar × Value)) : Dumped :=
  match default with
  | none => return .map rest
  | some (.scalar .null) => return .map (rest ++ field "default" .null)
  | some v => return .map (field "default" (← v.plain) ++ rest)

def Property.dump (p : Property) : Dumped := do
  let metadata ← freeForm? "metadata" p.metadata
  dumpDefault p.default
    (field "name" (.text p.name) ++ field "type" p.type.dump ++
      field "required" (.bool p.required) ++ field? "description" .text p.description ++
      field? "constraints" Constraints.dump p.constraints ++
      field? "deprecated" .bool p.deprecated ++ metadata)

def Additional.dump : Additional → Value
  | .type ref => ref.dump
  | .allowed b => .bool b

def EnumValue.dump (v : EnumValue) : Value :=
  .map (field "value" v.value.toValue ++ field "name" (.text v.name) ++
    field? "description" .text v.description ++ field? "deprecated" .bool v.deprecated)

def Shape.dump : Shape → Except PlainFault (List (Scalar × Value))
  | .primitive kind constraints =>
    return field "primitiveKind" (.text kind.name) ++
      field? "constraints" Constraints.dump constraints
  | .object properties required additional discriminator =>
    return field "properties" (.list (← properties.mapM Property.dump)) ++
      field "required" (.strings required) ++
      field? "additionalProperties" Additional.dump additional ++
      field? "discriminator" .text discriminator
  | .array items minItems maxItems uniqueItems =>
    return field "items" items.dump ++ field? "minItems" .int minItems ++
      field? "maxItems" .int maxItems ++ field? "uniqueItems" .bool uniqueItems
  | .union variants discriminator mapping =>
    return field "variants" (.list (variants.map TypeRef.dump)) ++
      field? "discriminator" .text discriminator ++ field? "discriminatorMapping" textMap mapping
  | .enum values kind =>
    return field "values" (.list (values.map EnumValue.dump)) ++
      field "valueType" (.text kind.name)

def TypeDefinition.dump (t : TypeDefinition) : Dumped := do
  let metadata ← freeForm? "metadata" t.metadata
  return .map (field "id" (.text t.id) ++ field "name" (.text t.name) ++
    field? "description" .text t.description ++ field? "deprecated" .bool t.deprecated ++
    field? "deprecationMessage" .text t.deprecationMessage ++ metadata ++
    field "kind" (.text t.shape.kind) ++ (← t.shape.dump))

def Parameter.dump (p : Parameter) : Dumped :=
  dumpDefault p.default
    (field "name" (.text p.name) ++ field "in" (.text p.location.name) ++
      field "type" p.type.dump ++ field "required" (.bool p.required) ++
      field? "description" .text p.description ++ field? "deprecated" .bool p.deprecated)

def RequestBody.dump (b : RequestBody) : Value :=
  .map (field "type" b.type.dump ++ field "required" (.bool b.required) ++
    field "contentType" (.text b.contentType) ++ field? "description" .text b.description)

def Header.dump (h : Header) : Value :=
  .map (field "name" (.text h.name) ++ field "type" h.type.dump ++
    field "required" (.bool h.required) ++ field? "description" .text h.description)

def Status.toValue : Status → Value
  | .code n => .int n
  | .text s => .text s

def Response.dump (r : Response) : Value :=
  .map (field "statusCode" r.status.toValue ++ field? "type" TypeRef.dump r.type ++
    field? "description" .text r.description ++
    field? "headers" (fun headers => .list (headers.map Header.dump)) r.headers ++
    field? "contentType" .text r.contentType)

def RateLimit.dump (r : RateLimit) : Value :=
  .map (field "requests" (.int r.requests) ++ field "windowSeconds" (.int r.windowSeconds) ++
    field? "scope" .text r.scope)

def Endpoint.dump (e : Endpoint) : Dumped := do
  let parameters ← e.parameters.mapM Parameter.dump
  let metadata ← freeForm? "metadata" e.metadata
  return .map (field "id" (.text e.id) ++ field "operationId" (.text e.operationId) ++
    field "path" (.text e.path) ++ field "method" (.text e.method.name) ++
    field? "summary" .text e.summary ++ field? "description" .text e.description ++
    field "parameters" (.list parameters) ++
    field? "requestBody" RequestBody.dump e.requestBody ++
    field "responses" (.list (e.responses.map Response.dump)) ++
    field "streaming" (.bool e.streaming) ++
    field "authentication" (.strings e.authentication) ++
    field? "rateLimit" RateLimit.dump e.rateLimit ++ field? "tags" .strings e.tags ++
    field? "deprecated" .bool e.deprecated ++ metadata)

def Flow.dump (f : Flow) : Value :=
  .map (field "type" (.text f.kind.name) ++
    field? "authorizationUrl" .text f.authorizationUrl ++ field? "tokenUrl" .text f.tokenUrl ++
    field? "refreshUrl" .text f.refreshUrl ++ field? "scopes" textMap f.scopes)

def AuthKind.name : AuthKind → String
  | .apiKey .. => "apiKey"
  | .bearer .. => "bearer"
  | .oauth2 _ => "oauth2"
  | .basic => "basic"

def AuthKind.dump : AuthKind → List (Scalar × Value)
  | .apiKey location name => field "in" (.text location.name) ++ field "name" (.text name)
  | .bearer scheme format =>
    field "scheme" (.text scheme) ++ field? "bearerFormat" .text format
  | .oauth2 flows => field "flows" (.list (flows.map Flow.dump))
  | .basic => []

def AuthScheme.dump (s : AuthScheme) : Value :=
  .map (field "id" (.text s.id) ++ field "type" (.text s.kind.name) ++ s.kind.dump ++
    field? "description" .text s.description)

def ErrorDefinition.dump (e : ErrorDefinition) : Value :=
  .map (field "code" (.text e.code) ++ field "statusCode" (.int e.statusCode) ++
    field "message" (.text e.message) ++ field? "name" .text e.name ++
    field? "description" .text e.description ++ field? "type" TypeRef.dump e.type ++
    field? "retryable" .bool e.retryable)

def Metadata.dump (m : Metadata) : Dumped := do
  let metadata ← freeForm? "metadata" m.metadata
  return .map (field "version" (.text m.version) ++ field "providerId" (.text m.providerId) ++
    field "providerName" (.text m.providerName) ++ field "apiVersion" (.text m.apiVersion) ++
    field? "generatedAt" (fun at_ => .text (Moment.zuluText at_)) m.generatedAt ++ metadata)

namespace Schema

def dump (s : Schema) : Dumped := do
  let metadata ← s.metadata.dump
  let types ← s.types.mapM TypeDefinition.dump
  let endpoints ← s.endpoints.mapM Endpoint.dump
  let config ← freeForm? "config" s.config
  return .map (field "metadata" metadata ++ field "types" (.list types) ++
    field "endpoints" (.list endpoints) ++
    field "authentication" (.list (s.authentication.map AuthScheme.dump)) ++
    field "errors" (.list (s.errors.map ErrorDefinition.dump)) ++ config)

def stamped (s : Schema) (now : Moment) : Schema :=
  { s with metadata := { s.metadata with generatedAt := some (s.metadata.generatedAt.getD now) } }

def toJson (s : Schema) (indent : Option Nat) : Except PlainFault String := do
  let text := (Json.Style.canonical indent).render (← s.dump)
  if Text.isEncodable text then return text else throw .encoding

end Schema

end ApiSchema
