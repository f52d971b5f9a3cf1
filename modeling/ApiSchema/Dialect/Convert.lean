import ApiSchema.Conversion.Resolver
import ApiSchema.Dialect.Decode
import ApiSchema.Frontend.Options
import ApiSchema.Text.Words

namespace ApiSchema.Dialect

def schemeId : String := "apiKey"

def schemeHeader : String := "x-api-key"

def retryableCodes : List Int := [408, 429, 500, 502, 503, 504, 529]

def primitiveKinds : List (String × PrimitiveKind) :=
  [("string", .string), ("number", .float), ("integer", .integer), ("boolean", .boolean),
    ("null", .null)]

def knownKinds : List String := ["object", "enum", "array", "union", "primitive"]

def nameReference (name : String) : String := "#/types/" ++ name

def firstDefinitions (definitions : List TypeSource) : List (String × TypeSource) :=
  definitions.foldl (fun named source =>
    match source with
    | .definition about .. =>
      if (named.lookup about.name).isSome then named else named ++ [(about.name, source)]
    | .name _ => named) []

abbrev Convert := TypeSource → Conversion String

def enumKindOf (values : List EnumValue) : EnumKind :=
  match values with
  | [] => .string
  | v :: _ => if v.value.isText then .string else .number

def enumValueOf (l : Literal) (description : Option String) : EnumValue :=
  { value := l, name := l.toScalar.display, description }

def enumOf (values : List EnumValue) : Except Fault Shape :=
  printed (values.all fun v => v.value.toScalar.isShort) (.enum values (enumKindOf values))

def buildEnum (about : About) : Except Fault Shape :=
  enumOf ((about.values.getD []).map fun v => enumValueOf v.value v.description)

def propertiesFrom (convert : Convert) : List (Field × TypeSource) → Conversion (List Property)
  | [] => return []
  | (field, source) :: rest => do
    let id ← convert source
    let p : Property :=
      { name := field.name, type := { typeId := id }, required := field.required.getD false
        description := field.description, default := field.default }
    return p :: (← propertiesFrom convert rest)

def buildPrimitive (about : About) : Conversion Shape := do
  let keyword := match about.primitiveType with
    | some s => if s.isEmpty then "string" else Text.lowerText s
    | none => "string"
  match primitiveKinds.lookup keyword with
  | some kind => return .primitive kind none
  | none =>
    Conversion.record (.unknownKind (.text keyword) about.name)
    return .primitive .string none

def refTo (convert : Convert) (source : TypeSource) : Conversion TypeRef :=
  return { typeId := ← convert source }

/-- What a definition is; values and properties decide before the kind does. -/
def buildShape (convert : Convert) (about : About) (properties : List (Field × TypeSource))
    (items variants : List TypeSource) : Conversion Shape := do
  if !knownKinds.contains about.kind then
    throw (.node (.unknownKind (.text about.kind) about.name))
  else if about.kind == "enum" || about.values.isSome then ofExcept (buildEnum about)
  else if about.kind == "object" || about.hasProperties then
    return .reconciled (← propertiesFrom convert properties) (about.required.getD []) none none
  else if about.kind == "array" then
    match items with
    | item :: _ => return .array (← refTo convert item) none none none
    | [] => throw (.node (.noItems about.name))
  else if about.kind == "union" || about.hasVariants then
    return .union (← variants.mapM (refTo convert)) none none
  else buildPrimitive about

/-- The id of a definition. Only the first of its name is found again by the name. -/
def definitionId (named : List (String × TypeSource)) (convert : Convert) (about : About)
    (properties : List (Field × TypeSource)) (items variants : List TypeSource) :
    Conversion String :=
  let isFirst : Bool := match named.lookup about.name with
    | some (.definition first ..) => first.number == about.number
    | _ => false
  let reference := if isFirst then some (nameReference about.name) else none
  Conversion.resolve { node := some about.number, reference } about.name fun id => do
    let shape ← buildShape convert about properties items variants
    return { id, name := about.name, description := about.description
             deprecated := about.deprecated, shape }

def unnamedId (name : String) : Conversion String :=
  let keyword := Text.lowerText name
  match primitiveKinds.lookup keyword with
  | some kind =>
    Conversion.resolve { pointer := some ("primitive:" ++ keyword) } keyword fun id =>
      return { id, name := keyword, shape := .primitive kind none }
  | none =>
    Conversion.placeholder name (.unresolved name (some "no type with this name"))
      (some (nameReference name)) none

def convertWithin (named : List (String × TypeSource)) : Nat → Convert
  | 0, _ => throw (.misuse .depth)
  | depth + 1, source =>
    let convert := convertWithin named depth
    match source with
    | .definition about properties items variants =>
      definitionId named convert about properties items variants
    | .name s =>
      match named.lookup s with
      | some (.definition about properties items variants) =>
        definitionId named convert about properties items variants
      | _ => unnamedId s

/-- An enum of its own for a parameter with fixed values, else the type that it names. -/
def parameterType (convert : Convert) (endpoint : String) (p : DialectParameter) :
    Conversion String :=
  match p.enum with
  | none | some [] => convert (.name p.type)
  | some literals => do
    let name := endpoint ++ "_" ++ p.name
    let shape ← ofExcept (enumOf (literals.map (enumValueOf · none)))
    Conversion.resolve { node := some p.number } name fun id => return { id, name, shape }

def parametersFrom (convert : Convert) (endpoint : String) :
    List DialectParameter → Conversion (List Parameter)
  | [] => return []
  | p :: rest => do
    let id ← parameterType convert endpoint p
    let parameter : Parameter :=
      { name := p.name, location := p.location, type := { typeId := id }
        required := p.required.getD false || p.location = .path
        description := p.description, default := p.default }
    return parameter :: (← parametersFrom convert endpoint rest)

def responseOf (convert : Convert) (r : DialectResponse) : Conversion Response := do
  let type ← match r.type with
    | some source => some <$> refTo convert source
    | none => pure none
  let contentType := match r.contentType with
    | some s => if s.isEmpty then "application/json" else s
    | none => "application/json"
  return { status := r.status, type, description := r.description, contentType := some contentType }

/-- An endpoint with an unknown method is left out, with a warning. -/
def endpointOf (convert : Convert) (e : DialectEndpoint) : Conversion (Option Endpoint) := do
  let upper := Text.upperText e.method
  match Method.all.find? (·.name == upper) with
  | none =>
    Conversion.warn ("Endpoint '" ++ e.id ++ "' has unsupported method '" ++ e.method ++ "'")
    return none
  | some method =>
    let parameters ← parametersFrom convert e.id e.parameters
    let requestBody ← match e.requestBody with
      | some body => do
        let type ← refTo convert body.type
        pure (some { type, required := body.required, contentType := body.contentType
                     description := body.description : RequestBody })
      | none => pure none
    let responses ← e.responses.mapM (responseOf convert)
    return some {
      id := e.id, operationId := e.id, path := e.path, method, summary := e.summary
      description := e.description, parameters, requestBody, responses
      streaming := e.streaming.getD (Text.looksStreaming [e.description, e.summary])
      authentication := if e.requiresAuth = some false then [] else [schemeId]
      tags := e.tags.filter (!·.isEmpty), deprecated := e.deprecated }

def endpointsFrom (convert : Convert) (includeDeprecated : Bool) :
    List DialectEndpoint → Conversion (List Endpoint)
  | [] => return []
  | e :: rest => do
    if e.deprecated = some true && !includeDeprecated then
      endpointsFrom convert includeDeprecated rest
    else
      let endpoint? ← endpointOf convert e
      return endpoint?.toList ++ (← endpointsFrom convert includeDeprecated rest)

def errorOf (e : DialectError) : ErrorDefinition :=
  { code := e.code, statusCode := e.statusCode, message := e.description, name := e.type
    description := some e.description
    retryable := some (e.retryable.getD (retryableCodes.contains e.statusCode)) }

def metadataOf (d : DialectDocument) (options : FrontendOptions) : Metadata :=
  let models := d.models.map fun fields => fieldsValue fields
  let extra := [("baseUrl", Value.text d.baseUrl)] ++
    (d.description.map fun s => ("description", Value.text s)).toList ++
    (if models.isEmpty then [] else [("models", .list models)])
  { providerId := options.providerId, providerName := options.providerName
    apiVersion := d.version, metadata := some extra }

def keyScheme : AuthScheme where
  id := schemeId
  kind := .apiKey .header schemeHeader
  description := some "Anthropic API key authentication"

/-- How many calls can be inside each other, in types: each takes seven calls. -/
def usualDepth : Nat := 140

def convert (d : DialectDocument) (options : FrontendOptions) (depth : Nat := usualDepth) :
    Conversion Schema := do
  let convert := convertWithin (firstDefinitions d.definitions) depth
  let _ ← d.types.mapM convert
  let endpoints ← endpointsFrom convert options.includeDeprecated d.endpoints
  let types ← ofExcept (← get).types
  return { metadata := metadataOf d options, types, endpoints, authentication := [keyScheme]
           errors := d.errors.map errorOf }

end ApiSchema.Dialect
