import ApiSchema.OpenApi.Phrase
import ApiSchema.OpenApi.Types
import ApiSchema.Text.Words

namespace ApiSchema.OpenApi

structure Surroundings where
  scope : Scope
  convert : Convert
  schemes : List String

def Surroundings.graph (w : Surroundings) : Graph := w.scope.graph

def Surroundings.typeRef (w : Surroundings) (node : Item) (name : Except Fault String) :
    Conversion TypeRef := do
  typeRefOf w.scope w.convert node (← ofExcept name)

/-- A medium and its description: JSON if it is offered, else the first. -/
def pickMedia (g : Graph) (content : Item) : Except Fault (Option (Scalar × Item)) := do
  let json : Scalar := .text "application/json"
  if !g.truthy content then return none
  match g.entries? content with
  | some entries =>
    match lookup? entries json with
    | some media => return some (json, media)
    | none => return entries.head?
  | none =>
    -- What holds the name but has no entry for it is of the wrong kind.
    match content, g.of? content with
    | .scalar (.text s), _ =>
      if Text.occurs "application/json".toList s.toList then misuse .kind else misuse .part
    | _, some (.set members) => if members.any json.same then misuse .kind else misuse .part
    | _, some (.list items) =>
      if items.any (isText · "application/json") then misuse .kind else misuse .part
    | _, some (.pair a b) =>
      if [a, b].any (isText · "application/json") then misuse .kind else misuse .part
    | _, _ => misuse .kind

def mediaSchema (g : Graph) (media : Option (Scalar × Item)) : Except Fault Item :=
  match media with
  | some (_, item) =>
    if g.truthy item then (entriesOf g item).map (fieldOf · "schema") else .ok .null
  | none => .ok .null

def parameterSchema (g : Graph) (entries : Entries) : Except Fault Item := do
  let schema := fieldOf entries "schema"
  if isNull schema then mediaSchema g (← pickMedia g (fieldOf entries "content")) else return schema

def locationNamed? (item : Item) : Option Location :=
  item.text?.bind fun name => Location.all.find? (·.name == name)

def declaredLocation (entries : Entries) : Item :=
  (lookup? entries (.text "in")).getD (.text "query")

/-- A parameter without a schema or in an unknown location is left out, with a warning. `operation`
is the id of the operation as it is printed in names and messages. -/
def parameterOf (w : Surroundings) (operation : Except Fault String) (entries : Entries) :
    Conversion (Option Parameter) := do
  let g := w.graph
  let name := fieldOf entries "name"
  let schema ← ofExcept (parameterSchema g entries)
  if isNull schema then
    warnOf (do return "Could not convert parameter: " ++ (← shown g name))
    return none
  match locationNamed? (declaredLocation entries) with
  | none =>
    warnOf (do
      return "Parameter '" ++ (← shown g name) ++ "' has unsupported location '" ++
        (← shown g (fieldOf entries "in")) ++ "'")
    return none
  | some location =>
    let declared := (g.entries? (target w.scope.document schema)).getD []
    let type ← w.typeRef schema (do return (← operation) ++ "_" ++ (← shown g name))
    let required := g.truthy (fieldOf entries "required") || location = .path
    let p ← ofExcept (checked "ParameterDefinition" parameter
      ([("name", g.value name), ("location", .text location.name), ("type", type.dump)] ++
        notes g entries))
    return some { p with required, default := declaredDefault g declared }

def putParameter (sofar : List ((Value × Value) × Entries)) (key : Value × Value)
    (entries : Entries) : List ((Value × Value) × Entries) :=
  match sofar with
  | [] => [(key, entries)]
  | (k, e) :: rest =>
    if k.1.same key.1 && k.2.same key.2 then (k, entries) :: rest
    else (k, e) :: putParameter rest key entries

def mergeParameters (w : Surroundings) (sofar : List ((Value × Value) × Entries)) :
    List Item → Conversion (List Entries)
  | [] => return sofar.map Prod.snd
  | raw :: rest => do
    let g := w.graph
    match ← component? w.scope.document raw "parameter" with
    | some entries =>
      if hasField entries "name" then
        let key := (g.value (fieldOf entries "name"), g.value (declaredLocation entries))
        if key.1.isKey && key.2.isKey then mergeParameters w (putParameter sofar key entries) rest
        else throw (.misuse .kind)
      else mergeParameters w sofar rest
    | none => mergeParameters w sofar rest

def requestBodyOf (w : Surroundings) (operation : Except Fault String) (raw : Item) :
    Conversion (Option RequestBody) := do
  let g := w.graph
  match ← component? w.scope.document raw "request body" with
  | none => return none
  | some body =>
    let media ← ofExcept (pickMedia g (fieldOf body "content"))
    let schema ← ofExcept (mediaSchema g media)
    if isNull schema then
      warnOf (do return "Request body of '" ++ (← operation) ++ "' has no schema")
      return none
    let type ← w.typeRef schema (do return (← operation) ++ "_request")
    let contentType := (media.map Prod.fst).getD .null
    some <$> ofExcept (checked "RequestBodyDefinition" requestBody
      [("type", type.dump), ("required", .bool (g.truthy (fieldOf body "required"))),
        ("content_type", .scalar contentType), ("description", g.value (fieldOf body "description"))])

def headersFrom (w : Surroundings) (operation : Except Fault String) :
    Entries → Conversion (List Header)
  | [] => return []
  | (name, raw) :: rest => do
    let g := w.graph
    let found ← component? w.scope.document raw "header"
    let entries := found.getD []
    let schema := fieldOf entries "schema"
    if isNull schema then headersFrom w operation rest
    else
      let type ← w.typeRef schema (do return (← operation) ++ "_" ++ (← name.shown) ++ "_header")
      let h ← ofExcept (checked "HeaderDefinition" ApiSchema.header
        [("name", .scalar name), ("type", type.dump),
          ("required", .bool (g.truthy (fieldOf entries "required"))),
          ("description", g.value (fieldOf entries "description"))])
      return h :: (← headersFrom w operation rest)

/-- A status in digits, which may not be too many, is a code; anything else is a text. -/
def statusOf (status : String) : Except Fault Status :=
  let chars := status.toList
  if !chars.isEmpty && chars.all Text.isDigit then
    match integerOf? chars with
    | some n => printed (chars.length ≤ digitLimit) (.code n)
    | none => misuse .value
  else .ok (.text status)

def registerError (g : Graph) (errors : List ErrorDefinition) (code : Int) (response : Entries)
    (type : Option TypeRef) : Except Fault (List ErrorDefinition) := do
  if errors.any (·.statusCode == code) then return errors
  let phrase := (phrase? code).getD ("HTTP " ++ decimalText code)
  let description := fieldOf response "description"
  let message : Value := if g.truthy description then g.value description else .text phrase
  let e ← checked "ErrorDefinition" errorDefinition
    [("code", .text (String.ofList (Text.snakeCase phrase.toList))), ("status_code", .int code),
      ("message", message), ("name", .text phrase), ("retryable", .bool (isRetryable code))]
  return errors ++ [{ e with type }]

def errorCode? : Status → Option Int
  | .code n => if 400 ≤ n then some n else none
  | .text _ => none

/-- The errors known after a response with a code: a code from 400 on stands for an error. -/
def knownErrors (g : Graph) (errors : List ErrorDefinition) (code : Status) (response : Entries)
    (type : Option TypeRef) : Except Fault (List ErrorDefinition) :=
  match errorCode? code with
  | some n => registerError g errors n response type
  | none => .ok errors

def schemaTypeOf (w : Surroundings) (schema : Item) (name : Except Fault String) :
    Conversion (Option TypeRef) :=
  if isNull schema then return none else some <$> w.typeRef schema name

def typedResponse (w : Surroundings) (operation : Except Fault String) (status : String)
    (entries : Entries) (media : Option (Scalar × Item)) (errors : List ErrorDefinition)
    (type : Option TypeRef) : Conversion (Option Response × List ErrorDefinition) := do
  let g := w.graph
  let declared ← ofExcept (entriesOrNone g (fieldOf entries "headers"))
  let headers ← headersFrom w operation declared
  let code ← ofExcept (statusOf status)
  let errors ← ofExcept (knownErrors g errors code entries type)
  let r ← ofExcept (checked "ResponseDefinition" response
    [("status_code", code.toValue), ("description", g.value (fieldOf entries "description")),
      ("content_type", .scalar ((media.map Prod.fst).getD .null))])
  return (some { r with type, headers := if headers.isEmpty then none else some headers }, errors)

def responseOf (w : Surroundings) (operation : Except Fault String) (status : String) (raw : Item)
    (errors : List ErrorDefinition) : Conversion (Option Response × List ErrorDefinition) := do
  let g := w.graph
  match ← component? w.scope.document raw "response" with
  | none => return (none, errors)
  | some entries =>
    let media ← ofExcept (pickMedia g (fieldOf entries "content"))
    let schema ← ofExcept (mediaSchema g media)
    let type ← schemaTypeOf w schema (do return (← operation) ++ "_response_" ++ status)
    typedResponse w operation status entries media errors type

def responsesFrom (w : Surroundings) (operation : Except Fault String)
    (errors : List ErrorDefinition) : Entries → Conversion (List Response × List ErrorDefinition)
  | [] => return ([], errors)
  | (status, raw) :: rest => do
    let shownStatus ← ofExcept status.shown
    let (r?, errors) ← responseOf w operation shownStatus raw errors
    let (more, errors) ← responsesFrom w operation errors rest
    return (r?.toList ++ more, errors)

/-- The schemes that a requirement names, added to those named before. One that is not known is
left out, and a line of the log, which nothing reads, names it and the operation. -/
def addSchemes (g : Graph) (operation : Except Fault String) (schemes sofar : List String) :
    List Item → Except Fault (List String)
  | [] => .ok sofar
  | item :: rest =>
    if !isKey g item then misuse .kind
    else
      match item.text?.filter schemes.contains with
      | some id => addSchemes g operation schemes (if sofar.contains id then sofar else sofar ++ [id]) rest
      | none => do
        let _ ← operation
        let _ ← shown g item
        addSchemes g operation schemes sofar rest

def authenticationOf (g : Graph) (operation : Except Fault String) (schemes sofar : List String) :
    List Item → Except Fault (List String)
  | [] => .ok sofar
  | requirement :: rest => do
    let named ← itemsOrNone g requirement
    authenticationOf g operation schemes (← addSchemes g operation schemes sofar named) rest

def partMentionsStream (g : Graph) (item : Item) : Except Fault Bool :=
  match item with
  | .scalar (.text s) => .ok (Text.mentionsStream s)
  | .scalar (.bytes b) => if b.isEmpty then .ok false else misuse .kind
  | other => if g.truthy other then misuse .part else .ok false

def streamingOf (g : Graph) (operation : Entries) : Except Fault Bool := do
  if ← partMentionsStream g (fieldOf operation "description") then return true
  partMentionsStream g (fieldOf operation "summary")

def operationIdOf (g : Graph) (method : Method) (path : Scalar) (operation : Entries) :
    Except Fault Item :=
  let declared := fieldOf operation "operationId"
  if g.truthy declared then .ok declared
  else
    match path with
    | .text p => .ok (.text (Text.operationName method.name p))
    | _ => misuse .kind

def bodyOf (w : Surroundings) (operation : Except Fault String) (raw : Item) :
    Conversion (Option RequestBody) :=
  if isNull raw then return none else requestBodyOf w operation raw

def tagsOf (g : Graph) (tags : Item) : Except Fault Value :=
  if g.truthy tags then (itemsOf g tags).map fun items => .list (items.map g.value) else .ok .null

def endpointOf (w : Surroundings) (path : Scalar) (method : Method) (operation : Entries)
    (shared : Item) (errors : List ErrorDefinition) :
    Conversion (Endpoint × List ErrorDefinition) := do
  let g := w.graph
  let idItem ← ofExcept (operationIdOf g method path operation)
  let name := shown g idItem
  let outer ← ofExcept (itemsOrNone g shared)
  let inner ← ofExcept (itemsOrNone g (fieldOf operation "parameters"))
  let merged ← mergeParameters w [] (outer ++ inner)
  let parameters ← merged.mapM (parameterOf w name)
  let body ← bodyOf w name (fieldOf operation "requestBody")
  let answers ← ofExcept (entriesOrNone g (fieldOf operation "responses"))
  let (responses, errors) ← responsesFrom w name errors answers
  let security := (lookup? operation (.text "security")).getD
    (fieldOf ((g.entries? w.scope.document.root).getD []) "security")
  let requirements ← ofExcept (itemsOrNone g security)
  let authentication ← ofExcept (authenticationOf g name w.schemes [] requirements)
  let shownPath ← ofExcept path.shown
  let streaming ← ofExcept (streamingOf g operation)
  let tags ← ofExcept (tagsOf g (fieldOf operation "tags"))
  let e ← ofExcept (checked "EndpointDefinition" endpoint
    ([("id", .text (method.name ++ "_" ++ shownPath)), ("operation_id", g.value idItem),
      ("path", .scalar path), ("method", .text method.name),
      ("summary", g.value (fieldOf operation "summary")), ("tags", tags)] ++ notes g operation))
  return ({ e with
    parameters := parameters.filterMap id, requestBody := body, responses, streaming
    authentication }, errors)

def methodNamed? (name : Scalar) : Except Fault (Option Method) :=
  match name with
  | .text s =>
    let lower := Text.lowerText s
    .ok (Method.all.find? fun m => Text.lowerText m.name == lower)
  | .bytes _ => .ok none
  | _ => misuse .part

def operationsFrom (w : Surroundings) (path : Scalar) (shared : Item)
    (errors : List ErrorDefinition) : Entries → Conversion (List Endpoint × List ErrorDefinition)
  | [] => return ([], errors)
  | (name, node) :: rest => do
    match ← ofExcept (methodNamed? name), w.graph.entries? node with
    | some method, some operation =>
      let (e, errors) ← endpointOf w path method operation shared errors
      let (more, errors) ← operationsFrom w path shared errors rest
      return (e :: more, errors)
    | _, _ => operationsFrom w path shared errors rest

def endpointsFrom (w : Surroundings) (errors : List ErrorDefinition) :
    Entries → Conversion (List Endpoint × List ErrorDefinition)
  | [] => return ([], errors)
  | (path, node) :: rest => do
    match w.graph.entries? (target w.scope.document node) with
    | none => endpointsFrom w errors rest
    | some entries =>
      let (endpoints, errors) ← operationsFrom w path (fieldOf entries "parameters") errors entries
      let (more, errors) ← endpointsFrom w errors rest
      return (endpoints ++ more, errors)

end ApiSchema.OpenApi
