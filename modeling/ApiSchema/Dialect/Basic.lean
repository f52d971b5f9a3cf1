import ApiSchema.Schema.Basic

/-!
The compact dialect: types, endpoints and errors of one API, written by name.

A type is given by a name or defined where it is used. Every definition and every parameter has a
number of its own, so two definitions of one name stay apart.
-/

namespace ApiSchema.Dialect

structure DialectValue where
  value : Literal
  description : Option String

structure Field where
  name : String
  description : Option String
  required : Option Bool
  default : Option Value

structure About where
  number : Nat
  name : String
  kind : String
  description : Option String
  required : Option (List String)
  values : Option (List DialectValue)
  primitiveType : Option String
  deprecated : Option Bool
  /-- Whether properties and variants are given, even if there are none. -/
  hasProperties : Bool
  hasVariants : Bool

inductive TypeSource where
  | name (s : String)
  | definition (about : About) (properties : List (Field × TypeSource))
      (items variants : List TypeSource)

instance : Inhabited TypeSource := ⟨.name ""⟩

structure DialectParameter where
  number : Nat
  name : String
  location : Location
  type : String
  required : Option Bool
  description : Option String
  default : Option Value
  enum : Option (List Literal)

structure DialectBody where
  contentType : String
  type : TypeSource
  required : Bool
  description : Option String

structure DialectResponse where
  status : Status
  description : Option String
  contentType : Option String
  type : Option TypeSource

structure DialectEndpoint where
  id : String
  method : String
  path : String
  summary : Option String
  description : Option String
  parameters : List DialectParameter
  requestBody : Option DialectBody
  responses : List DialectResponse
  streaming : Option Bool
  requiresAuth : Option Bool
  deprecated : Option Bool
  tags : Option (List String)

structure DialectError where
  code : String
  statusCode : Int
  description : String
  type : Option String
  retryable : Option Bool

structure DialectDocument where
  version : String
  baseUrl : String
  description : Option String
  models : List Fields
  endpoints : List DialectEndpoint
  types : List TypeSource
  errors : List DialectError

mutual

def TypeSource.numbered (n : Nat) : TypeSource → Nat × TypeSource
  | .name s => (n, .name s)
  | .definition about properties items variants =>
    let (m, properties) := numberedFields (n + 1) properties
    let (m, items) := numberedSources m items
    let (m, variants) := numberedSources m variants
    (m, .definition { about with number := n } properties items variants)

def numberedFields (n : Nat) : List (Field × TypeSource) → Nat × List (Field × TypeSource)
  | [] => (n, [])
  | (field, source) :: rest =>
    let (m, source) := source.numbered n
    let (m, rest) := numberedFields m rest
    (m, (field, source) :: rest)

def numberedSources (n : Nat) : List TypeSource → Nat × List TypeSource
  | [] => (n, [])
  | source :: rest =>
    let (m, source) := source.numbered n
    let (m, rest) := numberedSources m rest
    (m, source :: rest)

end

mutual

def TypeSource.definitions : TypeSource → List TypeSource
  | .name _ => []
  | .definition about properties items variants =>
    .definition about properties items variants ::
      definitionsOfFields properties ++ definitionsOfSources items ++ definitionsOfSources variants

def definitionsOfFields : List (Field × TypeSource) → List TypeSource
  | [] => []
  | (_, source) :: rest => source.definitions ++ definitionsOfFields rest

def definitionsOfSources : List TypeSource → List TypeSource
  | [] => []
  | source :: rest => source.definitions ++ definitionsOfSources rest

end

namespace TypeSource

def inner : TypeSource → List TypeSource
  | .name _ => []
  | .definition _ properties items variants =>
    definitionsOfFields properties ++ definitionsOfSources items ++ definitionsOfSources variants

end TypeSource

def DialectBody.numbered (n : Nat) (b : DialectBody) : Nat × DialectBody :=
  let (m, type) := b.type.numbered n
  (m, { b with type })

def DialectResponse.numbered (n : Nat) (r : DialectResponse) : Nat × DialectResponse :=
  match r.type with
  | some source =>
    let (m, source) := source.numbered n
    (m, { r with type := some source })
  | none => (n, r)

def numberedList {α : Type} (number : Nat → α → Nat × α) (n : Nat) : List α → Nat × List α
  | [] => (n, [])
  | a :: rest =>
    let (m, a) := number n a
    let (m, rest) := numberedList number m rest
    (m, a :: rest)

def DialectParameter.numbered (n : Nat) (p : DialectParameter) : Nat × DialectParameter :=
  (n + 1, { p with number := n })

def DialectEndpoint.numbered (n : Nat) (e : DialectEndpoint) : Nat × DialectEndpoint :=
  let (m, parameters) := numberedList DialectParameter.numbered n e.parameters
  let (m, requestBody) := match e.requestBody with
    | some body =>
      let (m, body) := body.numbered m
      (m, some body)
    | none => (m, none)
  let (m, responses) := numberedList DialectResponse.numbered m e.responses
  (m, { e with parameters, requestBody, responses })

namespace DialectDocument

def numbered (d : DialectDocument) : DialectDocument :=
  let (m, types) := numberedSources 0 d.types
  let (_, endpoints) := numberedList DialectEndpoint.numbered m d.endpoints
  { d with types, endpoints }

/-- Every definition: those of the document itself, then those inside them, then those of the
endpoints. -/
def definitions (d : DialectDocument) : List TypeSource :=
  d.types ++ d.types.flatMap TypeSource.inner ++
    d.endpoints.flatMap fun e =>
      ((e.requestBody.map (·.type.definitions)).getD []) ++
        e.responses.flatMap fun r => (r.type.map TypeSource.definitions).getD []

end DialectDocument

end ApiSchema.Dialect
