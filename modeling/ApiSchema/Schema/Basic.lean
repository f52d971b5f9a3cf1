import ApiSchema.Value.Basic

/-!
The canonical schema: one description of an API, whatever document it was read from.

Types never contain each other. A property, an item, a variant, a parameter, a body and a response
hold a `TypeRef`, whose id names an entry of the schema's type list.
-/

namespace ApiSchema

abbrev Fields := List (String × Value)

instance : BEq Value := ⟨Value.same⟩

inductive PrimitiveKind where
  | string
  | integer
  | float
  | boolean
  | null
deriving DecidableEq, Repr

inductive Method where
  | get
  | post
  | put
  | patch
  | delete
  | head
  | options
deriving DecidableEq, Repr

inductive Location where
  | path
  | query
  | header
  | cookie
deriving DecidableEq, Repr

inductive FlowKind where
  | authorizationCode
  | clientCredentials
  | implicit
  | password
deriving DecidableEq, Repr

inductive EnumKind where
  | string
  | number
deriving DecidableEq, Repr

structure TypeRef where
  typeId : String
  nullable : Bool := false
deriving DecidableEq, Repr

inductive Literal where
  | text (s : String)
  | int (n : Int)
  | float (x : Binary64)
deriving DecidableEq

def Literal.toScalar : Literal → Scalar
  | text s => .text s
  | int n => .int n
  | float x => .float x

instance : BEq Literal := ⟨fun a b => a.toScalar.same b.toScalar⟩

def Literal.isText : Literal → Bool
  | text _ => true
  | _ => false

/-- An exclusive bound: a flag on the plain bound, or a bound of its own. -/
inductive Bound where
  | flag (b : Bool)
  | number (x : Binary64)
deriving DecidableEq

instance : BEq Bound := ⟨fun a b =>
  match a, b with
  | .flag x, .flag y => x == y
  | .number x, .number y => x.same y
  | .flag x, .number y | .number y, .flag x => y.equalsInt (if x then 1 else 0)⟩

structure Constraints where
  minLength : Option Int := none
  maxLength : Option Int := none
  pattern : Option String := none
  format : Option String := none
  minimum : Option Binary64 := none
  maximum : Option Binary64 := none
  exclusiveMinimum : Option Bound := none
  exclusiveMaximum : Option Bound := none
  multipleOf : Option Binary64 := none
  enum : Option (List Literal) := none
deriving BEq

def Constraints.isEmpty (c : Constraints) : Bool :=
  c.minLength.isNone && c.maxLength.isNone && c.pattern.isNone && c.format.isNone &&
    c.minimum.isNone && c.maximum.isNone && c.exclusiveMinimum.isNone &&
    c.exclusiveMaximum.isNone && c.multipleOf.isNone && c.enum.isNone

structure Property where
  name : String
  type : TypeRef
  required : Bool
  description : Option String := none
  constraints : Option Constraints := none
  deprecated : Option Bool := none
  metadata : Option Fields := none
  /-- What is declared as default; a declared null differs from none. -/
  default : Option Value := none
deriving BEq

inductive Additional where
  | type (ref : TypeRef)
  | allowed (b : Bool)
deriving DecidableEq, Repr

structure EnumValue where
  value : Literal
  name : String
  description : Option String := none
  deprecated : Option Bool := none
deriving BEq

inductive Shape where
  | primitive (kind : PrimitiveKind) (constraints : Option Constraints)
  | object (properties : List Property) (required : List String) (additional : Option Additional)
      (discriminator : Option String)
  | array (items : TypeRef) (minItems maxItems : Option Int) (uniqueItems : Option Bool)
  | union (variants : List TypeRef) (discriminator : Option String)
      (mapping : Option (List (String × String)))
  | enum (values : List EnumValue) (kind : EnumKind)
deriving BEq

structure TypeDefinition where
  id : String
  name : String
  description : Option String := none
  deprecated : Option Bool := none
  deprecationMessage : Option String := none
  metadata : Option Fields := none
  shape : Shape
deriving BEq

structure Parameter where
  name : String
  location : Location
  type : TypeRef
  required : Bool := false
  description : Option String := none
  deprecated : Option Bool := none
  default : Option Value := none
deriving BEq

structure RequestBody where
  type : TypeRef
  required : Bool := false
  contentType : String := "application/json"
  description : Option String := none
deriving BEq

structure Header where
  name : String
  type : TypeRef
  required : Bool := false
  description : Option String := none
deriving BEq

inductive Status where
  | code (n : Int)
  | text (s : String)
deriving DecidableEq, Repr

structure Response where
  status : Status
  type : Option TypeRef := none
  description : Option String := none
  headers : Option (List Header) := none
  contentType : Option String := none
deriving BEq

structure RateLimit where
  requests : Int
  windowSeconds : Int
  scope : Option String := none
deriving BEq

structure Endpoint where
  id : String
  operationId : String
  path : String
  method : Method
  summary : Option String := none
  description : Option String := none
  parameters : List Parameter := []
  requestBody : Option RequestBody := none
  responses : List Response := []
  streaming : Bool := false
  authentication : List String := []
  rateLimit : Option RateLimit := none
  tags : Option (List String) := none
  deprecated : Option Bool := none
  metadata : Option Fields := none
deriving BEq

structure Flow where
  kind : FlowKind
  authorizationUrl : Option String := none
  tokenUrl : Option String := none
  refreshUrl : Option String := none
  scopes : Option (List (String × String)) := none
deriving BEq

inductive AuthKind where
  | apiKey (location : Location) (name : String)
  | bearer (scheme : String) (format : Option String)
  | oauth2 (flows : List Flow)
  | basic
deriving BEq

structure AuthScheme where
  id : String
  kind : AuthKind
  description : Option String := none
deriving BEq

structure ErrorDefinition where
  code : String
  statusCode : Int
  message : String
  name : Option String := none
  description : Option String := none
  type : Option TypeRef := none
  retryable : Option Bool := none
deriving BEq

structure Metadata where
  version : String := "1.0.0"
  providerId : String
  providerName : String
  apiVersion : String
  generatedAt : Option Moment := none
  metadata : Option Fields := none
deriving BEq

structure Schema where
  metadata : Metadata
  types : List TypeDefinition := []
  endpoints : List Endpoint := []
  authentication : List AuthScheme := []
  errors : List ErrorDefinition := []
  config : Option Fields := none
deriving BEq

def PrimitiveKind.name : PrimitiveKind → String
  | string => "string"
  | integer => "integer"
  | float => "float"
  | boolean => "boolean"
  | null => "null"

def PrimitiveKind.all : List PrimitiveKind := [.string, .integer, .float, .boolean, .null]

def Method.name : Method → String
  | get => "GET"
  | post => "POST"
  | put => "PUT"
  | patch => "PATCH"
  | delete => "DELETE"
  | head => "HEAD"
  | options => "OPTIONS"

def Method.all : List Method := [.get, .post, .put, .patch, .delete, .head, .options]

def Location.name : Location → String
  | path => "path"
  | query => "query"
  | header => "header"
  | cookie => "cookie"

def Location.all : List Location := [.path, .query, .header, .cookie]

def FlowKind.name : FlowKind → String
  | authorizationCode => "authorizationCode"
  | clientCredentials => "clientCredentials"
  | implicit => "implicit"
  | password => "password"

def FlowKind.all : List FlowKind := [.authorizationCode, .clientCredentials, .implicit, .password]

def EnumKind.name : EnumKind → String
  | string => "string"
  | number => "number"

namespace Shape

def kind : Shape → String
  | primitive .. => "primitive"
  | object .. => "object"
  | array .. => "array"
  | union .. => "union"
  | enum .. => "enum"

def properties : Shape → List Property
  | object properties .. => properties
  | _ => []

end Shape

def TypeDefinition.isPlaceholder (t : TypeDefinition) : Bool :=
  match t.metadata.bind (·.lookup "placeholder") with
  | some v => v.truthy
  | none => false

namespace Schema

def type? (s : Schema) (id : String) : Option TypeDefinition := s.types.find? (·.id == id)

def typesNamed (s : Schema) (name : String) : List TypeDefinition := s.types.filter (·.name == name)

def endpoint? (s : Schema) (operationId : String) : Option Endpoint :=
  s.endpoints.find? (·.operationId == operationId)

def authScheme? (s : Schema) (id : String) : Option AuthScheme :=
  s.authentication.find? (·.id == id)

/-- The last type with an id: what an index of the types by id holds. -/
def definition? (s : Schema) (id : String) : Option TypeDefinition :=
  s.types.reverse.find? (·.id == id)

def index (s : Schema) : List (String × TypeDefinition) :=
  (s.types.map (·.id)).eraseDups.filterMap fun id => (s.definition? id).map (id, ·)

end Schema

def Shape.property? (shape : Shape) (name : String) : Option Property :=
  shape.properties.find? (·.name == name)

def addName (names : List String) (name : String) : List String :=
  if names.contains name then names else names ++ [name]

def requiredNames (properties : List Property) (declared : List String) : List String :=
  (properties.filter (·.required)).foldl (fun names p => addName names p.name)
    (declared.foldl addName [])

/-- An object whose required list and property flags agree: a name is required if it is declared
so or a property of that name is marked so. -/
def Shape.reconciled (properties : List Property) (declared : List String)
    (additional : Option Additional) (discriminator : Option String) : Shape :=
  let names := requiredNames properties declared
  .object (properties.map fun p => { p with required := names.contains p.name }) names
    additional discriminator

end ApiSchema
