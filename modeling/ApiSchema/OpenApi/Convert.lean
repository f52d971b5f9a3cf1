import ApiSchema.Frontend.Options
import ApiSchema.OpenApi.Endpoints
import ApiSchema.OpenApi.Header
import ApiSchema.OpenApi.Security

namespace ApiSchema.OpenApi

def componentName (name : Scalar) : Except Fault String :=
  match name with
  | .text s => .ok s
  | .bytes _ | .date _ | .moment _ => misuse .kind
  | _ => misuse .part

def componentReference (name : String) : String :=
  "#/components/schemas/" ++ String.ofList (Pointer.escape name.toList)

def convertComponents (convert : Convert) : Entries → Conversion Unit
  | [] => return ()
  | (key, node) :: rest => do
    let name ← ofExcept (componentName key)
    let _ ← convert [] (.node node name (some (componentReference name)) none)
    convertComponents convert rest

def serversOf (g : Graph) (root : Entries) : Except Fault (List Value) := do
  let servers ← itemsOrNone g (fieldOf root "servers")
  return servers.filterMap fun server =>
    (g.entries? server).bind fun entries =>
      let url := fieldOf entries "url"
      if g.truthy url then some (g.value url) else none

def metadataOf (g : Graph) (root : Entries) (options : FrontendOptions) : Except Fault Metadata := do
  let info ← entriesOf g (fieldOf root "info")
  let servers ← serversOf g root
  let about := ["title", "description", "termsOfService", "contact", "license"].map fun name =>
    (name, g.value (fieldOf info name))
  let extra := about ++
    (match servers with
     | [] => []
     | first :: _ => [("servers", Value.list servers), ("baseUrl", first)])
  let version ← shown g (fieldOf info "version")
  return {
    providerId := options.providerId, providerName := options.providerName
    apiVersion := version
    metadata := some (extra.filter fun (_, v) => !v.isNull) }

def insertError (e : ErrorDefinition) : List ErrorDefinition → List ErrorDefinition
  | [] => [e]
  | first :: rest =>
    if e.statusCode < first.statusCode then e :: first :: rest else first :: insertError e rest

def convert (d : Document) (options : FrontendOptions) : Conversion Schema := do
  let g := d.graph
  let root := (g.entries? d.root).getD []
  let components ← ofExcept (entriesOrNone g (fieldOf root "components"))
  convertComponents (convertNode d) (← ofExcept (entriesOrNone g (fieldOf components "schemas")))
  let schemes ← ofExcept (entriesOrNone g (fieldOf components "securitySchemes"))
  let authentication ← schemesFrom ⟨d, []⟩ schemes
  let surroundings : Surroundings := ⟨⟨d, []⟩, convertNode d, authentication.map (·.id)⟩
  let paths ← ofExcept (entriesOrNone g (fieldOf root "paths"))
  let (endpoints, errors) ← endpointsFrom surroundings [] paths
  let metadata ← ofExcept (metadataOf g root options)
  let types ← ofExcept (← get).types
  return { metadata, types, endpoints, authentication, errors := errors.foldr insertError [] }

end ApiSchema.OpenApi
