import ApiSchema.Dialect.Convert
import ApiSchema.Frontend.Parse
import ApiSchema.OpenApi.Convert

namespace ApiSchema

namespace Frontend

def openApi : Frontend where
  id := "openapi"
  name := "OpenAPI"
  problems := fun document => OpenApi.headerErrors (document.upTo OpenApi.headerDepth)
  convert := OpenApi.convert

def dialect : Frontend where
  id := "anthropic"
  name := "Anthropic"
  problems := fun document => Dialect.documentErrors document.value
  convert := fun document options => do
    match Dialect.DialectDocument.ofValue document.value with
    | .ok d => Dialect.convert d options
    | .error rejection => throw (.rejected rejection)

end Frontend

structure Registry where
  entries : List (String × Frontend) :=
    [(Frontend.openApi.id, Frontend.openApi), (Frontend.dialect.id, Frontend.dialect)]

namespace Registry

def fallbackId : String := Frontend.openApi.id

def get? (r : Registry) (id : String) : Option Frontend := r.entries.lookup id

def register (r : Registry) (id : String) (f : Frontend) : Registry :=
  if (r.get? id).isSome then
    ⟨r.entries.map fun entry => if entry.1 == id then (id, f) else entry⟩
  else ⟨r.entries ++ [(id, f)]⟩

def available (r : Registry) : List String :=
  (r.entries.map (·.1)).mergeSort (fun a b => decide (a ≤ b))

def unregister (r : Registry) (id : String) : Except Fault Registry :=
  if (r.get? id).isSome then .ok ⟨r.entries.filter (·.1 != id)⟩
  else .error (.provider id r.available)

/-- The frontend for a provider, with the options to use it under. The name shown is the given
one, else that of the frontend, or the id with a capital where the provider is unknown. -/
def select (r : Registry) (id : String) (name : Option String) :
    Except Fault (Frontend × FrontendOptions) := do
  let (frontend, ownName) ← match r.get? id with
    | some f => pure (f, f.name)
    | none =>
      match r.get? fallbackId with
      | some f => pure (f, String.ofList (Text.capitalized id.toList))
      | none => throw (.misuse .key)
  let providerName := match name with
    | some given => if given.isEmpty then ownName else given
    | none => ownName
  return (frontend, { providerId := id, providerName })

def parse (r : Registry) (s : Surround) (source : DocumentSource) (provider : String)
    (name : Option String) (adjust : FrontendOptions → FrontendOptions) : Except Fault Outcome :=
  (r.select provider name).map fun (frontend, options) =>
    frontend.parse (adjust options) s source

end Registry

end ApiSchema
