import ApiSchema.Schema.Basic

namespace ApiSchema

structure Site where
  path : String
  ref : TypeRef
deriving DecidableEq, Repr

def indexed (base : String) (n : Nat) : String := base ++ "[" ++ toString n ++ "]"

def numbered {α : Type} (items : List α) : List (α × Nat) := items.zipIdx

def Shape.sites (base : String) : Shape → List Site
  | .object properties _ additional _ =>
    (numbered properties).map (fun (p, n) => ⟨indexed (base ++ ".properties") n ++ ".type", p.type⟩) ++
      (match additional with
       | some (.type ref) => [⟨base ++ ".additionalProperties", ref⟩]
       | _ => [])
  | .array items .. => [⟨base ++ ".items", items⟩]
  | .union variants .. => (numbered variants).map fun (v, n) => ⟨indexed (base ++ ".variants") n, v⟩
  | .primitive .. | .enum .. => []

def Response.sites (base : String) (r : Response) : List Site :=
  (match r.type with
   | some ref => [⟨base ++ ".type", ref⟩]
   | none => []) ++
    (numbered (r.headers.getD [])).map fun (h, n) => ⟨indexed (base ++ ".headers") n ++ ".type", h.type⟩

def Endpoint.sites (base : String) (e : Endpoint) : List Site :=
  (numbered e.parameters).map (fun (p, n) => ⟨indexed (base ++ ".parameters") n ++ ".type", p.type⟩) ++
    (match e.requestBody with
     | some body => [⟨base ++ ".requestBody.type", body.type⟩]
     | none => []) ++
    (numbered e.responses).flatMap fun (r, n) => r.sites (indexed (base ++ ".responses") n)

def ErrorDefinition.sites (base : String) (e : ErrorDefinition) : List Site :=
  match e.type with
  | some ref => [⟨base ++ ".type", ref⟩]
  | none => []

namespace Schema

def sites (s : Schema) : List Site :=
  (numbered s.types).flatMap (fun (t, n) => t.shape.sites (indexed "types" n)) ++
    (numbered s.endpoints).flatMap (fun (e, n) => e.sites (indexed "endpoints" n)) ++
    (numbered s.errors).flatMap fun (e, n) => e.sites (indexed "errors" n)

end Schema

end ApiSchema
