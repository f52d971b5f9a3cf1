import ApiSchema.Schema.Decode
import ApiSchema.Schema.References

namespace ApiSchema

inductive Defect where
  | malformed (issue : Check.Issue)
  | duplicateType (id : String) (count : Nat)
  | danglingType (site : Site)
  | unknownScheme (endpoint entry : Nat) (id : String)
  | duplicateOperation (endpoint : Nat) (operationId : String)
  | duplicateRoute (endpoint : Nat) (method : Method) (path : String)
  | requiredMismatch (type property : Nat) (name owner : String) (flag : Bool)

namespace Defect

def path : Defect → String
  | malformed issue => issue.place
  | duplicateType .. => "types"
  | danglingType site => site.path ++ ".typeId"
  | unknownScheme endpoint entry _ => indexed (indexed "endpoints" endpoint ++ ".authentication") entry
  | duplicateOperation endpoint _ => indexed "endpoints" endpoint ++ ".operationId"
  | duplicateRoute endpoint .. => indexed "endpoints" endpoint
  | requiredMismatch type property .. =>
    indexed (indexed "types" type ++ ".properties") property ++ ".required"

def flagText (b : Bool) : String := if b then "True" else "False"

def message : Defect → String
  | malformed issue => issue.cause.message false
  | duplicateType id count => "Type id '" ++ id ++ "' is defined " ++ toString count ++ " times"
  | danglingType site => "Type '" ++ site.ref.typeId ++ "' not found"
  | unknownScheme _ _ id => "Authentication scheme '" ++ id ++ "' not found"
  | duplicateOperation _ operationId => "Duplicate operation id '" ++ operationId ++ "'"
  | duplicateRoute _ method path => "Duplicate endpoint " ++ method.name ++ " " ++ path
  | requiredMismatch _ _ name owner flag =>
    "Property '" ++ name ++ "' of '" ++ owner ++ "' has required=" ++ flagText flag ++
      " but the object says " ++ flagText (!flag)

def code : Defect → String
  | malformed issue => issue.cause.code
  | duplicateType .. => "duplicate_type_id"
  | danglingType _ => "invalid_type_reference"
  | unknownScheme .. => "invalid_auth_reference"
  | duplicateOperation .. | duplicateRoute .. => "duplicate_endpoint"
  | requiredMismatch .. => "required_mismatch"

def text (d : Defect) : String :=
  if d.path.isEmpty then d.message else d.path ++ ": " ++ d.message

end Defect

namespace Schema

def duplicateTypes (s : Schema) : List Defect :=
  let ids := s.types.map (·.id)
  ids.eraseDups.filterMap fun id =>
    let count := ids.count id
    if 1 < count then some (.duplicateType id count) else none

def danglingTypes (s : Schema) : List Defect :=
  let known := s.types.map (·.id)
  (s.sites.filter fun site => !known.contains site.ref.typeId).map .danglingType

def unknownSchemes (s : Schema) : List Defect :=
  let known := s.authentication.map (·.id)
  (numbered s.endpoints).flatMap fun (e, n) =>
    (numbered e.authentication).filterMap fun (id, k) =>
      if known.contains id then none else some (.unknownScheme n k id)

def duplicateEndpointsFrom (n : Nat) (seen : List Endpoint) : List Endpoint → List Defect
  | [] => []
  | e :: rest =>
    (if seen.any (·.operationId == e.operationId) then [.duplicateOperation n e.operationId]
     else []) ++
      (if seen.any fun o => o.method == e.method && o.path == e.path then
        [.duplicateRoute n e.method e.path]
       else []) ++
      duplicateEndpointsFrom (n + 1) (e :: seen) rest

def duplicateEndpoints (s : Schema) : List Defect := duplicateEndpointsFrom 0 [] s.endpoints

def requiredMismatches (s : Schema) : List Defect :=
  (numbered s.types).flatMap fun (t, n) =>
    match t.shape with
    | .object properties required _ _ =>
      (numbered properties).filterMap fun (p, k) =>
        if p.required == required.contains p.name then none
        else some (.requiredMismatch n k p.name t.name p.required)
    | _ => []

def defects (s : Schema) : List Defect :=
  s.duplicateTypes ++ s.danglingTypes ++ s.unknownSchemes ++ s.duplicateEndpoints ++
    s.requiredMismatches

end Schema

def defectsOf (v : Value) : List Defect :=
  match Schema.ofValue v with
  | .ok s => s.defects
  | .error rejection => rejection.issues.map .malformed

end ApiSchema
