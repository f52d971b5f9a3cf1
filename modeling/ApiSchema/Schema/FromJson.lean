import ApiSchema.Json.Strict
import ApiSchema.Schema.Decode

namespace ApiSchema

open Check

def Schema.ofJson (text : String) : Except Rejection Schema :=
  match Json.Strict.read text.toList with
  | .error message => .error ⟨"CanonicalSchema", [⟨[], .json message⟩], true⟩
  | .ok v =>
    match schema v with
    | .ok s => .ok s
    | .bad issues => .error ⟨"CanonicalSchema", issues, true⟩

end ApiSchema
