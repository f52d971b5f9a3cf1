import ApiSchema.Fault
import ApiSchema.Schema.Dump
import ApiSchema.Schema.Decode

/-!
Objects made of finished properties and names declared required.

The names come from a document and may be anything; the object takes texts, and bytes that spell
one. The flags of the properties are set by the names as they are given.
-/

namespace ApiSchema

mutual

def Value.isKey : Value → Bool
  | .scalar _ => true
  | .pair a b => a.isKey && b.isKey
  | _ => false

end

def addDistinct (values : List Value) (v : Value) : List Value :=
  if values.any v.same then values else values ++ [v]

def requiredValues (properties : List Property) (required : List Value) : List Value :=
  (required ++ (properties.filter (·.required)).map fun p => Value.text p.name).foldl addDistinct []

def Property.markedBy (names : List Value) (p : Property) : Property :=
  { p with required := names.any (Value.text p.name).same }

def objectOf (id name : Value) (properties : List Property) (required : List Value)
    (rest : List (Scalar × Value)) : Except Fault TypeDefinition :=
  if !required.all Value.isKey then .error (.misuse .kind)
  else
    let names := requiredValues properties required
    let record := field "id" id ++ field "name" name ++ field "required" (.list names) ++ rest
    match objectType (.map record) with
    | .bad issues => .error (.rejected ⟨"ObjectType", issues, false⟩)
    | .ok t =>
      match t.shape with
      | .object _ texts additional discriminator =>
        .ok { t with shape := .object (properties.map (·.markedBy names)) texts additional discriminator }
      | _ => .ok t

end ApiSchema
