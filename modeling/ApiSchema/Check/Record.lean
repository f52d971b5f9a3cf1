import ApiSchema.Check.Scalar

namespace ApiSchema.Check

def record (title : String) (v : Value) : Checked (List (Scalar × Value)) :=
  match v with
  | .map pairs => .ok pairs
  | _ => .fail (.record title)

def field? (pairs : List (Scalar × Value)) (names : List String) : Option (String × Value) :=
  names.findSome? fun name => (lookup? pairs (.text name)).map (name, ·)

variable {α : Type}

def required (pairs : List (Scalar × Value)) (names : List String) (check : Check α) : Checked α :=
  match field? pairs names with
  | some (name, v) => (check v).within (.name name)
  | none => (Checked.fail .missing).within (.name (names.headD ""))

def withDefault (pairs : List (Scalar × Value)) (names : List String) (default : α)
    (check : Check α) : Checked α :=
  match field? pairs names with
  | some (name, v) => (check v).within (.name name)
  | none => .ok default

def optional (pairs : List (Scalar × Value)) (names : List String) (check : Check α) :
    Checked (Option α) :=
  withDefault pairs names none (nullable check)

/-- A field that may hold anything; a null that is given differs from an absent field. -/
def declared (pairs : List (Scalar × Value)) (name : String) : Option Value :=
  lookup? pairs (.text name)

def textKeys : List (Scalar × Value) → Checked Unit
  | [] => .ok ()
  | (key, _) :: rest =>
    (fun _ _ => ()) <$> named key <*> textKeys rest
where
  named (key : Scalar) : Checked Unit :=
    match text (.scalar key) with
    | .ok _ => .ok ()
    | .bad _ => (Checked.fail .keyText).within (Step.ofKey key)

def byTag (field : String) (kinds : List (String × Check α)) : Check α
  | .map pairs =>
    match lookup? pairs (.text field) with
    | none => .fail (.tagMissing field)
    | some (.scalar (.text tag)) =>
      match kinds.find? (·.1 == tag) with
      | some (_, check) => (check (.map pairs)).within (.name tag)
      | none => .fail (.tagUnknown tag field (kinds.map Prod.fst))
    | some other => .fail (.tagUnknown other.display field (kinds.map Prod.fst))
  | _ => .fail .tagged

end ApiSchema.Check
