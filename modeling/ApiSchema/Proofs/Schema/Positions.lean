import ApiSchema.Proofs.Control.Listing

namespace ApiSchema

inductive TypePart where
  | property (n : Nat)
  | additional
  | items
  | variant (n : Nat)
deriving DecidableEq

inductive ResponsePart where
  | type
  | header (n : Nat)
deriving DecidableEq

inductive EndpointPart where
  | parameter (n : Nat)
  | body
  | response (n : Nat) (part : ResponsePart)
deriving DecidableEq

inductive Position where
  | type (n : Nat) (part : TypePart)
  | endpoint (n : Nat) (part : EndpointPart)
  | error (n : Nat)
deriving DecidableEq

def TypePart.text (base : String) : TypePart → String
  | property n => indexed (base ++ ".properties") n ++ ".type"
  | additional => base ++ ".additionalProperties"
  | items => base ++ ".items"
  | variant n => indexed (base ++ ".variants") n

def ResponsePart.text (base : String) : ResponsePart → String
  | type => base ++ ".type"
  | header n => indexed (base ++ ".headers") n ++ ".type"

def EndpointPart.text (base : String) : EndpointPart → String
  | parameter n => indexed (base ++ ".parameters") n ++ ".type"
  | body => base ++ ".requestBody.type"
  | response n part => part.text (indexed (base ++ ".responses") n)

def Position.text : Position → String
  | type n part => part.text (indexed "types" n)
  | endpoint n part => part.text (indexed "endpoints" n)
  | error n => indexed "errors" n ++ ".type"

def Additional.ref? : Additional → Option TypeRef
  | type ref => some ref
  | allowed _ => none

def Shape.ref? : Shape → TypePart → Option TypeRef
  | .object properties _ _ _, .property n => (properties[n]?).map (·.type)
  | .object _ _ additional _, .additional => additional.bind Additional.ref?
  | .array items _ _ _, .items => some items
  | .union variants _ _, .variant n => variants[n]?
  | _, _ => none

def Response.ref? (r : Response) : ResponsePart → Option TypeRef
  | .type => r.type
  | .header n => ((r.headers.getD [])[n]?).map (·.type)

def Endpoint.ref? (e : Endpoint) : EndpointPart → Option TypeRef
  | .parameter n => (e.parameters[n]?).map (·.type)
  | .body => e.requestBody.map (·.type)
  | .response n part => (e.responses[n]?).bind (·.ref? part)

def Schema.ref? (s : Schema) : Position → Option TypeRef
  | .type n part => (s.types[n]?).bind (·.shape.ref? part)
  | .endpoint n part => (s.endpoints[n]?).bind (·.ref? part)
  | .error n => (s.errors[n]?).bind (·.type)

def Sited {P : Type} (sites : List Site) (ref? : P → Option TypeRef) (text : P → String) : Prop :=
  Tells sites (fun (held : P × TypeRef) => ref? held.1 = some held.2) fun held => ⟨text held.1, held.2⟩

section Sited

variable {P Q : Type} {sites sites' : List Site} {ref? : P → Option TypeRef} {text : P → String}
  {inner : Q → Option TypeRef} {place : Q → String}

-- Items of a list that hold one reference each.
theorem sited_list {α : Type} (items : List α) (type : α → TypeRef) (place : Nat → String) :
    Sited ((numbered items).map fun entry => ⟨place entry.2, type entry.1⟩)
      (fun n => (items[n]?).map type) place := by
  apply tells_of (tells_numbered items _) fun entry => (entry.2, type entry.1)
  · intro entry _
    rfl
  · rintro ⟨a, m⟩ ⟨b, n⟩ first second same
    cases congrArg Prod.fst same
    exact Prod.ext (Option.some.inj (first.symm.trans second)) rfl
  · rintro ⟨n, ref⟩
    constructor
    · intro held
      obtain ⟨a, listed, rfl⟩ := Option.map_eq_some_iff.mp held
      exact ⟨(a, n), listed, rfl⟩
    · rintro ⟨⟨a, n⟩, listed, same⟩
      cases same
      exact Option.map_eq_some_iff.mpr ⟨a, listed, rfl⟩

theorem sited_option (held : Option TypeRef) (path : String) :
    Sited (held.map (Site.mk path)).toList (fun _ : Unit => held) fun _ => path := by
  cases held with
  | none => exact tells_nothing fun _ => nofun
  | some ref =>
      have told : Tells [Site.mk path ref] (fun c => c = ((), ref))
          fun (held : Unit × TypeRef) => ⟨path, held.2⟩ := tells_one ((), ref) rfl
      apply tells_imp told
      simp [Prod.ext_iff, eq_comm]

theorem sited_none (never : ∀ part, ref? part = none) : Sited [] ref? text := by
  apply tells_nothing
  rintro ⟨part, ref⟩ held
  rw [never part] at held
  cases held

-- The same references, at other positions that are written alike.
theorem sited_along (tells : Sited sites inner place) (stand : Q → P)
    (same : ∀ q, place q = text (stand q)) (distinct : Function.Injective stand)
    (onto : ∀ part ref, ref? part = some ref ↔ ∃ q, inner q = some ref ∧ stand q = part) :
    Sited sites ref? text := by
  apply tells_of tells fun held => (stand held.1, held.2)
  · intro held _
    rw [same]
  · intro held other _ _ equal
    obtain ⟨part, ref⟩ := Prod.ext_iff.mp equal
    exact Prod.ext (distinct part) ref
  · rintro ⟨part, ref⟩
    rw [onto]
    simp [Prod.ext_iff]

theorem sited_append (one : Sited sites ref? text) (two : Sited sites' inner place) :
    Sited (sites ++ sites') (Sum.elim ref? inner) (Sum.elim text place) := by
  have left : Tells sites (fun (held : (P ⊕ Q) × TypeRef) => ∃ p, ref? p = some held.2 ∧ Sum.inl p = held.1)
      fun held => ⟨Sum.elim text place held.1, held.2⟩ := by
    apply tells_of one fun held => (Sum.inl held.1, held.2)
    · exact fun _ _ => rfl
    · intro a b _ _ same
      simpa [Prod.ext_iff] using same
    · simp [Prod.ext_iff]
  have right : Tells sites' (fun (held : (P ⊕ Q) × TypeRef) => ∃ q, inner q = some held.2 ∧ Sum.inr q = held.1)
      fun held => ⟨Sum.elim text place held.1, held.2⟩ := by
    apply tells_of two fun held => (Sum.inr held.1, held.2)
    · exact fun _ _ => rfl
    · intro a b _ _ same
      simpa [Prod.ext_iff] using same
    · simp [Prod.ext_iff]
  apply tells_imp (tells_append left right ?_)
  · rintro ⟨part | part, ref⟩ <;> simp
  · rintro ⟨part | part, ref⟩ <;> simp

-- The references of each item of a list.
theorem sited_each {α : Type} {each : α × Nat → List Site} (items : List α)
    (inner : α → Q → Option TypeRef) (place : Nat → Q → String)
    (sited : ∀ entry, Sited (each entry) (inner entry.1) (place entry.2)) :
    Sited ((numbered items).flatMap each) (fun (at_ : Nat × Q) => (items[at_.1]?).bind (inner · at_.2))
      fun at_ => place at_.1 at_.2 := by
  apply tells_of (tells_each sited) fun told => ((told.1.2, told.2.1), told.2.2)
  · intro told _
    rfl
  · rintro ⟨⟨a, m⟩, p, ref⟩ ⟨⟨b, n⟩, q, ref'⟩ ⟨first, -⟩ ⟨second, -⟩ equal
    cases equal
    cases Option.some.inj (first.symm.trans second)
    rfl
  · rintro ⟨⟨n, q⟩, ref⟩
    constructor
    · intro held
      obtain ⟨a, listed, held⟩ := Option.bind_eq_some_iff.mp held
      exact ⟨((a, n), q, ref), ⟨listed, held⟩, rfl⟩
    · rintro ⟨⟨⟨a, n⟩, q, ref'⟩, ⟨listed, held⟩, equal⟩
      cases equal
      exact Option.bind_eq_some_iff.mpr ⟨a, listed, held⟩

end Sited

theorem shape_sited (base : String) (shape : Shape) :
    Sited (shape.sites base) shape.ref? (TypePart.text base) := by
  cases shape with
  | primitive => exact sited_none fun part => by cases part <;> rfl
  | «enum» => exact sited_none fun part => by cases part <;> rfl
  | array items =>
      apply sited_along (sited_option (some items) (base ++ ".items")) fun _ => TypePart.items
      · exact fun _ => rfl
      · exact fun _ _ _ => rfl
      · rintro (_ | _ | _ | _) ref <;> simp [Shape.ref?]
  | union variants =>
      apply sited_along (sited_list variants id _) TypePart.variant
      · exact fun _ => rfl
      · exact fun _ _ => TypePart.variant.inj
      · rintro (_ | _ | _ | _) ref <;> simp [Shape.ref?]
  | object properties names additional discriminator =>
      have listed : (Shape.object properties names additional discriminator).sites base =
          (numbered properties).map (fun entry =>
            ⟨indexed (base ++ ".properties") entry.2 ++ ".type", entry.1.type⟩) ++
          ((additional.bind Additional.ref?).map (Site.mk (base ++ ".additionalProperties"))).toList := by
        rcases additional with _ | _ | _ <;> rfl
      rw [listed]
      apply sited_along (sited_append (sited_list properties (·.type) fun n => indexed (base ++ ".properties") n ++ ".type")
          (sited_option _ _))
        (Sum.elim TypePart.property fun _ => .additional)
      · rintro (_ | _) <;> rfl
      · rintro (_ | _) (_ | _) <;> simp
      · rintro (_ | _ | _ | _) ref <;> simp [Shape.ref?, Sum.exists]

theorem response_sited (base : String) (r : Response) :
    Sited (r.sites base) r.ref? (ResponsePart.text base) := by
  have listed : r.sites base = (r.type.map (Site.mk (base ++ ".type"))).toList ++
      (numbered (r.headers.getD [])).map (fun entry =>
        ⟨indexed (base ++ ".headers") entry.2 ++ ".type", entry.1.type⟩) := by
    unfold Response.sites
    cases r.type <;> rfl
  rw [listed]
  apply sited_along (sited_append (sited_option _ _) (sited_list (r.headers.getD []) (·.type) fun n =>
      indexed (base ++ ".headers") n ++ ".type"))
    (Sum.elim (fun _ => ResponsePart.type) .header)
  · rintro (_ | _) <;> rfl
  · rintro (_ | _) (_ | _) <;> simp
  · rintro (_ | _) ref <;> simp [Response.ref?, Sum.exists]

theorem endpoint_sited (base : String) (e : Endpoint) :
    Sited (e.sites base) e.ref? (EndpointPart.text base) := by
  have listed : e.sites base =
      (numbered e.parameters).map (fun entry =>
        ⟨indexed (base ++ ".parameters") entry.2 ++ ".type", entry.1.type⟩) ++
      ((e.requestBody.map (·.type)).map (Site.mk (base ++ ".requestBody.type"))).toList ++
      (numbered e.responses).flatMap fun entry => entry.1.sites (indexed (base ++ ".responses") entry.2) := by
    unfold Endpoint.sites
    cases e.requestBody <;> rfl
  rw [listed]
  have asked := sited_list e.parameters (·.type) fun n => indexed (base ++ ".parameters") n ++ ".type"
  have answered := sited_each e.responses Response.ref?
    (fun n => ResponsePart.text (indexed (base ++ ".responses") n)) fun entry => response_sited _ entry.1
  apply sited_along (sited_append (sited_append asked (sited_option _ _)) answered)
    (Sum.elim (Sum.elim EndpointPart.parameter fun _ => .body) fun at_ => .response at_.1 at_.2)
  · rintro ((_ | _) | _) <;> rfl
  · rintro ((_ | _) | _) ((_ | _) | _) <;> simp [Prod.ext_iff]
  · rintro (_ | _ | _) ref <;> simp [Endpoint.ref?, Sum.exists]

theorem error_sited (base : String) (e : ErrorDefinition) :
    Sited (e.sites base) (fun _ : Unit => e.type) (fun _ => base ++ ".type") := by
  have listed : e.sites base = (e.type.map (Site.mk (base ++ ".type"))).toList := by
    unfold ErrorDefinition.sites
    cases e.type <;> rfl
  rw [listed]
  exact sited_option e.type _

theorem schema_sited (s : Schema) : Sited s.sites s.ref? Position.text := by
  have types := sited_each s.types (fun t => t.shape.ref?) (fun n => TypePart.text (indexed "types" n))
    fun entry => shape_sited _ entry.1.shape
  have endpoints := sited_each s.endpoints Endpoint.ref?
    (fun n => EndpointPart.text (indexed "endpoints" n)) fun entry => endpoint_sited _ entry.1
  have errors := sited_each s.errors (fun e (_ : Unit) => e.type)
    (fun n (_ : Unit) => indexed "errors" n ++ ".type") fun entry => error_sited _ entry.1
  apply sited_along (sited_append (sited_append types endpoints) errors)
    (Sum.elim (Sum.elim (fun at_ => Position.type at_.1 at_.2) fun at_ => .endpoint at_.1 at_.2)
      fun at_ => .error at_.1)
  · rintro ((_ | _) | _) <;> rfl
  · rintro ((_ | _) | _) ((_ | _) | _) <;> simp [Prod.ext_iff]
  · rintro (_ | _ | _) ref <;> simp [Schema.ref?, Sum.exists]

theorem site_position {s : Schema} {site : Site} (listed : site ∈ s.sites) :
    ∃ place, s.ref? place = some site.ref := by
  obtain ⟨all, -, members, same⟩ := schema_sited s
  rw [same] at listed
  obtain ⟨held, member, rfl⟩ := List.mem_map.mp listed
  exact ⟨held.1, (members held).mp member⟩

end ApiSchema
