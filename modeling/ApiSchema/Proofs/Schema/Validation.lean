import ApiSchema.Proofs.Schema.Closed
import ApiSchema.Proofs.Schema.Positions
import ApiSchema.Schema.Validation

namespace ApiSchema

def Shape.requires : Shape → String → Bool
  | .object _ required _ _, name => required.contains name
  | _, _ => false

namespace Schema

def typeIds (s : Schema) : List String := s.types.map (·.id)

def schemeIds (s : Schema) : List String := s.authentication.map (·.id)

structure WellFormed (s : Schema) : Prop where
  ids : s.typeIds.Nodup
  types : ∀ place ref, s.ref? place = some ref → ref.typeId ∈ s.typeIds
  schemes : ∀ e ∈ s.endpoints, ∀ id ∈ e.authentication, id ∈ s.schemeIds
  operations : (s.endpoints.map (·.operationId)).Nodup
  routes : (s.endpoints.map fun e => (e.method, e.path)).Nodup
  flags : ∀ t ∈ s.types, t.shape.FlagsAgree

def Reports {α : Type} (s : Schema) (code : String) (holds : α → Prop) (say : α → Defect) : Prop :=
  Tells (s.defects.filter (·.code == code)) holds say

end Schema

inductive Clash where
  | operation
  | route

def Clash.Between : Clash → Endpoint → Endpoint → Prop
  | operation, e, o => o.operationId = e.operationId
  | route, e, o => o.method = e.method ∧ o.path = e.path

def Clash.defect (n : Nat) (e : Endpoint) : Clash → Defect
  | operation => .duplicateOperation n e.operationId
  | route => .duplicateRoute n e.method e.path

namespace Schema

variable {s : Schema}

theorem nodup_erase_dups {α : Type} [BEq α] [LawfulBEq α] (values : List α) : values.eraseDups.Nodup := by
  induction bound : values.length using Nat.strongRecOn generalizing values with
  | ind n ih =>
      cases values with
      | nil => simp
      | cons first rest =>
          rw [List.eraseDups_cons, List.nodup_cons]
          constructor
          · simp [List.mem_eraseDups]
          · have shorter := List.length_filter_le (fun v => !v == first) rest
            refine ih _ ?_ _ rfl
            rw [← bound, List.length_cons]
            omega

theorem duplicates_told (s : Schema) : Tells s.duplicateTypes (fun id => 1 < s.typeIds.count id)
    fun id => .duplicateType id (s.typeIds.count id) := by
  have distinct : Tells s.typeIds.eraseDups (fun id => id ∈ s.typeIds) id :=
    ⟨s.typeIds.eraseDups, nodup_erase_dups _, fun _ => List.mem_eraseDups, (List.map_id _).symm⟩
  change Tells (s.typeIds.eraseDups.filterMap fun id =>
    if 1 < s.typeIds.count id then some (Defect.duplicateType id (s.typeIds.count id)) else none) _ _
  have picked := tells_some distinct (fun id => decide (1 < s.typeIds.count id))
    (fun id => Defect.duplicateType id (s.typeIds.count id)) fun id => by
      simp only [decide_eq_true_eq]
      rfl
  apply tells_imp picked
  intro id
  constructor
  · intro many
    exact ⟨List.count_pos_iff.mp (by omega), by simpa using many⟩
  · rintro ⟨-, many⟩
    simpa using many

theorem dangling_told (s : Schema) :
    Tells s.danglingTypes
      (fun (held : Position × TypeRef) => s.ref? held.1 = some held.2 ∧ held.2.typeId ∉ s.typeIds)
      fun held => .danglingType ⟨held.1.text, held.2⟩ := by
  have filtered := tells_map (tells_filter (schema_sited s) fun site => !s.typeIds.contains site.ref.typeId)
    Defect.danglingType
  apply tells_imp filtered
  intro held
  simp

theorem schemes_told (s : Schema) :
    Tells s.unknownSchemes
      (fun (at_ : (Endpoint × Nat) × (String × Nat)) => s.endpoints[at_.1.2]? = some at_.1.1 ∧
        at_.1.1.authentication[at_.2.2]? = some at_.2.1 ∧ at_.2.1 ∉ s.schemeIds)
      fun at_ => .unknownScheme at_.1.2 at_.2.2 at_.2.1 := by
  have each (entry : Endpoint × Nat) := tells_unless (tells_numbered entry.1.authentication id)
    (fun told => s.schemeIds.contains told.1) fun told => Defect.unknownScheme entry.2 told.2 told.1
  simp only [List.map_id] at each
  apply tells_imp (tells_each each)
  intro at_
  simp

def clashes (earlier : List Endpoint) (entry : Endpoint × Nat) : List Defect :=
  (if earlier.any (·.operationId == entry.1.operationId) then
    [.duplicateOperation entry.2 entry.1.operationId]
   else []) ++
    if earlier.any fun o => o.method == entry.1.method && o.path == entry.1.path then
      [.duplicateRoute entry.2 entry.1.method entry.1.path]
    else []

theorem clashes_told (earlier : List Endpoint) (entry : Endpoint × Nat) :
    Tells (clashes earlier entry) (fun clash => ∃ o ∈ earlier, Clash.Between clash entry.1 o)
      (Clash.defect entry.2 entry.1) := by
  have one (clash : Clash) (d : Defect) (test : Bool) (said : d = clash.defect entry.2 entry.1) :
      Tells (if test then [d] else []) (fun c => c = clash ∧ test = true) (Clash.defect entry.2 entry.1) := by
    cases test with
    | true => exact tells_imp (tells_one clash said) fun c => by simp
    | false => exact tells_nothing fun c => by simp
  apply tells_imp (tells_append (one .operation _ _ rfl) (one .route _ _ rfl) ?_)
  · rintro (_ | _) <;> simp [Clash.Between]
  · rintro clash ⟨rfl, -⟩ ⟨other, -⟩
    cases other

-- The endpoints before one are those seen, in whatever order.
theorem duplicates_from {all rest : List Endpoint} (seen : List Endpoint) (split : seen.reverse ++ rest = all) :
    duplicateEndpointsFrom seen.length seen rest =
      (rest.zipIdx seen.length).flatMap fun entry => clashes (all.take entry.2) entry := by
  induction rest generalizing seen with
  | nil => rfl
  | cons e rest ih =>
      have before : all.take seen.length = seen.reverse := by
        rw [← split, ← List.length_reverse, List.take_left']
        rfl
      have onward := ih (e :: seen) (by simpa using split)
      rw [duplicateEndpointsFrom, List.zipIdx_cons, List.flatMap_cons, ← List.length_cons, onward]
      simp only [clashes, before, List.any_reverse]

theorem clashes_reported (s : Schema) :
    Tells s.duplicateEndpoints
      (fun (at_ : (Endpoint × Nat) × Clash) => s.endpoints[at_.1.2]? = some at_.1.1 ∧
        ∃ o ∈ s.endpoints.take at_.1.2, at_.2.Between at_.1.1 o)
      fun at_ => at_.2.defect at_.1.2 at_.1.1 := by
  rw [duplicateEndpoints]
  have listed : duplicateEndpointsFrom 0 [] s.endpoints = _ := duplicates_from [] rfl
  rw [listed]
  exact tells_each fun entry => clashes_told (s.endpoints.take entry.2) entry

theorem flags_told (s : Schema) :
    Tells s.requiredMismatches
      (fun (at_ : (TypeDefinition × Nat) × (Property × Nat)) => s.types[at_.1.2]? = some at_.1.1 ∧
        at_.1.1.shape.properties[at_.2.2]? = some at_.2.1 ∧
        at_.2.1.required ≠ at_.1.1.shape.requires at_.2.1.name)
      fun at_ => .requiredMismatch at_.1.2 at_.2.2 at_.2.1.name at_.1.1.name at_.2.1.required := by
  have listed : s.requiredMismatches = (numbered s.types).flatMap fun entry =>
      (numbered entry.1.shape.properties).filterMap fun told =>
        if told.1.required == entry.1.shape.requires told.1.name then none
        else some (.requiredMismatch entry.2 told.2 told.1.name entry.1.name told.1.required) := by
    apply List.flatMap_congr
    intro entry _
    cases shape : entry.1.shape <;> simp [shape, Shape.properties, Shape.requires, numbered]
  have each (entry : TypeDefinition × Nat) :
      Tells ((numbered entry.1.shape.properties).filterMap fun told =>
          if told.1.required == entry.1.shape.requires told.1.name then none
          else some (Defect.requiredMismatch entry.2 told.2 told.1.name entry.1.name told.1.required))
        (fun (at_ : Property × Nat) => entry.1.shape.properties[at_.2]? = some at_.1 ∧
          at_.1.required ≠ entry.1.shape.requires at_.1.name)
        (fun at_ => .requiredMismatch entry.2 at_.2 at_.1.name entry.1.name at_.1.required) := by
    have picked := tells_unless (tells_numbered entry.1.shape.properties id)
      (fun told => told.1.required == entry.1.shape.requires told.1.name)
      fun told => Defect.requiredMismatch entry.2 told.2 told.1.name entry.1.name told.1.required
    rw [List.map_id] at picked
    apply tells_imp picked
    intro at_
    simp
  rw [listed]
  exact tells_each each

theorem coded {α : Type} {told : List Defect} {holds : α → Prop} {say : α → Defect} {code : String}
    (tells : Tells told holds say) (same : ∀ a, (say a).code = code) (wanted : String) :
    told.filter (·.code == wanted) = if code = wanted then told else [] := by
  obtain ⟨all, -, -, rfl⟩ := tells
  by_cases own : code = wanted
  · rw [if_pos own, List.filter_eq_self]
    intro d member
    obtain ⟨a, -, rfl⟩ := List.mem_map.mp member
    simp [same, own]
  · rw [if_neg own, List.filter_eq_nil_iff]
    intro d member
    obtain ⟨a, -, rfl⟩ := List.mem_map.mp member
    simp [same, own]

theorem filter_defects (s : Schema) (wanted : String) : s.defects.filter (·.code == wanted) =
    (if "duplicate_type_id" = wanted then s.duplicateTypes else []) ++
      (if "invalid_type_reference" = wanted then s.danglingTypes else []) ++
      (if "invalid_auth_reference" = wanted then s.unknownSchemes else []) ++
      (if "duplicate_endpoint" = wanted then s.duplicateEndpoints else []) ++
      (if "required_mismatch" = wanted then s.requiredMismatches else []) := by
  rw [defects]
  simp only [List.filter_append]
  rw [coded (duplicates_told s) (fun _ => rfl), coded (dangling_told s) (fun _ => rfl),
    coded (schemes_told s) (fun _ => rfl), coded (clashes_reported s) (fun at_ => by cases at_.2 <;> rfl),
    coded (flags_told s) (fun _ => rfl)]

-- Items whose values differ from those of all items before them.
theorem nodup_map_iff {α β : Type} {items : List α} {value : α → β} :
    (items.map value).Nodup ↔ ∀ n a, items[n]? = some a → ∀ b ∈ items.take n, value b ≠ value a := by
  rw [List.Nodup, List.pairwise_map, List.pairwise_iff_getElem]
  constructor
  · intro apart n a listed b before
    obtain ⟨k, bound, rfl⟩ := List.mem_take_iff_getElem.mp before
    obtain ⟨inside, rfl⟩ := List.getElem?_eq_some_iff.mp listed
    exact apart k n _ inside (by omega)
  · intro apart k n first second less
    apply apart n items[n] (List.getElem?_eq_getElem second)
    exact List.mem_take_iff_getElem.mpr ⟨k, by omega, rfl⟩

theorem flags_agree_iff (shape : Shape) :
    shape.FlagsAgree ↔ ∀ p ∈ shape.properties, p.required = shape.requires p.name := by
  cases shape with
  | object => rfl
  | _ => simp [Shape.FlagsAgree, Shape.properties]

theorem duplicates_empty (s : Schema) : s.duplicateEndpoints = [] ↔ (s.endpoints.map (·.operationId)).Nodup ∧
    (s.endpoints.map fun e => (e.method, e.path)).Nodup := by
  rw [tells_empty (clashes_reported s)]
  constructor
  · intro apart
    constructor
    · exact nodup_map_iff.mpr fun n e there o before same =>
        apart ((e, n), .operation) ⟨there, o, before, same⟩
    · refine nodup_map_iff.mpr fun n e there o before same => apart ((e, n), .route) ⟨there, o, before, ?_⟩
      exact ⟨congrArg Prod.fst same, congrArg Prod.snd same⟩
  · rintro ⟨operations, routes⟩ ⟨⟨e, n⟩, clash⟩ ⟨there, o, before, same⟩
    cases clash with
    | operation => exact nodup_map_iff.mp operations n e there o before same
    | route => exact nodup_map_iff.mp routes n e there o before (Prod.ext same.1 same.2)

theorem defects_empty (s : Schema) : s.defects = [] ↔ s.WellFormed := by
  rw [defects]
  simp only [List.append_eq_nil_iff, tells_empty (duplicates_told s), tells_empty (dangling_told s),
    tells_empty (schemes_told s), duplicates_empty, tells_empty (flags_told s)]
  constructor
  · rintro ⟨⟨⟨⟨once, known⟩, named⟩, operations, routes⟩, agree⟩
    refine ⟨?_, fun place ref held => ?_, fun e listed id asked => ?_, operations, routes,
      fun t listed => ?_⟩
    · exact List.nodup_iff_count_le_one.mpr fun id => Nat.le_of_not_lt (once id)
    · by_contra unknown
      exact known (place, ref) ⟨held, unknown⟩
    · obtain ⟨n, there⟩ := List.mem_iff_getElem?.mp listed
      obtain ⟨k, here⟩ := List.mem_iff_getElem?.mp asked
      by_contra unknown
      exact named ((e, n), (id, k)) ⟨there, here, unknown⟩
    · refine (flags_agree_iff t.shape).mpr fun p member => ?_
      obtain ⟨n, there⟩ := List.mem_iff_getElem?.mp listed
      obtain ⟨k, here⟩ := List.mem_iff_getElem?.mp member
      by_contra differs
      exact agree ((t, n), (p, k)) ⟨there, here, differs⟩
  · intro formed
    refine ⟨⟨⟨⟨fun id many => ?_, ?_⟩, ?_⟩, formed.operations, formed.routes⟩, ?_⟩
    · have once := List.nodup_iff_count_le_one.mp formed.ids id
      omega
    · rintro ⟨place, ref⟩ ⟨held, unknown⟩
      exact unknown (formed.types place ref held)
    · rintro ⟨⟨e, n⟩, id, k⟩ ⟨there, here, unknown⟩
      exact unknown (formed.schemes e (List.mem_of_getElem? there) id (List.mem_of_getElem? here))
    · rintro ⟨⟨t, n⟩, p, k⟩ ⟨there, here, differs⟩
      have agrees := (flags_agree_iff t.shape).mp (formed.flags t (List.mem_of_getElem? there))
      exact differs (agrees p (List.mem_of_getElem? here))

/-- What validation reports, code by code. -/
theorem validation_exact (s : Schema) :
    (s.defects = [] ↔ s.WellFormed) ∧
    s.Reports "duplicate_type_id" (fun id => 1 < s.typeIds.count id)
      (fun id => .duplicateType id (s.typeIds.count id)) ∧
    s.Reports "invalid_type_reference"
      (fun (at_ : Position × TypeRef) => s.ref? at_.1 = some at_.2 ∧ at_.2.typeId ∉ s.typeIds)
      (fun at_ => .danglingType ⟨at_.1.text, at_.2⟩) ∧
    s.Reports "invalid_auth_reference"
      (fun (at_ : (Endpoint × Nat) × (String × Nat)) => s.endpoints[at_.1.2]? = some at_.1.1 ∧
        at_.1.1.authentication[at_.2.2]? = some at_.2.1 ∧ at_.2.1 ∉ s.schemeIds)
      (fun at_ => .unknownScheme at_.1.2 at_.2.2 at_.2.1) ∧
    s.Reports "duplicate_endpoint"
      (fun (at_ : (Endpoint × Nat) × Clash) => s.endpoints[at_.1.2]? = some at_.1.1 ∧
        ∃ o ∈ s.endpoints.take at_.1.2, at_.2.Between at_.1.1 o)
      (fun at_ => at_.2.defect at_.1.2 at_.1.1) ∧
    s.Reports "required_mismatch"
      (fun (at_ : (TypeDefinition × Nat) × (Property × Nat)) => s.types[at_.1.2]? = some at_.1.1 ∧
        at_.1.1.shape.properties[at_.2.2]? = some at_.2.1 ∧
        at_.2.1.required ≠ at_.1.1.shape.requires at_.2.1.name)
      (fun at_ => .requiredMismatch at_.1.2 at_.2.2 at_.2.1.name at_.1.1.name at_.2.1.required) := by
  refine ⟨defects_empty s, ?_, ?_, ?_, ?_, ?_⟩
  all_goals
    unfold Reports
    rw [filter_defects]
    simp only [String.reduceEq, if_true, if_false, List.nil_append, List.append_nil]
  · exact duplicates_told s
  · exact dangling_told s
  · exact schemes_told s
  · exact clashes_reported s
  · exact flags_told s

end Schema

def Shape.remapped (mapping : Option (List (String × String))) : Shape → Shape
  | .union variants discriminator _ => .union variants discriminator mapping
  | other => other

theorem remapped_sites (base : String) (mapping : Option (List (String × String))) (shape : Shape) :
    (shape.remapped mapping).sites base = shape.sites base := by
  cases shape <;> rfl

namespace Schema

/-- The schema with other mappings in its unions. -/
def remapped (s : Schema) (mapping : TypeDefinition → Option (List (String × String))) : Schema :=
  { s with types := s.types.map fun t => { t with shape := t.shape.remapped (mapping t) } }

variable {s : Schema}

-- No check looks at the mapping of a union.
theorem remapped_defects (s : Schema) (mapping : TypeDefinition → Option (List (String × String))) :
    (s.remapped mapping).defects = s.defects := by
  have ids : (s.remapped mapping).types.map (·.id) = s.types.map (·.id) := by
    rw [remapped, List.map_map]
    rfl
  have sites : (s.remapped mapping).sites = s.sites := by
    simp only [Schema.sites, remapped, numbered, List.zipIdx_map, List.flatMap_map, Prod.map, id_eq,
      remapped_sites]
  have flags : (s.remapped mapping).requiredMismatches = s.requiredMismatches := by
    simp only [requiredMismatches, remapped, numbered, List.zipIdx_map, List.flatMap_map]
    apply List.flatMap_congr
    rintro ⟨t, n⟩ -
    cases shape : t.shape <;> simp [Shape.remapped, shape]
  simp only [defects, duplicateTypes, danglingTypes, ids, sites, flags]
  rfl

/-- A schema that passes holds ids of its own types in all references, but its mappings may hold any. -/
theorem valid_closed_iff (valid : s.defects = []) :
    (∀ place ref, s.ref? place = some ref → ref.typeId ∈ s.typeIds) ∧
    ((∀ id ∈ s.heldIds, id ∈ s.typeIds) ↔ ∀ t ∈ s.types, ∀ id ∈ t.shape.mappedIds, id ∈ s.typeIds) ∧
    ∀ mapping, (s.remapped mapping).defects = [] := by
  have formed := (defects_empty s).mp valid
  refine ⟨formed.types, ?_, fun mapping => (remapped_defects s mapping).trans valid⟩
  constructor
  · intro closed t listed id mapped
    exact closed id (List.mem_append_right _ (List.mem_flatMap.mpr ⟨t, listed, mapped⟩))
  · intro mappings id held
    rcases List.mem_append.mp held with inside | inside
    · obtain ⟨site, listed, rfl⟩ := List.mem_map.mp inside
      obtain ⟨place, found⟩ := site_position listed
      exact formed.types place site.ref found
    · obtain ⟨t, listed, mapped⟩ := List.mem_flatMap.mp inside
      exact mappings t listed id mapped

def pets (cat : String) : Schema where
  metadata := { providerId := "p", providerName := "P", apiVersion := "1" }
  types :=
    [{ id := "type_0", name := "Pet"
       shape := .union [⟨"type_1", false⟩] (some "kind") (some [("cat", cat)]) },
     { id := "type_1", name := "Cat", shape := .object [] [] none none }]

theorem pets_closed : (pets "type_1").defects = [] ∧
    ∀ t ∈ (pets "type_1").types, ∀ id ∈ t.shape.mappedIds, id ∈ (pets "type_1").typeIds := by
  have valid : (pets "type_1").defects = [] := by decide +kernel
  refine ⟨valid, (valid_closed_iff valid).2.1.mp ?_⟩
  decide +kernel

theorem pets_stray : (pets "type_9").defects = [] ∧ "type_9" ∈ (pets "type_9").heldIds ∧
    "type_9" ∉ (pets "type_9").typeIds := by
  decide +kernel

end Schema

end ApiSchema
