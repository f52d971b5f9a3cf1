import ApiSchema.Proofs.Control.Keeps
import ApiSchema.Proofs.Target.Names
import ApiSchema.Target.Mapping

/-!
Mapping as a function of the schema and of the names of its types.

`rendered` maps a reference under a naming that is known from the start, without any state. A run of
the mapper answers what `rendered` gives under every naming that agrees with the names given by its
end, whatever names it began with; it gives names to types of the schema only, and leaves the types
being mapped as it found them, also when it fails.
-/

namespace ApiSchema

def Names.Agrees (names : Names) (naming : String → String) : Prop :=
  ∀ id name, names.name? id = some name → naming id = name

theorem Names.agrees_within {names later : Names} {naming : String → String}
    (grown : names.Within later) (agrees : later.Agrees naming) : names.Agrees naming :=
  fun id name known => agrees id name (Names.within_name grown known)

namespace Mapper

def named (m : Mapper) (naming : String → String) (id : String) : Except Fault String :=
  (m.definition id).map fun _ => naming id

def renderedDefinition (m : Mapper) (naming : String → String) (within : List String)
    (inner : TypeRef → Except Fault Mapped) (d : TypeDefinition) : Except Fault Mapped :=
  match m.customFor d with
  | some expression => .ok { expression }
  | none =>
    if within.contains d.id then (m.named naming d.id).map fun expression => { expression }
    else m.mapShape (m.named naming) inner d

def rendered (m : Mapper) (naming : String → String) :
    Nat → List String → TypeRef → Usage → Except Fault Mapped
  | 0, _, _, _ => .error (.misuse .depth)
  | fuel + 1, within, ref, usage => do
    let d ← m.definition ref.typeId
    let mapped ← m.renderedDefinition naming within
      (fun ref => m.rendered naming fuel (d.id :: within) ref { nested := true }) d
    return used m.capabilities ref.nullable usage mapped

inductive Naming (s : Schema) (names : Names) : Names → Prop where
  | none : Naming s names names
  | more {later : Names} {id : String} {d : TypeDefinition} : Naming s names later →
      s.definition? id = some d → Naming s names (later.assign id (wantedName d)).2

variable {s : Schema} {m : Mapper} {names later last : Names} {α β : Type}

theorem naming_trans (first : Naming s names later) (second : Naming s later last) :
    Naming s names last := by
  induction second with
  | none => exact first
  | more _ known ih => exact .more ih known

theorem naming_within (given : Naming s names later) : names.Within later := by
  induction given with
  | none => exact Names.within_refl names
  | more _ _ ih => exact Names.within_trans ih (Names.assign_within _ _ _)

/-- A step begun inside the types `within` answers what `value` says under the names given by its
end. -/
def Follows (m : Mapper) (within : List String) (step : Mapping α)
    (value : (String → String) → Except Fault α) : Prop :=
  ∀ p, p.within = within → (step.run.run p).2.within = within ∧
    Naming m.schema p.names (step.run.run p).2.names ∧
    ∀ naming, (step.run.run p).2.names.Agrees naming → (step.run.run p).1 = value naming

section Rules

variable {within : List String}

theorem follows_pure (a : α) : m.Follows within (pure a) fun _ => .ok a :=
  fun _ inside => ⟨inside, .none, fun _ _ => rfl⟩

theorem follows_of_except (e : Except Fault α) : m.Follows within (ofExcept e) fun _ => e := by
  cases e with
  | ok a => exact follows_pure a
  | error f => exact fun _ inside => ⟨inside, .none, fun _ _ => rfl⟩

theorem of_except_same (e : Except Fault α) : (ofExcept e : Except Fault α) = e := by
  cases e <;> rfl

theorem follows_bind {first : Mapping α} {rest : α → Mapping β}
    {value : (String → String) → Except Fault α}
    {next : α → (String → String) → Except Fault β} (begun : m.Follows within first value)
    (ended : ∀ a, m.Follows within (rest a) (next a)) :
    m.Follows within (first >>= rest) fun naming => value naming >>= fun a => next a naming := by
  intro p inside
  obtain ⟨inside₁, given₁, same₁⟩ := begun p inside
  rw [run_bind]
  generalize first.run.run p = reached at inside₁ given₁ same₁ ⊢
  rcases reached with ⟨answer, p₁⟩
  cases answer with
  | error f =>
      refine ⟨inside₁, given₁, fun naming agrees => ?_⟩
      change Except.error f = value naming >>= fun a => next a naming
      rw [← same₁ naming agrees]
      rfl
  | ok a =>
      obtain ⟨inside₂, given₂, same₂⟩ := ended a p₁ inside₁
      refine ⟨inside₂, naming_trans given₁ given₂, fun naming agrees => ?_⟩
      change ((rest a).run.run p₁).1 = value naming >>= fun a => next a naming
      rw [← same₁ naming (Names.agrees_within (naming_within given₂) agrees)]
      exact same₂ naming agrees

theorem follows_map {step : Mapping α} {value : (String → String) → Except Fault α}
    (f : α → β) (made : m.Follows within step value) :
    m.Follows within (f <$> step) fun naming => (value naming).map f := by
  have same := follows_bind made fun a => follows_pure (m := m) (f a)
  rw [bind_pure_comp] at same
  exact same

theorem follows_get {rest : Progress → Mapping α} {value : (String → String) → Except Fault α}
    (next : ∀ p, p.within = within → m.Follows within (rest p) value) :
    m.Follows within (get >>= rest) value :=
  fun p inside => next p inside p inside

theorem follows_each {step : α → Mapping β} {value : α → (String → String) → Except Fault β}
    (each : ∀ a, m.Follows within (step a) (value a)) (items : List α) :
    m.Follows within (items.mapM step) fun naming => items.mapM fun a => value a naming := by
  induction items with
  | nil => exact follows_pure []
  | cons a rest ih =>
      simp only [List.mapM_cons]
      exact follows_bind (each a) fun b => follows_bind ih fun bs => follows_pure (b :: bs)

theorem definition_found {id : String} {d : TypeDefinition} (found : m.definition id = .ok d) :
    m.schema.definition? id = some d := by
  unfold definition at found
  split at found
  next same => exact Except.ok.inj found ▸ same
  next => cases found

theorem follows_name (id : String) :
    m.Follows within (m.typeName id) fun naming => m.named naming id := by
  unfold named
  cases found : m.definition id with
  | error f =>
      intro p inside
      have stopped : (m.typeName id).run.run p = (.error f, p) := by
        simp only [typeName, found]
        rfl
      rw [stopped]
      exact ⟨inside, .none, fun _ _ => rfl⟩
  | ok d =>
      intro p inside
      have given : (m.typeName id).run.run p =
          (.ok (p.names.assign id (wantedName d)).1,
            { p with names := (p.names.assign id (wantedName d)).2 }) := by
        simp only [typeName, found]
        rfl
      rw [given]
      refine ⟨inside, .more .none (definition_found found), fun naming agrees => ?_⟩
      simp only [Except.map, agrees id _ (Names.assign_name p.names id (wantedName d))]

theorem run_enclosed (id : String) (step : Mapping α) (p : Progress) :
    (enclosed id step).run.run p =
      ((step.run.run (p.enter id)).1, (step.run.run (p.enter id)).2.leave) := rfl

theorem follows_enclosed {id : String} {step : Mapping α}
    {value : (String → String) → Except Fault α} (made : m.Follows (id :: within) step value) :
    m.Follows within (enclosed id step) value := by
  intro p inside
  rw [run_enclosed]
  obtain ⟨inside', given, same⟩ := made (p.enter id) (by rw [← inside]; rfl)
  exact ⟨by simp only [Progress.leave, inside', List.tail_cons], given, same⟩

theorem follows_shape {inner : TypeRef → Mapping Mapped}
    {value : TypeRef → (String → String) → Except Fault Mapped}
    (each : ∀ ref, m.Follows within (inner ref) (value ref)) (d : TypeDefinition) :
    m.Follows within (m.mapShape m.typeName inner d) fun naming =>
      m.mapShape (m.named naming) (fun ref => value ref naming) d := by
  unfold mapShape
  cases d.shape with
  | primitive kind constraints => exact follows_pure _
  | «enum» values kind =>
      simp only [of_except_same]
      exact follows_bind (follows_name d.id) fun name => follows_of_except _
  | array items => exact follows_map _ (each items)
  | object properties required additional discriminator =>
      by_cases stub : d.isPlaceholder
      · simp only [if_pos stub]
        exact follows_pure _
      · simp only [if_neg stub]
        split
        · exact follows_map _ (follows_name d.id)
        · split
          · exact follows_map _ (each _)
          · exact follows_pure _
  | union variants discriminator mapping =>
      refine follows_bind (follows_each each variants) fun made => ?_
      split
      · exact follows_pure _
      · exact follows_map _ (follows_name d.id)

theorem follows_definition {inner : TypeRef → Mapping Mapped} {d : TypeDefinition}
    {value : TypeRef → (String → String) → Except Fault Mapped}
    (each : ∀ ref, m.Follows (d.id :: within) (inner ref) (value ref)) :
    m.Follows within (m.mapDefinition inner d) fun naming =>
      m.renderedDefinition naming within (fun ref => value ref naming) d := by
  unfold mapDefinition renderedDefinition
  cases m.customFor d with
  | some expression => exact follows_pure _
  | none =>
      refine follows_get fun p inside => ?_
      rw [inside]
      split
      · exact follows_map _ (follows_name d.id)
      · exact follows_enclosed (follows_shape each d)

-- Induction on the fuel, for all types that may be around the reference.
theorem reference_follows (fuel : Nat) (within : List String) (ref : TypeRef) (usage : Usage) :
    m.Follows within (m.mapReference fuel ref usage) fun naming =>
      m.rendered naming fuel within ref usage := by
  induction fuel generalizing within ref usage with
  | zero => exact follows_of_except (.error (.misuse .depth))
  | succ fuel ih =>
      refine follows_bind (follows_of_except (m.definition ref.typeId)) fun d => ?_
      refine follows_bind (follows_definition fun ref => ih (d.id :: within) ref { nested := true })
        fun mapped => ?_
      exact follows_pure _

end Rules

end Mapper

end ApiSchema
