import ApiSchema.Proofs.Target.History
import ApiSchema.Target.Catalog
import Mathlib.Logic.Relation

namespace ApiSchema

def Schema.Inward (s : Schema) (outer inner : String) : Prop :=
  ∃ t, s.definition? outer = some t ∧ ∃ ref ∈ t.followed, ref.typeId = inner

def Schema.Recurs (s : Schema) (id : String) : Prop := Relation.TransGen s.Inward id id

namespace Mapper

def Nameable (m : Mapper) (t : TypeDefinition) : Prop :=
  isNominal m.capabilities t = true ∨ Catalog.isListed t = true ∨
    m.schema.definition? t.id = some t ∧ m.schema.Recurs t.id

def Reasoned (m : Mapper) (names : Names) : Prop :=
  ∀ entry ∈ names.given, ∃ t ∈ m.schema.types, t.id = entry.1 ∧ m.Nameable t

def inside (m : Mapper) (within : List String) (faults : Fault → Prop) : Regime Progress Fault where
  holds p := p.within = within ∧ m.Reasoned p.names
  grows p q := p.names.Within q.names
  faults := faults
  refl p := Names.within_refl p.names
  trans := Names.within_trans

variable {m : Mapper} {within : List String} {bad : Fault → Prop} {start : Progress} {α : Type}

theorem reasoned_assign {names : Names} (reasoned : m.Reasoned names) {d : TypeDefinition}
    (listed : d ∈ m.schema.types) (why : m.Nameable d) (wanted : String) :
    m.Reasoned (names.assign d.id wanted).2 := by
  cases known : names.name? d.id with
  | some name =>
      rw [Names.assign_known known]
      exact reasoned
  | none =>
      rw [Names.assign_new known]
      intro entry member
      obtain old | new := List.mem_append.mp member
      · exact reasoned entry old
      · rw [List.mem_singleton.mp new]
        exact ⟨d, listed, rfl, why⟩

theorem keeps_name {id : String} (known : FailsOnly bad (m.definition id))
    (why : ∃ t ∈ m.schema.types, t.id = id ∧ m.Nameable t) :
    (m.inside within bad).Keeps start (m.typeName id) fun name p => p.names.name? id = some name := by
  intro p ⟨around, reasoned⟩ _
  cases found : m.definition id with
  | error f =>
      have stopped : (m.typeName id).run.run p = (.error f, p) := by
        simp only [typeName, found]
        rfl
      rw [stopped]
      exact ⟨⟨around, reasoned⟩, Names.within_refl p.names, known f found⟩
  | ok d =>
      have given : (m.typeName id).run.run p =
          (.ok (p.names.assign id (wantedName d)).1,
            { p with names := (p.names.assign id (wantedName d)).2 }) := by
        simp only [typeName, found]
        rfl
      obtain ⟨t, listed, rfl, nameable⟩ := why
      rw [given]
      exact ⟨⟨around, reasoned_assign reasoned listed nameable (wantedName d)⟩,
        Names.assign_within p.names t.id (wantedName d), Names.assign_name p.names t.id (wantedName d)⟩

theorem keeps_enclosed {id : String} {step : Mapping α}
    (kept : (m.inside (id :: within) bad).Keeps start step fun _ _ => True) :
    (m.inside within bad).Keeps start (enclosed id step) fun _ _ => True := by
  intro p ⟨around, reasoned⟩ later
  obtain ⟨⟨around', reasoned'⟩, grown, outcome⟩ :=
    kept (p.enter id) ⟨by rw [← around]; rfl, reasoned⟩ later
  rw [run_enclosed]
  refine ⟨⟨by simp only [Progress.leave, around', List.tail_cons], reasoned'⟩, grown, ?_⟩
  generalize step.run.run (p.enter id) = reached at outcome ⊢
  rcases reached with ⟨answer, q⟩
  cases answer with
  | error f => exact outcome
  | ok a => trivial

-- A shape that asks for the name of its own type is nominal in the language.
theorem keeps_shape {d : TypeDefinition} {inner : TypeRef → Mapping Mapped}
    (listed : d ∈ m.schema.types)
    (each : ∀ ref ∈ d.followed, ∀ p,
      (m.inside within fun _ => True).Keeps p (inner ref) fun _ _ => True) :
    (m.inside within fun _ => True).Keeps start (m.mapShape m.typeName inner d) fun _ _ => True := by
  have name (nominal : isNominal m.capabilities d = true) (p : Progress) :
      (m.inside within fun _ => True).Keeps p (m.typeName d.id) fun _ _ => True :=
    Regime.keeps_weaken (keeps_name (fun _ _ => trivial) ⟨d, listed, rfl, .inl nominal⟩)
      fun _ _ _ _ => trivial
  unfold mapShape
  cases same : d.shape with
  | primitive kind constraints => exact Regime.keeps_pure fun _ _ => trivial
  | «enum» values kind =>
      refine Regime.keeps_bind (name (by simp [isNominal, same]) _) fun own p _ _ => ?_
      exact Regime.keeps_of_except (fun _ _ => trivial) fun _ _ _ _ => trivial
  | array items => exact Regime.keeps_map (each items (by simp [TypeDefinition.followed, same, Shape.inward]) _)
  | object properties required additional discriminator =>
      by_cases stub : d.isPlaceholder
      · simp only [if_pos stub]
        exact Regime.keeps_pure fun _ _ => trivial
      · simp only [if_neg stub]
        by_cases free : isFreeForm (.object properties required additional discriminator)
        · simp only [free, Bool.not_true, Bool.false_eq_true, if_false]
          split
          next _ held =>
            have followed : held ∈ d.followed := by
              simp [TypeDefinition.followed, same, stub, free, Shape.inward]
            exact Regime.keeps_map (each held followed _)
          · exact Regime.keeps_pure fun _ _ => trivial
        · simp only [free, Bool.not_false, if_true]
          exact Regime.keeps_map (name (by simpa [isNominal, same, stub] using free) _)
  | union variants discriminator mapping =>
      have parts : (m.inside within fun _ => True).Keeps start (variants.mapM inner)
          fun made _ => List.Forall₂ (fun _ _ => True) variants made := by
        refine Regime.keeps_each variants (fun _ _ _ _ _ _ => trivial) fun ref p _ member => each ref ?_ p
        simpa [TypeDefinition.followed, same, Shape.inward] using member
      refine Regime.keeps_bind (Regime.keeps_weaken parts fun _ _ _ _ => trivial) fun _ p _ _ => ?_
      by_cases inline : m.capabilities.unionStrategy = .inline
      · simp only [if_pos inline]
        exact Regime.keeps_pure fun _ _ => trivial
      · simp only [if_neg inline]
        exact Regime.keeps_map (name (by simp [isNominal, same, inline]) _)

-- Induction on the fuel; every type around the reference leads to it.
theorem reference_reasoned (fuel : Nat) (ref : TypeRef) (usage : Usage)
    (around : ∀ id ∈ within, Relation.TransGen m.schema.Inward id ref.typeId) :
    (m.inside within fun _ => True).Keeps start (m.mapReference fuel ref usage) fun _ _ => True := by
  induction fuel generalizing within ref usage start with
  | zero => exact Regime.keeps_throw trivial
  | succ fuel ih =>
      have known : (m.inside within fun _ => True).Keeps start (ofExcept (m.definition ref.typeId))
          fun d _ => m.definition ref.typeId = .ok d :=
        Regime.keeps_of_except (fun _ _ => trivial) fun _ _ _ same => same
      refine Regime.keeps_bind known fun d p _ found => ?_
      have defined := definition_found found
      obtain ⟨listed, same⟩ := definition_listed defined
      suffices mapped : (m.inside within fun _ => True).Keeps p
          (m.mapDefinition (fun ref => m.mapReference fuel ref { nested := true }) d) fun _ _ => True from
        Regime.keeps_bind mapped fun _ _ _ _ => Regime.keeps_pure fun _ _ => trivial
      unfold mapDefinition
      cases m.customFor d with
      | some expression => exact Regime.keeps_pure fun _ _ => trivial
      | none =>
          refine Regime.keeps_get fun q sound later => ?_
          rw [sound.1]
          by_cases met : within.contains d.id = true
          · simp only [if_pos met]
            have back : m.schema.Recurs d.id := by
              have led := around d.id (by simpa using met)
              rw [← same] at led
              exact led
            have why : ∃ t ∈ m.schema.types, t.id = d.id ∧ m.Nameable t :=
              ⟨d, listed, rfl, .inr (.inr ⟨same ▸ defined, back⟩)⟩
            exact Regime.keeps_map (Regime.keeps_weaken (keeps_name (fun _ _ => trivial) why)
              fun _ _ _ _ => trivial)
          · simp only [if_neg met]
            refine keeps_enclosed (keeps_shape listed fun inner member r => ?_)
            -- `inner` is one step inward of the type that has just been entered.
            have step : m.schema.Inward ref.typeId inner.typeId := ⟨d, defined, inner, member, rfl⟩
            refine ih inner _ fun id outer => ?_
            obtain rfl | outer := List.mem_cons.mp outer
            · exact same ▸ .single step
            · exact .tail (around id outer) step

theorem made_reasoned (s : Schema) (language : Language) (custom : List (String × String)) :
    (make s language custom).Reasoned (make s language custom).names := by
  have each (ts : List TypeDefinition) (names : Names)
      (nominal : ∀ t ∈ ts, t ∈ s.types ∧ isNominal language.capabilities t = true)
      (reasoned : (make s language custom).Reasoned names) :
      (make s language custom).Reasoned (ts.foldl (fun names t =>
        (names.assign t.id (wantedName ((s.definition? t.id).getD t))).2) names) := by
    induction ts generalizing names with
    | nil => exact reasoned
    | cons t rest ih =>
        obtain ⟨listed, why⟩ := nominal t (by simp)
        exact ih _ (fun t member => nominal t (by simp [member]))
          (reasoned_assign reasoned listed (.inl why) _)
  exact each _ _ (fun t member => List.mem_filter.mp member) fun _ member => by cases member

end Mapper

end ApiSchema
