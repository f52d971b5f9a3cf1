import ApiSchema.Proofs.Target.History

/-!
What an answer owes to the questions before it.

Types that are named when the mapper is made have one name in every run. An array, a map or a union
that is written out gets a name only when it is met inside itself, or asked for, and then the first
free one: of two such types that ask for the same name the one that is met first has it. So a
mapping answers the same after every history in which these types have the names that they have
without it, and always if no other type may be given the name that one of them asks for.
-/

namespace ApiSchema.Mapper

variable {s : Schema} {language : Language} {custom : List (String × String)} {names later : Names}

def asked (language : Language) (d : TypeDefinition) : String :=
  Names.unreserved ⟨language.capabilities.reserved, []⟩ (wantedName d)

def MayHave (language : Language) (d : TypeDefinition) (name : String) : Prop :=
  name = asked language d ∨ ∃ k : Nat, name = asked language d ++ toString k

/-- No other type may be given the name that `d` asks for. -/
def Unrivalled (s : Schema) (language : Language) (d : TypeDefinition) : Prop :=
  ∀ e ∈ s.types, e.id ≠ d.id → ¬ MayHave language e (asked language d)

structure Suits (s : Schema) (language : Language) (id name : String) (d : TypeDefinition) : Prop where
  found : s.definition? id = some d
  may : MayHave language d name
  own : Unrivalled s language d → name = asked language d

-- An unrivalled name cannot be taken: whoever has it may have it.
theorem free_suits {id : String} {d : TypeDefinition} (found : s.definition? id = some d)
    (reserved : names.reserved = language.capabilities.reserved) (new : names.name? id = none)
    (suits : ∀ entry ∈ names.given, ∃ e, Suits s language entry.1 entry.2 e) :
    Suits s language id (names.free (names.unreserved (wantedName d))) d := by
  have wish : names.unreserved (wantedName d) = asked language d := by
    simp only [asked, Names.unreserved, reserved]
  obtain ⟨_, same⟩ := Names.free_is_least names (names.unreserved (wantedName d))
  rw [wish] at same ⊢
  obtain same | ⟨taken, k, _, same, _⟩ := same
  · exact ⟨found, .inl same, fun _ => same⟩
  · refine ⟨found, .inr ⟨k, same⟩, fun unrivalled => ?_⟩
    obtain ⟨other, held⟩ := Names.taken_iff.mp taken
    obtain ⟨e, suited⟩ := suits _ held
    obtain ⟨listed, sameId⟩ := definition_listed suited.found
    obtain ⟨_, ownId⟩ := definition_listed found
    have different : e.id ≠ d.id := by
      intro clash
      rw [sameId, ownId] at clash
      have absent := List.lookup_eq_none_iff.mp new _ held
      exact absurd clash.symm (by simpa using absent)
    exact absurd suited.may (unrivalled e listed different)

theorem naming_suits (given : Naming s names later)
    (reserved : names.reserved = language.capabilities.reserved)
    (suits : ∀ entry ∈ names.given, ∃ d, Suits s language entry.1 entry.2 d) :
    ∀ entry ∈ later.given, ∃ d, Suits s language entry.1 entry.2 d := by
  induction given with
  | none => exact suits
  | @more later id d before found ih =>
      cases known : later.name? id with
      | some name =>
          rw [Names.assign_known known]
          exact ih
      | none =>
          rw [Names.assign_new known]
          intro entry member
          obtain member | new := List.mem_append.mp member
          · exact ih entry member
          · rw [List.mem_singleton.mp new]
            have bound := (naming_within before).reserved.trans reserved
            exact ⟨d, free_suits found bound known ih⟩

theorem name_suits (history : List Request) {id name : String}
    (held : ((make s language custom).after history).names.name? id = some name) :
    ∃ d, Suits s language id name d :=
  naming_suits (made_names s language custom history) rfl (fun _ member => by cases member) _
    (Names.lookup_member held)

/-- A type that has no name when the mapper is made. -/
def Late (language : Language) (t : TypeDefinition) : Prop := isNominal language.capabilities t = false

-- A name given when the mapper is made is the same in all runs, so two names are those of a late type.
theorem late_of_differs (one two : List Request) {id n₁ n₂ : String} {d : TypeDefinition}
    (found : s.definition? id = some d)
    (first : ((make s language custom).after one).names.name? id = some n₁)
    (second : ((make s language custom).after two).names.name? id = some n₂) (different : n₁ ≠ n₂) :
    Late language d := by
  obtain ⟨listed, sameId⟩ := definition_listed found
  by_contra nominal
  obtain ⟨name, held⟩ := nominal_named custom listed (by simpa [Late] using nominal)
  rw [sameId] at held
  have same₁ := Names.within_name (naming_within (after_names _ one)) held
  have same₂ := Names.within_name (naming_within (after_names _ two)) held
  rw [first] at same₁
  rw [second] at same₂
  exact different (Option.some.inj (same₁.trans same₂.symm))

theorem unrivalled_same (one two : List Request) {id n₁ n₂ : String}
    (unrivalled : ∀ t ∈ s.types, Late language t → Unrivalled s language t)
    (first : ((make s language custom).after one).names.name? id = some n₁)
    (second : ((make s language custom).after two).names.name? id = some n₂) : n₁ = n₂ := by
  by_contra different
  obtain ⟨d, suits₁⟩ := name_suits one first
  obtain ⟨e, suits₂⟩ := name_suits two second
  have late := late_of_differs one two suits₁.found first second different
  have own := unrivalled d (definition_listed suits₁.found).1 late
  have same : d = e := Option.some.inj (suits₁.found.symm.trans suits₂.found)
  subst same
  exact different ((suits₁.own own).trans (suits₂.own own).symm)

theorem rendered_bound {m n : Mapper} (schema : n.schema = m.schema) (language : n.language = m.language)
    (custom : n.custom = m.custom) (naming : String → String) (fuel : Nat) (within : List String)
    (ref : TypeRef) (usage : Usage) :
    n.rendered naming fuel within ref usage = m.rendered naming fuel within ref usage := by
  obtain ⟨_, _, _, _⟩ := m
  obtain ⟨_, _, _, _⟩ := n
  cases schema
  cases language
  cases custom
  induction fuel generalizing within ref usage with
  | zero => rfl
  | succ fuel ih =>
      simp only [rendered, ih]
      rfl

-- The answer to a mapping that follows a history.
theorem answer_after (s : Schema) (language : Language) (custom : List (String × String))
    (history : List Request) (ref : TypeRef) (usage : Usage) (naming : String → String)
    (agrees : ((make s language custom).after (history ++ [.type ref usage])).names.Agrees naming) :
    let m := (make s language custom).after history
    (m.run (m.mapType ref usage)).1 =
      (make s language custom).rendered naming usualDepth [] ref usage := by
  intro m
  obtain ⟨schema, bound, given, depth⟩ := after_bound (make s language custom) history
  have within : m.within = [] := after_within _ history
  have last : (make s language custom).after (history ++ [.type ref usage]) =
      (m.run (m.mapType ref usage)).2 := by
    rw [after, List.foldl_append]
    rfl
  rw [last] at agrees
  obtain ⟨_, _, same⟩ := reference_follows (m := m) m.depth m.within ref usage m.toProgress rfl
  refine (same naming agrees).trans ?_
  change m.rendered naming m.depth m.within ref usage = _
  rw [rendered_bound (n := m) schema bound given, within, show m.depth = usualDepth from depth]

/-- The answer to a mapping is the same after every history in which the late types have the names
that they have without it. It is always the same if no other type may be given the name that a late
type asks for. -/
theorem mapping_after_history (s : Schema) (language : Language) (custom : List (String × String))
    (history : List Request) (ref : TypeRef) (usage : Usage) :
    let fresh := make s language custom
    let used := fresh.after history
    let first := fresh.run (fresh.mapType ref usage)
    let second := used.run (used.mapType ref usage)
    ((∀ t ∈ s.types, Late language t → ∀ n₁ n₂, first.2.names.name? t.id = some n₁ →
        second.2.names.name? t.id = some n₂ → n₁ = n₂) → second.1 = first.1) ∧
      ((∀ t ∈ s.types, Late language t → Unrivalled s language t) → second.1 = first.1) := by
  intro fresh used first second
  have last : second.2 = fresh.after (history ++ [.type ref usage]) := by
    rw [after, List.foldl_append]
    rfl
  -- One naming that agrees with both registries gives both answers.
  have alike (same : ∀ id n₁ n₂, first.2.names.name? id = some n₁ →
      second.2.names.name? id = some n₂ → n₁ = n₂) : second.1 = first.1 := by
    have one := answer_after s language custom [] ref usage
      (fun id => ((first.2.names.name? id).or (second.2.names.name? id)).getD "")
      fun id name held => by
        have held' : first.2.names.name? id = some name := held
        simp only [held', Option.some_or, Option.getD_some]
    have two := answer_after s language custom history ref usage
      (fun id => ((first.2.names.name? id).or (second.2.names.name? id)).getD "")
      fun id name held => by
        rw [← last] at held
        change ((first.2.names.name? id).or (second.2.names.name? id)).getD "" = name
        cases known : first.2.names.name? id with
        | none => rw [held]; rfl
        | some other => exact same id other name known held
    exact two.trans one.symm
  refine ⟨fun agree => alike fun id n₁ n₂ held₁ held₂ => ?_, fun unrivalled =>
    alike fun id n₁ n₂ held₁ held₂ => ?_⟩
  · rw [last] at held₂
    by_contra different
    obtain ⟨d, suited⟩ := name_suits (history ++ [.type ref usage]) held₂
    obtain ⟨listed, sameId⟩ := definition_listed suited.found
    have late := late_of_differs [.type ref usage] _ suited.found held₁ held₂ different
    rw [← sameId, ← last] at held₂
    exact different (agree d listed late n₁ n₂ (sameId ▸ held₁) held₂)
  · rw [last] at held₂
    exact unrivalled_same [.type ref usage] _ unrivalled held₁ held₂

def hollow : TypeDefinition :=
  { id := "type_0", name := "Node", shape := .object [] [] (some (.allowed false)) none }

def lone : Schema := { metadata := sampleMetadata, types := [hollow, endless "type_1"] }

theorem lone_unrivalled : ∀ t ∈ lone.types, Late .python t → Unrivalled lone .python t := by
  have node : asked .python hollow = "Node" := by decide +kernel
  have array : asked .python (endless "type_1") = "Rec" := by decide +kernel
  intro t listed late
  simp only [lone, List.mem_cons, List.not_mem_nil, or_false] at listed
  obtain rfl | rfl := listed
  · cases late
  · intro e member different may
    simp only [lone, List.mem_cons, List.not_mem_nil, or_false] at member
    obtain rfl | rfl := member
    · rw [MayHave, node, array] at may
      obtain same | ⟨k, same⟩ := may
      · exact absurd same (by decide)
      · have spelled := congrArg String.toList same
        simp at spelled
    · exact different rfl

theorem lone_independent (history : List Request) :
    let fresh := make lone .python []
    let used := fresh.after history
    (used.run (used.mapType ⟨"type_1", false⟩ {})).1 =
      (fresh.run (fresh.mapType ⟨"type_1", false⟩ {})).1 :=
  (mapping_after_history lone .python [] history ⟨"type_1", false⟩ {}).2 lone_unrivalled

/-- The array that is mapped second is written with a number. -/
theorem twins_differ :
    let fresh := make twins .python []
    let used := fresh.after [.type ⟨"type_0", false⟩ {}]
    (twins.types.map (·.id)).Nodup ∧
      (fresh.run (fresh.mapType ⟨"type_1", false⟩ {})).1.toOption.map (·.expression) =
        some "List[Rec]" ∧
      (used.run (used.mapType ⟨"type_1", false⟩ {})).1.toOption.map (·.expression) =
        some "List[Rec2]" := by
  decide +kernel

end ApiSchema.Mapper
