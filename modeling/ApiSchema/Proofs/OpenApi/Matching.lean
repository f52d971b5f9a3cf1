import ApiSchema.Proofs.Control.InStep
import ApiSchema.Proofs.Conversion.Resolver
import ApiSchema.OpenApi.Node

/-!
Conversions that differ in constraints and warnings alone.

Two contexts match if the one has what the other has and more warnings, all of one sort, and their types
are the same as far as one looks at constraints: `see` is what is seen of them. The steps of the resolver
keep contexts matched.
-/

namespace ApiSchema

/-- A list with others put in here and there. -/
inductive Padded {α : Type} (extra : α → Prop) : List α → List α → Prop
  | nil : Padded extra [] []
  | same {xs ys : List α} (a : α) (rest : Padded extra xs ys) : Padded extra (a :: xs) (a :: ys)
  | more {xs ys : List α} {a : α} (held : extra a) (rest : Padded extra xs ys) : Padded extra xs (a :: ys)

section Padded

variable {α : Type} {extra : α → Prop} {xs ys xs' ys' : List α}

theorem padded_refl (xs : List α) : Padded extra xs xs := by
  induction xs with
  | nil => exact .nil
  | cons a rest ih => exact .same a ih

theorem padded_append (first : Padded extra xs ys) (second : Padded extra xs' ys') :
    Padded extra (xs ++ xs') (ys ++ ys') := by
  induction first with
  | nil => exact second
  | same a _ ih => exact .same a ih
  | more held _ ih => exact .more held ih

end Padded

section Seen

variable (see : Option Constraints → Option Constraints)

def Property.seen (p : Property) : Property := { p with constraints := see p.constraints }

def Shape.seen : Shape → Shape
  | .primitive kind limits => .primitive kind (see limits)
  | .object properties required additional discriminator =>
    .object (properties.map (·.seen see)) required additional discriminator
  | other => other

def TypeDefinition.seen (t : TypeDefinition) : TypeDefinition := { t with shape := t.shape.seen see }

def Schema.seen (s : Schema) : Schema := { s with types := s.types.map (·.seen see) }

theorem property_whole (p : Property) : p.seen id = p := rfl

theorem type_whole (t : TypeDefinition) : t.seen id = t := by
  obtain ⟨_, _, _, _, _, _, shape⟩ := t
  cases shape <;> simp [TypeDefinition.seen, Shape.seen, property_whole]

theorem schema_whole (s : Schema) : s.seen id = s := by
  simp only [Schema.seen, type_whole, List.map_id']

end Seen

structure Matched (see : Option Constraints → Option Constraints) (extra : String → Prop)
    (c c' : Context) : Prop where
  references : c'.references = c.references
  identities : c'.identities = c.identities
  pointers : c'.pointers = c.pointers
  errors : c'.errors = c.errors
  issues : c'.issues = c.issues
  warnings : Padded extra c.warnings c'.warnings
  slots : c'.slots.map (Option.map (·.seen see)) = c.slots.map (Option.map (·.seen see))

section Matched

variable {see : Option Constraints → Option Constraints} {extra : String → Prop} {c c' : Context}

theorem matched_empty : Matched see extra {} {} := ⟨rfl, rfl, rfl, rfl, rfl, .nil, rfl⟩

theorem matched_count (matched : Matched see extra c c') : c'.typeCount = c.typeCount := by
  simpa [Context.typeCount] using congrArg List.length matched.slots

theorem matched_lookup (matched : Matched see extra c c') (key : Key) : c'.lookup? key = c.lookup? key := by
  simp only [Context.lookup?, matched.references, matched.identities, matched.pointers]

theorem matched_warn (matched : Matched see extra c c') (message : String) :
    Matched see extra (c.warn message) (c'.warn message) :=
  { matched with warnings := padded_append matched.warnings (padded_refl [message]) }

theorem matched_record (matched : Matched see extra c c') (issue : NodeIssue) :
    Matched see extra (c.record issue) (c'.record issue) := by
  have issues : c'.issues ++ [issue] = c.issues ++ [issue] := by rw [matched.issues]
  have errors : c'.errors ++ [issue.message] = c.errors ++ [issue.message] := by rw [matched.errors]
  unfold Context.record
  cases issue.severity with
  | warning =>
      exact { matched with issues, warnings := padded_append matched.warnings (padded_refl _) }
  | error => exact { matched with issues, errors }

theorem matched_remember (matched : Matched see extra c c') (id : String) (key : Key) :
    Matched see extra (c.remember id key) (c'.remember id key) := by
  obtain ⟨node, reference, pointer⟩ := key
  obtain ⟨references, identities, pointers, errors, issues, warnings, slots⟩ := matched
  cases node <;> cases pointer <;>
    refine ⟨?_, ?_, ?_, errors, issues, warnings, slots⟩ <;>
      simp only [Context.remember, references, identities, pointers]

theorem matched_allocate (matched : Matched see extra c c') :
    c'.allocate.1 = c.allocate.1 ∧ Matched see extra c.allocate.2 c'.allocate.2 := by
  refine ⟨by simp only [Context.allocate, matched_count matched], { matched with slots := ?_ }⟩
  simp only [Context.allocate, List.map_append, matched.slots]

-- A slot is there in both, and filled in both or in neither.
theorem matched_slot (matched : Matched see extra c c') (id : String) :
    Agreed (fun a b => b.1 = a.1 ∧ b.2.isSome = a.2.isSome) (c.slot id) (c'.slot id) := by
  unfold Context.slot
  cases slotNumber? id with
  | none => exact .error _
  | some n =>
      simp only [matched_count matched]
      cases slotPosition? c.typeCount n with
      | none => exact .error _
      | some position =>
          refine .ok ⟨rfl, ?_⟩
          have same := congrArg (·[position]?) matched.slots
          simp only [List.getElem?_map] at same
          cases mine : c.slots[position]? with
          | none =>
              rw [mine] at same
              rw [Option.map_eq_none_iff.mp same]
          | some slot =>
              rw [mine] at same
              obtain ⟨slot', there, same⟩ := Option.map_eq_some_iff.mp same
              rw [there]
              cases slot <;> cases slot' <;> simp_all

theorem matched_fill {t t' : TypeDefinition} (matched : Matched see extra c c') (id : String)
    (alike : t'.seen see = t.seen see) :
    Agreed (Matched see extra) (c.fill id t) (c'.fill id t') := by
  have sameId : t'.id = t.id := show (t'.seen see).id = (t.seen see).id from congrArg _ alike
  have slots := matched_slot matched id
  unfold Context.fill
  generalize c.slot id = mine at slots ⊢
  generalize c'.slot id = other at slots ⊢
  cases slots with
  | error f => exact .error _
  | @ok a b held =>
      obtain ⟨position, slot⟩ := a
      obtain ⟨position', slot'⟩ := b
      obtain ⟨rfl, full⟩ : position' = position ∧ _ := held
      cases slot with
      | some _ =>
          cases slot' with
          | none => cases full
          | some _ => exact .error _
      | none =>
          cases slot' with
          | some _ => cases full
          | none =>
              simp only [sameId]
              split
              · refine .ok { matched with slots := ?_ }
                simp only [List.map_set, matched.slots, Option.map_some, alike]
              · exact .error _

theorem matched_leave {built built' : Except Fault TypeDefinition} (matched : Matched see extra c c')
    (id name : String) (alike : Agreed (fun t t' => t'.seen see = t.seen see) built built') :
    (c'.leave id name built').1 = (c.leave id name built).1 ∧
      Matched see extra (c.leave id name built).2 (c'.leave id name built').2 := by
  have close {c c' : Context} {t t' : TypeDefinition} (matched : Matched see extra c c')
      (alike : t'.seen see = t.seen see) :
      (c'.leave id name (.ok t')).1 = (c.leave id name (.ok t)).1 ∧
        Matched see extra (c.leave id name (.ok t)).2 (c'.leave id name (.ok t')).2 := by
    have filled := matched_fill matched id alike
    unfold Context.leave
    dsimp only
    generalize c.fill id t = mine at filled ⊢
    generalize c'.fill id t' = other at filled ⊢
    cases filled with
    | ok later => exact ⟨rfl, later⟩
    | error f => exact ⟨rfl, matched⟩
  cases alike with
  | ok same => exact close matched same
  | error f =>
      cases f with
      | node issue =>
          exact close (matched_record matched issue)
            (rfl : (placeholderType id name issue.message).seen see = _)
      | _ => exact ⟨rfl, matched⟩

theorem matched_types (matched : Matched see extra c c') :
    Agreed (fun types types' => types'.map (·.seen see) = types.map (·.seen see)) c.types c'.types := by
  have pending (c : Context) : c.pending =
      (c.slots.map (Option.map (·.seen see))).zipIdx.filterMap fun slot =>
        if slot.1.isNone then some (typeIdOf slot.2) else none := by
    simp [Context.pending, List.zipIdx_map, List.filterMap_map]
  have filled (c : Context) : (c.slots.filterMap id).map (·.seen see) =
      (c.slots.map (Option.map (·.seen see))).filterMap id := by
    simp [List.map_filterMap, List.filterMap_map]
  unfold Context.types
  rw [pending c', matched.slots, ← pending c]
  cases c.pending with
  | nil => exact .ok (by rw [filled, filled, matched.slots])
  | cons id rest => exact .error _

end Matched

section Steps

variable {see : Option Constraints → Option Constraints} {extra : String → Prop}

theorem in_step_warn (message : String) :
    InStep (Matched see extra) (Conversion.warn message) (Conversion.warn message) Eq :=
  in_step_modify fun _ _ matched => matched_warn matched message

theorem in_step_record (issue : NodeIssue) :
    InStep (Matched see extra) (Conversion.record issue) (Conversion.record issue) Eq :=
  in_step_modify fun _ _ matched => matched_record matched issue

theorem in_step_warn_of (message : Except Fault String) :
    InStep (Matched see extra) (OpenApi.warnOf message) (OpenApi.warnOf message) Eq :=
  in_step_on (in_step_of_except (agreed_same message)) fun text => in_step_warn text

theorem in_step_note_issue (issue : Except Fault NodeIssue) :
    InStep (Matched see extra) (OpenApi.noteIssue issue) (OpenApi.noteIssue issue) Eq :=
  in_step_on (in_step_of_except (agreed_same issue)) fun issue => in_step_record issue

theorem in_step_placeholder (name : String) (issue : NodeIssue) (reference pointer : Option String) :
    InStep (Matched see extra) (Conversion.placeholder name issue reference pointer)
      (Conversion.placeholder name issue reference pointer) Eq := by
  intro c c' matched
  rw [placeholder_run, placeholder_run, matched_lookup matched]
  cases c.lookup? { reference, pointer } with
  | some id => exact ⟨matched, .ok rfl⟩
  | none =>
      have noted := matched_record matched issue
      have same := (matched_allocate noted).1
      have stubs : Matched see extra (stubbed (c.record issue) name issue.message)
          (stubbed (c'.record issue) name issue.message) := by
        refine { noted with slots := ?_ }
        simp only [stubbed, same, List.map_append, noted.slots]
      simp only [same]
      exact ⟨matched_remember stubs _ _, .ok rfl⟩

theorem in_step_resolve {key : Key} {name : String} {build build' : String → Conversion TypeDefinition}
    (builds : ∀ id, InStep (Matched see extra) (build id) (build' id) fun t t' => t'.seen see = t.seen see) :
    InStep (Matched see extra) (Conversion.resolve key name build)
      (Conversion.resolve key name build') Eq := by
  intro c c' matched
  rw [resolve_run, resolve_run, matched_lookup matched]
  cases c.lookup? key with
  | some id => exact ⟨matched_remember matched id key, .ok rfl⟩
  | none =>
      obtain ⟨same, allocated⟩ := matched_allocate matched
      simp only [same]
      obtain ⟨after, built⟩ := builds c.allocate.1 _ _ (matched_remember allocated c.allocate.1 key)
      obtain ⟨answer, left⟩ := matched_leave after c.allocate.1 name built
      refine ⟨left, ?_⟩
      rw [answer]
      exact agreed_same _

end Steps

section Objects

variable {see : Option Constraints → Option Constraints} {properties properties' : List Property}

theorem required_values_seen (properties : List Property) (required : List Value) :
    requiredValues (properties.map (·.seen see)) required = requiredValues properties required := by
  simp [requiredValues, List.filter_map, Function.comp_def, Property.seen]

-- Objects whose properties differ in constraints alone do so too.
theorem object_seen (alike : properties'.map (·.seen see) = properties.map (·.seen see))
    (id name : Value) (required : List Value) (rest : List (Scalar × Value)) :
    Agreed (fun t t' => t'.seen see = t.seen see) (objectOf id name properties required rest)
      (objectOf id name properties' required rest) := by
  have marked (names : List Value) (properties : List Property) :
      (properties.map (·.markedBy names)).map (·.seen see) =
        (properties.map (·.seen see)).map (·.markedBy names) := by
    rw [List.map_map, List.map_map]
    rfl
  have chosen : requiredValues properties' required = requiredValues properties required := by
    rw [← @required_values_seen see properties', alike, required_values_seen]
  unfold objectOf
  rw [chosen]
  split
  · exact .error _
  · simp only
    split
    · exact .error _
    next t _ =>
      split
      · refine .ok ?_
        simp only [TypeDefinition.seen, Shape.seen, marked, alike]
      · exact .ok rfl

end Objects

end ApiSchema
