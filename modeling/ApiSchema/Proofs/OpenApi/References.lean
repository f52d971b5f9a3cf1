import ApiSchema.Proofs.OpenApi.Components

namespace ApiSchema.OpenApi

def endOf (d : Document) (reference : String) : Item :=
  match localTarget? d reference with
  | some item => followWithin d d.graph.size [reference] item
  | none => .null

inductive Leads (d : Document) : String → Nat → Prop where
  | node {r : String} {n : Nat} (there : localTarget? d r = some (.node n))
      (plain : referenceOf? d.graph (.node n) = none) (map : d.graph.isMap (.node n)) : Leads d r n
  | alias {r next : String} {n : Nat} {item : Item} (there : localTarget? d r = some item)
      (named : referenceOf? d.graph item = some next) (rest : Leads d next n) : Leads d r n

theorem leads_within {d : Document} {fuel : Nat} {seen : List String} {item : Item} {n : Nat}
    (map : d.graph.isMap (.node n)) (ends : followWithin d fuel seen item = .node n) :
    (referenceOf? d.graph item = none ∧ item = .node n) ∨
      ∃ r, referenceOf? d.graph item = some r ∧ Leads d r n := by
  induction fuel generalizing seen item with
  | zero =>
      cases named : referenceOf? d.graph item with
      | none =>
          unfold followWithin at ends
          rw [named] at ends
          exact .inl ⟨rfl, ends⟩
      | some r =>
          unfold followWithin at ends
          rw [named] at ends
          cases ends
  | succ fuel ih =>
      cases named : referenceOf? d.graph item with
      | none =>
          unfold followWithin at ends
          rw [named] at ends
          exact .inl ⟨rfl, ends⟩
      | some r =>
          unfold followWithin at ends
          rw [named] at ends
          simp only at ends
          split at ends
          · cases ends
          · cases there : localTarget? d r with
            | none =>
                rw [there] at ends
                cases ends
            | some next =>
                rw [there] at ends
                obtain ⟨plain, rfl⟩ | ⟨r', onward, led⟩ := ih ends
                · exact .inr ⟨r, rfl, .node there plain map⟩
                · exact .inr ⟨r, rfl, .alias there onward led⟩

theorem leads_of_end {d : Document} {r : String} {n : Nat} (map : d.graph.isMap (.node n))
    (ends : endOf d r = .node n) : Leads d r n := by
  unfold endOf at ends
  cases there : localTarget? d r with
  | none =>
      rw [there] at ends
      cases ends
  | some item =>
      rw [there] at ends
      obtain ⟨plain, rfl⟩ | ⟨next, onward, led⟩ := leads_within map ends
      · exact .node there plain map
      · exact .alias there onward led

theorem leads_follows (d : Document) : Follows d (Leads d) where
  target r n led := by
    cases led with
    | node there plain map => exact ⟨_, there, .inr ⟨plain, rfl, map⟩⟩
    | «alias» there named rest => exact ⟨_, there, .inl ⟨_, named, rest⟩⟩
  direct r other n led there := by
    induction led with
    | node _ plain map => exact .node there plain map
    | «alias» _ _ _ ih => exact ih there

theorem leads_fit {d : Document} (distinct : (schemasOf d).Pairwise fun a b => a.1.same b.1 = false) :
    ComponentsFit d (Leads d) := by
  intro key node name member named
  have text : key = .text name := by
    cases key <;> cases named
    rfl
  subst text
  refine fits_target (leads_follows d) (component_found distinct member) fun other n led equal => ?_
  subst equal
  clear member
  induction led with
  | node _ plain _ => exact plain
  | «alias» _ _ _ ih => exact ih

/-- A placeholder for a reference that leads nowhere or in a circle. -/
def StandsForReference (t : TypeDefinition) : Prop :=
  ∃ name reference reason, t = placeholderType t.id name (NodeIssue.unresolved reference reason).message

/-- The id of a type that stands in for an alias of a node, met again while it was followed. -/
def LoopedIn (d : Document) (s : Schema) (c : Context) (n : Nat) (id : String) : Prop :=
  ∃ other, Leads d other n ∧ IsAlias d other ∧ circularIssue other ∈ c.issues ∧
    placeholderType id (Pointer.lastName other) (circularIssue other).message ∈ s.types

/-- What an id says of the part of the document that it stands for. A reference to a node has the
id of the node, unless its type stands in for an alias of the node that was met again while it was
followed. That happens only to references that name a reference. -/
structure Carries (d : Document) (s : Schema) (c : Context) (part : Part) (id : String) : Prop where
  listed : id ∈ s.types.map (·.id)
  reference : ∀ r n, part.reference? d.graph = some r → endOf d r = .node n → d.graph.isMap (.node n) →
    (c.identities.lookup n = some id ↔ ¬ LoopedIn d s c n id) ∧
      (LoopedIn d s c n id → IsAlias d r)
  node : ∀ n, part = .node (.node n) → d.graph.isMap (.node n) → part.reference? d.graph = none →
    c.identities.lookup n = some id

/-- Every use of a reference carries what it should, and so does the type of every node. -/
structure Consistent (d : Document) (s : Schema) (c : Context) : Prop where
  types : ∀ t ∈ s.types, (∃ n entries, d.graph.entries? (.node n) = some entries ∧
    Built d (Carries d s c) (.node n) entries t.id t) ∨ ∃ name reason, t = placeholderType t.id name reason
  endpoints : List.Forall₂ (EndpointAt d (Carries d s c) (s.authentication.map (·.id)))
    (operationsOf d (pathsOf d)) s.endpoints
  nodes : ∀ r n id, endOf d r = .node n → d.graph.isMap (.node n) → c.identities.lookup n = some id →
    ∃ t ∈ s.types, t.id = id ∧ ¬ StandsForReference t ∧
      ((∃ entries, d.graph.entries? (.node n) = some entries ∧
        Built d (Carries d s c) (.node n) entries t.id t) ∨
          ∃ name owner, t = placeholderType t.id name (NodeIssue.noItems owner).message)

theorem messages_differ (owner reference : String) (reason : Option String) :
    (NodeIssue.noItems owner).message ≠ (NodeIssue.unresolved reference reason).message := by
  intro same
  have front := congrArg (fun s => s.toList.head?) same
  unfold NodeIssue.message suffixed at front
  cases reason with
  | none => simp at front
  | some reason =>
      simp only at front
      split at front <;> simp at front

section Agreement

variable {d : Document} {options : FrontendOptions} {s : Schema} {c : Context}

theorem slot_listed (full : c.slots = s.types.map some) {k : Nat} {t : TypeDefinition} :
    c.slots[k]? = some (some t) ↔ s.types[k]? = some t := by
  rw [full, List.getElem?_map]
  cases s.types[k]? <;> simp

theorem node_type_no_stub {n : Nat} {t : TypeDefinition} (made : NodeType d (Leads d) n t c) :
    ¬ StandsForReference t := by
  rintro ⟨name, reference, reason, stub⟩
  obtain ⟨entries, _, built⟩ | ⟨name', owner, other⟩ := made
  · have bare := built.bare
    rw [stub] at bare
    cases bare
  · have both := congrArg TypeDefinition.metadata (other.symm.trans stub)
    simp only [placeholderType, Option.some.injEq, List.cons.injEq, Prod.mk.injEq, true_and,
      and_true] at both
    exact messages_differ owner reference reason (Scalar.text.inj (Value.scalar.inj both))

theorem looped_apart (traced : Traced d (Leads d) c) (full : c.slots = s.types.map some) {r : String}
    {n : Nat} {id : String} (led : Leads d r n) (noted : c.identities.lookup n = some id) :
    ¬ LoopedIn d s c n id := by
  rintro ⟨other, _, _, _, member⟩
  obtain ⟨k, below, same⟩ := List.getElem_of_mem member
  have slot := (slot_listed full).mpr (by rw [List.getElem?_eq_getElem below, same])
  have made := (traced.identities n id noted).2 r led k _ (traced.filled k _ slot).1 slot
  exact node_type_no_stub made ⟨_, other, _, rfl⟩

theorem standing_carries (traced : Traced d (Leads d) c) (full : c.slots = s.types.map some)
    (part : Part) (id : String) (standing : Standing d (Leads d) part id c) : Carries d s c part id where
  listed := known_listed traced full standing.known
  reference r n named ends map := by
    have led := leads_of_end map ends
    obtain held | ⟨aliased, other, k, again, onward, same, slot, noted⟩ :=
      standing.reference r n named led
    · have apart := looped_apart traced full led held
      exact ⟨⟨fun _ => apart, fun _ => held⟩, fun looped => absurd looped apart⟩
    · have looped : LoopedIn d s c n id :=
        ⟨other, again, onward, noted, List.mem_of_getElem? ((slot_listed full).mp slot)⟩
      refine ⟨⟨fun held => looped_apart traced full led held, fun apart => absurd looped apart⟩, ?_⟩
      exact fun _ => aliased
  node := standing.node

theorem references_consistent
    (distinct : (schemasOf d).Pairwise fun a b => a.1.same b.1 = false)
    (converted : (convert d options).run.run {} = (.ok s, c)) : Consistent d s c := by
  obtain ⟨traced, made⟩ := convert_traced (leads_follows d) (leads_fit distinct) converted
  have carries := standing_carries traced made.types
  have built : ∀ {n : Nat} {entries : Entries} {t : TypeDefinition},
      Built d (Standing d (Leads d) · · c) (.node n) entries t.id t →
      Built d (Carries d s c) (.node n) entries t.id t :=
    fun made => ⟨made.id, made.bare, shape_at_weaken carries made.parts, made.flags⟩
  refine ⟨fun t member => ?_, made.endpoints.imp (endpoint_at_weaken carries), ?_⟩
  · obtain ⟨k, below, same⟩ := List.getElem_of_mem member
    have slot : c.slots[k]? = some (some t) :=
      (slot_listed made.types).mpr (by rw [List.getElem?_eq_getElem below, same])
    obtain ⟨_, ⟨n, ⟨entries, map, held⟩ | ⟨name, owner, stub⟩⟩ | stub⟩ := traced.filled k t slot
    · exact .inl ⟨n, entries, map, built held⟩
    · exact .inr ⟨name, _, stub⟩
    · exact .inr stub
  · intro r n id ends map noted
    obtain ⟨⟨k, below, same⟩, typed⟩ := traced.identities n id noted
    have inside : k < s.types.length := by simpa [Context.typeCount, made.types] using below
    have slot : c.slots[k]? = some (some s.types[k]) :=
      (slot_listed made.types).mpr (List.getElem?_eq_getElem inside)
    have named := (traced.filled k _ slot).1
    refine ⟨s.types[k], List.getElem_mem inside, named.trans same.symm, ?_⟩
    have made := typed r (leads_of_end map ends) k _ same slot
    refine ⟨node_type_no_stub made, ?_⟩
    obtain ⟨entries, map, held⟩ | stub := made
    · exact .inl ⟨entries, map, built held⟩
    · exact .inr stub

end Agreement

theorem alias_references_consistent : ∃ s c,
    (convert aliasDocument plainOptions).run.run {} = (.ok s, c) ∧ s.types.length = 4 ∧
      Consistent aliasDocument s c := by
  have found : ((convert aliasDocument plainOptions).run.run {}).1.toOption.map
      (fun s => s.types.length) = some 4 := by decide +kernel
  have distinct : (schemasOf aliasDocument).Pairwise fun a b => a.1.same b.1 = false := by
    decide +kernel
  cases converted : (convert aliasDocument plainOptions).run.run {} with
  | mk result c =>
      rw [converted] at found
      cases result with
      | error f => cases found
      | ok s => exact ⟨s, c, rfl, Option.some.inj found, references_consistent distinct converted⟩

def usedIds (r : Except Fault Schema) : List (List (String × String)) :=
  match r with
  | .ok s => s.types.map fun t => t.shape.properties.map fun p => (p.name, p.type.typeId)
  | .error _ => []

-- A user and a node refer to the node by one name, and hold different ids.
theorem alias_uses_differ :
    let d := aliasDocument
    let run := (convert d plainOptions).run.run {}
    referenceOf? d.graph (.node 10) = some "#/components/schemas/Alias" ∧
      endOf d "#/components/schemas/Alias" = .node 6 ∧ d.graph.isMap (.node 6) ∧
      declaredProperties d (.node 4) = [(.text "a", .node 10), (.text "gone", .node 11)] ∧
      declaredProperties d (.node 6) = [(.text "next", .node 10)] ∧
      run.2.identities.lookup 6 = some "type_1" ∧
      usedIds run.1 = [[("a", "type_1"), ("gone", "type_3")], [("next", "type_2")], [], []] := by
  decide +kernel

end ApiSchema.OpenApi
