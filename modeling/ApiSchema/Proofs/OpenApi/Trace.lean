import ApiSchema.Proofs.Conversion.Resolver
import ApiSchema.Proofs.OpenApi.Shapes

/-!
What the state of a conversion says about the references and nodes met so far.

`Traced` holds between any two steps, for any relation `leads` that follows references one at a
time. A reference that leads to a node stands for the type of the node, except where an alias was
met again while it was being followed.
-/

namespace ApiSchema.OpenApi

def IsAlias (d : Document) (reference : String) : Prop :=
  ∃ item next, localTarget? d reference = some item ∧ referenceOf? d.graph item = some next

structure Follows (d : Document) (leads : String → Nat → Prop) : Prop where
  target : ∀ r n, leads r n → ∃ item, localTarget? d r = some item ∧
    ((∃ next, referenceOf? d.graph item = some next ∧ leads next n) ∨
      referenceOf? d.graph item = none ∧ item = .node n ∧ d.graph.isMap item)
  direct : ∀ r other n, leads other n → localTarget? d r = some (.node n) → leads r n

def circularIssue (reference : String) : NodeIssue :=
  .unresolved reference (some "circular reference chain")

section Trace

variable (d : Document) (leads : String → Nat → Prop)

/-- An id made for an alias of a node that was met again while it was being followed. -/
def Looped (n : Nat) (id : String) (c : Context) : Prop :=
  ∃ r k, leads r n ∧ IsAlias d r ∧ id = typeIdOf k ∧
    c.slots[k]? = some (some (placeholderType id (Pointer.lastName r) (circularIssue r).message)) ∧
    circularIssue r ∈ c.issues

def Stands (r : String) (n : Nat) (id : String) (c : Context) : Prop :=
  c.identities.lookup n = some id ∨ IsAlias d r ∧ Looped d leads n id c

structure Standing (part : Part) (id : String) (c : Context) : Prop where
  known : c.Known id
  reference : ∀ r n, part.reference? d.graph = some r → leads r n → Stands d leads r n id c
  node : ∀ n, part = .node (.node n) → d.graph.isMap (.node n) → part.reference? d.graph = none →
    c.identities.lookup n = some id

def NodeType (n : Nat) (t : TypeDefinition) (c : Context) : Prop :=
  (∃ entries, d.graph.entries? (.node n) = some entries ∧
    Built d (Standing d leads · · c) (.node n) entries t.id t) ∨
  ∃ name owner, t = placeholderType t.id name (NodeIssue.noItems owner).message

structure Traced (c : Context) : Prop where
  filled : ∀ k t, c.slots[k]? = some (some t) → t.id = typeIdOf k ∧
    ((∃ n, NodeType d leads n t c) ∨ ∃ name reason, t = placeholderType t.id name reason)
  references : ∀ r id, c.references.lookup r = some id →
    c.Known id ∧ ∀ n, leads r n → Stands d leads r n id c
  identities : ∀ n id, c.identities.lookup n = some id → c.Known id ∧
    ∀ r, leads r n → ∀ k t, id = typeIdOf k → c.slots[k]? = some (some t) → NodeType d leads n t c
  pointers : ∀ p id, c.pointers.lookup p = some id → c.Known id

structure Later (c c' : Context) : Prop where
  count : c.typeCount ≤ c'.typeCount
  slots : ∀ (k : Nat) (t : TypeDefinition), c.slots[k]? = some (some t) → c'.slots[k]? = some (some t)
  references : ∀ r id, c.references.lookup r = some id → c'.references.lookup r = some id
  identities : ∀ n id, c.identities.lookup n = some id → c'.identities.lookup n = some id
  issues : ∀ issue, issue ∈ c.issues → issue ∈ c'.issues
  fresh : ∀ r n id, leads r n → c'.identities.lookup n = some id →
    c.identities.lookup n = some id ∨ ¬ c.Known id

variable {d leads} {c c' : Context}

theorem later_refl (c : Context) : Later leads c c :=
  ⟨Nat.le_refl _, fun _ _ => id, fun _ _ => id, fun _ _ => id, fun _ => id, fun _ _ _ _ => .inl⟩

theorem later_trans {c'' : Context} (first : Later leads c c') (second : Later leads c' c'') :
    Later leads c c'' where
  count := Nat.le_trans first.count second.count
  slots k t held := second.slots k t (first.slots k t held)
  references r id held := second.references r id (first.references r id held)
  identities n id held := second.identities n id (first.identities n id held)
  issues issue held := second.issues issue (first.issues issue held)
  fresh r n id led held := by
    obtain old | new := second.fresh r n id led held
    · exact first.fresh r n id led old
    · exact .inr fun known => new (Context.known_later first.count known)

theorem looped_later (later : Later leads c c') {n : Nat} {id : String}
    (looped : Looped d leads n id c) : Looped d leads n id c' := by
  obtain ⟨r, k, led, aliased, same, held, noted⟩ := looped
  exact ⟨r, k, led, aliased, same, later.slots k _ held, later.issues _ noted⟩

theorem stands_later (later : Later leads c c') {r : String} {n : Nat} {id : String}
    (stands : Stands d leads r n id c) : Stands d leads r n id c' := by
  obtain known | ⟨aliased, looped⟩ := stands
  · exact .inl (later.identities n id known)
  · exact .inr ⟨aliased, looped_later later looped⟩

theorem standing_later (later : Later leads c c') (part : Part) (id : String)
    (standing : Standing d leads part id c) : Standing d leads part id c' where
  known := Context.known_later later.count standing.known
  reference r n named led := stands_later later (standing.reference r n named led)
  node n same map plain := later.identities n id (standing.node n same map plain)

theorem node_type_later (later : Later leads c c') {n : Nat} {t : TypeDefinition}
    (made : NodeType d leads n t c) : NodeType d leads n t c' := by
  obtain ⟨entries, found, built⟩ | held := made
  · refine .inl ⟨entries, found, built.id, built.bare, ?_, built.flags⟩
    exact shape_at_weaken (standing_later later) built.parts
  · exact .inr held

-- What is not new is as it was; so a step has to account for its own entries only.
theorem traced_step (traced : Traced d leads c) (later : Later leads c c')
    (filled : ∀ k t, c'.slots[k]? = some (some t) → c.slots[k]? = some (some t) ∨
      t.id = typeIdOf k ∧
        ((∃ n, NodeType d leads n t c') ∨ ∃ name reason, t = placeholderType t.id name reason) ∧
        ∀ r n, leads r n → c'.identities.lookup n = some (typeIdOf k) → NodeType d leads n t c')
    (references : ∀ r id, c'.references.lookup r = some id → c.references.lookup r = some id ∨
      c'.Known id ∧ ∀ n, leads r n → Stands d leads r n id c')
    (identities : ∀ n id, c'.identities.lookup n = some id → c.identities.lookup n = some id ∨
      c'.Known id ∧ ∀ r, leads r n → ∀ k t, id = typeIdOf k → c'.slots[k]? = some (some t) →
        NodeType d leads n t c')
    (pointers : ∀ p id, c'.pointers.lookup p = some id → c.pointers.lookup p = some id ∨
      c'.Known id) : Traced d leads c' := by
  have known : ∀ id, c.Known id → c'.Known id := fun id => Context.known_later later.count
  constructor
  case filled =>
    intro k t held
    obtain old | ⟨same, kind, _⟩ := filled k t held
    · obtain ⟨same, ⟨n, made⟩ | stub⟩ := traced.filled k t old
      · exact ⟨same, .inl ⟨n, node_type_later later made⟩⟩
      · exact ⟨same, .inr stub⟩
    · exact ⟨same, kind⟩
  case references =>
    intro r id noted
    obtain old | new := references r id noted
    · obtain ⟨there, stands⟩ := traced.references r id old
      exact ⟨known id there, fun n led => stands_later later (stands n led)⟩
    · exact new
  case identities =>
    intro n id noted
    obtain old | new := identities n id noted
    · obtain ⟨there, typed⟩ := traced.identities n id old
      refine ⟨known id there, fun r led k t same held => ?_⟩
      obtain before | ⟨_, _, own⟩ := filled k t held
      · exact node_type_later later (typed r led k t same before)
      · rw [same] at noted
        exact own r n led noted
    · exact new
  case pointers =>
    intro p id noted
    obtain old | new := pointers p id noted
    · exact known id (traced.pointers p id old)
    · exact new

theorem traced_notes (traced : Traced d leads c) (slots : c'.slots = c.slots)
    (references : c'.references = c.references) (identities : c'.identities = c.identities)
    (pointers : c'.pointers = c.pointers) (issues : ∀ issue, issue ∈ c.issues → issue ∈ c'.issues) :
    Traced d leads c' ∧ Later leads c c' := by
  have count : c'.typeCount = c.typeCount := by
    unfold Context.typeCount
    rw [slots]
  have later : Later leads c c' := by
    refine ⟨by omega, ?_, ?_, ?_, issues, ?_⟩
    · rw [slots]
      exact fun _ _ => id
    · rw [references]
      exact fun _ _ => id
    · rw [identities]
      exact fun _ _ => id
    · rw [identities]
      exact fun _ _ _ _ => .inl
  refine ⟨traced_step traced later ?_ ?_ ?_ ?_, later⟩
  · rw [slots]
    exact fun _ _ => .inl
  · rw [references]
    exact fun _ _ => .inl
  · rw [identities]
    exact fun _ _ => .inl
  · rw [pointers]
    exact fun _ _ => .inl

theorem traced_warn (traced : Traced d leads c) (message : String) :
    Traced d leads (c.warn message) ∧ Later leads c (c.warn message) :=
  traced_notes traced rfl rfl rfl rfl fun _ => id

theorem traced_record (traced : Traced d leads c) (issue : NodeIssue) :
    Traced d leads (c.record issue) ∧ Later leads c (c.record issue) := by
  have kept : ∀ other, other ∈ c.issues → other ∈ c.issues ++ [issue] :=
    fun _ member => List.mem_append_left _ member
  unfold Context.record
  cases issue.severity with
  | warning => exact traced_notes traced rfl rfl rfl rfl kept
  | error => exact traced_notes traced rfl rfl rfl rfl kept

theorem traced_allocate (traced : Traced d leads c) :
    Traced d leads c.allocate.2 ∧ Later leads c c.allocate.2 := by
  have count := allocate_count c
  have later : Later leads c c.allocate.2 :=
    ⟨by omega, fun k t => slot_of_append.mpr, fun _ _ => id, fun _ _ => id, fun _ => id,
      fun _ _ _ _ => .inl⟩
  exact ⟨traced_step traced later (fun k t held => .inl (slot_of_append.mp held))
    (fun _ _ => .inl) (fun _ _ => .inl) fun _ _ => .inl, later⟩

theorem later_remember {base : Context} {id : String} (key : Key) (based : Later leads c base)
    (references : base.references = c.references) (identities : base.identities = c.identities)
    (owned : ∀ r n, key.node = some n → c.identities.lookup n = none → leads r n → ¬ c.Known id) :
    Later leads c (base.remember id key) := by
  obtain ⟨slots, issues⟩ := remember_slots base id key
  constructor
  case count =>
    unfold Context.typeCount
    rw [slots]
    exact based.count
  case slots =>
    rw [slots]
    exact based.slots
  case references =>
    intro r other noted
    rw [remember_references, references]
    exact some_or noted
  case identities =>
    intro n other noted
    rw [remember_identities, identities]
    exact some_or noted
  case issues =>
    rw [issues]
    exact based.issues
  case fresh =>
    intro r n other led noted
    rw [remember_identities, identities] at noted
    obtain old | ⟨absent, keyed, same⟩ := or_of_some noted
    · exact .inl old
    · exact .inr (same ▸ owned r n keyed absent led)

-- The id is new, or made before: `base` is the state after its slot was reserved, if it was.
theorem traced_remember {base : Context} {id : String} (key : Key) (traced : Traced d leads c)
    (based : Later leads c base) (references : base.references = c.references)
    (identities : base.identities = c.identities) (pointers : base.pointers = c.pointers)
    (slots : ∀ (k : Nat) (t : TypeDefinition), base.slots[k]? = some (some t) →
      c.slots[k]? = some (some t))
    (known : base.Known id)
    (named : ∀ r n, key.reference = some r → c.references.lookup r = none → leads r n →
      Stands d leads r n id (base.remember id key))
    (owned : ∀ r n, key.node = some n → c.identities.lookup n = none → leads r n → ¬ c.Known id) :
    Traced d leads (base.remember id key) ∧ Later leads c (base.remember id key) := by
  have sameSlots := (remember_slots base id key).1
  have known' : (base.remember id key).Known id := by
    unfold Context.Known Context.typeCount at known ⊢
    rwa [sameSlots]
  have later := later_remember key based references identities owned
  refine ⟨traced_step traced later ?_ ?_ ?_ ?_, later⟩
  · rw [sameSlots]
    exact fun k t held => .inl (slots k t held)
  · intro r other noted
    rw [remember_references, references] at noted
    obtain old | ⟨absent, keyed, same⟩ := or_of_some noted
    · exact .inl old
    · subst same
      exact .inr ⟨known', fun n led => named r n keyed absent led⟩
  · intro n other noted
    rw [remember_identities, identities] at noted
    obtain old | ⟨absent, keyed, same⟩ := or_of_some noted
    · exact .inl old
    · subst same
      refine .inr ⟨known', fun r led k t made held => ?_⟩
      rw [sameSlots] at held
      have below := (List.getElem?_eq_some_iff.mp (slots k t held)).1
      exact absurd ⟨k, below, made⟩ (owned r n keyed absent led)
  · intro p other noted
    rw [remember_pointers, pointers] at noted
    obtain old | ⟨_, _, same⟩ := or_of_some noted
    · exact .inl old
    · subst same
      exact .inr known'

theorem traced_fill {k : Nat} {t : TypeDefinition} (traced : Traced d leads c)
    (empty : c.slots[k]? = some none) (same : t.id = typeIdOf k)
    (kind : (∃ n, NodeType d leads n t c) ∨ ∃ name reason, t = placeholderType t.id name reason)
    (own : ∀ r n, leads r n → c.identities.lookup n = some (typeIdOf k) → NodeType d leads n t c) :
    Traced d leads { c with slots := c.slots.set k (some t) } ∧
      Later leads c { c with slots := c.slots.set k (some t) } := by
  have below := (List.getElem?_eq_some_iff.mp empty).1
  have later : Later leads c { c with slots := c.slots.set k (some t) } := by
    refine ⟨by simp [Context.typeCount], fun k' t' held => ?_, fun _ _ => id, fun _ _ => id,
      fun _ => id, fun _ _ _ _ => .inl⟩
    by_cases different : k = k'
    · subst different
      rw [empty] at held
      cases held
    · rw [List.getElem?_set_ne different]
      exact held
  refine ⟨traced_step traced later (fun k' t' held => ?_) (fun _ _ => .inl) (fun _ _ => .inl)
    (fun _ _ => .inl), later⟩
  by_cases different : k = k'
  · subst different
    rw [List.getElem?_set_self below] at held
    cases held
    refine .inr ⟨same, ?_, fun r n led noted => node_type_later later (own r n led noted)⟩
    obtain ⟨n, made⟩ | stub := kind
    · exact .inl ⟨n, node_type_later later made⟩
    · exact .inr stub
  · rw [List.getElem?_set_ne different] at held
    exact .inl held

end Trace

end ApiSchema.OpenApi
