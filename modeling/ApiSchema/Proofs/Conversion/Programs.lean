import ApiSchema.Proofs.Control.Keeps
import ApiSchema.Proofs.Conversion.Resolver

/-!
Programs of calls to the resolver, nested in any way.

A build is a program of its own, so calls begin while slots are still empty and ids are noted that
have no definition yet. What holds between any two calls: finished slots carry their ids, noted ids
have been given, and the issues are those of the placeholders, one each. A program finishes every
slot that it reserves and leaves the others as they are; so one that begins with no slots ends with
no empty ones.
-/

namespace ApiSchema

abbrev Built := Except NodeIssue TypeDefinition

inductive Program : Type → Type 1 where
  | done {α : Type} (answer : α) : Program α
  | lookup {α : Type} (key : Key) (next : Option String → Program α) : Program α
  | placeholder {α : Type} (name : String) (issue : NodeIssue) (reference pointer : Option String)
      (next : String → Program α) : Program α
  | resolve {α : Type} (key : Key) (name : String) (build : String → Program Built)
      (next : String → Program α) : Program α

def finish (id : String) : Built → Except Fault TypeDefinition
  | .ok t => .ok { t with id }
  | .error issue => .error (.node issue)

def built (build : String → Conversion Built) (id : String) : Conversion TypeDefinition := do
  ofExcept (finish id (← build id))

/-- What can be seen of a run: the states between the calls, and what the builds give. -/
inductive Event where
  | passed (c : Context)
  | returned (t : TypeDefinition)

namespace Program

def run {α : Type} : Program α → Conversion α
  | .done answer => pure answer
  | .lookup key next => do (next ((← get).lookup? key)).run
  | .placeholder name issue reference pointer next => do
    (next (← Conversion.placeholder name issue reference pointer)).run
  | .resolve key name build next => do
    (next (← Conversion.resolve key name (built fun id => (build id).run))).run

def resume (call : Conversion String) (next : String → Context → List Event) (c : Context) :
    List Event :=
  match call.run.run c with
  | (.ok id, c') => next id c'
  | (.error _, c') => [.passed c']

def yielded (id : String) (outcome : Except Fault Built) : List Event :=
  match outcome with
  | .ok (.ok t) => [.returned { t with id }]
  | _ => []

def within (key : Key) (build : String → Conversion Built) (events : String → Context → List Event)
    (c : Context) : List Event :=
  match c.lookup? key with
  | some _ => []
  | none =>
    let (id, c₁) := c.allocate
    let c₁ := c₁.remember id key
    events id c₁ ++ yielded id ((build id).run.run c₁).1

def trace {α : Type} : Program α → Context → List Event
  | .done _, c => [.passed c]
  | .lookup key next, c => .passed c :: (next (c.lookup? key)).trace c
  | .placeholder name issue reference pointer next, c =>
    .passed c :: resume (Conversion.placeholder name issue reference pointer)
      (fun id => (next id).trace) c
  | .resolve key name build next, c =>
    .passed c :: (within key (fun id => (build id).run) (fun id => (build id).trace) c ++
      resume (Conversion.resolve key name (built fun id => (build id).run))
        (fun id => (next id).trace) c)

end Program

namespace Context

structure Lasts (c c' : Context) : Prop where
  count : c.typeCount ≤ c'.typeCount
  references : ∀ r id, c.references.lookup r = some id → c'.references.lookup r = some id
  identities : ∀ n id, c.identities.lookup n = some id → c'.identities.lookup n = some id
  pointers : ∀ p id, c.pointers.lookup p = some id → c'.pointers.lookup p = some id
  slots : ∀ (k : Nat) (t : TypeDefinition), c.slots[k]? = some (some t) → c'.slots[k]? = some (some t)

/-- The slots in `stubs` hold the placeholders of the issues, one after the other, and every other
finished slot holds what its build gave. -/
structure Accounted (c : Context) (events : List Event) (stubs : List Nat) : Prop where
  apart : stubs.Nodup
  own : List.Forall₂ (fun k issue => ∃ name, c.slots[k]? =
    some (some (placeholderType (typeIdOf k) name issue.message))) stubs c.issues
  rest : ∀ (k : Nat) (t : TypeDefinition), c.slots[k]? = some (some t) →
    k ∈ stubs ∨ .returned t ∈ events

structure Sound (events : List Event) (c : Context) : Prop where
  ids : ∀ (k : Nat) (t : TypeDefinition), c.slots[k]? = some (some t) → t.id = typeIdOf k
  references : ∀ r id, c.references.lookup r = some id → c.Known id
  identities : ∀ n id, c.identities.lookup n = some id → c.Known id
  pointers : ∀ p id, c.pointers.lookup p = some id → c.Known id
  accounted : ∃ stubs, c.Accounted events stubs
  warnings : c.warnings = (c.issues.filter (·.severity = .warning)).map (·.message)
  errors : c.errors = (c.issues.filter (·.severity = .error)).map (·.message)

variable {c c' c'' : Context} {events more : List Event}

theorem lasts_refl (c : Context) : c.Lasts c :=
  ⟨Nat.le_refl _, fun _ _ => id, fun _ _ => id, fun _ _ => id, fun _ _ => id⟩

theorem lasts_trans (first : c.Lasts c') (second : c'.Lasts c'') : c.Lasts c'' where
  count := Nat.le_trans first.count second.count
  references r id held := second.references r id (first.references r id held)
  identities n id held := second.identities n id (first.identities n id held)
  pointers p id held := second.pointers p id (first.pointers p id held)
  slots k t held := second.slots k t (first.slots k t held)

structure Alike (c c' : Context) : Prop where
  count : c.typeCount ≤ c'.typeCount
  references : c'.references = c.references
  identities : c'.identities = c.identities
  pointers : c'.pointers = c.pointers

theorem alike_refl (c : Context) : c.Alike c := ⟨Nat.le_refl _, rfl, rfl, rfl⟩

theorem alike_trans (first : c.Alike c') (second : c'.Alike c'') : c.Alike c'' :=
  ⟨Nat.le_trans first.count second.count, second.references.trans first.references,
    second.identities.trans first.identities, second.pointers.trans first.pointers⟩

theorem lasts_of_alike (alike : c.Alike c') (slots : ∀ (k : Nat) (t : TypeDefinition),
    c.slots[k]? = some (some t) → c'.slots[k]? = some (some t)) : c.Lasts c' := by
  refine ⟨alike.count, fun _ _ held => ?_, fun _ _ held => ?_, fun _ _ held => ?_, slots⟩
  · rwa [alike.references]
  · rwa [alike.identities]
  · rwa [alike.pointers]

theorem record_fields (c : Context) (issue : NodeIssue) :
    (c.record issue).slots = c.slots ∧ (c.record issue).references = c.references ∧
      (c.record issue).identities = c.identities ∧ (c.record issue).pointers = c.pointers ∧
      (c.record issue).issues = c.issues ++ [issue] := by
  unfold record
  cases issue.severity <;> exact ⟨rfl, rfl, rfl, rfl, rfl⟩

theorem record_alike (c : Context) (issue : NodeIssue) : c.Alike (c.record issue) := by
  obtain ⟨slots, references, identities, pointers, _⟩ := record_fields c issue
  exact ⟨Nat.le_of_eq (by simp only [typeCount, slots]), references, identities, pointers⟩

theorem allocate_alike (c : Context) : c.Alike c.allocate.2 :=
  ⟨by rw [allocate_count]; omega, rfl, rfl, rfl⟩

theorem record_lasts (c : Context) (issue : NodeIssue) : c.Lasts (c.record issue) :=
  lasts_of_alike (record_alike c issue) fun k t held => by rwa [(record_fields c issue).1]

theorem allocate_lasts (c : Context) : c.Lasts c.allocate.2 :=
  lasts_of_alike (allocate_alike c) fun _ _ => slot_of_append.mpr

theorem remember_lasts (c : Context) (id : String) (key : Key) : c.Lasts (c.remember id key) := by
  obtain ⟨slots, _⟩ := remember_slots c id key
  refine ⟨Nat.le_of_eq (by simp only [typeCount, slots]), fun _ _ held => ?_, fun _ _ held => ?_,
    fun _ _ held => ?_, fun _ _ held => ?_⟩
  · rw [remember_references]
    exact some_or held
  · rw [remember_identities]
    exact some_or held
  · rw [remember_pointers]
    exact some_or held
  · rwa [slots]

theorem sound_more (sound : Sound events c) (more : List Event) : Sound (events ++ more) c := by
  obtain ⟨stubs, apart, own, rest⟩ := sound.accounted
  refine { sound with accounted := ⟨stubs, apart, own, fun k t held => ?_⟩ }
  exact (rest k t held).imp_right (List.mem_append_left more)

theorem key_known (sound : Sound events c) {key : Key} {id : String}
    (found : c.lookup? key = some id) : c.Known id := by
  obtain ⟨r, _, noted⟩ | ⟨n, _, noted⟩ | ⟨p, _, _, noted⟩ := lookup_cases found
  · exact sound.references r id noted
  · exact sound.identities n id noted
  · exact sound.pointers p id noted

-- A step that changes no slot keeps the placeholders where they are.
theorem sound_remember (sound : Sound events c) {id : String} (known : c.Known id) (key : Key) :
    Sound events (c.remember id key) ∧ c.Lasts (c.remember id key) := by
  obtain ⟨slots, issues⟩ := remember_slots c id key
  have warnings : (c.remember id key).warnings = c.warnings ∧
      (c.remember id key).errors = c.errors := by
    obtain ⟨node, reference, pointer⟩ := key
    cases node <;> cases pointer <;> exact ⟨rfl, rfl⟩
  have still : ∀ other, c.Known other → (c.remember id key).Known other :=
    fun other => known_later (remember_lasts c id key).count
  refine ⟨?_, remember_lasts c id key⟩
  constructor
  case ids =>
    rw [slots]
    exact sound.ids
  case references =>
    intro r other noted
    rw [remember_references] at noted
    obtain old | ⟨_, _, same⟩ := or_of_some noted
    · exact still other (sound.references r other old)
    · exact still other (same ▸ known)
  case identities =>
    intro n other noted
    rw [remember_identities] at noted
    obtain old | ⟨_, _, same⟩ := or_of_some noted
    · exact still other (sound.identities n other old)
    · exact still other (same ▸ known)
  case pointers =>
    intro p other noted
    rw [remember_pointers] at noted
    obtain old | ⟨_, _, same⟩ := or_of_some noted
    · exact still other (sound.pointers p other old)
    · exact still other (same ▸ known)
  case accounted =>
    obtain ⟨stubs, apart, own, rest⟩ := sound.accounted
    exact ⟨stubs, apart, by rw [slots, issues]; exact own, by rw [slots]; exact rest⟩
  case warnings =>
    rw [warnings.1, issues]
    exact sound.warnings
  case errors =>
    rw [warnings.2, issues]
    exact sound.errors

-- Where nothing new is noted, only the slots and the messages have to be looked at.
theorem sound_alike (sound : Sound events c) (alike : c.Alike c')
    (ids : ∀ (k : Nat) (t : TypeDefinition), c'.slots[k]? = some (some t) → t.id = typeIdOf k)
    (accounted : ∃ stubs, c'.Accounted more stubs)
    (warnings : c'.warnings = (c'.issues.filter (·.severity = .warning)).map (·.message))
    (errors : c'.errors = (c'.issues.filter (·.severity = .error)).map (·.message)) :
    Sound more c' where
  ids := ids
  references r id noted := known_later alike.count (sound.references r id (alike.references ▸ noted))
  identities n id noted := known_later alike.count (sound.identities n id (alike.identities ▸ noted))
  pointers p id noted := known_later alike.count (sound.pointers p id (alike.pointers ▸ noted))
  accounted := accounted
  warnings := warnings
  errors := errors

theorem sound_allocate (sound : Sound events c) :
    Sound events c.allocate.2 ∧ c.Lasts c.allocate.2 := by
  refine ⟨sound_alike sound (allocate_alike c) (fun k t held => sound.ids k t (slot_of_append.mp held))
    ?_ sound.warnings sound.errors, allocate_lasts c⟩
  obtain ⟨stubs, apart, own, rest⟩ := sound.accounted
  refine ⟨stubs, apart, own.imp fun k issue => ?_, fun k t held => rest k t (slot_of_append.mp held)⟩
  rintro ⟨name, held⟩
  exact ⟨name, slot_of_append.mpr held⟩

def filled (c : Context) (k : Nat) (t : TypeDefinition) : Context :=
  { c with slots := c.slots.set k (some t) }

theorem filled_slot {k : Nat} (empty : c.slots[k]? = some none) (t : TypeDefinition) (j : Nat) :
    (c.filled k t).slots[j]? = if j = k then some (some t) else c.slots[j]? := by
  have below := (List.getElem?_eq_some_iff.mp empty).1
  change (c.slots.set k (some t))[j]? = _
  by_cases same : j = k
  · subst same
    rw [if_pos rfl]
    exact List.getElem?_set_self below
  · rw [if_neg same]
    exact List.getElem?_set_ne (Ne.symm same)

theorem filled_alike (c : Context) (k : Nat) (t : TypeDefinition) : c.Alike (c.filled k t) :=
  ⟨by simp [filled, typeCount], rfl, rfl, rfl⟩

theorem filled_lasts {k : Nat} (empty : c.slots[k]? = some none) (t : TypeDefinition) :
    c.Lasts (c.filled k t) := by
  refine lasts_of_alike (filled_alike c k t) fun j u held => ?_
  rw [filled_slot empty]
  by_cases same : j = k
  · subst same
    rw [empty] at held
    cases held
  · rwa [if_neg same]

-- A definition in its slot, with who answers for it.
theorem sound_filled (sound : Sound events c) {k : Nat} {t : TypeDefinition}
    (empty : c.slots[k]? = some none) (same : t.id = typeIdOf k)
    (accounted : ∃ stubs, (c.filled k t).Accounted events stubs) : Sound events (c.filled k t) := by
  refine sound_alike sound (filled_alike c k t) (fun j u held => ?_) accounted sound.warnings sound.errors
  rw [filled_slot empty] at held
  by_cases here : j = k
  · subst here
    rw [if_pos rfl] at held
    cases held
    exact same
  · rw [if_neg here] at held
    exact sound.ids j u held

theorem sound_returned (sound : Sound events c) {k : Nat} {t : TypeDefinition}
    (empty : c.slots[k]? = some none) (same : t.id = typeIdOf k) :
    Sound (events ++ [.returned t]) (c.filled k t) := by
  refine sound_filled (sound_more sound _) empty same ?_
  obtain ⟨stubs, apart, own, rest⟩ := sound.accounted
  refine ⟨stubs, apart, own.imp fun j issue => ?_, fun j u held => ?_⟩
  · rintro ⟨name, held⟩
    exact ⟨name, (filled_lasts empty t).slots j _ held⟩
  · rw [filled_slot empty] at held
    by_cases here : j = k
    · rw [if_pos here] at held
      cases held
      exact .inr (by simp)
    · rw [if_neg here] at held
      exact (rest j u held).imp_right (List.mem_append_left _)

theorem record_messages (c : Context) (issue : NodeIssue)
    (warnings : c.warnings = (c.issues.filter (·.severity = .warning)).map (·.message))
    (errors : c.errors = (c.issues.filter (·.severity = .error)).map (·.message)) :
    (c.record issue).warnings =
        ((c.issues ++ [issue]).filter (·.severity = .warning)).map (·.message) ∧
      (c.record issue).errors =
        ((c.issues ++ [issue]).filter (·.severity = .error)).map (·.message) := by
  unfold record
  cases kind : issue.severity <;> simp [kind, warnings, errors, warn, error]

-- The slot of a new placeholder is none of those of the earlier ones, which are not empty.
theorem accounted_stubbed {stubs : List Nat} (accounted : c.Accounted events stubs) {k : Nat}
    (empty : c.slots[k]? = some none) (name : String) (issue : NodeIssue) :
    ((c.record issue).filled k (placeholderType (typeIdOf k) name issue.message)).Accounted events
      (stubs ++ [k]) := by
  obtain ⟨slots, _, _, _, issues⟩ := record_fields c issue
  have open_ : (c.record issue).slots[k]? = some none := slots ▸ empty
  obtain ⟨apart, own, rest⟩ := accounted
  constructor
  case apart =>
    refine List.nodup_append.mpr ⟨apart, by simp, fun j stub l last same => ?_⟩
    cases List.mem_singleton.mp last
    obtain ⟨i, below, at_⟩ := List.mem_iff_getElem.mp stub
    obtain ⟨length, each⟩ := List.forall₂_iff_get.mp own
    obtain ⟨_, held⟩ := each i below (length ▸ below)
    rw [List.get_eq_getElem, at_, same, empty] at held
    cases held
  case own =>
    change List.Forall₂ _ _ (c.record issue).issues
    rw [issues]
    refine List.rel_append ?_ (.cons ⟨name, ?_⟩ .nil)
    · exact own.imp fun j other stub => stub.imp fun called held =>
        (filled_lasts open_ _).slots j _ (slots ▸ held)
    · rw [filled_slot open_, if_pos rfl]
  case rest =>
    intro j u held
    rw [filled_slot open_, slots] at held
    by_cases here : j = k
    · exact .inl (by simp [here])
    · rw [if_neg here] at held
      exact (rest j u held).imp_left (List.mem_append_left [k])

-- A placeholder in an empty slot, with the issue that it stands for.
theorem sound_stubbed (sound : Sound events c) {k : Nat} (empty : c.slots[k]? = some none)
    (name : String) (issue : NodeIssue) :
    let c' := (c.record issue).filled k (placeholderType (typeIdOf k) name issue.message)
    Sound events c' ∧ c.Lasts c' := by
  intro c'
  obtain ⟨slots, _, _, _, issues⟩ := record_fields c issue
  have messages := record_messages c issue sound.warnings sound.errors
  rw [← issues] at messages
  have open_ : (c.record issue).slots[k]? = some none := slots ▸ empty
  refine ⟨sound_alike sound (alike_trans (record_alike c issue) (filled_alike _ k _))
    (fun j u held => ?_) ?_ messages.1 messages.2,
    lasts_trans (record_lasts c issue) (filled_lasts open_ _)⟩
  · rw [filled_slot open_, slots] at held
    by_cases here : j = k
    · subst here
      rw [if_pos rfl] at held
      cases held
      rfl
    · rw [if_neg here] at held
      exact sound.ids j u held
  · obtain ⟨stubs, accounted⟩ := sound.accounted
    exact ⟨_, accounted_stubbed accounted empty name issue⟩

theorem filled_empty {k : Nat} (empty : c.slots[k]? = some none) (t : TypeDefinition) (j : Nat) :
    (c.filled k t).slots[j]? = some none ↔ j ≠ k ∧ c.slots[j]? = some none := by
  rw [filled_slot empty]
  by_cases here : j = k <;> simp [here]

theorem leave_finishes (sound : Sound events c) {k : Nat} (empty : c.slots[k]? = some none)
    (name : String) (outcome : Built) :
    ∃ c', c.leave (typeIdOf k) name (finish (typeIdOf k) outcome) = (.ok (), c') ∧
      Sound (events ++ Program.yielded (typeIdOf k) (.ok outcome)) c' ∧ c.Lasts c' ∧
      ∀ j, c'.slots[j]? = some none ↔ j ≠ k ∧ c.slots[j]? = some none := by
  cases outcome with
  | ok t =>
      refine ⟨c.filled k { t with id := typeIdOf k }, ?_, sound_returned sound empty rfl,
        filled_lasts empty _, filled_empty empty _⟩
      have filled := fill_empty (t := { t with id := typeIdOf k }) empty rfl
      rw [finish, leave_filled filled]
      rfl
  | error issue =>
      have slots := (record_fields c issue).1
      have open_ : (c.record issue).slots[k]? = some none := slots ▸ empty
      obtain ⟨sound', lasts⟩ := sound_stubbed sound empty name issue
      refine ⟨_, ?_, sound_more sound' _, lasts, fun j => ?_⟩
      · have filled := fill_empty (t := placeholderType (typeIdOf k) name issue.message) open_ rfl
        rw [finish, leave_node, leave_filled filled]
        rfl
      · rw [filled_empty open_, slots]

end Context

/-- A stretch of a run: sound at its end, with nothing lost and no slot left unfinished. -/
structure Settles (events : List Event) (c : Context) (trace : List Event) (c' : Context) : Prop where
  sound : Context.Sound (events ++ trace) c'
  lasts : c.Lasts c'
  unfinished : ∀ k : Nat, c'.slots[k]? = some none ↔ c.slots[k]? = some none
  passed : ∀ d, .passed d ∈ trace → d.Lasts c'

section Runs

open Context

variable {c c' c'' : Context} {events trace more : List Event}

theorem settles_trans (first : Settles events c trace c')
    (second : Settles (events ++ trace) c' more c'') : Settles events c (trace ++ more) c'' where
  sound := by
    rw [← List.append_assoc]
    exact second.sound
  lasts := lasts_trans first.lasts second.lasts
  unfinished k := (second.unfinished k).trans (first.unfinished k)
  passed d seen := (List.mem_append.mp seen).elim
    (fun early => lasts_trans (first.passed d early) second.lasts) (second.passed d)

theorem settles_passed (sound : Sound events c) : Settles events c [.passed c] c := by
  refine ⟨sound_more sound _, lasts_refl c, fun _ => Iff.rfl, fun d seen => ?_⟩
  cases List.mem_singleton.mp seen
  exact lasts_refl c

theorem remember_settles (sound : Sound events c) {id : String} (known : c.Known id) (key : Key) :
    Settles events c [] (c.remember id key) := by
  obtain ⟨sound', lasts⟩ := sound_remember sound known key
  refine ⟨sound_more sound' [], lasts, fun k => ?_, fun _ seen => absurd seen List.not_mem_nil⟩
  rw [(remember_slots c id key).1]

theorem stubbed_filled (c : Context) (name : String) (issue : NodeIssue) :
    stubbed (c.record issue) name issue.message = (c.allocate.2.record issue).filled c.typeCount
      (placeholderType (typeIdOf c.typeCount) name issue.message) := by
  unfold Context.record
  cases issue.severity <;> simp [stubbed, Context.filled, allocate, typeCount, warn, Context.error]

theorem allocate_empty (c : Context) (k : Nat) :
    k ≠ c.typeCount ∧ c.allocate.2.slots[k]? = some none ↔ c.slots[k]? = some none := by
  simp only [allocate, typeCount, List.getElem?_append]
  split
  next inside => exact and_iff_right (Nat.ne_of_lt inside)
  next outside =>
    rw [List.getElem?_eq_none (by omega : c.slots.length ≤ k)]
    simp only [List.getElem?_singleton]
    split <;> simp
    omega

theorem placeholder_settles (sound : Sound events c) (name : String) (issue : NodeIssue)
    (reference pointer : Option String) :
    ∃ id c', (Conversion.placeholder name issue reference pointer).run.run c = (.ok id, c') ∧
      Settles events c [] c' := by
  rw [placeholder_run]
  cases found : c.lookup? { reference, pointer } with
  | some id => exact ⟨id, c, rfl, sound_more sound [], lasts_refl c, fun _ => Iff.rfl, by simp⟩
  | none =>
      refine ⟨_, _, rfl, ?_⟩
      obtain ⟨sound₁, lasts₁⟩ := sound_allocate sound
      have empty : c.allocate.2.slots[c.typeCount]? = some none := by simp [allocate, typeCount]
      obtain ⟨sound₂, lasts₂⟩ := sound_stubbed sound₁ empty name issue
      rw [← stubbed_filled] at sound₂ lasts₂
      have known := stubbed_known (c.record issue) name issue.message
      obtain ⟨sound₃, lasts₃⟩ := sound_remember sound₂ known { reference, pointer }
      refine ⟨sound_more sound₃ [], lasts_trans lasts₁ (lasts_trans lasts₂ lasts₃), fun k => ?_,
        by simp⟩
      have open_ : (c.allocate.2.record issue).slots[c.typeCount]? = some none := by
        rwa [(record_fields c.allocate.2 issue).1]
      rw [(remember_slots _ _ _).1, stubbed_filled, filled_empty open_, (record_fields _ issue).1,
        allocate_empty]

theorem built_run (build : String → Conversion Built) {id : String} {outcome : Built}
    (run : (build id).run.run c = (.ok outcome, c')) :
    (built build id).run.run c = (finish id outcome, c') := by
  rw [built, run_bind, run]
  change (ofExcept (finish id outcome) : Conversion TypeDefinition).run.run c' = _
  cases finish id outcome <;> rfl

theorem resolve_settles (sound : Sound events c) (key : Key) (name : String)
    {build : String → Program Built}
    (each : ∀ id (events : List Event) (c : Context), Sound events c →
      ∃ outcome c', (build id).run.run.run c = (.ok outcome, c') ∧
        Settles events c ((build id).trace c) c') :
    ∃ id c', (Conversion.resolve key name (built fun id => (build id).run)).run.run c =
        (.ok id, c') ∧
      Settles events c
        (Program.within key (fun id => (build id).run) (fun id => (build id).trace) c) c' := by
  rw [resolve_run]
  unfold Program.within
  cases found : c.lookup? key with
  | some id => exact ⟨id, _, rfl, remember_settles sound (key_known sound found) key⟩
  | none =>
      obtain ⟨sound₁, lasts₁⟩ := sound_allocate sound
      obtain ⟨sound₂, lasts₂⟩ := sound_remember sound₁ (fresh_known c) key
      have slots := (remember_slots c.allocate.2 c.allocate.1 key).1
      obtain ⟨outcome, c₃, run, settled⟩ := each c.allocate.1 events _ sound₂
      have empty : c₃.slots[c.typeCount]? = some none := by
        rw [settled.unfinished, slots]
        simp [allocate, typeCount]
      obtain ⟨c₄, left, sound₄, lasts₄, unfinished⟩ :=
        leave_finishes settled.sound empty name outcome
      refine ⟨c.allocate.1, c₄, ?_, ?_⟩
      · have ran := built_run (fun id => (build id).run) run
        simp only [ran]
        exact congrArg (fun l : Except Fault Unit × Context => (l.1.map fun _ => typeIdOf c.typeCount, l.2)) left
      · simp only [run]
        refine ⟨?_, lasts_trans lasts₁ (lasts_trans lasts₂ (lasts_trans settled.lasts lasts₄)),
          fun k => ?_, fun d seen => ?_⟩
        · rw [← List.append_assoc]
          exact sound₄
        · rw [unfinished, settled.unfinished, slots, allocate_empty]
        · obtain early | late := List.mem_append.mp seen
          · exact lasts_trans (settled.passed d early) lasts₄
          · cases outcome <;> simp [Program.yielded] at late

theorem program_settles {α : Type} (p : Program α) : ∀ (events : List Event) (c : Context),
    Sound events c → ∃ answer c', p.run.run.run c = (.ok answer, c') ∧
      Settles events c (p.trace c) c' := by
  induction p with
  | done answer => exact fun events c sound => ⟨answer, c, rfl, settles_passed sound⟩
  | lookup key next ih =>
      intro events c sound
      obtain ⟨answer, c', run, settled⟩ :=
        ih (c.lookup? key) (events ++ [.passed c]) c (sound_more sound _)
      exact ⟨answer, c', run, settles_trans (settles_passed sound) settled⟩
  | placeholder name issue reference pointer next ih =>
      intro events c sound
      have begun := settles_passed sound
      obtain ⟨id, c₁, call, called⟩ := placeholder_settles begun.sound name issue reference pointer
      obtain ⟨answer, c', run, settled⟩ := ih id _ c₁ called.sound
      refine ⟨answer, c', ?_, ?_⟩
      · rw [Program.run, run_bind, call]
        exact run
      · have all := settles_trans begun (settles_trans called settled)
        rw [Program.trace, Program.resume, call]
        exact all
  | resolve key name build next ihBuild ih =>
      intro events c sound
      have begun := settles_passed sound
      obtain ⟨id, c₁, call, called⟩ := resolve_settles begun.sound key name ihBuild
      obtain ⟨answer, c', run, settled⟩ := ih id _ c₁ called.sound
      refine ⟨answer, c', ?_, ?_⟩
      · rw [Program.run, run_bind, call]
        exact run
      · have all := settles_trans begun (settles_trans called settled)
        rw [Program.trace, Program.resume, call]
        exact all

end Runs

structure Complete (trace : List Event) (c : Context) (types : List TypeDefinition) : Prop where
  listed : c.types = .ok types
  slots : c.slots = types.map some
  ids : ∀ (k : Nat) (t : TypeDefinition), types[k]? = some t → t.id = typeIdOf k
  references : ∀ r id, c.references.lookup r = some id → id ∈ types.map (·.id)
  identities : ∀ n id, c.identities.lookup n = some id → id ∈ types.map (·.id)
  pointers : ∀ p id, c.pointers.lookup p = some id → id ∈ types.map (·.id)
  unchanged : ∀ d, .passed d ∈ trace → d.Lasts c
  placeholders : ∃ stubs : List Nat, stubs.Nodup ∧
    List.Forall₂ (fun k issue => ∃ name,
      types[k]? = some (placeholderType (typeIdOf k) name issue.message)) stubs c.issues ∧
    ∀ (k : Nat) (t : TypeDefinition), types[k]? = some t → k ∈ stubs ∨ .returned t ∈ trace
  warnings : c.warnings = (c.issues.filter (·.severity = .warning)).map (·.message)
  errors : c.errors = (c.issues.filter (·.severity = .error)).map (·.message)

theorem sound_empty : Context.Sound [] {} where
  ids _ _ held := by cases held
  references _ _ noted := by cases noted
  identities _ _ noted := by cases noted
  pointers _ _ noted := by cases noted
  accounted := ⟨[], .nil, .nil, fun _ _ held => by cases held⟩
  warnings := rfl
  errors := rfl

theorem full_types {c : Context} (full : ∀ k : Nat, c.slots[k]? ≠ some none) :
    c.types = .ok (c.slots.filterMap id) := by
  have nothing : c.pending = [] := by
    refine List.filterMap_eq_nil_iff.mpr fun ⟨s, k⟩ member => ?_
    have held := List.mem_zipIdx_iff_getElem?.mp member
    cases s with
    | none => exact absurd held (full k)
    | some t => rfl
  rw [Context.types, nothing]

/-- Whatever calls have been made so far, once the last of them is over: they are a program. No slot
was filled twice or under another id, since that fault would have ended the run. -/
theorem program_completes {α : Type} (p : Program α) : ∃ answer c types,
    p.run.run.run {} = (.ok answer, c) ∧ Complete (p.trace {}) c types := by
  obtain ⟨answer, c, run, settled⟩ := program_settles p [] {} sound_empty
  have full : ∀ k : Nat, c.slots[k]? ≠ some none := by
    intro k empty
    cases (settled.unfinished k).mp empty
  have listed := full_types full
  have slots := Context.types_listed listed
  generalize c.slots.filterMap id = types at listed slots
  have slot : ∀ (k : Nat) (t : TypeDefinition),
      types[k]? = some t ↔ c.slots[k]? = some (some t) := by
    intro k t
    rw [slots, List.getElem?_map, Option.map_eq_some_iff]
    simp
  have ids : ∀ (k : Nat) (t : TypeDefinition), types[k]? = some t → t.id = typeIdOf k :=
    fun k t here => settled.sound.ids k t ((slot k t).mp here)
  have given : ∀ id, c.Known id → id ∈ types.map (·.id) := by
    rintro _ ⟨k, below, rfl⟩
    have inside : k < types.length := by
      rwa [Context.typeCount, slots, List.length_map] at below
    have here := List.getElem?_eq_getElem inside
    exact List.mem_map.mpr ⟨_, List.getElem_mem inside, ids k _ here⟩
  obtain ⟨stubs, apart, own, rest⟩ := settled.sound.accounted
  exact ⟨answer, c, types, run, {
    listed, slots, ids
    references := fun r id noted => given id (settled.sound.references r id noted)
    identities := fun n id noted => given id (settled.sound.identities n id noted)
    pointers := fun p id noted => given id (settled.sound.pointers p id noted)
    unchanged := settled.passed
    placeholders := ⟨stubs, apart,
      own.imp fun k issue stub => stub.imp fun name held => (slot k _).mpr held,
      fun k t here => rest k t ((slot k t).mp here)⟩
    warnings := settled.sound.warnings
    errors := settled.sound.errors }⟩

end ApiSchema
