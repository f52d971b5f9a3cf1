import ApiSchema.Proofs.Conversion.Programs
import ApiSchema.Proofs.Dialect.Definitions
import ApiSchema.Proofs.Schema.Closed

/-!
What the slots of a dialect conversion stand for.

A type has a mark: the number of a definition or of a parameter, the keyword of a primitive, or a name
that nothing has. Each slot is that of one mark, and holds what the mark stands for, with the ids that
the parts of it have. A name that nothing has is reported when its slot is made.
-/

namespace ApiSchema.Dialect

inductive Mark where
  | number (n : Nat)
  | keyword (s : String)
  | unknown (s : String)
deriving DecidableEq

theorem name_reference_injective {s s' : String} (same : nameReference s = nameReference s') : s = s' := by
  have spelled := congrArg String.toList same
  simp only [nameReference, String.toList_append, List.append_cancel_left_eq] at spelled
  exact String.toList_inj.mp spelled

def missing (name : String) : NodeIssue := .unresolved name (some "no type with this name")

def reported? : NodeIssue → Option String
  | .unresolved name _ => some name
  | _ => none

/-- The parts of a definition, each by its id, in a shape. -/
def ShapeAt (ids : TypeSource → Option String) (properties : List (Field × TypeSource))
    (items variants : List TypeSource) : Shape → Prop
  | .object made _ additional _ => additional = none ∧ List.Forall₂ (fun entry p =>
      p.name = entry.1.name ∧ ids entry.2 = some p.type.typeId) properties made
  | .array item .. => ∃ source rest, items = source :: rest ∧ ids source = some item.typeId
  | .union made .. => List.Forall₂ (fun source ref => ids source = some ref.typeId) variants made
  | .primitive .. | .enum .. => True

def Faulty (about : About) (items : List TypeSource) : Prop :=
  about.kind ∉ knownKinds ∨ about.kind = "array" ∧ items = []

def DefinedAs (ids : TypeSource → Option String) (about : About)
    (properties : List (Field × TypeSource)) (items variants : List TypeSource)
    (t : TypeDefinition) : Prop :=
  t.name = about.name ∧ (Faulty about items ∧ (∃ issue : NodeIssue,
    t = placeholderType t.id about.name issue.message) ∨ ShapeAt ids properties items variants t.shape)

namespace DialectDocument

def named (d : DialectDocument) : List (String × TypeSource) := firstDefinitions d.definitions

-- A name is looked for among the definitions first, as it is, and then among the primitives.
def markOf (d : DialectDocument) : TypeSource → Mark
  | .definition about .. => .number about.number
  | .name s =>
    match (d.named.lookup s).bind TypeSource.number? with
    | some n => .number n
    | none =>
      if (primitiveKinds.lookup (Text.lowerText s)).isSome then .keyword (Text.lowerText s)
      else .unknown s

def slot (d : DialectDocument) (c : Context) : Mark → Option String
  | .number n => c.identities.lookup n
  | .keyword s => c.pointers.lookup ("primitive:" ++ s)
  | .unknown s => if (d.named.lookup s).isSome then none else c.references.lookup (nameReference s)

def idOf (d : DialectDocument) (c : Context) (source : TypeSource) : Option String :=
  d.slot c (d.markOf source)

/-- The key under which a mark is noted. The first definition of a name is noted under the name, too. -/
def KeyOf (d : DialectDocument) : Mark → Key → Prop
  | .number n, key => key.node = some n ∧ key.pointer = none ∧ ∀ r, key.reference = some r ↔
      ∃ s first, d.named.lookup s = some first ∧ first.number? = some n ∧ r = nameReference s
  | .keyword s, key => key = { pointer := some ("primitive:" ++ s) }
  | .unknown s, key => d.named.lookup s = none ∧ key = { reference := some (nameReference s) }

def Made (d : DialectDocument) (c : Context) : Mark → TypeDefinition → Prop
  | .number n, t =>
    (∀ about properties items variants, .definition about properties items variants ∈ d.definitions →
      about.number = n → DefinedAs (d.idOf c) about properties items variants t) ∧
    ((∀ a ∈ d.definitions, a.number? ≠ some n) → ∀ base, t.shape.sites base = [])
  | .keyword s, t => ∃ kind, primitiveKinds.lookup s = some kind ∧
      t = { id := t.id, name := s, shape := .primitive kind none }
  | .unknown s, t => primitiveKinds.lookup (Text.lowerText s) = none ∧
      t = placeholderType t.id s (missing s).message

structure Sound (d : DialectDocument) (c : Context) : Prop where
  ids : ∀ (k : Nat) (t : TypeDefinition), c.slots[k]? = some (some t) → t.id = typeIdOf k
  known : ∀ μ id, d.slot c μ = some id → c.Known id
  firsts : ∀ s first n, d.named.lookup s = some first → first.number? = some n →
    c.references.lookup (nameReference s) = c.identities.lookup n
  apart : ∀ μ ν id, d.slot c μ = some id → d.slot c ν = some id → μ = ν
  owned : ∀ k < c.typeCount, ∃ μ, d.slot c μ = some (typeIdOf k)
  made : ∀ μ (k : Nat) t, d.slot c μ = some (typeIdOf k) → c.slots[k]? = some (some t) → d.Made c μ t

/-- Every name that nothing has is reported once, if it has a slot, and no other is. -/
structure Reported (d : DialectDocument) (c : Context) : Prop where
  once : (c.issues.filterMap reported?).Nodup
  used : ∀ s, s ∈ c.issues.filterMap reported? ↔ (d.slot c (.unknown s)).isSome

variable {d : DialectDocument} {c c' : Context} {μ ν : Mark} {key : Key} {id : String}

theorem slot_later (later : c.Lasts c') (held : d.slot c μ = some id) : d.slot c' μ = some id := by
  cases μ with
  | number n => exact later.identities n id held
  | keyword s => exact later.pointers _ id held
  | unknown s =>
      simp only [slot] at held ⊢
      by_cases defined : (d.named.lookup s).isSome
      · simp [defined] at held
      · simp only [defined, Bool.false_eq_true, if_false] at held ⊢
        exact later.references _ id held

theorem shape_at_later (later : c.Lasts c') {properties : List (Field × TypeSource)}
    {items variants : List TypeSource} {shape : Shape}
    (held : ShapeAt (d.idOf c) properties items variants shape) :
    ShapeAt (d.idOf c') properties items variants shape := by
  cases shape with
  | object => exact ⟨held.1, held.2.imp fun _ _ ⟨name, id⟩ => ⟨name, slot_later later id⟩⟩
  | array =>
      obtain ⟨source, rest, same, id⟩ := held
      exact ⟨source, rest, same, slot_later later id⟩
  | union => exact held.imp fun _ _ id => slot_later later id
  | primitive | «enum» => trivial

theorem made_later (later : c.Lasts c') {t : TypeDefinition} (made : d.Made c μ t) : d.Made c' μ t := by
  cases μ with
  | number n =>
      refine ⟨fun about properties items variants listed same => ?_, made.2⟩
      obtain ⟨name, stub | shape⟩ := made.1 about properties items variants listed same
      · exact ⟨name, .inl stub⟩
      · exact ⟨name, .inr (shape_at_later later shape)⟩
  | keyword | unknown => exact made

section Begin

theorem lookup_keyed (sound : d.Sound c) (keyed : d.KeyOf μ key) : c.lookup? key = d.slot c μ := by
  obtain ⟨node, reference, pointer⟩ := key
  cases μ with
  | number n =>
      obtain ⟨rfl, rfl, refers⟩ := keyed
      cases reference with
      | none => rfl
      | some r =>
          obtain ⟨s, first, found, numbered, rfl⟩ := (refers r).mp rfl
          have same := sound.firsts s first n found numbered
          simp only [Context.lookup?, slot, Option.bind_some, same]
          cases c.identities.lookup n <;> rfl
  | keyword s =>
      cases keyed
      rfl
  | unknown s =>
      obtain ⟨nothing, same⟩ := keyed
      cases same
      simp only [Context.lookup?, slot, nothing, Option.isSome_none, Bool.false_eq_true, if_false,
        Option.bind_some, Option.bind_none]
      cases c.references.lookup (nameReference s) <;> rfl

theorem noted_same {α : Type} [BEq α] {entries : List (α × String)} {key : α} {id other : String}
    (known : entries.lookup key = some other) : noteFirst entries key id = entries := by
  simp [noteFirst, known]

theorem remember_same (sound : d.Sound c) (keyed : d.KeyOf μ key) (known : d.slot c μ = some id) :
    c.remember id key = c := by
  obtain ⟨node, reference, pointer⟩ := key
  cases μ with
  | number n =>
      obtain ⟨rfl, rfl, refers⟩ := keyed
      cases reference with
      | none => simp only [Context.remember, noted_same known]
      | some r =>
          obtain ⟨s, first, found, numbered, rfl⟩ := (refers r).mp rfl
          have same := (sound.firsts s first n found numbered).trans known
          simp only [Context.remember, noted_same known, noted_same same]
  | keyword s =>
      cases keyed
      simp only [Context.remember, noted_same known]
  | unknown s =>
      obtain ⟨nothing, same⟩ := keyed
      cases same
      simp only [slot, nothing, Option.isSome_none, Bool.false_eq_true, if_false] at known
      simp only [Context.remember, noted_same known]

theorem slot_remember (keyed : d.KeyOf μ key) (absent : d.slot c μ = none) (ν : Mark) :
    d.slot (c.remember id key) ν = if ν = μ then some id else d.slot c ν := by
  obtain ⟨node, reference, pointer⟩ := key
  cases μ with
  | number n =>
      obtain ⟨rfl, rfl, refers⟩ := keyed
      cases ν with
      | number m =>
          simp only [slot, remember_identities, Mark.number.injEq, Option.some.injEq]
          by_cases same : m = n
          · subst same
            simp only [slot] at absent
            simp [absent]
          · simp [same, Ne.symm same]
      | keyword s => simp [slot, remember_pointers]
      | unknown s =>
          simp only [slot, remember_references]
          -- A name with a definition goes by the number of the definition, so its reference does not count.
          by_cases defined : (d.named.lookup s).isSome
          · simp [defined]
          · have other : reference ≠ some (nameReference s) := by
              intro same
              obtain ⟨s', first, found, _, named⟩ := (refers _).mp same
              rw [← name_reference_injective named] at found
              exact defined (by simp [found])
            simp [defined, other]
  | keyword s =>
      cases keyed
      cases ν with
      | number m => simp [slot, remember_identities]
      | unknown s' => simp [slot, remember_references]
      | keyword s' =>
          simp only [slot, remember_pointers, Mark.keyword.injEq, true_and, Option.some.injEq]
          by_cases same : s' = s
          · subst same
            simp only [slot] at absent
            simp [absent]
          · have other : ¬ "primitive:" ++ s = "primitive:" ++ s' := by
              intro joined
              have spelled := congrArg String.toList joined
              simp only [String.toList_append, List.append_cancel_left_eq] at spelled
              exact same (String.toList_inj.mp spelled).symm
            simp [same, other]
  | unknown s =>
      obtain ⟨nothing, same⟩ := keyed
      cases same
      cases ν with
      | number m => simp [slot, remember_identities]
      | keyword s' => simp [slot, remember_pointers]
      | unknown s' =>
          simp only [slot, remember_references, Mark.unknown.injEq, Option.some.injEq]
          by_cases same : s' = s
          · subst same
            simp only [slot, nothing, Option.isSome_none, Bool.false_eq_true, if_false] at absent
            simp [nothing, absent]
          · have other : ¬ nameReference s = nameReference s' :=
              fun joined => same (name_reference_injective joined).symm
            simp [same, other]

def begun (c : Context) (key : Key) : Context := c.allocate.2.remember c.allocate.1 key

theorem begun_slots (c : Context) (key : Key) : (begun c key).slots = c.slots ++ [none] :=
  (remember_slots c.allocate.2 c.allocate.1 key).1

theorem begun_count (c : Context) (key : Key) : (begun c key).typeCount = c.typeCount + 1 := by
  simp [Context.typeCount, begun_slots]

theorem begun_lasts (c : Context) (key : Key) : c.Lasts (begun c key) := by
  refine ⟨by rw [begun_count]; omega, fun r id noted => ?_, fun n id noted => ?_,
    fun p id noted => ?_, fun k t held => ?_⟩
  · rw [begun, remember_references]
    exact some_or noted
  · rw [begun, remember_identities]
    exact some_or noted
  · rw [begun, remember_pointers]
    exact some_or noted
  · rw [begun_slots]
    exact slot_of_append.mpr held

theorem begun_slot (keyed : d.KeyOf μ key) (absent : d.slot c μ = none) (ν : Mark) :
    d.slot (begun c key) ν = if ν = μ then some c.allocate.1 else d.slot c ν :=
  slot_remember (c := c.allocate.2) keyed absent ν

theorem begun_empty (c : Context) (key : Key) : (begun c key).slots[c.typeCount]? = some none := by
  rw [begun_slots]
  simp [Context.typeCount]

-- The reference of a name and the number of its first definition are noted together or not at all.
theorem begun_firsts (sound : d.Sound c) (keyed : d.KeyOf μ key) (s : String) (first : TypeSource)
    (n : Nat) (found : d.named.lookup s = some first) (numbered : first.number? = some n) :
    (begun c key).references.lookup (nameReference s) = (begun c key).identities.lookup n := by
  have before := sound.firsts s first n found numbered
  have together : key.reference = some (nameReference s) ↔ key.node = some n := by
    cases μ with
    | number m =>
        obtain ⟨node, _, refers⟩ := keyed
        rw [refers, node]
        constructor
        · rintro ⟨s', other, found', numbered', same⟩
          rw [← name_reference_injective same, found] at found'
          cases found'
          exact numbered'.symm.trans numbered
        · intro same
          exact ⟨s, first, found, numbered.trans same.symm, rfl⟩
    | keyword => cases keyed; simp
    | unknown s' =>
        obtain ⟨nothing, same⟩ := keyed
        cases same
        refine ⟨fun same => ?_, fun same => by cases same⟩
        rw [name_reference_injective (Option.some.inj same), found] at nothing
        cases nothing
  rw [begun, remember_references, remember_identities]
  change (c.references.lookup _).or _ = (c.identities.lookup n).or _
  rw [before]
  simp only [together]

theorem sound_begun (sound : d.Sound c) (keyed : d.KeyOf μ key) (absent : d.slot c μ = none) :
    d.Sound (begun c key) := by
  -- The id of the new slot stands for nothing so far.
  have fresh : ∀ ν, d.slot c ν ≠ some c.allocate.1 := fun ν held =>
    fresh_not_known c (sound.known ν _ held)
  constructor
  case ids =>
    intro k t held
    rw [begun_slots] at held
    exact sound.ids k t (slot_of_append.mp held)
  case known =>
    intro ν id held
    rw [begun_slot keyed absent] at held
    by_cases same : ν = μ
    · rw [if_pos same] at held
      exact ⟨c.typeCount, by rw [begun_count]; omega, (Option.some.inj held).symm⟩
    · rw [if_neg same] at held
      exact Context.known_later (begun_lasts c key).count (sound.known ν id held)
  case firsts => exact begun_firsts sound keyed
  case apart =>
    intro ν ξ id one two
    rw [begun_slot keyed absent] at one two
    by_cases first : ν = μ <;> by_cases second : ξ = μ
    · exact first.trans second.symm
    · rw [if_pos first] at one
      rw [if_neg second] at two
      exact absurd (two.trans one.symm) (fresh ξ)
    · rw [if_neg first] at one
      rw [if_pos second] at two
      exact absurd (one.trans two.symm) (fresh ν)
    · rw [if_neg first] at one
      rw [if_neg second] at two
      exact sound.apart ν ξ id one two
  case owned =>
    intro k below
    rw [begun_count] at below
    by_cases last : k = c.typeCount
    · exact ⟨μ, by rw [begun_slot keyed absent, if_pos rfl, last]; rfl⟩
    · obtain ⟨ν, held⟩ := sound.owned k (by omega)
      exact ⟨ν, slot_later (begun_lasts c key) held⟩
  case made =>
    intro ν k t held there
    rw [begun_slots] at there
    have there := slot_of_append.mp there
    rw [begun_slot keyed absent] at held
    by_cases same : ν = μ
    · rw [if_pos same] at held
      have last : c.typeCount = k := type_id_injective (Option.some.inj held)
      have inside := (List.getElem?_eq_some_iff.mp there).1
      exact absurd inside (by simp [Context.typeCount, ← last])
    · rw [if_neg same] at held
      exact made_later (begun_lasts c key) (sound.made ν k t held there)

end Begin

section Fill

theorem sound_fill (sound : d.Sound c) {k : Nat} (empty : c.slots[k]? = some none)
    (held : d.slot c μ = some (typeIdOf k)) {t : TypeDefinition} (same : t.id = typeIdOf k)
    (made : d.Made c μ t) : d.Sound (c.filled k t) := by
  have lasts := Context.filled_lasts empty t
  refine ⟨fun j u there => ?_, fun ν id noted => ?_, sound.firsts, sound.apart, fun j below => ?_,
    fun ν j u noted there => ?_⟩
  · rw [Context.filled_slot empty] at there
    by_cases here : j = k
    · rw [if_pos here] at there
      cases there
      exact here ▸ same
    · rw [if_neg here] at there
      exact sound.ids j u there
  · exact Context.known_later lasts.count (sound.known ν id noted)
  · exact sound.owned j (by simpa [Context.filled, Context.typeCount] using below)
  · rw [Context.filled_slot empty] at there
    refine made_later lasts ?_
    by_cases here : j = k
    · rw [if_pos here] at there
      cases there
      have own := sound.apart μ ν _ held (here ▸ noted)
      exact own ▸ made
    · rw [if_neg here] at there
      exact sound.made ν j u noted there

-- A slot does not depend on what is noted about the run.
theorem sound_same (sound : d.Sound c) (slots : c'.slots = c.slots)
    (references : c'.references = c.references) (identities : c'.identities = c.identities)
    (pointers : c'.pointers = c.pointers) : d.Sound c' := by
  have same : ∀ ν, d.slot c' ν = d.slot c ν := by
    intro ν
    cases ν <;> simp only [slot, references, identities, pointers]
  have count : c'.typeCount = c.typeCount := by simp only [Context.typeCount, slots]
  have lasts : c.Lasts c' :=
    Context.lasts_of_alike ⟨Nat.le_of_eq count.symm, references, identities, pointers⟩ fun k t held => by
      rwa [slots]
  constructor
  case ids => exact fun k t held => sound.ids k t (slots ▸ held)
  case known => exact fun ν id held => Context.known_later lasts.count (sound.known ν id (same ν ▸ held))
  case firsts =>
    rw [references, identities]
    exact sound.firsts
  case apart => exact fun ν ξ id one two => sound.apart ν ξ id (same ν ▸ one) (same ξ ▸ two)
  case owned =>
    intro k below
    obtain ⟨ν, held⟩ := sound.owned k (count ▸ below)
    exact ⟨ν, (same ν).trans held⟩
  case made =>
    exact fun ν k t held there => made_later lasts (sound.made ν k t (same ν ▸ held) (slots ▸ there))

theorem sound_record (sound : d.Sound c) (issue : NodeIssue) : d.Sound (c.record issue) := by
  obtain ⟨slots, references, identities, pointers, _⟩ := Context.record_fields c issue
  exact sound_same sound slots references identities pointers

theorem record_slot (c : Context) (issue : NodeIssue) (ν : Mark) :
    d.slot (c.record issue) ν = d.slot c ν := by
  obtain ⟨_, references, identities, pointers, _⟩ := Context.record_fields c issue
  cases ν <;> simp only [slot, references, identities, pointers]

theorem reported_record (reported : d.Reported c) {issue : NodeIssue} (other : reported? issue = none) :
    d.Reported (c.record issue) := by
  have issues := (Context.record_fields c issue).2.2.2.2
  have same : (c.record issue).issues.filterMap reported? = c.issues.filterMap reported? := by
    rw [issues, List.filterMap_append]
    simp [other]
  refine ⟨same ▸ reported.once, fun s => ?_⟩
  rw [same, record_slot]
  exact reported.used s

theorem reported_begun (reported : d.Reported c) (keyed : d.KeyOf μ key) (absent : d.slot c μ = none)
    (known : ∀ s, μ ≠ .unknown s) : d.Reported (begun c key) := by
  have issues : (begun c key).issues = c.issues := (remember_slots c.allocate.2 c.allocate.1 key).2
  refine ⟨issues ▸ reported.once, fun s => ?_⟩
  rw [issues, begun_slot keyed absent, if_neg (Ne.symm (known s))]
  exact reported.used s

-- The report comes first and the slot second; in between they do not fit.
theorem reported_missing (reported : d.Reported c) {s : String}
    (keyed : d.KeyOf (.unknown s) key) (absent : d.slot c (.unknown s) = none) :
    d.Reported (begun (c.record (missing s)) key) := by
  have issues : (begun (c.record (missing s)) key).issues = c.issues ++ [missing s] :=
    (remember_slots _ _ _).2.trans (Context.record_fields c (missing s)).2.2.2.2
  have names : (begun (c.record (missing s)) key).issues.filterMap reported? =
      c.issues.filterMap reported? ++ [s] := by
    rw [issues, List.filterMap_append]
    rfl
  have new : s ∉ c.issues.filterMap reported? := by
    rw [reported.used, absent]
    simp
  refine ⟨?_, fun s' => ?_⟩
  · rw [names]
    exact List.nodup_append.mpr ⟨reported.once, by simp, fun a member b last same => by
      rw [List.mem_singleton.mp last] at same
      exact new (same ▸ member)⟩
  · rw [names, begun_slot keyed (by rw [record_slot]; exact absent), record_slot, List.mem_append,
      reported.used]
    by_cases same : s' = s <;> simp [same]

end Fill

/-- Sound states, of which a later one has lost nothing and has the same empty slots. -/
def regime (d : DialectDocument) (faults : Fault → Prop) : Regime Context Fault where
  holds c := d.Sound c ∧ d.Reported c
  grows c c' := c.Lasts c' ∧ ∀ k : Nat, c'.slots[k]? = some none ↔ c.slots[k]? = some none
  faults := faults
  refl c := ⟨Context.lasts_refl c, fun _ => Iff.rfl⟩
  trans one two := ⟨Context.lasts_trans one.1 two.1, fun k => (two.2 k).trans (one.2 k)⟩

section Resolve

variable {start : Context} {faults bad : Fault → Prop} {name : String}

theorem leave_definition {k : Nat} (empty : c.slots[k]? = some none) {t : TypeDefinition}
    (same : t.id = typeIdOf k) (name : String) :
    c.leave (typeIdOf k) name (.ok t) = (.ok (), c.filled k t) := by
  have filled : c.fill (typeIdOf k) t = .ok (c.filled k t) := Context.fill_empty empty same
  exact Context.leave_filled filled name

theorem leave_problem {k : Nat} (empty : c.slots[k]? = some none) (name : String) (issue : NodeIssue) :
    c.leave (typeIdOf k) name (.error (.node issue)) =
      (.ok (), (c.record issue).filled k (placeholderType (typeIdOf k) name issue.message)) := by
  have open_ : (c.record issue).slots[k]? = some none := (Context.record_fields c issue).1 ▸ empty
  rw [Context.leave_node, leave_definition open_ rfl]

-- The slot that was made is filled again, and no other has been touched.
theorem filled_grows {c₂ : Context} {key : Key} (grown : (d.regime bad).grows (begun c key) c₂)
    (lasts : c₂.Lasts c') (slots : c'.slots = c₂.slots) (t : TypeDefinition) :
    (d.regime faults).grows c (c'.filled c.typeCount t) := by
  have empty : c'.slots[c.typeCount]? = some none := by
    rw [slots, grown.2]
    exact begun_empty c key
  refine ⟨Context.lasts_trans (begun_lasts c key) (Context.lasts_trans grown.1
    (Context.lasts_trans lasts (Context.filled_lasts empty t))), fun k => ?_⟩
  rw [Context.filled_empty empty, slots, grown.2, begun_slots]
  exact allocate_empty c k

theorem record_grows (c : Context) (issue : NodeIssue) : (d.regime faults).grows c (c.record issue) :=
  ⟨Context.record_lasts c issue, fun _ => by rw [(Context.record_fields c issue).1]⟩

theorem reported_fill (reported : d.Reported c) (k : Nat) (t : TypeDefinition) :
    d.Reported (c.filled k t) := ⟨reported.once, reported.used⟩

theorem keeps_resolve {build : String → Conversion TypeDefinition} (keyed : d.KeyOf μ key)
    (known : ∀ s, μ ≠ .unknown s)
    (built : ∀ c, (d.regime faults).grows start c → d.slot c μ = none →
      (d.regime bad).Keeps (begun c key) (build c.allocate.1) fun t c' =>
        t.id = c.allocate.1 ∧ d.Made c' μ t)
    (stub : ∀ f, bad f → ∃ issue, f = .node issue ∧ reported? issue = none ∧
      ∀ id c', d.Made c' μ (placeholderType id name issue.message)) :
    (d.regime faults).Keeps start (Conversion.resolve key name build) fun id c =>
      d.slot c μ = some id := by
  intro c ⟨sound, reported⟩ later
  rw [resolve_run, lookup_keyed sound keyed]
  cases held : d.slot c μ with
  | some id =>
      simp only [remember_same sound keyed held]
      exact ⟨⟨sound, reported⟩, (d.regime faults).refl c, held⟩
  | none =>
      have begins : (d.regime bad).holds (begun c key) :=
        ⟨sound_begun sound keyed held, reported_begun reported keyed held known⟩
      obtain ⟨⟨sound₂, reported₂⟩, grown, outcome⟩ :=
        built c later held (begun c key) begins ((d.regime bad).refl _)
      simp only
      rw [show c.allocate.2.remember c.allocate.1 key = begun c key from rfl]
      -- Whatever the build does, the slot of this mark is the one that it has left empty.
      generalize (build c.allocate.1).run.run (begun c key) = reached at sound₂ reported₂ grown outcome ⊢
      rcases reached with ⟨answer, c₂⟩
      have empty : c₂.slots[c.typeCount]? = some none := (grown.2 _).mpr (begun_empty c key)
      have owner : d.slot c₂ μ = some c.allocate.1 :=
        slot_later grown.1 (by rw [begun_slot keyed held, if_pos rfl])
      cases answer with
      | ok t =>
          obtain ⟨same, made⟩ := outcome
          have left : c₂.leave c.allocate.1 name (.ok t) = (.ok (), c₂.filled c.typeCount t) :=
            leave_definition empty same name
          simp only [left]
          exact ⟨⟨sound_fill sound₂ empty owner same made, reported_fill reported₂ _ t⟩,
            filled_grows grown (Context.lasts_refl c₂) rfl t, owner⟩
      | error f =>
          obtain ⟨issue, rfl, silent, made⟩ := stub f outcome
          have slots := (Context.record_fields c₂ issue).1
          have owner' : d.slot (c₂.record issue) μ = some c.allocate.1 := (record_slot c₂ issue μ).trans owner
          have left : c₂.leave c.allocate.1 name (.error (.node issue)) = (.ok (),
              (c₂.record issue).filled c.typeCount
                (placeholderType (typeIdOf c.typeCount) name issue.message)) :=
            leave_problem empty name issue
          simp only [left]
          exact ⟨⟨sound_fill (sound_record sound₂ issue) (slots ▸ empty) owner' rfl (made _ _),
              reported_fill (reported_record reported₂ silent) _ _⟩,
            filled_grows grown (Context.record_lasts c₂ issue) slots _, owner'⟩

theorem stubbed_begun (c : Context) (key : Key) (name reason : String) :
    (stubbed c name reason).remember c.allocate.1 key =
      (begun c key).filled c.typeCount (placeholderType (typeIdOf c.typeCount) name reason) := by
  have one := fill_fresh c key name reason
  have two := Context.fill_empty (t := placeholderType (typeIdOf c.typeCount) name reason)
    (begun_empty c key) rfl
  exact Except.ok.inj (one.symm.trans two)

theorem keeps_unknown {s : String} (nothing : d.named.lookup s = none)
    (other : primitiveKinds.lookup (Text.lowerText s) = none) :
    (d.regime faults).Keeps start
      (Conversion.placeholder s (missing s) (some (nameReference s)) none) fun id c =>
        d.slot c (.unknown s) = some id := by
  intro c ⟨sound, reported⟩ _
  have keyed : d.KeyOf (.unknown s) { reference := some (nameReference s) } := ⟨nothing, rfl⟩
  rw [placeholder_run, lookup_keyed sound keyed]
  cases held : d.slot c (.unknown s) with
  | some id => exact ⟨⟨sound, reported⟩, (d.regime faults).refl c, held⟩
  | none =>
      have absent : d.slot (c.record (missing s)) (.unknown s) = none := (record_slot c _ _).trans held
      have sound₁ := sound_begun (sound_record sound (missing s)) keyed absent
      have reported₁ := reported_missing reported keyed held
      have owner : d.slot (begun (c.record (missing s)) _) (.unknown s) = some _ :=
        (begun_slot keyed absent _).trans (if_pos rfl)
      have grown : (d.regime faults).grows (c.record (missing s)) _ :=
        filled_grows ((d.regime faults).refl (begun (c.record (missing s))
          { reference := some (nameReference s) })) (Context.lasts_refl _) rfl
          (placeholderType (typeIdOf (c.record (missing s)).typeCount) s (missing s).message)
      simp only [stubbed_begun]
      exact ⟨⟨sound_fill sound₁ (begun_empty _ _) owner rfl ⟨other, rfl⟩, reported_fill reported₁ _ _⟩,
        (d.regime faults).trans (record_grows c (missing s)) grown, owner⟩

end Resolve

end DialectDocument

end ApiSchema.Dialect
