import ApiSchema.Conversion.Resolver
import ApiSchema.Proofs.Conversion.Slots

namespace ApiSchema

variable {c : Context}

theorem slot_of_append {slots : List (Option TypeDefinition)} {k : Nat} {t : TypeDefinition} :
    (slots ++ [none])[k]? = some (some t) ↔ slots[k]? = some (some t) := by
  rw [List.getElem?_append]
  split
  · rfl
  next outside =>
    rw [List.getElem?_eq_none (by omega : slots.length ≤ k)]
    cases k - slots.length <;> simp

theorem allocate_count (c : Context) : c.allocate.2.typeCount = c.typeCount + 1 := by
  simp [Context.allocate, Context.typeCount]

theorem remember_slots (c : Context) (id : String) (key : Key) :
    (c.remember id key).slots = c.slots ∧ (c.remember id key).issues = c.issues := by
  obtain ⟨node, reference, pointer⟩ := key
  cases node <;> cases pointer <;> exact ⟨rfl, rfl⟩

theorem some_same {α : Type} [DecidableEq α] (a b : α) : some a = some b ↔ (b == a) = true := by
  simp only [Option.some.injEq, beq_iff_eq]
  exact eq_comm

theorem remember_references (c : Context) (id : String) (key : Key) (r : String) :
    (c.remember id key).references.lookup r =
      (c.references.lookup r).or (if key.reference = some r then some id else none) := by
  obtain ⟨node, reference, pointer⟩ := key
  cases reference with
  | none => cases node <;> cases pointer <;> simp [Context.remember]
  | some other =>
      have noted := note_lookup c.references other r id
      cases node <;> cases pointer <;> simp only [Context.remember, noted, some_same]

theorem remember_identities (c : Context) (id : String) (key : Key) (n : Nat) :
    (c.remember id key).identities.lookup n =
      (c.identities.lookup n).or (if key.node = some n then some id else none) := by
  obtain ⟨node, reference, pointer⟩ := key
  cases node with
  | none => cases pointer <;> simp [Context.remember]
  | some other =>
      have noted := note_lookup c.identities other n id
      cases pointer <;> simp only [Context.remember, noted, some_same]

theorem remember_pointers (c : Context) (id : String) (key : Key) (p : String) :
    (c.remember id key).pointers.lookup p = (c.pointers.lookup p).or
      (if key.node = none ∧ key.pointer = some p then some id else none) := by
  obtain ⟨node, reference, pointer⟩ := key
  cases node with
  | some n => cases pointer <;> simp [Context.remember]
  | none =>
      cases pointer with
      | none => simp [Context.remember]
      | some other =>
          have noted := note_lookup c.pointers other p id
          simp only [Context.remember, noted, some_same, true_and]

theorem or_of_some {α : Type} {a : Option α} {b : α} {p : Prop} [Decidable p] {v : α}
    (found : (a.or (if p then some b else none)) = some v) : a = some v ∨ a = none ∧ p ∧ b = v := by
  cases a with
  | some old => exact .inl found
  | none =>
      by_cases holds : p
      · simp only [if_pos holds, Option.none_or, Option.some.injEq] at found
        exact .inr ⟨rfl, holds, found⟩
      · simp [holds] at found

theorem some_or {α : Type} {a b : Option α} {v : α} (found : a = some v) : a.or b = some v := by
  rw [found]
  rfl

theorem fresh_not_known (c : Context) : ¬ c.Known c.allocate.1 := by
  rintro ⟨k, below, same⟩
  have number := type_id_injective same
  omega

theorem fresh_known (c : Context) : c.allocate.2.Known c.allocate.1 :=
  ⟨c.typeCount, by rw [allocate_count]; omega, rfl⟩

theorem lookup_cases {c : Context} {key : Key} {id : String} (found : c.lookup? key = some id) :
    (∃ r, key.reference = some r ∧ c.references.lookup r = some id) ∨
      (∃ n, key.node = some n ∧ c.identities.lookup n = some id) ∨
      ∃ p, key.node = none ∧ key.pointer = some p ∧ c.pointers.lookup p = some id := by
  obtain ⟨node, reference, pointer⟩ := key
  simp only [Context.lookup?] at found
  cases noted : reference.bind fun r => c.references.lookup r with
  | some other =>
      rw [noted] at found
      cases found
      obtain ⟨r, same, listed⟩ := Option.bind_eq_some_iff.mp noted
      exact .inl ⟨r, same, listed⟩
  | none =>
      rw [noted] at found
      cases node with
      | some n => exact .inr (.inl ⟨n, rfl, found⟩)
      | none =>
          obtain ⟨p, same, listed⟩ := Option.bind_eq_some_iff.mp found
          exact .inr (.inr ⟨p, rfl, same, listed⟩)

theorem lookup_none {key : Key} (absent : c.lookup? key = none) :
    (∀ r, key.reference = some r → c.references.lookup r = none) ∧
      ∀ m, key.node = some m → c.identities.lookup m = none := by
  obtain ⟨node, reference, pointer⟩ := key
  simp only [Context.lookup?] at absent
  cases noted : reference.bind fun r => c.references.lookup r with
  | some other =>
      rw [noted] at absent
      cases absent
  | none =>
      rw [noted] at absent
      refine ⟨fun r same => ?_, fun m same => ?_⟩
      · cases same
        exact noted
      · cases same
        exact absent

theorem remember_filled (c : Context) (slots : List (Option TypeDefinition)) (id : String) (key : Key) :
    ({ c with slots } : Context).remember id key = { c.remember id key with slots } := by
  obtain ⟨node, reference, pointer⟩ := key
  cases node <;> cases pointer <;> rfl

def stubbed (c : Context) (name reason : String) : Context :=
  { c with slots := c.slots ++ [some (placeholderType c.allocate.1 name reason)] }

theorem stubbed_known (c : Context) (name reason : String) :
    (stubbed c name reason).Known c.allocate.1 :=
  ⟨c.typeCount, by simp [stubbed, Context.typeCount], rfl⟩

theorem fill_fresh (c : Context) (key : Key) (name reason : String) :
    (c.allocate.2.remember c.allocate.1 key).fill c.allocate.1
        (placeholderType c.allocate.1 name reason) =
      .ok ((stubbed c name reason).remember c.allocate.1 key) := by
  have slots := (remember_slots c.allocate.2 c.allocate.1 key).1
  have empty : (c.allocate.2.remember c.allocate.1 key).slots[c.typeCount]? = some none := by
    rw [slots]
    simp [Context.allocate, Context.typeCount]
  have filled := Context.fill_empty (t := placeholderType c.allocate.1 name reason) empty rfl
  rw [slots] at filled
  have same : c.allocate.2.slots.set c.typeCount (some (placeholderType c.allocate.1 name reason)) =
      c.slots ++ [some (placeholderType c.allocate.1 name reason)] := by
    simp [Context.allocate, Context.typeCount]
  rw [same, ← remember_filled] at filled
  exact filled

theorem placeholder_run (name : String) (issue : NodeIssue) (reference pointer : Option String)
    (c : Context) :
    (Conversion.placeholder name issue reference pointer).run.run c =
      match c.lookup? { reference, pointer } with
      | some id => (.ok id, c)
      | none => (.ok (c.record issue).allocate.1,
          (stubbed (c.record issue) name issue.message).remember (c.record issue).allocate.1
            { reference, pointer }) := by
  change (match c.lookup? { reference, pointer } with
    | some id => (Except.ok id, c)
    | none => _) = _
  cases c.lookup? { reference, pointer } with
  | some id => rfl
  | none => simp only [fill_fresh]

namespace Context

theorem leave_filled {c' : Context} {id : String} {t : TypeDefinition} (filled : c.fill id t = .ok c')
    (name : String) : c.leave id name (.ok t) = (.ok (), c') := by
  simp only [leave, filled]

theorem leave_unfilled {id : String} {t : TypeDefinition} {f : Fault} (failed : c.fill id t = .error f)
    (name : String) : c.leave id name (.ok t) = (.error f, c) := by
  simp only [leave, failed]

theorem leave_node (c : Context) (id name : String) (issue : NodeIssue) :
    c.leave id name (.error (.node issue)) =
      (c.record issue).leave id name (.ok (placeholderType id name issue.message)) :=
  rfl

-- What holds still when a problem is recorded and when a slot is filled, with the definition that was
-- built or with a placeholder, holds at the end of a call.
theorem leave_keeps {P : Context → Prop} {id name : String} {built : Except Fault TypeDefinition}
    (recorded : ∀ c issue, P c → P (c.record issue))
    (filled : ∀ c c' t, built = .ok t ∨ (∃ message, t = placeholderType id name message) →
      c.fill id t = .ok c' → P c → P c')
    (held : P c) : P (c.leave id name built).2 := by
  have closed {c : Context} {t : TypeDefinition} (held : P c)
      (own : built = .ok t ∨ ∃ message, t = placeholderType id name message) :
      P (c.leave id name (.ok t)).2 := by
    cases put : c.fill id t with
    | ok c' =>
        rw [leave_filled put]
        exact filled c c' t own put held
    | error f =>
        rw [leave_unfilled put]
        exact held
  cases built with
  | ok t => exact closed held (.inl rfl)
  | error f =>
      cases f with
      | node issue =>
          rw [leave_node]
          exact closed (recorded c issue held) (.inr ⟨_, rfl⟩)
      | _ => exact held

end Context

theorem resolve_run (key : Key) (name : String) (build : String → Conversion TypeDefinition) :
    (Conversion.resolve key name build).run.run c =
      match c.lookup? key with
      | some id => (.ok id, c.remember id key)
      | none =>
          let built := (build c.allocate.1).run.run (c.allocate.2.remember c.allocate.1 key)
          let left := built.2.leave c.allocate.1 name built.1
          (left.1.map fun _ => c.allocate.1, left.2) := by
  change Conversion.resolve key name build c = _
  unfold Conversion.resolve Context.enter
  cases c.lookup? key with
  | some id => rfl
  | none =>
      simp only
      generalize (build c.allocate.1).run.run (c.allocate.2.remember c.allocate.1 key) = built
      obtain ⟨outcome, c₂⟩ := built
      simp only
      generalize c₂.leave c.allocate.1 name outcome = left
      obtain ⟨result, c₃⟩ := left
      cases result <;> rfl

end ApiSchema
