import ApiSchema.Proofs.Conversion.Notes

/-!
What all definitions that a conversion finishes have in common.

A definition comes from a build or stands in for one that failed. So a property that every build gives,
and that every placeholder has, is one of each finished slot, in whatever order the calls are made.
Meanwhile each recorded problem is told of, and no problem of a node goes beyond its placeholder.
-/

namespace ApiSchema

variable {P : TypeDefinition → Prop} {stops more : Fault → Prop} {α β : Type}

def filling (P : TypeDefinition → Prop) (stops : Fault → Prop) : Regime Context Fault where
  holds c := (∀ t, some t ∈ c.slots → P t) ∧ c.Told
  grows _ _ := True
  faults := stops
  refl _ := trivial
  trans _ _ := trivial

theorem filling_empty (P : TypeDefinition → Prop) (stops : Fault → Prop) : (filling P stops).holds {} :=
  ⟨fun _ impossible => (by cases impossible), fun _ impossible => by cases impossible⟩

/-- A step finishes definitions with the property only, and its answer or its fault is as expected. -/
def Fills (P : TypeDefinition → Prop) (stops : Fault → Prop) (step : Conversion α) (post : α → Prop) : Prop :=
  (filling P stops).Keeps {} step fun a _ => post a

section Steps

variable {post : α → Prop} {step : Conversion α}

theorem fills_bind {rest : α → Conversion β} {last : β → Prop} (first : Fills P stops step post)
    (next : ∀ a, post a → Fills P stops (rest a) last) : Fills P stops (step >>= rest) last :=
  Regime.keeps_bind first fun a _ _ held => Regime.keeps_later trivial (next a held)

theorem fills_pure {a : α} (held : post a) : Fills P stops (pure a) post :=
  Regime.keeps_pure fun _ _ => held

theorem fills_throw {f : Fault} (may : stops f) : Fills P stops (throw f : Conversion α) post :=
  Regime.keeps_throw may

theorem fills_of_except {e : Except Fault α} (may : ∀ f, e = .error f → stops f) :
    Fills P stops (ofExcept e) fun a => e = .ok a :=
  Regime.keeps_of_except may fun _ _ _ same => same

theorem fills_map {f : α → β} {last : β → Prop} (kept : Fills P stops step fun a => last (f a)) :
    Fills P stops (f <$> step) last :=
  Regime.keeps_map kept

theorem fills_weaken {weaker : α → Prop} (kept : Fills P stops step post) (weakens : ∀ a, post a → weaker a) :
    Fills P stops step weaker :=
  Regime.keeps_weaken kept fun a _ _ => weakens a

theorem fills_beyond (kept : Fills P stops step post) (beyond : ∀ f, stops f → more f) :
    Fills P more step post := by
  intro c held later
  obtain ⟨held', grown, outcome⟩ := kept c held later
  refine ⟨held', grown, ?_⟩
  generalize step.run.run c = reached at outcome ⊢
  rcases reached with ⟨answer, c'⟩
  cases answer with
  | error f => exact beyond f outcome
  | ok a => exact outcome

theorem fills_modify {f : Context → Context} (same : ∀ c, (f c).slots = c.slots)
    (silent : ∀ c, (f c).notes = c.notes) : Fills P stops (modify f) fun _ => True := by
  refine Regime.keeps_modify fun c held _ => ⟨⟨fun t member => ?_, ?_⟩, trivial, trivial⟩
  · rw [same] at member
    exact held.1 t member
  · exact Context.told_of (silent c) held.2

theorem fills_get {rest : Context → Conversion α} (next : ∀ c, Fills P stops (rest c) post) :
    Fills P stops (get >>= rest) post :=
  Regime.keeps_get fun c _ _ => Regime.keeps_later trivial (next c)

theorem record_slots (c : Context) (issue : NodeIssue) : (c.record issue).slots = c.slots := by
  unfold Context.record
  cases issue.severity <;> rfl

-- A finished conversion lists what is in its slots.
theorem fills_types {finish : List TypeDefinition → α} (open_ : ∀ ids, stops (.slot (.pending ids)))
    (listed : ∀ types, (∀ t ∈ types, P t) → post (finish types)) :
    Fills P stops (do
      let c ← get
      let types ← ofExcept c.types
      return finish types) post := by
  intro c held _
  rw [types_run]
  refine ⟨held, trivial, ?_⟩
  cases read : c.types with
  | error f =>
      unfold Context.types at read
      split at read
      · cases read
      · cases read
        exact open_ _
  | ok types =>
      refine listed types fun t member => ?_
      unfold Context.types at read
      split at read
      · cases read
        obtain ⟨slot, there, rfl⟩ := List.mem_filterMap.mp member
        exact held.1 t there
      · cases read

theorem filling_quiet : (filling P stops).Quiet := by
  refine ⟨fun c message held => ⟨⟨held.1, Context.told_warn held.2 message⟩, trivial⟩,
    fun c issue held => ⟨⟨fun t member => ?_, Context.told_record held.2 issue⟩, trivial⟩⟩
  rw [record_slots] at member
  exact held.1 t member

theorem fills_warn (message : String) : Fills P stops (Conversion.warn message) fun _ => True :=
  Regime.keeps_warn filling_quiet message

theorem fills_record (issue : NodeIssue) : Fills P stops (Conversion.record issue) fun _ => True :=
  Regime.keeps_record filling_quiet issue

theorem fills_fold {step : β → α → Conversion β} {post : β → Prop} (items : List α) (sofar : β)
    (known : post sofar) (each : ∀ b, post b → ∀ a ∈ items, Fills P stops (step b a) post) :
    Fills P stops (items.foldlM step sofar) post := by
  induction items generalizing sofar with
  | nil => exact fills_pure known
  | cons a rest ih =>
      rw [List.foldlM_cons]
      refine fills_bind (each sofar known a (by simp)) fun b held => ?_
      exact ih b held fun b held a member => each b held a (by simp [member])

theorem fills_each {step : α → Conversion β} {post : β → Prop} (items : List α)
    (each : ∀ a ∈ items, Fills P stops (step a) post) :
    Fills P stops (items.mapM step) fun results => ∀ b ∈ results, post b := by
  induction items with
  | nil =>
      rw [List.mapM_nil]
      exact fills_pure (by simp)
  | cons a rest ih =>
      rw [List.mapM_cons]
      refine fills_bind (each a (by simp)) fun b held => ?_
      refine fills_bind (ih fun a member => each a (by simp [member])) fun results all => ?_
      exact fills_pure (List.forall_mem_cons.mpr ⟨held, all⟩)

end Steps

-- Whatever is put into a slot, the others stay.
theorem filled_member {c c' : Context} {id : String} {t u : TypeDefinition} (filled : c.fill id t = .ok c')
    (member : some u ∈ c'.slots) : u = t ∨ some u ∈ c.slots := by
  obtain ⟨position, _, rfl⟩ := Context.fill_place filled
  rcases List.mem_or_eq_of_mem_set member with old | new
  · exact .inr old
  · exact .inl (Option.some.inj new)

theorem fills_placeholder (stub : ∀ id name reason, P (placeholderType id name reason)) (name : String)
    (issue : NodeIssue) (reference pointer : Option String) :
    Fills P stops (Conversion.placeholder name issue reference pointer) fun _ => True := by
  intro c held _
  rw [placeholder_run]
  cases c.lookup? { reference, pointer } with
  | some id => exact ⟨held, trivial, trivial⟩
  | none =>
      refine ⟨⟨fun t member => ?_, ?_⟩, trivial, trivial⟩
      · rw [(remember_slots _ _ _).1] at member
        rcases List.mem_append.mp member with old | new
        · rw [record_slots] at old
          exact held.1 t old
        · cases List.mem_singleton.mp new
          exact stub _ _ _
      · exact Context.told_of (remember_notes _ _ _) (Context.told_record held.2 issue)

theorem leave_holds (stub : ∀ id name reason, P (placeholderType id name reason)) {c : Context}
    (held : ∀ t, some t ∈ c.slots → P t) (id name : String) {built : Except Fault TypeDefinition}
    (made : ∀ t, built = .ok t → P t) : ∀ t, some t ∈ (c.leave id name built).2.slots → P t := by
  refine Context.leave_keeps (P := fun c => ∀ t, some t ∈ c.slots → P t) ?_ ?_ held
  · intro c issue held t member
    rw [record_slots] at member
    exact held t member
  · intro c c' u own filled held t member
    rcases filled_member filled member with rfl | old
    · rcases own with answer | ⟨message, rfl⟩
      · exact made t answer
      · exact stub _ _ _
    · exact held t old

def Fault.IsInternal : Fault → Prop
  | .misuse _ | .slot _ => True
  | _ => False

theorem fill_internal {c : Context} {id : String} {t : TypeDefinition} {f : Fault}
    (failed : c.fill id t = .error f) : f.IsInternal := by
  unfold Context.fill at failed
  split at failed
  next read =>
    cases failed
    unfold Context.slot at read
    split at read
    · cases read
      trivial
    · split at read <;> cases read
      trivial
  · cases failed
    trivial
  · split at failed <;> cases failed
    trivial

theorem leave_fault {c : Context} {id name : String} {built : Except Fault TypeDefinition} {f : Fault}
    (failed : (c.leave id name built).1 = .error f) :
    f.IsInternal ∨ built = .error f ∧ ∀ issue, f ≠ .node issue := by
  have closed {c : Context} {t : TypeDefinition} (failed : (c.leave id name (.ok t)).1 = .error f) :
      f.IsInternal := by
    cases put : c.fill id t with
    | ok c' =>
        rw [Context.leave_filled put] at failed
        cases failed
    | error g =>
        rw [Context.leave_unfilled put] at failed
        cases failed
        exact fill_internal put
  cases built with
  | ok t => exact .inl (closed failed)
  | error g =>
      cases g with
      | node issue =>
          rw [Context.leave_node] at failed
          exact .inl (closed failed)
      | _ =>
          cases failed
          exact .inr ⟨rfl, fun issue same => by cases same⟩

-- A build may stop on a problem of its node, which a placeholder then stands for.
theorem fills_resolve (stub : ∀ id name reason, P (placeholderType id name reason)) {key : Key}
    {name : String} {build : String → Conversion TypeDefinition}
    (builds : ∀ id, Fills P more (build id) P) (internal : ∀ f : Fault, f.IsInternal → stops f)
    (passed : ∀ f, more f → (∃ issue, f = .node issue) ∨ stops f) :
    Fills P stops (Conversion.resolve key name build) fun _ => True := by
  intro c held _
  rw [resolve_run]
  cases c.lookup? key with
  | some id =>
      refine ⟨⟨fun t member => ?_, Context.told_of (remember_notes _ _ _) held.2⟩, trivial, trivial⟩
      rw [(remember_slots _ _ _).1] at member
      exact held.1 t member
  | none =>
      have begun : ∀ t, some t ∈ (c.allocate.2.remember c.allocate.1 key).slots → P t := by
        intro t member
        rw [(remember_slots _ _ _).1] at member
        rcases List.mem_append.mp member with old | new
        · exact held.1 t old
        · cases List.mem_singleton.mp new
      have told : (c.allocate.2.remember c.allocate.1 key).Told :=
        Context.told_of (remember_notes _ _ _) held.2
      have reached := builds c.allocate.1 _ ⟨begun, told⟩ trivial
      simp only
      generalize (build c.allocate.1).run.run (c.allocate.2.remember c.allocate.1 key) = built at reached ⊢
      obtain ⟨outcome, c₁⟩ := built
      obtain ⟨kept, -, made⟩ := reached
      refine ⟨⟨leave_holds stub kept.1 c.allocate.1 name fun t same => ?_,
        leave_told kept.2 c.allocate.1 name outcome⟩, trivial, ?_⟩
      · cases same
        exact made
      · cases left : (c₁.leave c.allocate.1 name outcome).1 with
        | ok => trivial
        | error f =>
            obtain own | ⟨rfl, other⟩ := leave_fault left
            · exact internal f own
            · obtain ⟨issue, same⟩ | passes := passed f made
              · exact absurd same (other issue)
              · exact passes

end ApiSchema
