import ApiSchema.Proofs.Conversion.Calls

namespace ApiSchema

open Context

variable {c c' : Context} {key : Key} {id : String}

def Key.Apart (a b : Key) : Prop :=
  (∀ n, a.node = some n → b.node ≠ some n) ∧ ∀ r, a.reference = some r → b.reference ≠ some r

def Call.StandsFor (call : Call) (r : String) : Prop :=
  call.request.Substitutes ∧ call.key.reference = some r

def Call.ByPath (call : Call) : Prop :=
  (∀ r, call.key.reference = some r → call.before.references.lookup r = none) ∧
    (call.before.lookup? call.key).isSome

def Call.Records (call : Call) : Prop := call.after.issues ≠ call.before.issues

section Answers

end Answers

structure Context.Separate (own : Nat → Prop) (c : Context) : Prop where
  references : ∀ r id, c.references.lookup r = some id → c.Known id
  identities : ∀ n id, c.identities.lookup n = some id → c.Known id
  pointers : ∀ p id, c.pointers.lookup p = some id → c.Known id
  apart : ∀ m n id, own m → own n → c.identities.lookup m = some id →
    c.identities.lookup n = some id → m = n

/-- A key that leaves some nodes to be found by themselves alone. -/
def Key.Spares (key : Key) (own : Nat → Prop) : Prop :=
  ∀ n, key.node = some n → own n → key.reference = none

section Separate

variable {own : Nat → Prop}

theorem separate_alike (separate : c.Separate own) (alike : c.Alike c') : c'.Separate own where
  references r id noted :=
    known_later alike.count (separate.references r id (alike.references ▸ noted))
  identities n id noted :=
    known_later alike.count (separate.identities n id (alike.identities ▸ noted))
  pointers p id noted := known_later alike.count (separate.pointers p id (alike.pointers ▸ noted))
  apart m n id := by
    rw [alike.identities]
    exact separate.apart m n id

theorem separate_found (separate : c.Separate own) (found : c.lookup? key = some id) : c.Known id := by
  obtain ⟨r, _, noted⟩ | ⟨n, _, noted⟩ | ⟨p, _, _, noted⟩ := lookup_cases found
  · exact separate.references r id noted
  · exact separate.identities n id noted
  · exact separate.pointers p id noted

-- A known id under one more key. A node gets it anew only where the id is not another node's.
theorem separate_remember (separate : c.Separate own) (known : c.Known id)
    (new : ∀ n, key.node = some n → own n → c.identities.lookup n = none →
      ∀ m, own m → c.identities.lookup m ≠ some id) : (c.remember id key).Separate own := by
  have still : ∀ other, c.Known other → (c.remember id key).Known other :=
    fun other => known_later (remember_lasts c id key).count
  refine ⟨fun r other noted => ?_, fun n other noted => ?_, fun p other noted => ?_,
    fun m n other ownM ownN first second => ?_⟩
  · rw [remember_references] at noted
    obtain old | ⟨_, _, rfl⟩ := or_of_some noted
    · exact still other (separate.references r other old)
    · exact still _ known
  · rw [remember_identities] at noted
    obtain old | ⟨_, _, rfl⟩ := or_of_some noted
    · exact still other (separate.identities n other old)
    · exact still _ known
  · rw [remember_pointers] at noted
    obtain old | ⟨_, _, rfl⟩ := or_of_some noted
    · exact still other (separate.pointers p other old)
    · exact still _ known
  · rw [remember_identities] at first second
    obtain oldM | ⟨freeM, isM, rfl⟩ := or_of_some first
    · obtain oldN | ⟨freeN, isN, rfl⟩ := or_of_some second
      · exact separate.apart m n other ownM ownN oldM oldN
      · exact absurd oldM (new n isN ownN freeN m ownM)
    · obtain oldN | ⟨_, isN, _⟩ := or_of_some second
      · exact absurd oldN (new m isM ownM freeM n ownN)
      · exact Option.some.inj (isM.symm.trans isN)

theorem separate_hit (separate : c.Separate own) (spares : key.Spares own)
    (found : c.lookup? key = some id) : (c.remember id key).Separate own := by
  refine separate_remember separate (separate_found separate found) fun n isN ownN free => ?_
  obtain ⟨node, reference, pointer⟩ := key
  cases isN
  cases spares n rfl ownN
  change c.identities.lookup n = some id at found
  rw [free] at found
  cases found

theorem separate_new {d : Context} (separate : c.Separate own) (alike : c.Alike d)
    (given : d.Known c.allocate.1) : (d.remember c.allocate.1 key).Separate own := by
  refine separate_remember (separate_alike separate alike) given fun _ _ _ _ m _ noted => ?_
  rw [alike.identities] at noted
  exact fresh_not_known c (separate.identities m _ noted)

theorem separate_placeholder (separate : c.Separate own) (name : String) (issue : NodeIssue)
    (reference pointer : Option String) :
    ((Conversion.placeholder name issue reference pointer).run.run c).2.Separate own := by
  rw [placeholder_run]
  cases c.lookup? { reference, pointer } with
  | some id => exact separate
  | none =>
      exact separate_new (c := c.record issue) (separate_alike separate (record_alike c issue))
        (stubbed_alike _ name issue.message) (stubbed_known _ name issue.message)

theorem separate_entered (separate : c.Separate own) (spares : key.Spares own) :
    (c.enter key).2.Separate own := by
  cases found : c.lookup? key with
  | some id =>
      rw [enter_known found]
      exact separate_hit separate spares found
  | none =>
      rw [enter_new found]
      exact separate_new separate (allocate_alike c) (fresh_known c)

theorem separate_resolve (separate : c.Separate own) (spares : key.Spares own) (name : String)
    {build : String → Conversion TypeDefinition}
    (builds : ∀ id c₁, c.enter key = (.fresh id, c₁) → c₁.Separate own →
      ((build id).run.run c₁).2.Separate own) :
    ((Conversion.resolve key name build).run.run c).2.Separate own := by
  have entered := separate_entered separate spares
  rw [resolve_run]
  cases found : c.lookup? key with
  | some id =>
      rw [enter_known found] at entered
      exact entered
  | none =>
      have same := enter_new found
      rw [same] at entered
      exact separate_alike (builds _ _ same entered) (leave_alike _ _ _ _)

-- The nodes that are resolved without a reference throughout have ids of their own throughout.
theorem run_separate {α : Type} (p : Calls α) : ∀ c, c.Separate own →
    (∀ call ∈ p.log c, call.request.Resolves → call.key.Spares own) →
    (p.run.run.run c).2.Separate own ∧ ∀ call ∈ p.log c, call.before.Separate own := by
  induction p with
  | done outcome =>
      intro c separate _
      exact ⟨by cases outcome <;> exact separate, fun _ member => absurd member List.not_mem_nil⟩
  | lookup key next ih =>
      intro c separate spares
      obtain ⟨last, each⟩ := ih _ c separate fun call later => spares call (List.mem_cons_of_mem _ later)
      exact ⟨last, List.forall_mem_cons.mpr ⟨separate, each⟩⟩
  | placeholder name issue reference pointer next ih =>
      intro c separate spares
      have reached := separate_placeholder separate name issue reference pointer
      obtain ⟨last, each⟩ := ih _ _ reached fun call later => spares call (List.mem_cons_of_mem _ later)
      rw [Calls.run, caught_bind]
      exact ⟨last, List.forall_mem_cons.mpr ⟨separate, each⟩⟩
  | resolve key name build next ihBuild ih =>
      intro c separate spares
      have spared : key.Spares own := spares _ List.mem_cons_self trivial
      -- The build begins with a new id noted for the key, and its own calls are among those of the run.
      have inner : ∀ id c₁, c.enter key = (.fresh id, c₁) → c₁.Separate own →
          ((build id).run.run.run c₁).2.Separate own ∧
            ∀ call ∈ (build id).log c₁, call.before.Separate own := by
        intro id c₁ same entered
        refine ihBuild id c₁ entered fun call member => spares call ?_
        refine List.mem_cons_of_mem _ (List.mem_append_left _ ?_)
        rw [Calls.within, same]
        exact member
      have within : ∀ call ∈ Calls.within key (fun id => (build id).log) c,
          call.before.Separate own := by
        intro call member
        have entered := separate_entered separate spared
        cases found : c.lookup? key with
        | some id => simp [Calls.within, enter_known found] at member
        | none =>
            have same := enter_new found
            rw [same] at entered
            rw [Calls.within, same] at member
            exact (inner _ _ same entered).2 call member
      have reached := separate_resolve separate spared name fun id c₁ same entered =>
        (inner id c₁ same entered).1
      obtain ⟨last, each⟩ := ih _ _ reached fun call later =>
        spares call (List.mem_cons_of_mem _ (List.mem_append_right _ later))
      rw [Calls.run, caught_bind]
      refine ⟨last, List.forall_mem_cons.mpr ⟨separate, fun call member => ?_⟩⟩
      obtain early | late := List.mem_append.mp member
      · exact within call early
      · exact each call late

theorem separate_empty (own : Nat → Prop) : Context.Separate own {} where
  references _ _ noted := by cases noted
  identities _ _ noted := by cases noted
  pointers _ _ noted := by cases noted
  apart _ _ _ _ _ noted := by cases noted

end Separate

section Placeholders

variable {r : String}

-- A placeholder is found with nothing recorded, or it is new and noted under the reference.
theorem stands_cases {call : Call} (stands : call.StandsFor r) :
    (∃ id, call.before.lookup? call.key = some id ∧ call.id? = some id ∧
        call.entered = call.before ∧ ¬ call.Records) ∨
      call.before.lookup? call.key = none ∧ call.id? = some call.before.allocate.1 ∧
        call.entered.references.lookup r = some call.before.allocate.1 := by
  obtain ⟨request, c⟩ := call
  obtain ⟨substitutes, named⟩ := stands
  cases request with
  | lookup | resolve => exact substitutes.elim
  | placeholder name issue reference pointer =>
      change reference = some r at named
      subst named
      have came : Call.outcome ⟨.placeholder name issue (some r) pointer, c⟩ = _ := map_run _ _ c
      rw [placeholder_run] at came
      cases found : c.lookup? { reference := some r, pointer } with
      | some id =>
          rw [found] at came
          have same : Call.after ⟨.placeholder name issue (some r) pointer, c⟩ = c :=
            congrArg Prod.snd came
          refine .inl ⟨id, found, by rw [Call.id?, came]; rfl, same, fun records => records ?_⟩
          rw [same]
      | none =>
          rw [found] at came
          have fresh : (c.record issue).allocate.1 = c.allocate.1 := by
            rw [Context.allocate, Context.allocate, typeCount, typeCount, (record_fields c issue).1]
          refine .inr ⟨found, by rw [Call.id?, came, ← fresh]; rfl, ?_⟩
          change (Call.outcome _).2.references.lookup r = _
          rw [came, ← fresh]
          have unnamed := (lookup_none found).1 r rfl
          rw [← (record_alike c issue).references] at unnamed
          rw [remember_references, (stubbed_alike _ _ _).references, unnamed]
          simp

theorem named_found {key : Key} (named : key.reference = some r)
    (noted : c.references.lookup r = some id) : c.lookup? key = some id := by
  simp [Context.lookup?, named, noted]

-- Once the reference has an entry, every call for it is answered by that.
theorem stands_again {a b : Call} (later : a.entered.Lasts b.before) (second : b.StandsFor r)
    (noted : a.entered.references.lookup r = some id) : b.id? = some id ∧ ¬ b.Records := by
  have found := named_found second.2 (later.references r id noted)
  obtain ⟨other, hit, came, _, quiet⟩ | ⟨absent, _⟩ := stands_cases second
  · rw [found] at hit
    cases hit
    exact ⟨came, quiet⟩
  · rw [found] at absent
    cases absent

theorem stands_agree {own : Nat → Prop} {a b : Call} (separate : a.before.Separate own)
    (later : a.entered.Lasts b.before) (first : a.StandsFor r) (second : b.StandsFor r) :
    a.id? = b.id? ↔ ¬ a.ByPath ∨ b.before.lookup? b.key = a.id? := by
  -- The first call found an entry of the reference, or only one of the path, or nothing.
  obtain ⟨id, hit, came, same, _⟩ | ⟨absent, came, noted⟩ := stands_cases first
  · cases noted : a.before.references.lookup r with
    | some other =>
        have found := named_found first.2 noted
        rw [hit] at found
        cases found
        rw [← same] at noted
        have named : ¬ a.ByPath := by
          intro path
          rw [same, path.1 r first.2] at noted
          cases noted
        rw [came, (stands_again later second noted).1]
        exact iff_of_true rfl (.inl named)
    | none =>
        have path : a.ByPath := by
          refine ⟨fun other named => ?_, by rw [hit]; rfl⟩
          rw [first.2] at named
          cases named
          exact noted
        rw [or_iff_right (not_not.mpr path), came]
        obtain ⟨other, found, given, _⟩ | ⟨missed, given, _⟩ := stands_cases second
        · rw [found, given, eq_comm]
        · -- A new id is none of those that were given before.
          have known := known_later (same ▸ later).count (separate_found separate hit)
          rw [missed, given]
          refine iff_of_false (fun equal => ?_) (fun equal => by cases equal)
          rw [Option.some.inj equal] at known
          exact fresh_not_known b.before known
  · have named : ¬ a.ByPath := by
      intro path
      have hit := path.2
      rw [absent] at hit
      cases hit
    rw [came, (stands_again later second noted).1]
    exact iff_of_true rfl (.inl named)

end Placeholders

/-- A call for the placeholder of a reference is answered; two of them differ only if the first was
answered by its path, before the reference had an entry, and something else is found by the time of
the second; and at most one of them records its problem. -/
theorem placeholders_of_reference {α : Type} (p : Calls α) (r : String) :
    (∀ call ∈ p.log {}, call.StandsFor r → call.id?.isSome) ∧
    (p.log {}).Pairwise fun a b => a.StandsFor r → b.StandsFor r →
      (a.id? = b.id? ↔ ¬ a.ByPath ∨ b.before.lookup? b.key = a.id?) ∧ ¬ (a.Records ∧ b.Records) := by
  have orderly := run_orderly p {}
  have separate := (run_separate p {} (separate_empty fun _ => False)
    fun call _ _ _ _ never => never.elim).2
  refine ⟨fun call _ stands => ?_, orderly.order.imp_of_mem fun {a b} memberA _ later first second =>
    ⟨stands_agree (separate a memberA) later first second, ?_⟩⟩
  · obtain ⟨id, _, came, _⟩ | ⟨_, came, _⟩ := stands_cases stands
    · rw [came]
      rfl
    · rw [came]
      rfl
  · rintro ⟨records, again⟩
    obtain ⟨_, _, _, _, quiet⟩ | ⟨_, _, noted⟩ := stands_cases first
    · exact quiet records
    · exact (stands_again later second noted).2 again

def strayed : Calls Unit :=
  .placeholder "A" (.unresolved "x" none) none (some "p") fun _ =>
    .placeholder "B" (.unresolved "r" none) (some "r") (some "p") fun _ =>
      .placeholder "C" (.unresolved "r" none) (some "r") none fun _ => .done (.ok ())

/-- The first use of the reference is answered by the path and not noted, so the second is new. -/
theorem strayed_differ : ∃ a ∈ strayed.log {}, ∃ b ∈ strayed.log {}, a.StandsFor "r" ∧
    b.StandsFor "r" ∧ a.id? = some "type_0" ∧ b.id? = some "type_1" :=
  ⟨_, .tail _ (.head _), _, .tail _ (.tail _ (.head _)), ⟨trivial, rfl⟩, ⟨trivial, rfl⟩, by decide,
    by decide⟩

end ApiSchema
