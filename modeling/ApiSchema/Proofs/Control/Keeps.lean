import Mathlib.Data.List.Forall2

/-!
Steps that change a state and may stop on a fault.

`Gives` says what a step that does not stop comes to. A `Regime` says which states are sound and how
one may follow another. `Keeps` says that a step, begun anywhere after `start`, leaves a sound later
state whether or not it has an answer, and that its answer is as expected. Facts that survive growth
are stated once, at the state where they become known, and carried forward by `grows`.
-/

namespace ApiSchema

variable {σ ε α β : Type}

theorem run_bind (first : ExceptT ε (StateM σ) α) (rest : α → ExceptT ε (StateM σ) β) (c : σ) :
    (first >>= rest).run.run c =
      match first.run.run c with
      | (.ok a, c') => (rest a).run.run c'
      | (.error f, c') => (.error f, c') := by
  change (match first.run.run c with
    | (a, c') => ExceptT.bindCont rest a c') = _
  rcases first.run.run c with ⟨result, c'⟩
  cases result <;> rfl

theorem bound_ok {e : Except ε α} {rest : α → Except ε β} {b : β} (ok : e >>= rest = .ok b) :
    ∃ a, e = .ok a ∧ rest a = .ok b := by
  cases e with
  | error => cases ok
  | ok a => exact ⟨a, rfl, ok⟩

theorem ok_of_option {e : Except ε α} {a : α} (some : e.toOption = some a) : e = .ok a := by
  cases e with
  | error f => cases some
  | ok b =>
      cases some
      rfl

theorem forall_right {α β : Type} {related : α → β → Prop} {xs : List α} {ys : List β}
    (each : List.Forall₂ related xs ys) {y : β} (member : y ∈ ys) : ∃ x ∈ xs, related x y := by
  induction each with
  | nil => cases member
  | @cons a b as bs held _ ih =>
      obtain rfl | later := List.mem_cons.mp member
      · exact ⟨a, by simp, held⟩
      · obtain ⟨x, there, held⟩ := ih later
        exact ⟨x, by simp [there], held⟩

theorem forall_left {α β : Type} {related : α → β → Prop} {xs : List α} {ys : List β}
    (each : List.Forall₂ related xs ys) {x : α} (member : x ∈ xs) : ∃ y ∈ ys, related x y := by
  have turned : List.Forall₂ (flip related) ys xs := List.Forall₂.flip each
  exact forall_right turned member

theorem pairwise_right {α β : Type} {related : α → β → Prop} {apart : α → α → Prop}
    {apart' : β → β → Prop} {xs : List α} {ys : List β} (each : List.Forall₂ related xs ys)
    (carried : ∀ x x' y y', related x y → related x' y' → apart x x' → apart' y y')
    (pairwise : xs.Pairwise apart) : ys.Pairwise apart' := by
  induction each with
  | nil => exact .nil
  | @cons x y xs ys held others ih =>
      obtain ⟨first, rest⟩ := List.pairwise_cons.mp pairwise
      refine List.pairwise_cons.mpr ⟨fun y' member => ?_, ih rest⟩
      obtain ⟨x', there, held'⟩ := forall_right others member
      exact carried x x' y y' held held' (first x' there)

theorem option_rel_imp {α β : Type} {first second : α → β → Prop} {a : Option α} {b : Option β}
    (related : Option.Rel first a b) (weakens : ∀ x y, first x y → second x y) :
    Option.Rel second a b := by
  cases related with
  | none => exact .none
  | some held => exact .some (weakens _ _ held)

theorem filter_fewer {α : Type} {p q : α → Bool} {items : List α} (imp : ∀ a, q a = true → p a = true)
    {a : α} (member : a ∈ items) (kept : p a = true) (lost : q a = false) :
    (items.filter q).length < (items.filter p).length := by
  have both : items.filter q = (items.filter p).filter q := by
    rw [List.filter_filter]
    refine List.filter_congr fun b _ => ?_
    cases held : q b with
    | false => simp
    | true => simp [imp b held]
  rw [both]
  exact List.length_filter_lt_length_iff_exists.mpr
    ⟨a, List.mem_filter.mpr ⟨member, kept⟩, by simp [lost]⟩

def Gives (step : ExceptT ε (StateM σ) α) (c : σ) (a : α) (c' : σ) : Prop :=
  step.run.run c = (.ok a, c')

@[simp] theorem gives_pure {c c' : σ} {a b : α} :
    Gives (pure a : ExceptT ε (StateM σ) α) c b c' ↔ b = a ∧ c' = c := by
  change (Except.ok a, c) = (Except.ok b, c') ↔ _
  simp only [Prod.mk.injEq, Except.ok.injEq, eq_comm]

theorem gives_bind {first : ExceptT ε (StateM σ) α} {rest : α → ExceptT ε (StateM σ) β} {c c' : σ}
    {b : β} : Gives (first >>= rest) c b c' ↔ ∃ a m, Gives first c a m ∧ Gives (rest a) m b c' := by
  constructor
  · intro came
    rw [Gives, run_bind] at came
    split at came
    · rename_i a m begun
      exact ⟨a, m, begun, came⟩
    · cases came
  · rintro ⟨a, m, begun, ended⟩
    rw [Gives, run_bind, begun]
    exact ended

@[simp] theorem gives_get {c d c' : σ} :
    Gives (get : ExceptT ε (StateM σ) σ) c d c' ↔ d = c ∧ c' = c := by
  change (Except.ok c, c) = (Except.ok d, c') ↔ _
  simp only [Prod.mk.injEq, Except.ok.injEq, eq_comm]

theorem gives_get_bind {rest : σ → ExceptT ε (StateM σ) α} {c c' : σ} {a : α} :
    Gives (get >>= rest) c a c' ↔ Gives (rest c) c a c' :=
  Iff.rfl

@[simp] theorem gives_modify {f : σ → σ} {c c' : σ} {u : PUnit} :
    Gives (modify f : ExceptT ε (StateM σ) PUnit) c u c' ↔ c' = f c := by
  change (Except.ok PUnit.unit, f c) = (Except.ok u, c') ↔ _
  simp only [Prod.mk.injEq, true_and, eq_comm]

@[simp] theorem gives_throw {e : ε} {c c' : σ} {a : α} :
    ¬ Gives (throw e : ExceptT ε (StateM σ) α) c a c' := by
  intro came
  cases came

@[simp] theorem gives_of_except {x : Except ε α} {c c' : σ} {a : α} :
    Gives (ofExcept x : ExceptT ε (StateM σ) α) c a c' ↔ x = .ok a ∧ c' = c := by
  cases x with
  | ok b =>
      refine gives_pure.trans ?_
      simp only [Except.ok.injEq, eq_comm]
  | error e => exact iff_of_false gives_throw (fun absurd => by cases absurd.1)

theorem gives_of_except_bind {x : Except ε α} {rest : α → ExceptT ε (StateM σ) β} {c c' : σ} {b : β} :
    Gives (ofExcept x >>= rest) c b c' ↔ ∃ a, x = .ok a ∧ Gives (rest a) c b c' := by
  rw [gives_bind]
  constructor
  · rintro ⟨a, m, first, came⟩
    obtain ⟨is, rfl⟩ := gives_of_except.mp first
    exact ⟨a, is, came⟩
  · rintro ⟨a, is, came⟩
    exact ⟨a, c, gives_of_except.mpr ⟨is, rfl⟩, came⟩

def Stops (step : ExceptT ε (StateM σ) α) (c : σ) (f : ε) (c' : σ) : Prop :=
  step.run.run c = (.error f, c')

theorem gives_or_stops (step : ExceptT ε (StateM σ) α) (c : σ) :
    (∃ a c', Gives step c a c') ∨ ∃ f c', Stops step c f c' := by
  unfold Gives Stops
  generalize step.run.run c = reached
  obtain ⟨result, c'⟩ := reached
  cases result with
  | ok a => exact .inl ⟨a, c', rfl⟩
  | error f => exact .inr ⟨f, c', rfl⟩

@[simp] theorem stops_pure {c c' : σ} {a : α} {f : ε} :
    ¬ Stops (pure a : ExceptT ε (StateM σ) α) c f c' := by
  intro stopped
  cases stopped

@[simp] theorem stops_throw {c c' : σ} {e f : ε} :
    Stops (throw e : ExceptT ε (StateM σ) α) c f c' ↔ f = e ∧ c' = c := by
  change (Except.error e, c) = (Except.error f, c') ↔ _
  simp only [Prod.mk.injEq, Except.error.injEq, eq_comm]

theorem stops_bind {first : ExceptT ε (StateM σ) α} {rest : α → ExceptT ε (StateM σ) β} {c c' : σ}
    {f : ε} : Stops (first >>= rest) c f c' ↔
      Stops first c f c' ∨ ∃ a m, Gives first c a m ∧ Stops (rest a) m f c' := by
  unfold Stops Gives
  rw [run_bind]
  generalize first.run.run c = reached
  obtain ⟨result, m⟩ := reached
  cases result with
  | ok a =>
      constructor
      · exact fun stopped => .inr ⟨a, m, rfl, stopped⟩
      · rintro (absurd | ⟨_, _, same, stopped⟩)
        · cases absurd
        · cases same
          exact stopped
  | error e =>
      constructor
      · intro stopped
        cases stopped
        exact .inl rfl
      · rintro (stopped | ⟨_, _, absurd, _⟩)
        · cases stopped
          rfl
        · cases absurd

theorem stops_get_bind {rest : σ → ExceptT ε (StateM σ) α} {c c' : σ} {f : ε} :
    Stops (get >>= rest) c f c' ↔ Stops (rest c) c f c' :=
  Iff.rfl

@[simp] theorem stops_modify {g : σ → σ} {c c' : σ} {f : ε} :
    ¬ Stops (modify g : ExceptT ε (StateM σ) PUnit) c f c' := by
  intro stopped
  cases stopped

theorem stops_of_except {x : Except ε α} {c c' : σ} {f : ε} :
    Stops (ofExcept x : ExceptT ε (StateM σ) α) c f c' ↔ x = .error f ∧ c' = c := by
  cases x with
  | ok a => exact iff_of_false stops_pure (fun absurd => by cases absurd.1)
  | error e =>
      refine stops_throw.trans ?_
      simp only [Except.error.injEq, eq_comm]

structure Regime (σ ε : Type) where
  holds : σ → Prop
  grows : σ → σ → Prop
  faults : ε → Prop
  refl : ∀ c, grows c c
  trans : ∀ {a b c}, grows a b → grows b c → grows a c

namespace Regime

def outcome (R : Regime σ ε) (post : α → σ → Prop) :
    Except ε α × σ → Prop
  | (.ok a, c) => post a c
  | (.error f, _) => R.faults f

def Keeps (R : Regime σ ε) (start : σ) (step : ExceptT ε (StateM σ) α)
    (post : α → σ → Prop) : Prop :=
  ∀ c, R.holds c → R.grows start c →
    R.holds (step.run.run c).2 ∧ R.grows c (step.run.run c).2 ∧ R.outcome post (step.run.run c)

variable {R : Regime σ ε} {start : σ}

theorem gives_kept {step : ExceptT ε (StateM σ) α} {post : α → σ → Prop} {c c' : σ} {a : α}
    (kept : R.Keeps c step post) (sound : R.holds c) (came : Gives step c a c') :
    R.holds c' ∧ R.grows c c' ∧ post a c' := by
  have reached := kept c sound (R.refl c)
  rw [came] at reached
  exact reached

theorem keeps_pure {a : α} {post : α → σ → Prop}
    (known : ∀ c, R.grows start c → post a c) : R.Keeps start (pure a) post :=
  fun c sound later => ⟨sound, R.refl c, known c later⟩

theorem keeps_throw {f : ε} {post : α → σ → Prop} (may : R.faults f) :
    R.Keeps start (throw f) post :=
  fun c sound _ => ⟨sound, R.refl c, may⟩

theorem keeps_bind {first : ExceptT ε (StateM σ) α} {rest : α → ExceptT ε (StateM σ) β}
    {mid : α → σ → Prop} {post : β → σ → Prop} (kept : R.Keeps start first mid)
    (next : ∀ a c, R.grows start c → mid a c → R.Keeps c (rest a) post) :
    R.Keeps start (first >>= rest) post := by
  intro c sound later
  obtain ⟨sound₁, grown₁, outcome₁⟩ := kept c sound later
  rw [run_bind]
  generalize first.run.run c = reached at sound₁ grown₁ outcome₁ ⊢
  rcases reached with ⟨result, c₁⟩
  cases result with
  | error f => exact ⟨sound₁, grown₁, outcome₁⟩
  | ok a =>
      obtain ⟨sound₂, grown₂, outcome₂⟩ :=
        next a c₁ (R.trans later grown₁) outcome₁ c₁ sound₁ (R.refl c₁)
      exact ⟨sound₂, R.trans grown₁ grown₂, outcome₂⟩

theorem keeps_later {step : ExceptT ε (StateM σ) α} {post : α → σ → Prop} {c : σ}
    (later : R.grows start c) (kept : R.Keeps start step post) : R.Keeps c step post :=
  fun c' sound further => kept c' sound (R.trans later further)

theorem keeps_weaken {step : ExceptT ε (StateM σ) α} {post weaker : α → σ → Prop}
    (kept : R.Keeps start step post) (weakens : ∀ a c, R.grows start c → post a c → weaker a c) :
    R.Keeps start step weaker := by
  intro c sound later
  obtain ⟨sound', grown, outcome⟩ := kept c sound later
  refine ⟨sound', grown, ?_⟩
  generalize step.run.run c = reached at grown outcome ⊢
  rcases reached with ⟨result, c'⟩
  cases result with
  | error f => exact outcome
  | ok a => exact weakens a c' (R.trans later grown) outcome

theorem keeps_map {step : ExceptT ε (StateM σ) α} {f : α → β} {post : β → σ → Prop}
    (kept : R.Keeps start step fun a c => post (f a) c) : R.Keeps start (f <$> step) post := by
  intro c sound later
  have same := run_bind step (fun a => (pure (f a) : ExceptT ε (StateM σ) β)) c
  rw [bind_pure_comp] at same
  rw [same]
  obtain ⟨sound', grown, outcome⟩ := kept c sound later
  generalize step.run.run c = reached at sound' grown outcome ⊢
  rcases reached with ⟨result, c'⟩
  cases result <;> exact ⟨sound', grown, outcome⟩

theorem keeps_of_except {e : Except ε α} {post : α → σ → Prop}
    (may : ∀ f, e = .error f → R.faults f)
    (known : ∀ a c, R.grows start c → e = .ok a → post a c) :
    R.Keeps start (ofExcept e) post := by
  cases e with
  | error f => exact keeps_throw (may f rfl)
  | ok a => exact keeps_pure fun c later => known a c later rfl

-- What is only read off leaves the state as it is, so the rest may start where it did.
theorem keeps_of_except_bind {e : Except ε α} {rest : α → ExceptT ε (StateM σ) β} {post : β → σ → Prop}
    (may : ∀ f, e = .error f → R.faults f) (next : ∀ a, e = .ok a → R.Keeps start (rest a) post) :
    R.Keeps start (ofExcept e >>= rest) post := by
  cases e with
  | error f => exact fun c sound _ => ⟨sound, R.refl c, may f rfl⟩
  | ok a => exact next a rfl

theorem keeps_get {rest : σ → ExceptT ε (StateM σ) α} {post : α → σ → Prop}
    (next : ∀ c, R.holds c → R.grows start c → R.Keeps c (rest c) post) :
    R.Keeps start (get >>= rest) post :=
  fun c sound later => next c sound later c sound (R.refl c)

theorem keeps_modify {f : σ → σ} {post : PUnit → σ → Prop}
    (on : ∀ c, R.holds c → R.grows start c → R.holds (f c) ∧ R.grows c (f c) ∧ post ⟨⟩ (f c)) :
    R.Keeps start (modify f) post :=
  fun c sound later => on c sound later

-- `ghost` is what the fold does to the part of the state that needs no conversion.
theorem keeps_fold {γ : Type} {step : β → α → ExceptT ε (StateM σ) β} (ghost : γ → α → γ)
    (post : β → γ → σ → Prop) (items : List α) (sofar : β) (seen : γ)
    (known : post sofar seen start)
    (lasting : ∀ b g c c', R.grows c c' → post b g c → post b g c')
    (each : ∀ b g a c, R.grows start c → a ∈ items → post b g c →
      R.Keeps c (step b a) fun b' => post b' (ghost g a)) :
    R.Keeps start (items.foldlM step sofar) fun b => post b (items.foldl ghost seen) := by
  induction items generalizing sofar seen start with
  | nil => exact keeps_pure fun c later => lasting sofar seen start c later known
  | cons a rest ih =>
      rw [List.foldlM_cons]
      refine keeps_bind (each sofar seen a start (R.refl start) (by simp) known) ?_
      intro b c later reached
      refine ih b (ghost seen a) reached ?_
      intro b' g' a' c' later' member reached'
      exact each b' g' a' c' (R.trans later later') (by simp [member]) reached'

theorem keeps_for {step : α → ExceptT ε (StateM σ) PUnit} (items : List α)
    (each : ∀ a c, R.grows start c → a ∈ items → R.Keeps c (step a) fun _ _ => True) :
    R.Keeps start (items.forM step) fun _ _ => True := by
  induction items generalizing start with
  | nil => exact keeps_pure fun _ _ => trivial
  | cons a rest ih =>
      refine keeps_bind (each a start (R.refl start) (by simp)) fun _ c later _ => ?_
      exact ih fun a' c' later' member => each a' c' (R.trans later later') (by simp [member])

-- What stops one after the other stops in one of them.
theorem stops_for {step : α → ExceptT ε (StateM σ) PUnit} {items : List α} {c c' : σ} {f : ε}
    (each : ∀ a c, R.grows start c → a ∈ items → R.Keeps c (step a) fun _ _ => True)
    (sound : R.holds c) (later : R.grows start c) (stopped : Stops (items.forM step) c f c') :
    ∃ a ∈ items, ∃ m, R.holds m ∧ R.grows c m ∧ Stops (step a) m f c' := by
  induction items generalizing c with
  | nil => exact (stops_pure stopped).elim
  | cons a rest ih =>
      rcases stops_bind.mp stopped with here | ⟨_, m, done, onward⟩
      · exact ⟨a, by simp, c, sound, R.refl c, here⟩
      · obtain ⟨sound', grown, _⟩ := gives_kept (each a c later (by simp)) sound done
        obtain ⟨a', member, m', sound'', further, there⟩ :=
          ih (fun b c later inside => each b c later (by simp [inside])) sound' (R.trans later grown) onward
        exact ⟨a', by simp [member], m', sound'', R.trans grown further, there⟩

theorem keeps_loop {body : α → β → ExceptT ε (StateM σ) (ForInStep β)} {post : β → σ → Prop}
    (items : List α) (sofar : β) (known : post sofar start)
    (lasting : ∀ b c c', R.grows c c' → post b c → post b c')
    (each : ∀ a b c, R.grows start c → a ∈ items → post b c →
      R.Keeps c (body a b) fun step => post step.value) :
    R.Keeps start (forIn items sofar body) post := by
  induction items generalizing sofar start with
  | nil =>
      rw [List.forIn_nil]
      exact keeps_pure fun c later => lasting sofar start c later known
  | cons a rest ih =>
      rw [List.forIn_cons]
      refine keeps_bind (each a sofar start (R.refl start) (by simp) known) fun step c later reached => ?_
      cases step with
      | done b => exact keeps_pure fun c' later' => lasting b c c' later' reached
      | yield b =>
          refine ih b reached fun a' b' c' later' member => ?_
          exact each a' b' c' (R.trans later later') (by simp [member])

theorem keeps_each {step : α → ExceptT ε (StateM σ) β} {post : α → β → σ → Prop} (items : List α)
    (lasting : ∀ a b c c', R.grows c c' → post a b c → post a b c')
    (each : ∀ a c, R.grows start c → a ∈ items → R.Keeps c (step a) (post a)) :
    R.Keeps start (items.mapM step) fun results c =>
      List.Forall₂ (fun a b => post a b c) items results := by
  induction items generalizing start with
  | nil =>
      rw [List.mapM_nil]
      exact keeps_pure fun _ _ => .nil
  | cons a rest ih =>
      rw [List.mapM_cons]
      refine keeps_bind (each a start (R.refl start) (by simp)) ?_
      intro b c later made
      refine keeps_bind (ih fun a' c' later' member =>
        each a' c' (R.trans later later') (by simp [member])) ?_
      intro results c' later' all
      refine keeps_pure fun c'' later'' => .cons ?_ ?_
      · exact lasting a b c c'' (R.trans later' later'') made
      · exact all.imp fun a b => lasting a b c' c'' later''

end Regime

end ApiSchema
