import ApiSchema.Proofs.Control.Keeps

/-!
Two runs in step.

Two steps are `InStep` if from states that correspond they come to states that correspond, whether or not
they stop, and stop on one fault or have answers that correspond.
-/

namespace ApiSchema

variable {σ τ ε α β γ δ : Type}

inductive Agreed (post : α → β → Prop) : Except ε α → Except ε β → Prop
  | ok {a : α} {b : β} (held : post a b) : Agreed post (.ok a) (.ok b)
  | error (f : ε) : Agreed post (.error f) (.error f)

section Agreed

variable {e : Except ε α} {e' : Except ε β} {post mid : α → β → Prop}

theorem agreed_same (e : Except ε α) : Agreed Eq e e := by
  cases e with
  | ok a => exact .ok rfl
  | error f => exact .error f

theorem agreed_of_eq {e e' : Except ε α} (same : e = e') : Agreed Eq e e' := same ▸ agreed_same e

theorem agreed_weaken (came : Agreed mid e e') (imp : ∀ a b, mid a b → post a b) : Agreed post e e' := by
  cases came with
  | ok held => exact .ok (imp _ _ held)
  | error f => exact .error f

theorem agreed_bind {rest : α → Except ε γ} {rest' : β → Except ε δ} {last : γ → δ → Prop}
    (first : Agreed mid e e') (next : ∀ a b, mid a b → Agreed last (rest a) (rest' b)) :
    Agreed last (e >>= rest) (e' >>= rest') := by
  cases first with
  | ok held => exact next _ _ held
  | error f => exact .error f

end Agreed

def InStep (R : σ → τ → Prop) (x : ExceptT ε (StateM σ) α) (y : ExceptT ε (StateM τ) β)
    (post : α → β → Prop) : Prop :=
  ∀ c d, R c d → R (x.run.run c).2 (y.run.run d).2 ∧ Agreed post (x.run.run c).1 (y.run.run d).1

section InStep

variable {R : σ → τ → Prop} {x : ExceptT ε (StateM σ) α} {y : ExceptT ε (StateM τ) β}
variable {post mid : α → β → Prop}

theorem in_step_pure {a : α} {b : β} (held : post a b) :
    InStep R (pure a : ExceptT ε (StateM σ) α) (pure b) post :=
  fun _ _ alike => ⟨alike, .ok held⟩

theorem in_step_throw (f : ε) : InStep R (throw f : ExceptT ε (StateM σ) α)
    (throw f : ExceptT ε (StateM τ) β) post :=
  fun _ _ alike => ⟨alike, .error f⟩

theorem in_step_weaken (came : InStep R x y mid) (imp : ∀ a b, mid a b → post a b) :
    InStep R x y post :=
  fun c d alike => ⟨(came c d alike).1, agreed_weaken (came c d alike).2 imp⟩

theorem in_step_bind {rest : α → ExceptT ε (StateM σ) γ} {rest' : β → ExceptT ε (StateM τ) δ}
    {last : γ → δ → Prop} (first : InStep R x y mid)
    (next : ∀ a b, mid a b → InStep R (rest a) (rest' b) last) :
    InStep R (x >>= rest) (y >>= rest') last := by
  intro c d alike
  obtain ⟨after, came⟩ := first c d alike
  rw [run_bind, run_bind]
  generalize x.run.run c = one at after came ⊢
  generalize y.run.run d = two at after came ⊢
  obtain ⟨result, c'⟩ := one
  obtain ⟨result', d'⟩ := two
  cases came with
  | ok held => exact next _ _ held c' d' after
  | error f => exact ⟨after, .error f⟩

-- The rule for a first step that answers the same in both.
theorem in_step_on {x : ExceptT ε (StateM σ) α} {y : ExceptT ε (StateM τ) α}
    {rest : α → ExceptT ε (StateM σ) γ} {rest' : α → ExceptT ε (StateM τ) δ}
    {last : γ → δ → Prop} (first : InStep R x y Eq) (next : ∀ a, InStep R (rest a) (rest' a) last) :
    InStep R (x >>= rest) (y >>= rest') last :=
  in_step_bind first fun a _ same => same ▸ next a

theorem in_step_map {f : α → γ} {g : β → δ} {last : γ → δ → Prop}
    (came : InStep R x y fun a b => last (f a) (g b)) : InStep R (f <$> x) (g <$> y) last := by
  rw [← bind_pure_comp, ← bind_pure_comp]
  exact in_step_bind came fun _ _ held => in_step_pure held

theorem in_step_mapped {x : ExceptT ε (StateM σ) α} {y : ExceptT ε (StateM τ) α} (f : α → γ)
    (came : InStep R x y Eq) : InStep R (f <$> x) (f <$> y) Eq :=
  in_step_map (in_step_weaken came fun _ _ same => congrArg f same)

theorem in_step_of_except {e : Except ε α} {e' : Except ε β} (came : Agreed post e e') :
    InStep R (ofExcept e : ExceptT ε (StateM σ) α) (ofExcept e' : ExceptT ε (StateM τ) β) post := by
  cases came with
  | ok held => exact in_step_pure held
  | error f => exact in_step_throw f

theorem in_step_ite {p : Prop} [Decidable p] {x' : ExceptT ε (StateM σ) α} {y' : ExceptT ε (StateM τ) β}
    (one : InStep R x y post) (two : InStep R x' y' post) :
    InStep R (if p then x else x') (if p then y else y') post := by
  split
  · exact one
  · exact two

theorem in_step_get {rest : σ → ExceptT ε (StateM σ) α} {rest' : τ → ExceptT ε (StateM τ) β}
    (next : ∀ c d, R c d → InStep R (rest c) (rest' d) post) :
    InStep R (get >>= rest) (get >>= rest') post :=
  fun c d alike => next c d alike c d alike

theorem in_step_modify {f : σ → σ} {g : τ → τ} (on : ∀ c d, R c d → R (f c) (g d)) :
    InStep R (modify f : ExceptT ε (StateM σ) PUnit) (modify g : ExceptT ε (StateM τ) PUnit) Eq :=
  fun c d alike => ⟨on c d alike, .ok rfl⟩

theorem in_step_each {items : List γ} {items' : List δ} {related : γ → δ → Prop}
    {step : γ → ExceptT ε (StateM σ) α} {step' : δ → ExceptT ε (StateM τ) β}
    (alike : List.Forall₂ related items items')
    (each : ∀ i j, related i j → InStep R (step i) (step' j) post) :
    InStep R (items.mapM step) (items'.mapM step') (List.Forall₂ post) := by
  induction alike with
  | nil => simpa only [List.mapM_nil] using in_step_pure .nil
  | cons held _ ih =>
      rw [List.mapM_cons, List.mapM_cons]
      refine in_step_bind (each _ _ held) fun a b first => in_step_bind ih fun as bs rest => ?_
      exact in_step_pure (.cons first rest)

theorem in_step_fold {items : List γ} {step : α → γ → ExceptT ε (StateM σ) α}
    {step' : β → γ → ExceptT ε (StateM τ) β} {a : α} {b : β} (begun : post a b)
    (each : ∀ i ∈ items, ∀ a b, post a b → InStep R (step a i) (step' b i) post) :
    InStep R (items.foldlM step a) (items.foldlM step' b) post := by
  induction items generalizing a b with
  | nil => exact in_step_pure begun
  | cons i rest ih =>
      rw [List.foldlM_cons, List.foldlM_cons]
      refine in_step_bind (each i (by simp) a b begun) fun a' b' held => ?_
      exact ih held fun j member => each j (List.mem_cons_of_mem i member)

end InStep

end ApiSchema
