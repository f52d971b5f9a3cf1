import ApiSchema.Proofs.Control.Keeps

/-!
Two runs side by side.

A `Bond` says which states of the two runs correspond, by what is known so far of the correspondence, and
how more may become known. Two steps stay `Beside` each other if, begun in states that correspond, they
stop on one fault, or both have answers that correspond and leave states that do.
-/

namespace ApiSchema

variable {σ τ ω ε α β γ δ : Type}

structure Bond (σ τ ω : Type) where
  holds : ω → σ → τ → Prop
  grows : ω → ω → Prop
  refl : ∀ w, grows w w
  trans : ∀ {a b c}, grows a b → grows b c → grows a c

namespace Bond

def outcome (B : Bond σ τ ω) (w : ω) (post : ω → α → β → Prop) :
    Except ε α × σ → Except ε β × τ → Prop
  | (.ok a, c), (.ok b, d) => ∃ w', B.grows w w' ∧ B.holds w' c d ∧ post w' a b
  | (.error f, _), (.error f', _) => f = f'
  | _, _ => False

def Beside (B : Bond σ τ ω) (start : ω) (x : ExceptT ε (StateM σ) α) (y : ExceptT ε (StateM τ) β)
    (post : ω → α → β → Prop) : Prop :=
  ∀ w c d, B.grows start w → B.holds w c d → B.outcome w post (x.run.run c) (y.run.run d)

variable {B : Bond σ τ ω} {start : ω} {x : ExceptT ε (StateM σ) α} {y : ExceptT ε (StateM τ) β}
variable {post mid : ω → α → β → Prop}

theorem outcome_ok {w : ω} {a : α} {c : σ} {two : Except ε β × τ}
    (came : B.outcome w post (.ok a, c) two) :
    ∃ b d w', two = (.ok b, d) ∧ B.grows w w' ∧ B.holds w' c d ∧ post w' a b := by
  obtain ⟨result, d⟩ := two
  cases result with
  | error f => exact came.elim
  | ok b =>
      obtain ⟨w', known⟩ := came
      exact ⟨b, d, w', rfl, known⟩

theorem outcome_error {w : ω} {f : ε} {c : σ} {two : Except ε β × τ}
    (came : B.outcome w post (.error f, c) two) : ∃ d, two = (.error f, d) := by
  obtain ⟨result, d⟩ := two
  cases result with
  | error f' =>
      have same : f = f' := came
      exact ⟨d, by rw [same]⟩
  | ok b => exact came.elim

theorem outcome_imp {w w' : ω} {later : ω → α → β → Prop} {one : Except ε α × σ}
    {two : Except ε β × τ} (grown : B.grows w w') (imp : ∀ v a b, B.grows w' v → post v a b → later v a b)
    (came : B.outcome w' post one two) : B.outcome w later one two := by
  obtain ⟨result, c⟩ := one
  cases result with
  | error f =>
      obtain ⟨d, rfl⟩ := outcome_error came
      exact rfl
  | ok a =>
      obtain ⟨b, d, v, rfl, further, held, known⟩ := outcome_ok came
      exact ⟨v, B.trans grown further, held, imp v a b further known⟩

theorem beside_pure {a : α} {b : β} (known : ∀ w, B.grows start w → post w a b) :
    B.Beside start (pure a : ExceptT ε (StateM σ) α) (pure b) post :=
  fun w _ _ later held => ⟨w, B.refl w, held, known w later⟩

theorem beside_throw (f : ε) : B.Beside start (throw f : ExceptT ε (StateM σ) α)
    (throw f : ExceptT ε (StateM τ) β) post :=
  fun _ _ _ _ _ => rfl

theorem beside_bind {rest : α → ExceptT ε (StateM σ) γ} {rest' : β → ExceptT ε (StateM τ) δ}
    {last : ω → γ → δ → Prop} (first : B.Beside start x y post)
    (next : ∀ w a b, B.grows start w → post w a b → B.Beside w (rest a) (rest' b) last) :
    B.Beside start (x >>= rest) (y >>= rest') last := by
  intro w c d later held
  have begun := first w c d later held
  rw [run_bind, run_bind]
  cases ran : x.run.run c with
  | mk result c' =>
      rw [ran] at begun
      cases result with
      | error f =>
          obtain ⟨d', ran'⟩ := outcome_error begun
          rw [ran']
          exact rfl
      | ok a =>
          obtain ⟨b, d', w', ran', grown, held', known⟩ := outcome_ok begun
          rw [ran']
          have onward := next w' a b (B.trans later grown) known w' c' d' (B.refl w') held'
          exact outcome_imp grown (fun _ _ _ _ => id) onward

theorem beside_weaken (came : B.Beside start x y post)
    (imp : ∀ w a b, B.grows start w → post w a b → mid w a b) : B.Beside start x y mid :=
  fun w c d later held => outcome_imp (B.refl w)
    (fun v a b further => imp v a b (B.trans later further)) (came w c d later held)

theorem beside_map {f : α → γ} {g : β → δ} {last : γ → δ → Prop}
    (came : B.Beside start x y fun _ a b => last (f a) (g b)) :
    B.Beside start (f <$> x) (g <$> y) fun _ => last := by
  rw [← bind_pure_comp, ← bind_pure_comp]
  exact beside_bind came fun _ _ _ _ known => beside_pure fun _ _ => known

theorem beside_of_except (e : Except ε α) :
    B.Beside start (ofExcept e : ExceptT ε (StateM σ) α) (ofExcept e : ExceptT ε (StateM τ) α)
      fun _ a b => a = b := by
  cases e with
  | error f => exact beside_throw f
  | ok a => exact beside_pure fun _ _ => rfl

theorem beside_get {rest : σ → ExceptT ε (StateM σ) α} {rest' : τ → ExceptT ε (StateM τ) β}
    (next : ∀ w c d, B.grows start w → B.holds w c d → B.Beside w (rest c) (rest' d) post) :
    B.Beside start (get >>= rest) (get >>= rest') post :=
  fun w c d later held => next w c d later held w c d (B.refl w) held

theorem beside_modify {f : σ → σ} {g : τ → τ} {last : ω → PUnit → PUnit → Prop}
    (on : ∀ w c d, B.grows start w → B.holds w c d →
      ∃ w', B.grows w w' ∧ B.holds w' (f c) (g d) ∧ last w' ⟨⟩ ⟨⟩) :
    B.Beside start (modify f : ExceptT ε (StateM σ) PUnit) (modify g : ExceptT ε (StateM τ) PUnit) last :=
  fun w c d later held => on w c d later held

theorem beside_for {step : α → ExceptT ε (StateM σ) PUnit} {step' : β → ExceptT ε (StateM τ) PUnit}
    {items : List α} {items' : List β} {related : ω → α → β → Prop}
    (lasting : ∀ w w' a b, B.grows w w' → related w a b → related w' a b)
    (alike : List.Forall₂ (related start) items items')
    (each : ∀ w a b, B.grows start w → related w a b →
      B.Beside w (step a) (step' b) fun _ _ _ => True) :
    B.Beside start (items.forM step) (items'.forM step') fun _ _ _ => True := by
  induction items generalizing items' start with
  | nil =>
      cases alike
      exact beside_pure fun _ _ => trivial
  | cons a rest ih =>
      cases alike with
      | cons held others =>
          refine beside_bind (each start a _ (B.refl start) held) fun w _ _ later _ => ?_
          exact ih (others.imp fun a b => lasting start w a b later)
            fun w' a b later' => each w' a b (B.trans later later')

def AfterTurn (post : α → β → Prop) : ForInStep α → ForInStep β → Prop
  | .yield a, .yield b => post a b
  | .done a, .done b => post a b
  | _, _ => False

theorem beside_loop {body : α → β → ExceptT ε (StateM σ) (ForInStep β)}
    {body' : α → γ → ExceptT ε (StateM τ) (ForInStep γ)} {known : ω → β → γ → Prop} (items : List α)
    {sofar : β} {sofar' : γ} (lasting : ∀ w w' b b', B.grows w w' → known w b b' → known w' b b')
    (begun : known start sofar sofar')
    (each : ∀ a w b b', B.grows start w → known w b b' →
      B.Beside w (body a b) (body' a b') fun w => AfterTurn (known w)) :
    B.Beside start (forIn items sofar body) (forIn items sofar' body') known := by
  induction items generalizing sofar sofar' start with
  | nil =>
      rw [List.forIn_nil, List.forIn_nil]
      exact beside_pure fun w later => lasting start w _ _ later begun
  | cons a rest ih =>
      rw [List.forIn_cons, List.forIn_cons]
      refine beside_bind (each a start _ _ (B.refl start) begun) fun w turn turn' later reached => ?_
      cases turn with
      | done b =>
          cases turn' with
          | done b' => exact beside_pure fun w' later' => lasting w w' b b' later' reached
          | yield b' => exact reached.elim
      | yield b =>
          cases turn' with
          | done b' => exact reached.elim
          | yield b' =>
              exact ih reached fun a w' b b' later' => each a w' b b' (B.trans later later')

theorem beside_each {step : α → ExceptT ε (StateM σ) β} {step' : α → ExceptT ε (StateM τ) γ}
    {made : ω → β → γ → Prop} (items : List α)
    (lasting : ∀ w w' b b', B.grows w w' → made w b b' → made w' b b')
    (each : ∀ a w, B.grows start w → B.Beside w (step a) (step' a) made) :
    B.Beside start (items.mapM step) (items.mapM step') fun w => List.Forall₂ (made w) := by
  induction items generalizing start with
  | nil =>
      rw [List.mapM_nil, List.mapM_nil]
      exact beside_pure fun _ _ => .nil
  | cons a rest ih =>
      rw [List.mapM_cons, List.mapM_cons]
      refine beside_bind (each a start (B.refl start)) fun w b b' later held => ?_
      refine beside_bind (ih fun a w' later' => each a w' (B.trans later later'))
        fun w' bs bs' later' all => ?_
      exact beside_pure fun w'' later'' => .cons (lasting w w'' b b' (B.trans later' later'') held)
        (all.imp fun _ _ => lasting w' w'' _ _ later'')

end Bond

end ApiSchema
