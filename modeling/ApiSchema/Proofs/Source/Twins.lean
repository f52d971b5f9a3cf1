import ApiSchema.Proofs.Control.Beside
import ApiSchema.Proofs.Document.Alike
import ApiSchema.Proofs.Source.Uniform

/-!
What a loader has read before does not show.

A loader that has been used takes the steps that a new one takes. Containers of the two graphs are tied
to each other as the load goes on. A document that only the used loader has stays as it was, and apart
from everything that is tied, until the new loader reads it too.
-/

namespace ApiSchema

/-- The containers that are tied, and whether what has been noted as copied is. -/
structure View where
  tied : Ties
  noted : Prop

def CopiesTied (w : Ties) (a b : Nat × Item) : Prop := w a.1 b.1 ∧ a.2.Tied w b.2

def TargetsTied (w : Ties) (a b : String × Item) : Prop := a.1 = b.1 ∧ a.2.Tied w b.2

structure Twins (m₀ : Loader) (w : View) (l m : Loader) : Prop where
  graphs : Graph.Matches w.tied l.graph m.graph
  size : m₀.graph.size ≤ m.graph.size
  read : ∀ location a, l.documents.lookup location = some a →
    ∃ b, m.documents.lookup location = some b ∧ a.Tied w.tied b
  unread : ∀ location, l.documents.lookup location = none →
    m.documents.lookup location = m₀.documents.lookup location
  shelved : ∀ location b id, l.documents.lookup location = none →
    m₀.documents.lookup location = some b → m₀.graph.Within b id →
    m.graph.cell? id = m₀.graph.cell? id ∧ ∀ i, ¬ w.tied i id
  copies : w.noted → List.Forall₂ (CopiesTied w.tied) l.copies m.copies
  targets : w.noted → List.Forall₂ (TargetsTied w.tied) l.targets m.targets

def twins (m₀ : Loader) : Bond Loader Loader View where
  holds := Twins m₀
  grows w w' := (∀ i j, w.tied i j → w'.tied i j) ∧ (w.noted → w'.noted)
  refl _ := ⟨fun _ _ => id, id⟩
  trans first second := ⟨fun i j => second.1 i j ∘ first.1 i j, second.2 ∘ first.2⟩

namespace View

def more (w : View) (v : Ties) : View where
  tied i j := w.tied i j ∨ v i j
  noted := w.noted

theorem more_nothing (w : View) : w.more (fun _ _ => False) = w := by
  simp [more]

end View

variable {s : Surround} {o : LoaderOptions} {m₀ l m : Loader} {w start : View} {v : Ties}
variable {a b : Item} {g' h' : Graph} {location : String}

theorem grows_more (m₀ : Loader) (w : View) (v : Ties) : (twins m₀).grows w (w.more v) :=
  ⟨fun _ _ => .inl, id⟩

theorem lookup_inside {id : Nat} (listed : m₀.documents.lookup location = some b)
    (within : m₀.graph.Within b id) : Belongs ([] ++ m₀.documents) m₀.graph location id := by
  obtain ⟨before, after, same, _⟩ := List.lookup_eq_some_iff.mp listed
  exact ⟨b, by simp [same], within⟩

theorem lookup_listed (a : Item) {documents : List (String × Item)}
    (absent : documents.lookup location = none) :
    (documents ++ [(location, a)]).lookup location = some a := by
  rw [List.lookup_append, absent]
  simp

theorem lookup_other (a : Item) (documents : List (String × Item)) {other : String}
    (different : other ≠ location) :
    (documents ++ [(location, a)]).lookup other = documents.lookup other := by
  rw [List.lookup_append, List.lookup_cons, beq_false_of_ne different]
  simp

theorem unlisted_other {documents : List (String × Item)} (absent : documents.lookup location = none)
    {other : String} (missing : (documents ++ [(location, a)]).lookup other = none) :
    other ≠ location ∧ documents.lookup other = none := by
  have different : other ≠ location := by
    rintro rfl
    rw [lookup_listed a absent] at missing
    cases missing
  rw [lookup_other a documents different] at missing
  exact ⟨different, missing⟩

theorem copies_later (later : (twins m₀).grows start w) {xs ys : List (Nat × Item)}
    (tied : List.Forall₂ (CopiesTied start.tied) xs ys) : List.Forall₂ (CopiesTied w.tied) xs ys :=
  tied.imp fun _ _ held => ⟨later.1 _ _ held.1, tied_imp later.1 held.2⟩

theorem targets_later (later : (twins m₀).grows start w) {xs ys : List (String × Item)}
    (tied : List.Forall₂ (TargetsTied start.tied) xs ys) : List.Forall₂ (TargetsTied w.tied) xs ys :=
  tied.imp fun _ _ held => ⟨held.1, tied_imp later.1 held.2⟩

-- A change of the graphs leaves alone what nothing is tied to.
theorem twins_graphs (housed : Housed s o [] m₀) (held : Twins m₀ w l m)
    (alike : Graph.Matches (w.more v).tied g' h') (size : m.graph.size ≤ h'.size)
    (kept : ∀ id, id < m.graph.size → (∀ i, ¬ w.tied i id) →
      h'.cell? id = m.graph.cell? id ∧ ∀ i, ¬ v i id) :
    Twins m₀ (w.more v) { l with graph := g' } { m with graph := h' } where
  graphs := alike
  size := Nat.le_trans held.size size
  read location a listed := by
    obtain ⟨b, listed', tied⟩ := held.read location a listed
    exact ⟨b, listed', tied_imp (grows_more m₀ w v).1 tied⟩
  unread := held.unread
  shelved location b id absent listed within := by
    obtain ⟨same, apart⟩ := held.shelved location b id absent listed within
    have below := Nat.lt_of_lt_of_le (housed.inside location id (lookup_inside listed within)) held.size
    obtain ⟨same', apart'⟩ := kept id below apart
    exact ⟨same'.trans same, fun i tied => tied.elim (apart i) (apart' i)⟩
  copies known := copies_later (grows_more m₀ w v) (held.copies known)
  targets known := targets_later (grows_more m₀ w v) (held.targets known)

-- The new loader comes to have a document; wherever the used one has it from, the others stay on the shelf.
theorem twins_read (held : Twins m₀ w l m) (absent : l.documents.lookup location = none)
    (alike : Graph.Matches (w.more v).tied g' h') (size : m.graph.size ≤ h'.size)
    (tied : a.Tied (w.more v).tied b) {documents : List (String × Item)}
    (listed : documents.lookup location = some b)
    (others : ∀ other, other ≠ location → documents.lookup other = m.documents.lookup other)
    (kept : ∀ other c id, other ≠ location → m₀.documents.lookup other = some c → m₀.graph.Within c id →
      h'.cell? id = m.graph.cell? id ∧ ∀ i, ¬ v i id) :
    Twins m₀ (w.more v) { l with graph := g', documents := l.documents ++ [(location, a)] }
      { m with graph := h', documents } := by
  have grown := grows_more m₀ w v
  refine ⟨alike, Nat.le_trans held.size size, fun other c found => ?_, fun other missing => ?_,
    fun other c id missing listed' within => ?_, fun known => copies_later grown (held.copies known),
    fun known => targets_later grown (held.targets known)⟩
  · by_cases same : other = location
    · subst same
      rw [lookup_listed a absent] at found
      cases found
      exact ⟨b, listed, tied⟩
    · rw [lookup_other a l.documents same] at found
      obtain ⟨c', found', tied'⟩ := held.read other c found
      exact ⟨c', (others other same).trans found', tied_imp grown.1 tied'⟩
  · obtain ⟨different, absent'⟩ := unlisted_other absent missing
    exact (others other different).trans (held.unread other absent')
  · obtain ⟨different, absent'⟩ := unlisted_other absent missing
    obtain ⟨same, apart⟩ := held.shelved other c id absent' listed' within
    obtain ⟨same', apart'⟩ := kept other c id different listed' within
    exact ⟨same'.trans same, fun i tied => tied.elim (apart i) (apart' i)⟩

namespace Loading

open Bond

theorem beside_add (housed : Housed s o [] m₀) {c d : Cell} (tied : c.Tied start.tied d) :
    (twins m₀).Beside start (add c) (add d) fun w a b => a.Tied w.tied b := by
  intro w l m later held
  have alike := Graph.matches_add held.graphs (cell_tied_imp later.1 tied)
  have more : m.graph.size ≤ (m.graph.add d).1.size := by
    rw [Graph.add_size]
    omega
  have same (id : Nat) (below : id < m.graph.size) : (m.graph.add d).1.cell? id = m.graph.cell? id := by
    rw [Graph.add_cell, if_neg (Nat.ne_of_lt below)]
  have held' := twins_graphs housed held alike more
    fun id below _ => ⟨same id below, fun _ absurd => Nat.ne_of_lt below absurd.2⟩
  exact ⟨_, grows_more m₀ w _, held', .node (.inr ⟨rfl, rfl⟩)⟩

theorem beside_update (housed : Housed s o [] m₀) (tied : a.Tied start.tied b)
    {change change' : Cell → Cell}
    (alike : ∀ w c d, (twins m₀).grows start w → c.Tied w.tied d → (change c).Tied w.tied (change' d)) :
    (twins m₀).Beside start (update a change) (update b change') fun _ _ _ => True := by
  refine beside_modify fun w l m later held => ?_
  cases tied with
  | scalar scalar => exact ⟨w, (twins m₀).refl w, held, trivial⟩
  | @node i j known =>
      have known := later.1 i j known
      obtain ⟨c, d, here, there, same⟩ := held.graphs.cells i j known
      have graphs := Graph.matches_set held.graphs known (alike w c d later same)
      have held' := twins_graphs (v := fun _ _ => False) housed held ((View.more_nothing w).symm ▸ graphs)
        (by simp [Graph.set, Graph.size]) fun id _ apart => ⟨?_, fun _ absurd => absurd⟩
      · rw [View.more_nothing] at held'
        simp only [here, there, Option.getD_some]
        exact ⟨w, (twins m₀).refl w, held', trivial⟩
      · have different : j ≠ id := fun is => apart i (is ▸ known)
        exact Array.getElem?_setIfInBounds_ne different

theorem beside_put (housed : Housed s o [] m₀) {step step' : Loading Item} {made : Graph} {item : Item}
    (added : Graph.empty.Adds made [item]) (puts : Puts step made item) (puts' : Puts step' made item) :
    (twins m₀).Beside start step step' fun w a b => a.Tied w.tied b := by
  intro w l m later held
  rw [puts l, puts' m]
  have held' := twins_graphs housed held (Graph.matches_before held.graphs added)
    (by simp) fun id below _ => ⟨Graph.before_first _ made below, fun _ => Graph.not_placed below⟩
  exact ⟨_, grows_more m₀ w _, held', Graph.placed_root w.tied made item _ _⟩

theorem twins_both (housed : Housed s o [] m₀) (held : Twins m₀ w l m) {made : Graph} {item : Item}
    (added : Graph.empty.Adds made [item]) (absent : l.documents.lookup location = none)
    (absent' : m.documents.lookup location = none) :
    Twins m₀ (w.more (Graph.Placed made item l.graph.size m.graph.size))
      { l with
        graph := l.graph.before made
        documents := l.documents ++ [(location, item.behind l.graph.size)] }
      { m with
        graph := m.graph.before made
        documents := m.documents ++ [(location, item.behind m.graph.size)] } := by
  refine twins_read held absent (Graph.matches_before held.graphs added) (by simp)
    (Graph.placed_root w.tied made item _ _) (lookup_listed _ absent')
    (fun other different => lookup_other _ m.documents different) fun other c id _ listed within => ?_
  have inside := housed.inside other id (lookup_inside listed within)
  have below := Nat.lt_of_lt_of_le inside held.size
  exact ⟨Graph.before_first _ made below, fun _ => Graph.not_placed below⟩

theorem twins_shelved (housed : Housed s o [] m₀) (held : Twins m₀ w l m) {made : Graph} {item : Item}
    (added : Graph.empty.Adds made [item]) (absent : l.documents.lookup location = none) {n : Nat}
    (listed : m₀.documents.lookup location = some (item.behind n))
    (lies : Graph.Lies m₀.graph n made item) :
    Twins m₀ (w.more (Graph.Placed made item l.graph.size n))
      { l with
        graph := l.graph.before made
        documents := l.documents ++ [(location, item.behind l.graph.size)] } m := by
  -- Nothing is tied to the document on the shelf, so all of it can be tied to the one that is read.
  have shelved (k : Nat) (within : made.Within item k) :=
    held.shelved location _ (n + k) absent listed (Graph.lies_within lies within)
  have there : Graph.Lies m.graph n made item :=
    fun k within => (shelved k within).1.trans (lies k within)
  have alike := Graph.matches_placed held.graphs added
    (fun i j old => ⟨Graph.before_first l.graph made (Graph.matches_inside held.graphs old).1, rfl⟩)
    (Graph.before_lies l.graph made item) there fun i j k old within => by
      have inside := (Graph.matches_inside held.graphs old).1
      refine ⟨by omega, ?_⟩
      rintro rfl
      exact (shelved k within).2 i old
  change Twins m₀ _ _ { m with graph := m.graph, documents := m.documents }
  refine twins_read held absent alike (Nat.le_refl _)
    (Graph.placed_root w.tied made item _ _)
    ((held.unread location absent).trans listed) (fun _ _ => rfl)
    fun other c id different listed' within => ⟨rfl, ?_⟩
  -- Two documents of the used loader share no container.
  rintro i ⟨k, inner, _, rfl⟩
  exact different (housed.one other location (n + k) (lookup_inside listed' within)
    (lookup_inside listed (Graph.lies_within lies inner)))

theorem beside_fetch (housed : Housed s o [] m₀) (location label : String) :
    (twins m₀).Beside start (fetch s o location label) (fetch s o location label)
      fun w a b => a.Tied w.tied b := by
  intro w l m later held
  rw [fetch_run, fetch_run]
  cases found : l.documents.lookup location with
  | some a =>
      obtain ⟨b, found', tied⟩ := held.read location a found
      rw [found']
      exact ⟨w, (twins m₀).refl w, held, tied⟩
  | none =>
      have uniform := uniform_at s o location
      have same := held.unread location found
      -- From here on it does not matter how the document is read.
      generalize reads : readAt s o location = step at uniform ⊢
      cases kept : m.documents.lookup location with
      | none =>
          -- Neither has it, and both read the same.
          rcases uniform with stops | ⟨made, item, added, puts⟩
          · obtain ⟨f, stops⟩ := stops label
            rw [stops l, stops m]
            exact rfl
          · rw [puts label l, puts label m]
            exact ⟨_, grows_more m₀ w _, twins_both housed held added found kept,
              Graph.placed_root w.tied made item _ _⟩
      | some b =>
          -- The used loader has read it, under another label perhaps, and what it read is still there.
          have listed := same.symm.trans kept
          obtain ⟨before, after, split, _⟩ := List.lookup_eq_some_iff.mp listed
          obtain ⟨label', l₀, l₁, came, as⟩ := housed.read location b (by simp [split])
          rw [reads] at came
          rcases uniform with stops | ⟨made, item, added, puts⟩
          · obtain ⟨f, stops⟩ := stops label'
            rw [Gives, stops l₀] at came
            cases came
          · rw [Gives, puts label' l₀] at came
            cases came
            rw [puts label l]
            have lies : Graph.Lies m₀.graph l₀.graph.size made item := by
              intro k within
              have there := Graph.lies_within (Graph.before_lies l₀.graph made item) within
              rw [as _ there]
              exact Graph.before_lies l₀.graph made item k within
            exact ⟨_, grows_more m₀ w _, twins_shelved housed held added found listed lies,
              Graph.placed_root w.tied made item _ _⟩

end Loading

end ApiSchema
