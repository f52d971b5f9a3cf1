import ApiSchema.Proofs.Source.Twins

namespace ApiSchema

variable {s : Surround} {o : LoaderOptions} {m₀ : Loader} {w start : View} {a b : Item}

theorem lookup_copies {g h : Graph} (alike : Graph.Matches w.tied g h) {xs ys : List (Nat × Item)}
    (tied : List.Forall₂ (CopiesTied w.tied) xs ys) {i j : Nat} (known : w.tied i j) :
    Option.Rel (Item.Tied w.tied) (xs.lookup i) (ys.lookup j) := by
  induction tied with
  | nil => exact .none
  | @cons x y _ _ held _ ih =>
      have same : (i == x.1) = (j == y.1) := by
        rw [Bool.eq_iff_iff]
        simpa using alike.one i j x.1 y.1 known held.1
      rw [List.lookup_cons, List.lookup_cons, same]
      cases j == y.1 with
      | true => exact .some held.2
      | false => exact ih

theorem lookup_targets {xs ys : List (String × Item)} (tied : List.Forall₂ (TargetsTied w.tied) xs ys)
    (key : String) : Option.Rel (Item.Tied w.tied) (xs.lookup key) (ys.lookup key) := by
  induction tied with
  | nil => exact .none
  | @cons x y _ _ held _ ih =>
      rw [List.lookup_cons, List.lookup_cons, held.1]
      cases key == y.1 with
      | true => exact .some held.2
      | false => exact ih

theorem reference_tied {xs ys : Entries} (tied : List.Forall₂ (EntryTied w.tied) xs ys) (isRoot : Bool) :
    reference? isRoot xs = reference? isRoot ys := by
  have found := lookup_tied tied (.text "$ref")
  unfold reference?
  generalize lookup? xs (.text "$ref") = one at found ⊢
  generalize lookup? ys (.text "$ref") = two at found ⊢
  cases found with
  | none => rfl
  | some held => simp only [Option.bind_some, text_tied held]

theorem with_part_tied {v : Ties} (key : Option Scalar) (tied : a.Tied v b) {c d : Cell} (alike : c.Tied v d) :
    (withPart key a c).Tied v (withPart key b d) := by
  cases alike with
  | map each =>
      refine .map (List.rel_append each ?_)
      cases key with
      | none => exact .nil
      | some k => exact .cons ⟨rfl, tied⟩ .nil
  | list each => exact .list (List.rel_append each (.cons tied .nil))
  | set members => exact .set members
  | pair first second => exact .pair first second

namespace Loading

open Bond

theorem beside_note_copy {i j : Nat} (known : start.tied i j) (tied : a.Tied start.tied b) :
    (twins m₀).Beside start (noteCopy i a) (noteCopy j b) fun _ _ _ => True := by
  refine beside_modify fun w l m later held => ⟨w, (twins m₀).refl w, ?_, trivial⟩
  exact { held with
    copies := fun noted => .cons ⟨later.1 i j known, tied_imp later.1 tied⟩ (held.copies noted) }

theorem beside_note_target (key : String) (tied : a.Tied start.tied b) :
    (twins m₀).Beside start (noteTarget key a) (noteTarget key b) fun _ _ _ => True := by
  refine beside_modify fun w l m later held => ⟨w, (twins m₀).refl w, ?_, trivial⟩
  exact { held with targets := fun noted => .cons ⟨rfl, tied_imp later.1 tied⟩ (held.targets noted) }

theorem beside_seek (housed : Housed s o [] m₀) (reference location pointer : String) :
    (twins m₀).Beside start (seek s o reference location pointer) (seek s o reference location pointer)
      fun w a b => a.Tied w.tied b := by
  refine beside_bind (beside_fetch housed location location) fun w a b _ tied => ?_
  refine beside_get fun w' l m later held => ?_
  have found := Pointer.resolve_tied held.graphs (tied_imp later.1 tied) pointer
  generalize Pointer.resolve? l.graph a pointer = one at found ⊢
  generalize Pointer.resolve? m.graph b pointer = two at found ⊢
  cases found with
  | none => exact beside_throw _
  | some held => exact beside_pure fun _ later => tied_imp later.1 held

theorem beside_open_target (housed : Housed s o [] m₀) (key : String) :
    (twins m₀).Beside start (openTarget key) (openTarget key) fun w a b => a.Tied w.tied b := by
  refine beside_bind (beside_add housed (.map .nil)) fun w a b _ tied => ?_
  refine beside_bind (beside_note_target key tied) fun w' _ _ later _ => ?_
  exact beside_pure fun _ later' => tied_imp later'.1 (tied_imp later.1 tied)

theorem beside_close_target (housed : Housed s o [] m₀) (key : String) {c d : Item}
    (tied : a.Tied start.tied b) (copied : c.Tied start.tied d) :
    (twins m₀).Beside start (closeTarget key a c) (closeTarget key b d) fun w a b => a.Tied w.tied b := by
  refine beside_get fun w l m later held => ?_
  have tied := tied_imp later.1 tied
  have copied := tied_imp later.1 copied
  have found := Graph.entries_tied held.graphs copied
  generalize l.graph.entries? c = one at found ⊢
  generalize m.graph.entries? d = two at found ⊢
  cases found with
  | none =>
      refine beside_bind (beside_note_target key copied) fun w' _ _ later' _ => ?_
      exact beside_pure fun _ later'' => tied_imp later''.1 (tied_imp later'.1 copied)
  | some each =>
      refine beside_bind (beside_update housed tied fun w' _ _ later' _ =>
        .map (entries_tied_imp later'.1 each)) fun w' _ _ later' _ => ?_
      exact beside_pure fun _ later'' => tied_imp later''.1 (tied_imp later'.1 tied)

def CopiesAlike (m₀ : Loader) (start : View) (copy : Item → Loading Item) : Prop :=
  ∀ w a b, (twins m₀).grows start w → a.Tied w.tied b →
    (twins m₀).Beside w (copy a) (copy b) fun w a b => a.Tied w.tied b

theorem beside_inline_target (housed : Housed s o [] m₀) (noted : start.noted)
    {copy : String → Item → Loading Item} (each : ∀ location, CopiesAlike m₀ start (copy location))
    (reference base : String) :
    (twins m₀).Beside start (inlineTarget s o copy reference base) (inlineTarget s o copy reference base)
      fun w a b => a.Tied w.tied b := by
  refine beside_bind (beside_of_except _) fun w aimed _ later same => ?_
  subst same
  obtain ⟨location, pointer⟩ := aimed
  dsimp only
  refine beside_get fun w' l m later' held => ?_
  have later := (twins m₀).trans later later'
  have found := lookup_targets (held.targets (later.2 noted)) (targetKey location pointer)
  generalize l.targets.lookup (targetKey location pointer) = one at found ⊢
  generalize m.targets.lookup (targetKey location pointer) = two at found ⊢
  cases found with
  | some tied => exact beside_pure fun _ later => tied_imp later.1 tied
  | none =>
      refine beside_bind (beside_seek housed reference location pointer) fun w₁ c d later₁ tied => ?_
      refine beside_get fun w₂ l m later₂ held => ?_
      have tied := tied_imp later₂.1 tied
      have later := (twins m₀).trans later ((twins m₀).trans later₁ later₂)
      rw [Graph.is_map_tied held.graphs tied]
      split
      · refine beside_bind (beside_open_target housed _) fun w₃ p q later₃ opened => ?_
        have later := (twins m₀).trans later later₃
        refine beside_bind (each location w₃ c d later (tied_imp later₃.1 tied)) fun w₄ _ _ later₄ copied => ?_
        exact beside_close_target housed _ (tied_imp later₄.1 opened) copied
      · refine beside_bind (each location w₂ c d later tied) fun w₃ _ _ later₃ copied => ?_
        refine beside_bind (beside_note_target _ copied) fun w₄ _ _ later₄ _ => ?_
        exact beside_pure fun _ later₅ => tied_imp later₅.1 (tied_imp later₄.1 copied)

theorem beside_open_copy (housed : Housed s o [] m₀) {i j : Nat} (known : start.tied i j) {empty : Cell}
    (bare : empty.Tied start.tied empty) :
    (twins m₀).Beside start (openCopy i empty) (openCopy j empty) fun w a b => a.Tied w.tied b := by
  refine beside_bind (beside_add housed bare) fun w a b later tied => ?_
  refine beside_bind (beside_note_copy (later.1 i j known) tied) fun w' _ _ later' _ => ?_
  exact beside_pure fun _ later'' => tied_imp later''.1 (tied_imp later'.1 tied)

def PartTied (w : Ties) (x y : Option Scalar × Item) : Prop := x.1 = y.1 ∧ x.2.Tied w y.2

theorem beside_copy_parts (housed : Housed s o [] m₀) {copy : Item → Loading Item}
    (each : CopiesAlike m₀ start copy) (copied : a.Tied start.tied b) {xs ys : List (Option Scalar × Item)}
    (tied : List.Forall₂ (PartTied start.tied) xs ys) :
    (twins m₀).Beside start (copyParts copy a xs) (copyParts copy b ys) fun _ _ _ => True := by
  refine beside_for (fun _ _ _ _ later held => ⟨held.1, tied_imp later.1 held.2⟩) tied
    fun w x y later (held : PartTied w.tied x y) => ?_
  obtain ⟨key, part⟩ := x
  obtain ⟨key', part'⟩ := y
  obtain ⟨rfl, held⟩ := held
  refine beside_bind (each w part part' later held) fun w' p q later' tied' => ?_
  refine beside_update housed (tied_imp later'.1 (tied_imp later.1 copied)) fun w'' c d later'' alike => ?_
  exact with_part_tied key (tied_imp later''.1 tied') alike

theorem beside_copy_container (housed : Housed s o [] m₀) (noted : start.noted) {copy : Item → Loading Item}
    (each : CopiesAlike m₀ start copy) {i j : Nat} (known : start.tied i j) {empty : Cell}
    (bare : empty.Tied start.tied empty) {xs ys : List (Option Scalar × Item)}
    (tied : List.Forall₂ (PartTied start.tied) xs ys) :
    (twins m₀).Beside start (copyContainer copy i empty xs) (copyContainer copy j empty ys)
      fun w a b => a.Tied w.tied b := by
  refine beside_get fun w l m later held => ?_
  have found := lookup_copies held.graphs (held.copies (later.2 noted)) (later.1 i j known)
  generalize l.copies.lookup i = one at found ⊢
  generalize m.copies.lookup j = two at found ⊢
  cases found with
  | some copied => exact beside_pure fun _ later => tied_imp later.1 copied
  | none =>
      refine beside_bind (beside_open_copy housed (later.1 i j known) (cell_tied_imp later.1 bare))
        fun w' p q later' copied => ?_
      have later := (twins m₀).trans later later'
      refine beside_bind (beside_copy_parts housed
        (fun w a b further => each w a b ((twins m₀).trans later further)) copied
        (tied.imp fun _ _ held => ⟨held.1, tied_imp later.1 held.2⟩)) fun w'' _ _ later'' _ => ?_
      exact beside_pure fun _ later' => tied_imp later'.1 (tied_imp later''.1 copied)

theorem beside_bundle (housed : Housed s o [] m₀) (noted : start.noted) (fuel : Nat) (isRoot : Bool)
    (location : String) (tied : a.Tied start.tied b) :
    (twins m₀).Beside start (bundle s o fuel isRoot location a) (bundle s o fuel isRoot location b)
      fun w a b => a.Tied w.tied b := by
  -- Both loaders have the same fuel, so the one runs out of it where the other does.
  induction fuel generalizing isRoot location a b start with
  | zero => exact beside_throw _
  | succ fuel ih =>
      refine beside_get fun w l m later held => ?_
      have tied := tied_imp later.1 tied
      have noted := later.2 noted
      have there := Graph.of_tied held.graphs tied
      have each (isRoot : Bool) (location : String) : CopiesAlike m₀ w (bundle s o fuel isRoot location) :=
        fun w' a b later tied => ih (later.2 noted) isRoot location tied
      generalize l.graph.of? a = one at there ⊢
      generalize m.graph.of? b = two at there ⊢
      cases tied with
      | scalar scalar => exact beside_pure fun _ _ => .scalar scalar
      | @node i j known =>
          have same : (Item.node i).Tied w.tied (.node j) := .node known
          cases there with
          | none => exact beside_pure fun _ later => tied_imp later.1 same
          | some alike =>
              cases alike with
              | set members => exact beside_pure fun _ later => tied_imp later.1 same
              | pair _ _ => exact beside_pure fun _ later => tied_imp later.1 same
              | list parts =>
                  refine beside_copy_container housed noted (each isRoot location) known (.list .nil) ?_
                  exact List.forall₂_map_left_iff.mpr (List.forall₂_map_right_iff.mpr
                    (parts.imp fun _ _ held => ⟨rfl, held⟩))
              | @map xs ys parts =>
                  dsimp only
                  rw [reference_tied parts]
                  split
                  · exact beside_inline_target housed noted (each false) _ location
                  · refine beside_copy_container housed noted (each isRoot location) known (.map .nil) ?_
                    exact List.forall₂_map_left_iff.mpr (List.forall₂_map_right_iff.mpr
                      (parts.imp fun _ _ held => ⟨congrArg some held.1, held.2⟩))

theorem beside_open_document (housed : Housed s o [] m₀) (source : DocumentSource) :
    (twins m₀).Beside start (openDocument s o source) (openDocument s o source)
      fun w p q => p.1 = q.1 ∧ p.2.Tied w.tied q.2 := by
  cases source with
  | inMemory content =>
      refine beside_bind (beside_put housed (Graph.add_value_adds .empty content) (puts_value content)
        (puts_value content)) fun _ _ _ _ tied => ?_
      exact beside_pure fun _ later => ⟨rfl, tied_imp later.1 tied⟩
  | shared document =>
      refine beside_bind (beside_put housed (Graph.add_document_adds .empty document)
        (puts_document document) (puts_document document)) fun _ _ _ _ tied => ?_
      exact beside_pure fun _ later => ⟨rfl, tied_imp later.1 tied⟩
  | named text =>
      refine beside_bind (beside_of_except _) fun w location _ later same => ?_
      subst same
      refine beside_bind (beside_fetch housed location _) fun _ _ _ _ tied => ?_
      exact beside_pure fun _ later => ⟨rfl, tied_imp later.1 tied⟩

-- The notes that earlier loads left are dropped before anything is looked up in them.
theorem beside_forget : (twins m₀).Beside start
    (modify fun l : Loader => { l with copies := [], targets := [] } : Loading PUnit)
    (modify fun l : Loader => { l with copies := [], targets := [] } : Loading PUnit)
    fun w _ _ => w.noted := by
  refine beside_modify fun w l m later held =>
    ⟨⟨w.tied, True⟩, ⟨fun _ _ => id, fun _ => trivial⟩, ?_, trivial⟩
  exact { held with copies := fun _ => .nil, targets := fun _ => .nil }

theorem beside_whole (housed : Housed s o [] m₀) (location : String) (tied : a.Tied start.tied b) :
    (twins m₀).Beside start
      (do
        modify fun l : Loader => { l with copies := [], targets := [] }
        let root ← bundle s o o.depth true location a
        return (⟨(← get).graph, root⟩ : Document) : Loading Document)
      (do
        modify fun l : Loader => { l with copies := [], targets := [] }
        let root ← bundle s o o.depth true location b
        return (⟨(← get).graph, root⟩ : Document) : Loading Document) fun _ d e => d.Alike e := by
  refine beside_bind beside_forget fun w _ _ later noted => ?_
  refine beside_bind (beside_bundle housed noted o.depth true location (tied_imp later.1 tied))
    fun w' p q _ copied => ?_
  refine beside_get fun w'' l m later' held => beside_pure fun _ _ => ?_
  exact ⟨w''.tied, held.graphs, tied_imp later'.1 copied⟩

theorem beside_load (housed : Housed s o [] m₀) (source : DocumentSource) :
    (twins m₀).Beside start (loadDocument s o source) (loadDocument s o source)
      fun _ d e => d.Alike e := by
  refine beside_bind (beside_open_document housed source) fun w p q _ opened => ?_
  obtain ⟨location, content⟩ := p
  obtain ⟨_, content'⟩ := q
  obtain ⟨rfl, tied⟩ := opened
  refine beside_get fun w' l m later held => ?_
  have tied := tied_imp later.1 tied
  rw [Graph.is_map_tied held.graphs tied]
  dsimp only
  split
  · exact beside_bind (beside_throw _) fun _ _ _ _ (absurd : False) => absurd.elim
  · split
    · refine beside_get fun w'' l m later' held => beside_pure fun _ _ => ?_
      exact ⟨w''.tied, held.graphs, tied_imp later'.1 tied⟩
    · exact beside_whole housed location tied

end Loading

def Loader.after (s : Surround) (o : LoaderOptions) (history : List DocumentSource) : Loader :=
  history.foldl (fun l source => ((loadDocument s o source).run.run l).2) {}

inductive SameOutcome : Except Fault Document → Except Fault Document → Prop
  | ok {d e : Document} : d.Alike e → d.value = e.value → SameOutcome (.ok d) (.ok e)
  | error (f : Fault) : SameOutcome (.error f) (.error f)

theorem after_used (s : Surround) (o : LoaderOptions) (history : List DocumentSource) :
    Used s o (Loader.after s o history) := by
  have onward (l : Loader) (used : Used s o l) :
      Used s o (history.foldl (fun l source => ((loadDocument s o source).run.run l).2) l) := by
    induction history generalizing l with
    | nil => exact used
    | cons source rest ih => exact ih _ (.load source used)
  exact onward {} .new

-- Nothing is tied yet, and all documents of the used loader are on the shelf.
theorem twins_begin (m : Loader) : Twins m ⟨fun _ _ => False, False⟩ {} m where
  graphs := Graph.matches_nothing _ _
  size := Nat.le_refl _
  read _ _ listed := by cases listed
  unread _ _ := rfl
  shelved _ _ _ _ _ _ := ⟨rfl, fun _ absurd => absurd⟩
  copies absurd := absurd.elim
  targets absurd := absurd.elim

/-- Whatever a loader has loaded before, and failed to, it loads what a new loader does. -/
theorem cache_invisible (s : Surround) (o : LoaderOptions) (history : List DocumentSource)
    (source : DocumentSource) :
    SameOutcome ((loadDocument s o source).run.run {}).1
      ((loadDocument s o source).run.run (Loader.after s o history)).1 := by
  have housed := housed_used (after_used s o history)
  have came := Loading.beside_load housed source _ {} _ ((twins _).refl _) (twins_begin _)
  cases first : (loadDocument s o source).run.run {} with
  | mk result l =>
      rw [first] at came
      cases result with
      | ok d =>
          obtain ⟨e, _, _, same, _, _, alike⟩ := Bond.outcome_ok came
          rw [same]
          exact .ok alike (alike_value alike)
      | error f =>
          obtain ⟨_, same⟩ := Bond.outcome_error came
          rw [same]
          exact .error f

end ApiSchema
