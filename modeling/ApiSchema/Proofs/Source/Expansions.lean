import ApiSchema.Proofs.Source.Bundling

/-!
What is expanded while a document is loaded.

Every target is noted before its parts are copied, or, if it is no map, when it has been copied. So a
target is expanded once. Only a list can be met again before it has been noted; its copy is there then,
and it is not expanded a third time.
-/

namespace ApiSchema

abbrev Aim := String × String

def Aim.key (p : Aim) : String := targetKey p.1 p.2

namespace Loading

def after {α : Type} (step : Loading α) (more : α → Loader → List Aim) (l : Loader) : List Aim :=
  match step.run.run l with
  | (.ok a, l') => more a l'
  | (.error _, _) => []

/-- The targets that `inlineTarget` expands: what the reference names, if it has not been noted, and
what is expanded while that is copied. -/
def inlined (s : Surround) (o : LoaderOptions) (inside : String → Item → Loader → List Aim)
    (reference base : String) (l : Loader) : List Aim :=
  after (ofExcept (aim o reference base)) (fun (p : Aim) l =>
    if (l.targets.lookup p.key).isSome then []
    else p :: after (seek s o reference p.1 p.2) (fun target l =>
      if l.graph.isMap target then after (openTarget p.key) (fun _ l => inside p.1 target l) l
      else inside p.1 target l) l) l

def inlinedParts (copy : Item → Loading Item) (inside : Item → Loader → List Aim) (copied : Item) :
    List (Option Scalar × Item) → Loader → List Aim
  | [], _ => []
  | part :: rest, l => inside part.2 l ++
      after (do update copied (withPart part.1 (← copy part.2)))
        (fun _ l => inlinedParts copy inside copied rest l) l

def inlinedContainer (copy : Item → Loading Item) (inside : Item → Loader → List Aim) (id : Nat)
    (empty : Cell) (parts : List (Option Scalar × Item)) (l : Loader) : List Aim :=
  if (l.copies.lookup id).isSome then []
  else after (openCopy id empty) (fun copied l => inlinedParts copy inside copied parts l) l

def expansions (s : Surround) (o : LoaderOptions) : Nat → Bool → String → Item → Loader → List Aim
  | 0, _, _, _, _ => []
  | fuel + 1, isRoot, location, item, l =>
    match item, l.graph.of? item with
    | .node id, some (.map entries) =>
      match reference? isRoot entries with
      | some reference => inlined s o (expansions s o fuel false) reference location l
      | none =>
        inlinedContainer (bundle s o fuel isRoot location) (expansions s o fuel isRoot location) id
          (.map []) (entries.map fun (key, part) => (some key, part)) l
    | .node id, some (.list items) =>
      inlinedContainer (bundle s o fuel isRoot location) (expansions s o fuel isRoot location) id
        (.list []) (items.map (none, ·)) l
    | _, _ => []

def loadExpansions (s : Surround) (o : LoaderOptions) (source : DocumentSource) (l : Loader) :
    List Aim :=
  after (openDocument s o source) (fun opened l =>
    if l.graph.isMap opened.2 && o.resolveExternalRefs then
      expansions s o o.depth true opened.1 opened.2 { l with copies := [], targets := [] }
    else []) l

section After

variable {α : Type} {step : Loading α} {more : α → Loader → List Aim} {l l' : Loader} {a : α}

theorem after_gives (came : Gives step l a l') : after step more l = more a l' := by
  unfold after
  rw [came]

theorem after_stops {f : Fault} (stopped : step.run.run l = (.error f, l')) : after step more l = [] := by
  unfold after
  rw [stopped]

@[simp] theorem after_nothing : after step (fun _ _ => []) l = [] := by
  unfold after
  split <;> rfl

end After

def Mentions (g : Graph) (item : Item) (reference : String) : Prop :=
  ∃ id entries, g.Within item id ∧ g.cell? id = some (.map entries) ∧
    reference? false entries = some reference

def Stays (o : LoaderOptions) (reach : String → Prop) (g : Graph) (entry : String × Item) : Prop :=
  ∀ reference location pointer, Mentions g entry.2 reference →
    aim o reference entry.1 = .ok (location, pointer) → reach location

def Closed (s : Surround) (o : LoaderOptions) (reach : String → Prop) : Prop :=
  ∀ place, reach place → ∀ label l item l', Gives (readAt s o place label) l item l' →
    Stays o reach l'.graph (place, item)

def Names (l : Loader) (p : Aim) (item : Item) : Prop :=
  ∃ document, l.documents.lookup p.1 = some document ∧
    Pointer.resolve? l.graph document p.2 = some item

def Copied (l : Loader) (p : Aim) : Prop :=
  ∃ id, Names l p (.node id) ∧ (l.copies.lookup id).isSome

def Listed (l : Loader) (p : Aim) : Prop :=
  ∃ id items, Names l p (.node id) ∧ l.graph.cell? id = some (.list items)

def Aimed (o : LoaderOptions) (documents : List (String × Item)) (g : Graph) (p : Aim) : Prop :=
  ∃ entry ∈ documents, ∃ reference, Mentions g entry.2 reference ∧ aim o reference entry.1 = .ok p

variable {s : Surround} {o : LoaderOptions} {extra : List (String × Item)} {reach : String → Prop}
variable {l l' m : Loader} {item : Item} {p : Aim}

section Later

theorem mentions_kept {g g' : Graph} {reference : String}
    (same : ∀ id, g.Within item id → g'.cell? id = g.cell? id) (mentions : Mentions g item reference) :
    Mentions g' item reference := by
  obtain ⟨id, entries, within, held, named⟩ := mentions
  exact ⟨id, entries, Graph.within_kept same within, (same id within).trans held, named⟩

theorem mentions_back {g g' : Graph} {reference : String}
    (same : ∀ id, g.Within item id → g'.cell? id = g.cell? id) (mentions : Mentions g' item reference) :
    Mentions g item reference := by
  obtain ⟨id, entries, within, held, named⟩ := mentions
  have back := Graph.within_reflects same within
  exact ⟨id, entries, back, (same id back).symm.trans held, named⟩

theorem stays_kept {g g' : Graph} {entry : String × Item}
    (same : ∀ id, g.Within entry.2 id → g'.cell? id = g.cell? id) (stays : Stays o reach g entry) :
    Stays o reach g' entry :=
  fun reference location pointer mentions => stays reference location pointer (mentions_back same mentions)

theorem names_later (grown : Grows extra 0 l l') (names : Names l p item) : Names l' p item := by
  obtain ⟨document, listed, found⟩ := names
  obtain ⟨before, rest, split, _⟩ := List.lookup_eq_some_iff.mp listed
  have held : (p.1, document) ∈ extra ++ l.documents := by simp [split]
  refine ⟨document, grown.documents _ _ listed, ?_⟩
  rw [Pointer.resolve_same fun i within => grown.kept p.1 i ⟨document, held, within⟩]
  exact found

theorem listed_later (grown : Grows extra 0 l l') (listed : Listed l p) : Listed l' p := by
  obtain ⟨id, items, names, held⟩ := listed
  refine ⟨id, items, names_later grown names, ?_⟩
  obtain ⟨document, found, resolved⟩ := names
  obtain ⟨before, rest, split, _⟩ := List.lookup_eq_some_iff.mp found
  have entry : (p.1, document) ∈ extra ++ l.documents := by simp [split]
  exact (grown.kept p.1 id ⟨document, entry, Pointer.resolve_within resolved id rfl⟩).trans held

theorem aimed_later (grown : Grows extra 0 l l') (aimed : Aimed o (extra ++ l.documents) l.graph p) :
    Aimed o (extra ++ l'.documents) l'.graph p := by
  obtain ⟨entry, held, reference, mentions, leads⟩ := aimed
  refine ⟨entry, ?_, reference, mentions_kept (fun id within => ?_) mentions, leads⟩
  · obtain given | read := List.mem_append.mp held
    · exact List.mem_append_left _ given
    · exact List.mem_append_right _ (grown.listed entry read)
  · exact grown.kept entry.1 id ⟨entry.2, held, within⟩

end Later

structure Ready (s : Surround) (o : LoaderOptions) (extra : List (String × Item))
    (reach : String → Prop) (l : Loader) (location : String) (item : Item) : Prop where
  housed : Housed s o extra l
  first : ∀ entry ∈ extra, Stays o reach l.graph entry
  inside : reach location
  known : ∀ id, item = .node id → Belongs (extra ++ l.documents) l.graph location id

section Ready

variable {location : String}

theorem ready_later (ready : Ready s o extra reach l location item) (housed : Housed s o extra l')
    (grown : Grows extra 0 l l') : Ready s o extra reach l' location item where
  housed := housed
  first entry held := stays_kept
    (fun id within => grown.kept entry.1 id ⟨entry.2, List.mem_append_left _ held, within⟩)
    (ready.first entry held)
  inside := ready.inside
  known id node := belongs_later grown (ready.known id node)

theorem ready_part {id : Nat} {cell : Cell} {part : Item}
    (ready : Ready s o extra reach l location (.node id)) (held : l.graph.cell? id = some cell)
    (member : part ∈ cell.parts) : Ready s o extra reach l location part where
  housed := ready.housed
  first := ready.first
  inside := ready.inside
  known := by
    rintro j rfl
    obtain ⟨root, listed, within⟩ := ready.known id rfl
    exact ⟨root, listed, .part within held member⟩

theorem ready_names (ready : Ready s o extra reach l location item) (inside : reach p.1) {target : Item}
    (names : Names l p target) : Ready s o extra reach l p.1 target where
  housed := ready.housed
  first := ready.first
  inside := inside
  known := by
    intro id node
    obtain ⟨document, listed, resolved⟩ := names
    obtain ⟨before, rest, split, _⟩ := List.lookup_eq_some_iff.mp listed
    exact ⟨document, by simp [split], Pointer.resolve_within resolved id node⟩

theorem reference_any {isRoot : Bool} {entries : Entries} {reference : String}
    (named : reference? isRoot entries = some reference) : reference? false entries = some reference := by
  unfold reference? at named ⊢
  split at named
  · split at named
    · cases named
    · simpa using named
  · cases named

-- Where a reference of a document aims is in `reach`, too.
theorem ready_aims (closed : Closed s o reach) {id : Nat} {entries : Entries} {reference : String}
    (ready : Ready s o extra reach l location (.node id)) (held : l.graph.cell? id = some (.map entries))
    (named : reference? false entries = some reference) (aimed : aim o reference location = .ok p) :
    reach p.1 ∧ Aimed o (extra ++ l.documents) l.graph p := by
  obtain ⟨root, listed, within⟩ := ready.known id rfl
  have mentions : Mentions l.graph root reference := ⟨id, entries, within, held, named⟩
  refine ⟨?_, (location, root), listed, reference, mentions, aimed⟩
  have stays : Stays o reach l.graph (location, root) := by
    obtain given | read := List.mem_append.mp listed
    · exact ready.first _ given
    · obtain ⟨label, l₀, l₁, came, same⟩ := ready.housed.read location root read
      exact stays_kept same (closed location ready.inside label l₀ root l₁ came)
  exact stays reference p.1 p.2 mentions aimed

end Ready

structure Expands (s : Surround) (o : LoaderOptions) (extra : List (String × Item))
    (reach : String → Prop) (l : Loader) (log : List Aim) {α : Type} (out : Except Fault α × Loader) :
    Prop where
  housed : Housed s o extra out.2
  grown : Grows extra 0 l out.2
  copies : ∀ id, (l.copies.lookup id).isSome → (out.2.copies.lookup id).isSome
  targets : ∀ key, (l.targets.lookup key).isSome → (out.2.targets.lookup key).isSome
  reads : ∃ new, out.2.documents = l.documents ++ new ∧
    ∀ entry ∈ new, reach entry.1 ∧ l.documents.lookup entry.1 = none
  fresh : ∀ p ∈ log, l.targets.lookup p.key = none
  noted : ∀ a, out.1 = .ok a → ∀ p ∈ log, (out.2.targets.lookup p.key).isSome
  once : ∀ p, Copied l p → log.count p ≤ 1
  twice : ∀ p, log.count p ≤ 2
  lists : ∀ p, 2 ≤ log.count p → Listed out.2 p
  aimed : ∀ p ∈ log, Aimed o (extra ++ out.2.documents) out.2.graph p
  near : ∀ p ∈ log, reach p.1

section Expands

variable {α β : Type} {log more : List Aim} {out : Except Fault β × Loader}

theorem copied_later (grown : Grows extra 0 l m)
    (copies : ∀ id, (l.copies.lookup id).isSome → (m.copies.lookup id).isSome) (copied : Copied l p) :
    Copied m p := by
  obtain ⟨id, names, there⟩ := copied
  exact ⟨id, names_later grown names, copies id there⟩

-- A step that expands nothing and reads nothing.
theorem expands_quiet {step : Loading α} {post : α → Loader → Prop} (housed : Housed s o extra l)
    (kept : (loading s o extra 0).Keeps l step post)
    (copies : ∀ id, (l.copies.lookup id).isSome → ((step.run.run l).2.copies.lookup id).isSome)
    (targets : ∀ key, (l.targets.lookup key).isSome → ((step.run.run l).2.targets.lookup key).isSome)
    (documents : (step.run.run l).2.documents = l.documents) :
    Expands s o extra reach l [] (step.run.run l) := by
  obtain ⟨⟨housed', _⟩, grown, _⟩ := kept l ⟨housed, Nat.zero_le _⟩ (grows_refl _ _ _)
  refine ⟨housed', grown, copies, targets, ⟨[], by simp [documents], nofun⟩, nofun, fun _ _ => nofun,
    ?_, ?_, ?_, nofun, nofun⟩
  · exact fun _ _ => Nat.zero_le _
  · exact fun _ => Nat.zero_le _
  · intro p many
    cases many

theorem expands_still (housed : Housed s o extra l) (result : Except Fault α) :
    Expands s o extra reach l [] (result, l) := by
  refine ⟨housed, grows_refl _ _ _, fun _ => id, fun _ => id, ⟨[], by simp, nofun⟩, nofun,
    fun _ _ => nofun, fun _ _ => Nat.zero_le _, fun _ => Nat.zero_le _, fun p many => ?_, nofun,
    nofun⟩
  cases many

theorem expands_pure (housed : Housed s o extra l) (a : α) :
    Expands s o extra reach l [] ((pure a : Loading α).run.run l) :=
  expands_still housed (.ok a)

theorem expands_get {rest : Loader → Loading α}
    (next : Expands s o extra reach l log ((rest l).run.run l)) :
    Expands s o extra reach l log ((get >>= rest).run.run l) :=
  next

theorem expands_stops {f : Fault} (first : Expands s o extra reach l log ((.error f, m) : Except Fault α × Loader)) :
    Expands s o extra reach l log ((.error f, m) : Except Fault β × Loader) :=
  ⟨first.housed, first.grown, first.copies, first.targets, first.reads, first.fresh,
    (fun _ same => nomatch same), first.once, first.twice, first.lists, first.aimed,
    first.near⟩

theorem expands_append {a : α} (first : Expands s o extra reach l log (.ok a, m))
    (second : Expands s o extra reach m more out) : Expands s o extra reach l (log ++ more) out := by
  -- What the first part has expanded has been noted, so it is not expanded again.
  have apart : ∀ p, p ∈ log → more.count p = 0 := by
    intro p early
    have noted := first.noted a rfl p early
    refine List.count_eq_zero.mpr fun late => ?_
    rw [second.fresh p late] at noted
    cases noted
  have counts : ∀ p, (log ++ more).count p = log.count p ∨ (log ++ more).count p = more.count p := by
    intro p
    rw [List.count_append]
    by_cases early : p ∈ log
    · exact .inl (by rw [apart p early, Nat.add_zero])
    · exact .inr (by rw [List.count_eq_zero.mpr early, Nat.zero_add])
  constructor
  case housed => exact second.housed
  case grown => exact grows_trans first.grown second.grown
  case copies =>
    intro id there
    exact second.copies id (first.copies id there)
  case targets =>
    intro key there
    exact second.targets key (first.targets key there)
  case reads =>
    obtain ⟨new, documents, near⟩ := first.reads
    obtain ⟨new', documents', near'⟩ := second.reads
    refine ⟨new ++ new', by rw [documents', documents, List.append_assoc], fun entry member => ?_⟩
    obtain early | late := List.mem_append.mp member
    · exact near entry early
    · refine ⟨(near' entry late).1, ?_⟩
      have absent := (near' entry late).2
      rw [documents, List.lookup_append, Option.or_eq_none_iff] at absent
      exact absent.1
  case fresh =>
    intro p member
    obtain early | late := List.mem_append.mp member
    · exact first.fresh p early
    · have absent := second.fresh p late
      cases held : l.targets.lookup p.key with
      | none => rfl
      | some x =>
          have there := first.targets p.key (by rw [held]; rfl)
          rw [absent] at there
          cases there
  case noted =>
    intro b done p member
    obtain early | late := List.mem_append.mp member
    · exact second.targets _ (first.noted a rfl p early)
    · exact second.noted b done p late
  case once =>
    intro p copied
    obtain same | same := counts p
    · rw [same]
      exact first.once p copied
    · rw [same]
      exact second.once p (copied_later first.grown first.copies copied)
  case twice =>
    intro p
    obtain same | same := counts p
    · rw [same]
      exact first.twice p
    · rw [same]
      exact second.twice p
  case lists =>
    intro p many
    obtain same | same := counts p
    · exact listed_later second.grown (first.lists p (same ▸ many))
    · exact second.lists p (same ▸ many)
  case aimed =>
    intro p member
    obtain early | late := List.mem_append.mp member
    · exact aimed_later second.grown (first.aimed p early)
    · exact second.aimed p late
  case near =>
    intro p member
    exact (List.mem_append.mp member).elim (first.near p) (second.near p)

theorem expands_bind {first : Loading α} {rest : α → Loading β} {then_ : α → Loader → List Aim}
    (one : Expands s o extra reach l log (first.run.run l))
    (two : ∀ a m, Gives first l a m → Expands s o extra reach l log ((.ok a, m) : Except Fault α × Loader) →
      Expands s o extra reach m (then_ a m) ((rest a).run.run m)) :
    Expands s o extra reach l (log ++ after first then_ l) ((first >>= rest).run.run l) := by
  rw [run_bind]
  cases reached : first.run.run l with
  | mk result m =>
      rw [reached] at one
      cases result with
      | ok a =>
          rw [after_gives reached]
          exact expands_append one (two a m reached one)
      | error f =>
          rw [after_stops reached, List.append_nil]
          exact expands_stops one

theorem expands_then {first : Loading α} {rest : α → Loading β}
    (one : Expands s o extra reach l [] (first.run.run l))
    (two : ∀ a m, Gives first l a m → Expands s o extra reach l [] ((.ok a, m) : Except Fault α × Loader) →
      Expands s o extra reach m [] ((rest a).run.run m)) :
    Expands s o extra reach l [] ((first >>= rest).run.run l) := by
  have both := expands_bind one two
  rwa [after_nothing] at both

-- One more target is expanded in front.
theorem expands_cons (inner : Expands s o extra reach l log out) (fresh : l.targets.lookup p.key = none)
    (aimed : Aimed o (extra ++ l.documents) l.graph p) (near : reach p.1)
    (noted : ∀ b, out.1 = .ok b → (out.2.targets.lookup p.key).isSome)
    (again : log.count p ≤ 1 ∧ (p ∈ log → ¬ Copied l p ∧ Listed out.2 p)) :
    Expands s o extra reach l (p :: log) out := by
  obtain ⟨most, list⟩ := again
  have counts : ∀ q, q ≠ p → (p :: log).count q = log.count q :=
    fun q other => List.count_cons_of_ne (Ne.symm other)
  have own : (p :: log).count p = log.count p + 1 := List.count_cons_self
  have none : p ∉ log → log.count p = 0 := List.count_eq_zero.mpr
  constructor
  case housed => exact inner.housed
  case grown => exact inner.grown
  case copies => exact inner.copies
  case targets => exact inner.targets
  case reads => exact inner.reads
  case fresh =>
    intro q member
    obtain rfl | later := List.mem_cons.mp member
    · exact fresh
    · exact inner.fresh q later
  case noted =>
    intro b done q member
    obtain rfl | later := List.mem_cons.mp member
    · exact noted b done
    · exact inner.noted b done q later
  case once =>
    intro q copied
    by_cases same : q = p
    · subst same
      have few := none fun member => (list member).1 copied
      omega
    · rw [counts q same]
      exact inner.once q copied
  case twice =>
    intro q
    by_cases same : q = p
    · subst same
      omega
    · rw [counts q same]
      exact inner.twice q
  case lists =>
    intro q many
    by_cases same : q = p
    · subst same
      by_cases member : q ∈ log
      · exact (list member).2
      · have few := none member
        omega
    · rw [counts q same] at many
      exact inner.lists q many
  case aimed =>
    intro q member
    obtain rfl | later := List.mem_cons.mp member
    · exact aimed_later inner.grown aimed
    · exact inner.aimed q later
  case near =>
    intro q member
    obtain rfl | later := List.mem_cons.mp member
    · exact near
    · exact inner.near q later

end Expands

section Steps

variable {location : String}

theorem noted_more {κ α : Type} [BEq κ] {notes : List (κ × α)} {key other : κ} (x : α)
    (noted : (notes.lookup other).isSome) : (((key, x) :: notes).lookup other).isSome := by
  rw [List.lookup_cons]
  cases other == key with
  | true => rfl
  | false => exact noted

theorem update_expands {copied : Item} (housed : Housed s o extra l) (own : Own extra 0 l copied)
    (change : Cell → Cell) :
    Expands s o extra reach l [] ((update copied change).run.run l) := by
  have same : ((update copied change).run.run l).2.copies = l.copies ∧
      ((update copied change).run.run l).2.targets = l.targets ∧
      ((update copied change).run.run l).2.documents = l.documents := by
    cases copied <;> exact ⟨rfl, rfl, rfl⟩
  refine expands_quiet housed (keeps_update own change) (fun id there => ?_) (fun key there => ?_) same.2.2
  · rw [same.1]
    exact there
  · rw [same.2.1]
    exact there

theorem note_expands (housed : Housed s o extra l) (key : String) (copied : Item) :
    Expands s o extra reach l [] ((noteTarget key copied).run.run l) :=
  expands_quiet housed (keeps_note_target key copied) (fun _ there => there)
    (fun _ there => noted_more copied there) rfl

theorem open_target_expands (housed : Housed s o extra l) (key : String) :
    Expands s o extra reach l [] ((openTarget key).run.run l) := by
  have came : Gives (openTarget key) l (.node l.graph.size) _ := Library.gives_open_target.mpr ⟨rfl, rfl⟩
  refine expands_quiet housed (keeps_open_target key) ?_ ?_ ?_
  all_goals rw [came]
  · exact fun _ there => there
  · exact fun _ there => noted_more _ there

theorem open_copy_expands (housed : Housed s o extra l) (id : Nat) (empty : Cell) :
    Expands s o extra reach l [] ((openCopy id empty).run.run l) := by
  have came : Gives (openCopy id empty) l (.node l.graph.size) _ := Library.gives_open_copy.mpr ⟨rfl, rfl⟩
  refine expands_quiet housed (keeps_open_copy id empty) ?_ ?_ ?_
  all_goals rw [came]
  · exact fun _ there => noted_more _ there
  · exact fun _ there => there

theorem close_target_expands (housed : Housed s o extra l) {placeholder : Item}
    (own : Own extra 0 l placeholder) (key : String) (copied : Item) :
    Expands s o extra reach l [] ((closeTarget key placeholder copied).run.run l) := by
  refine expands_get ?_
  split
  · exact expands_then (update_expands housed own _) fun _ _ _ done => expands_still done.housed _
  · exact expands_then (note_expands housed key copied) fun _ _ _ done => expands_still done.housed _

theorem fetch_expands (housed : Housed s o extra l) (near : reach location) (label : String) :
    Expands s o extra reach l [] ((fetch s o location label).run.run l) := by
  obtain ⟨⟨housed', _⟩, grown, _⟩ :=
    keeps_fetch (n := 0) location label l ⟨housed, Nat.zero_le _⟩ (grows_refl _ _ _)
  have reads := reads_at s o location label l
  rw [fetch_run] at housed' grown ⊢
  cases known : l.documents.lookup location with
  | some item => exact expands_still housed _
  | none =>
      rw [known] at housed' grown
      cases read : (readAt s o location label).run.run l with
      | mk result l' =>
          rw [read] at reads housed' grown
          cases result with
          | error f =>
              cases reads
              exact expands_still housed _
          | ok item =>
              obtain ⟨_, same⟩ := reads
              have copies : l'.copies = l.copies := by rw [same]
              have targets : l'.targets = l.targets := by rw [same]
              have documents : l'.documents = l.documents := by rw [same]
              refine ⟨housed', grown, fun id there => ?_, fun key there => ?_,
                ⟨[(location, item)], by simp [documents], fun entry member => ?_⟩, nofun,
                fun _ _ => nofun, fun _ _ => Nat.zero_le _, fun _ => Nat.zero_le _, fun p many => ?_, nofun,
                nofun⟩
              · simpa only [copies] using there
              · simpa only [targets] using there
              · cases List.mem_singleton.mp member
                exact ⟨near, known⟩
              · cases many

theorem seek_expands (housed : Housed s o extra l) (near : reach location) (reference pointer : String) :
    Expands s o extra reach l [] ((seek s o reference location pointer).run.run l) := by
  refine expands_then (fetch_expands housed near location) fun document m _ done => ?_
  refine expands_get ?_
  split
  · exact expands_still done.housed _
  · exact expands_still done.housed _

theorem seek_names {reference pointer : String} {target : Item} (housed : Housed s o extra l)
    (sought : Gives (seek s o reference location pointer) l target m) :
    Names m (location, pointer) target := by
  obtain ⟨document, fetched, resolved⟩ := Library.seek_gives sought
  obtain ⟨_, _, found⟩ :=
    Regime.gives_kept (keeps_fetch (n := 0) location location) ⟨housed, Nat.zero_le _⟩ fetched
  exact ⟨document, found, resolved⟩

end Steps

/-- What is expanded while an item is copied. The copy of a list is noted before its parts are copied:
what aims at it is expanded once inside it, and not at all if there is a copy already. -/
structure Bundled (s : Surround) (o : LoaderOptions) (extra : List (String × Item))
    (reach : String → Prop) (l : Loader) (item : Item) (log : List Aim) (out : Except Fault Item × Loader) :
    Prop where
  expands : Expands s o extra reach l log out
  busy : log ≠ [] → l.graph.isMap item = false →
    ∃ id items, item = .node id ∧ l.graph.cell? id = some (.list items) ∧ l.copies.lookup id = none
  own : ∀ p, Names l p item → l.graph.isMap item = false → log.count p ≤ 1

section Bundle

variable {location : String} {id : Nat}

/-- What is expanded while a target is copied. The target is noted in the end, and on the way only what
is a list can be expanded once more. -/
structure Fills (s : Surround) (o : LoaderOptions) (extra : List (String × Item))
    (reach : String → Prop) (p : Aim) (l : Loader) (log : List Aim) (out : Except Fault Item × Loader) :
    Prop where
  expands : Expands s o extra reach l log out
  noted : ∀ copied, out.1 = .ok copied → (out.2.targets.lookup p.key).isSome
  most : log.count p ≤ 1
  again : p ∈ log → ¬ Copied l p ∧ Listed out.2 p

theorem fills_get {log : List Aim} {rest : Loader → Loading Item}
    (next : Fills s o extra reach p l log ((rest l).run.run l)) :
    Fills s o extra reach p l log ((get >>= rest).run.run l) :=
  next

theorem names_unique {other : Item} (one : Names l p item) (two : Names l p other) : item = other := by
  obtain ⟨document, listed, found⟩ := one
  obtain ⟨document', listed', found'⟩ := two
  cases listed.symm.trans listed'
  exact Option.some.inj (found.symm.trans found')

theorem bundled_get {log : List Aim} {rest : Loader → Loading Item}
    (next : Bundled s o extra reach l item log ((rest l).run.run l)) :
    Bundled s o extra reach l item log ((get >>= rest).run.run l) :=
  next

section Inline

variable {copy : String → Item → Loading Item} {inside : String → Item → Loader → List Aim}
  (each : ∀ location item l, Ready s o extra reach l location item →
    Bundled s o extra reach l item (inside location item l) ((copy location item).run.run l))
include each

theorem fills_map (ready : Ready s o extra reach l p.1 item) :
    Fills s o extra reach p l (after (openTarget p.key) (fun _ l => inside p.1 item l) l)
      ((do
        let placeholder ← openTarget p.key
        let copied ← copy p.1 item
        closeTarget p.key placeholder copied).run.run l) := by
  obtain ⟨m, came, noted⟩ : ∃ m, Gives (openTarget p.key) l (.node l.graph.size) m ∧
      (m.targets.lookup p.key).isSome := by
    refine ⟨_, Library.gives_open_target.mpr ⟨rfl, rfl⟩, ?_⟩
    rw [List.lookup_cons_self]
    rfl
  have opened : Expands s o extra reach l [] ((openTarget p.key).run.run l) :=
    open_target_expands ready.housed p.key
  have owned := (Regime.gives_kept (keeps_open_target p.key) ⟨ready.housed, Nat.zero_le _⟩ came).2.2
  rw [came] at opened
  rw [after_gives came, run_bind, came]
  have bundled := (each p.1 item m (ready_later ready opened.housed opened.grown)).expands
  have tail := expands_bind bundled fun copied _ _ done =>
    close_target_expands done.housed (own_later owned done.grown) p.key copied
  rw [after_nothing, List.append_nil] at tail
  have absent : p ∉ inside p.1 item m := by
    intro member
    rw [bundled.fresh p member] at noted
    cases noted
  refine ⟨expands_append opened tail, fun _ _ => tail.targets _ noted, ?_, fun member => (absent member).elim⟩
  rw [List.count_eq_zero.mpr absent]
  exact Nat.zero_le _

theorem fills_other (ready : Ready s o extra reach l p.1 item) (names : Names l p item)
    (other : l.graph.isMap item = false) :
    Fills s o extra reach p l (inside p.1 item l)
      ((do
        let copied ← copy p.1 item
        noteTarget p.key copied
        return copied).run.run l) := by
  have bundled := each p.1 item l ready
  have tail := expands_bind bundled.expands fun copied _ _ done =>
    expands_then (note_expands done.housed p.key copied) fun _ _ _ done' =>
      expands_pure done'.housed copied
  rw [after_nothing, List.append_nil] at tail
  refine ⟨tail, fun copied done => ?_, bundled.own p names other, fun member => ⟨?_, ?_⟩⟩
  · obtain ⟨_, m, _, rest⟩ := gives_bind.mp (Prod.ext done rfl)
    obtain ⟨_, _, noting, last⟩ := gives_bind.mp rest
    cases gives_modify.mp noting
    have same := congrArg (fun m : Loader => (m.targets.lookup p.key).isSome) (gives_pure.mp last).2
    refine same.trans ?_
    dsimp only
    rw [List.lookup_cons_self]
    rfl
  · rintro ⟨id, names', there⟩
    obtain ⟨_, _, rfl, _, absent⟩ := bundled.busy (List.ne_nil_of_mem member) other
    cases names_unique names names'
    rw [absent] at there
    cases there
  · obtain ⟨id, items, rfl, held, _⟩ := bundled.busy (List.ne_nil_of_mem member) other
    exact listed_later tail.grown ⟨id, items, names, held⟩

theorem inline_expands (closed : Closed s o reach) {entries : Entries} {reference : String}
    (ready : Ready s o extra reach l location (.node id)) (held : l.graph.cell? id = some (.map entries))
    (named : reference? false entries = some reference) :
    Expands s o extra reach l (inlined s o inside reference location l)
      ((inlineTarget s o copy reference location).run.run l) := by
  have aiming : Expands s o extra reach l []
      ((ofExcept (aim o reference location) : Loading Aim).run.run l) := by
    cases aim o reference location <;> exact expands_still ready.housed _
  refine expands_bind aiming fun p m came _ => ?_
  obtain ⟨aimed, rfl⟩ := gives_of_except.mp came
  obtain ⟨near, leads⟩ := ready_aims closed ready held named aimed
  refine expands_get ?_
  cases known : m.targets.lookup (targetKey p.1 p.2) with
  | some copied =>
      have noted : (m.targets.lookup p.key).isSome := by rw [Aim.key, known]; rfl
      rw [if_pos noted]
      exact expands_still ready.housed _
  | none =>
      have fresh : m.targets.lookup p.key = none := known
      have sought : Expands s o extra reach m [] ((seek s o reference p.1 p.2).run.run m) :=
        seek_expands ready.housed near reference p.2
      rw [fresh]
      dsimp only
      rw [run_bind]
      cases found : (seek s o reference p.1 p.2).run.run m with
      | mk result m₁ =>
      rw [found] at sought
      cases result with
      | error f =>
          rw [after_stops found]
          exact expands_cons (expands_stops sought) fresh leads near (fun _ same => nomatch same)
            ⟨Nat.zero_le _, fun member => nomatch member⟩
      | ok target =>
          rw [after_gives found]
          have names := seek_names ready.housed found
          have ready' := ready_names (ready_later ready sought.housed sought.grown) near names
          -- The target itself comes first; what its copy expands does so only once it is noted or listed.
          have filled : ∀ log out, Fills s o extra reach p m₁ log out →
              Expands s o extra reach m (p :: log) out := by
            intro log out fills
            refine expands_cons (expands_append sought fills.expands) fresh leads near fills.noted
              ⟨fills.most, fun member => ?_⟩
            obtain ⟨apart, listed⟩ := fills.again member
            exact ⟨fun copied => apart (copied_later sought.grown sought.copies copied), listed⟩
          refine filled _ _ (fills_get ?_)
          cases map : m₁.graph.isMap target with
          | true =>
              simp only [if_true]
              exact fills_map each ready'
          | false =>
              simp only [Bool.false_eq_true, if_false]
              exact fills_other each ready' names map

end Inline

section Parts

variable {copy : Item → Loading Item} {inside : Item → Loader → List Aim}
  (each : ∀ item l, Ready s o extra reach l location item →
    Expands s o extra reach l (inside item l) ((copy item).run.run l))
include each

theorem parts_expands {copied : Item} (parts : List (Option Scalar × Item)) (housed : Housed s o extra l)
    (own : Own extra 0 l copied) (ready : ∀ part ∈ parts, Ready s o extra reach l location part.2) :
    Expands s o extra reach l (inlinedParts copy inside copied parts l)
      ((copyParts copy copied parts).run.run l) := by
  induction parts generalizing l with
  | nil => exact expands_pure housed _
  | cons part rest ih =>
      have one : Expands s o extra reach l (inside part.2 l ++ [])
          ((do update copied (withPart part.1 (← copy part.2)) : Loading Unit).run.run l) := by
        have both := expands_bind (each part.2 l (ready part (by simp))) fun part' _ _ done =>
          update_expands done.housed (own_later own done.grown) (withPart part.1 part')
        rwa [after_nothing] at both
      rw [List.append_nil] at one
      refine expands_bind one fun _ m _ done => ?_
      exact ih done.housed (own_later own done.grown)
        fun other member => ready_later (ready other (by simp [member])) done.housed done.grown

theorem container_expands {cell : Cell} {parts : List (Option Scalar × Item)}
    (ready : Ready s o extra reach l location (.node id)) (held : l.graph.cell? id = some cell)
    (among : ∀ part ∈ parts, part.2 ∈ cell.parts) (empty : Cell) :
    Expands s o extra reach l (inlinedContainer copy inside id empty parts l)
        ((copyContainer copy id empty parts).run.run l) ∧
      (inlinedContainer copy inside id empty parts l ≠ [] → l.copies.lookup id = none) ∧
      ∀ p, Names l p (.node id) → (inlinedContainer copy inside id empty parts l).count p ≤ 1 := by
  unfold inlinedContainer copyContainer
  cases known : l.copies.lookup id with
  | some copied =>
      refine ⟨expands_get ?_, fun some => (some rfl).elim, fun _ _ => Nat.zero_le _⟩
      rw [known]
      exact expands_pure ready.housed copied
  | none =>
      obtain ⟨m, came, noted⟩ : ∃ m, Gives (openCopy id empty) l (.node l.graph.size) m ∧
          (m.copies.lookup id).isSome := by
        refine ⟨_, Library.gives_open_copy.mpr ⟨rfl, rfl⟩, ?_⟩
        rw [List.lookup_cons_self]
        rfl
      have opened : Expands s o extra reach l [] ((openCopy id empty).run.run l) :=
        open_copy_expands ready.housed id empty
      have owned := (Regime.gives_kept (keeps_open_copy id empty) ⟨ready.housed, Nat.zero_le _⟩ came).2.2
      rw [came] at opened
      have parts_ : Expands s o extra reach m (inlinedParts copy inside (.node l.graph.size) parts m)
          ((copyParts copy (.node l.graph.size) parts).run.run m) :=
        parts_expands each parts opened.housed owned fun part member =>
          ready_later (ready_part ready held (among part member)) opened.housed opened.grown
      have tail := expands_bind parts_ fun _ _ _ done => expands_pure done.housed (Item.node l.graph.size)
      rw [after_nothing, List.append_nil] at tail
      simp only [Option.isSome_none, Bool.false_eq_true, if_false, after_gives came]
      refine ⟨expands_get ?_, fun _ => trivial, fun p names => ?_⟩
      · rw [known]
        dsimp only
        rw [run_bind, came]
        exact expands_append opened tail
      · exact tail.once p ⟨id, names_later opened.grown names, noted⟩

end Parts

theorem bundle_expands (closed : Closed s o reach) (fuel : Nat) (isRoot : Bool) (location : String)
    (item : Item) (l : Loader) (ready : Ready s o extra reach l location item) :
    Bundled s o extra reach l item (expansions s o fuel isRoot location item l)
      ((bundle s o fuel isRoot location item).run.run l) := by
  induction fuel generalizing isRoot location item l with
  | zero => exact ⟨expands_still ready.housed _, fun some => (some rfl).elim, fun _ _ _ => Nat.zero_le _⟩
  | succ fuel ih =>
      have leaf : ∀ x : Item, Bundled s o extra reach l item [] ((pure x : Loading Item).run.run l) :=
        fun x => ⟨expands_pure ready.housed x, fun some => (some rfl).elim, fun _ _ _ => Nat.zero_le _⟩
      have copies : ∀ part l, Ready s o extra reach l location part → Expands s o extra reach l
          (expansions s o fuel isRoot location part l) ((bundle s o fuel isRoot location part).run.run l) :=
        fun part l ready => (ih isRoot location part l ready).expands
      unfold expansions bundle
      refine bundled_get ?_
      cases item with
      | scalar a => exact leaf _
      | node id =>
          cases held : l.graph.of? (.node id) with
          | none => exact leaf _
          | some cell =>
              cases cell with
              | map entries =>
                  -- The bounds for lists say nothing about a map.
                  have whole : ∀ log out, Expands s o extra reach l log out →
                      Bundled s o extra reach l (.node id) log out := by
                    have map : l.graph.isMap (.node id) = true := by
                      simp [Graph.isMap, Graph.entries?, held]
                    refine fun log out expands => ⟨expands, fun _ other => ?_, fun _ _ other => ?_⟩
                    all_goals
                      rw [map] at other
                      cases other
                  simp only
                  cases named : reference? isRoot entries with
                  | some reference =>
                      exact whole _ _ (inline_expands (ih false) closed ready held (reference_any named))
                  | none =>
                      refine whole _ _ (container_expands copies ready held (fun part member => ?_) _).1
                      obtain ⟨entry, there, rfl⟩ := List.mem_map.mp member
                      exact List.mem_map_of_mem there
              | list items =>
                  have among : ∀ part ∈ items.map fun item => ((none : Option Scalar), item),
                      part.2 ∈ (Cell.list items).parts := by
                    intro part member
                    obtain ⟨item, there, rfl⟩ := List.mem_map.mp member
                    exact there
                  have all := container_expands copies ready held among
                  exact ⟨(all _).1, fun some _ => ⟨id, items, rfl, held, (all _).2.1 some⟩,
                    fun p names _ => (all _).2.2 p names⟩
              | set | pair => exact leaf _

end Bundle

section Load

variable {source : DocumentSource} {location : String} {content : Item} {l₁ : Loader}

def complete (root : Item) : Loading Document := do return ⟨(← get).graph, root⟩

def loadWith (s : Surround) (o : LoaderOptions) (copy : Bool → String → Item → Loading Item)
    (source : DocumentSource) : Loading Document := do
  let (location, content) ← openDocument s o source
  if !(← get).graph.isMap content then throw (.load source.describe (some .notMapping))
  if !o.resolveExternalRefs then return ⟨(← get).graph, content⟩
  modify fun l => { l with copies := [], targets := [] }
  complete (← copy true location content)

theorem load_with_bundle (s : Surround) (o : LoaderOptions) (source : DocumentSource) :
    loadDocument s o source = loadWith s o (bundle s o o.depth) source :=
  rfl

def cleared (l : Loader) : Loader := { l with copies := [], targets := [] }

theorem run_get {α : Type} {rest : Loader → Loading α} :
    (get >>= rest).run.run l = (rest l).run.run l :=
  rfl

theorem load_with_run (opened : Gives (openDocument s o source) l (location, content) l₁)
    (copy : Bool → String → Item → Loading Item) :
    (loadWith s o copy source).run.run l =
      if l₁.graph.isMap content && o.resolveExternalRefs then
        (copy true location content >>= complete).run.run (cleared l₁)
      else if l₁.graph.isMap content then (.ok ⟨l₁.graph, content⟩, l₁)
      else (.error (.load source.describe (some .notMapping)), l₁) := by
  unfold loadWith
  rw [run_bind, opened]
  dsimp only
  rw [run_get]
  cases map : l₁.graph.isMap content with
  | false => rfl
  | true => cases o.resolveExternalRefs <;> rfl

theorem opened_ready (housed : Housed s o [] l) (opened : Gives (openDocument s o source) l (location, content) l₁)
    (inside : reach location) (stays : Stays o reach l₁.graph (location, content)) :
    Ready s o [(location, content)] reach (cleared l₁) location content := by
  have first := housed_opened housed opened
  have housed' := (keeps_notes (n := 0) (fun _ => ([], [])) l₁ ⟨first, Nat.zero_le _⟩ (grows_refl _ _ _)).1.1
  refine ⟨housed', fun entry member => ?_, inside, fun id node => ⟨content, by simp, .self node⟩⟩
  cases List.mem_singleton.mp member
  exact stays

theorem complete_expands (housed : Housed s o extra l) (root : Item) :
    Expands s o extra reach l [] ((complete root).run.run l) :=
  expands_still housed (.ok (⟨l.graph, root⟩ : Document))

def Met (s : Surround) (o : LoaderOptions) (source : DocumentSource) (l : Loader) (location : String)
    (reference : String) : Prop :=
  ∃ item m, Mentions m.graph item reference ∧ (Gives (openDocument s o source) l (location, item) m ∨
    ∃ label l₀, Gives (readAt s o location label) l₀ item m)

theorem load_expands (housed : Housed s o [] l) (closed : Closed s o reach)
    (start : ∀ location content m, Gives (openDocument s o source) l (location, content) m →
      reach location ∧ Stays o reach m.graph (location, content)) :
    (∀ p, (loadExpansions s o source l).count p ≤ 2) ∧
    (∀ p, 2 ≤ (loadExpansions s o source l).count p → Listed ((loadDocument s o source).run.run l).2 p) ∧
    ∀ p ∈ loadExpansions s o source l, reach p.1 ∧ ∃ location reference, Met s o source l location reference ∧
      aim o reference location = .ok p := by
  have nothing (l' : Loader) : (∀ p, ([] : List Aim).count p ≤ 2) ∧
      (∀ p, 2 ≤ ([] : List Aim).count p → Listed l' p) ∧ ∀ p ∈ ([] : List Aim), reach p.1 ∧
        ∃ location reference, Met s o source l location reference ∧ aim o reference location = .ok p := by
    refine ⟨fun _ => Nat.zero_le _, fun p many => ?_, nofun⟩
    cases many
  unfold loadExpansions
  cases opened : (openDocument s o source).run.run l with
  | mk result l₁ =>
  cases result with
  | error f =>
      rw [after_stops opened]
      exact nothing _
  | ok first =>
      obtain ⟨location, content⟩ := first
      rw [after_gives opened, load_with_bundle, load_with_run opened]
      split
      next copies =>
        obtain ⟨inside, stays⟩ := start location content l₁ opened
        have ready := opened_ready housed opened inside stays
        have bundled := (bundle_expands closed o.depth true location content _ ready).expands
        have whole := expands_bind bundled fun root _ _ done => complete_expands done.housed root
        rw [after_nothing, List.append_nil] at whole
        refine ⟨whole.twice, whole.lists, fun p member => ⟨whole.near p member, ?_⟩⟩
        obtain ⟨⟨place, root⟩, held, reference, mentions, aimed⟩ := whole.aimed p member
        refine ⟨place, reference, ?_, aimed⟩
        rcases List.mem_append.mp held with given | read
        · cases List.mem_singleton.mp given
          have back := mentions_back (fun id within => whole.grown.kept location id
            ⟨content, by simp, within⟩) mentions
          exact ⟨content, l₁, back, .inl opened⟩
        · obtain ⟨label, l₀, m, came, same⟩ := whole.housed.read place root read
          exact ⟨root, m, mentions_back same mentions, .inr ⟨label, l₀, came⟩⟩
      · exact nothing _

end Load

end Loading

end ApiSchema
