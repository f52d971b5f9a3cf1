import ApiSchema.Proofs.OpenApi.Trace

namespace ApiSchema.OpenApi

open Regime

def tracing (d : Document) (leads : String → Nat → Prop) : Regime Context Fault where
  holds := Traced d leads
  grows := Later leads
  faults := Ordinary
  refl := later_refl
  trans := later_trans

section Following

variable {d : Document} {leads : String → Nat → Prop} {start : Context}

theorem tracing_quiet : (tracing d leads).Quiet :=
  ⟨fun _ message traced => traced_warn traced message, fun _ issue traced => traced_record traced issue⟩

theorem lookup_known {c : Context} (traced : Traced d leads c) {key : Key} {id : String}
    (found : c.lookup? key = some id) : c.Known id := by
  obtain ⟨r, _, noted⟩ | ⟨n, _, noted⟩ | ⟨p, _, _, noted⟩ := lookup_cases found
  · exact (traced.references r id noted).1
  · exact (traced.identities n id noted).1
  · exact traced.pointers p id noted

theorem stubbed_traced {c : Context} (traced : Traced d leads c) (name reason : String) :
    Traced d leads (stubbed c name reason) ∧ Later leads c (stubbed c name reason) := by
  obtain ⟨traced₁, later₁⟩ := traced_allocate traced
  have empty : c.allocate.2.slots[c.typeCount]? = some none := by
    simp [Context.allocate, Context.typeCount]
  have filled := traced_fill (t := placeholderType c.allocate.1 name reason) traced₁ empty rfl
    (.inr ⟨name, reason, rfl⟩) fun r n led noted =>
      absurd (traced.identities n _ noted).1 (fresh_not_known c)
  have same : c.allocate.2.slots.set c.typeCount (some (placeholderType c.allocate.1 name reason)) =
      c.slots ++ [some (placeholderType c.allocate.1 name reason)] := by
    simp [Context.allocate, Context.typeCount]
  rw [same] at filled
  exact ⟨filled.1, later_trans later₁ filled.2⟩

theorem placeholder_kept {name : String} {issue : NodeIssue} {reference pointer : Option String}
    (circular : ∀ r n, reference = some r → leads r n → IsAlias d r ∧ pointer = none ∧
      issue = circularIssue r ∧ name = Pointer.lastName r) :
    (tracing d leads).Keeps start (Conversion.placeholder name issue reference pointer) fun id c =>
      c.Known id ∧ ∀ r n, reference = some r → leads r n → Stands d leads r n id c := by
  intro c traced _
  rw [placeholder_run]
  cases found : c.lookup? { reference, pointer } with
  | some id =>
      refine ⟨traced, later_refl c, lookup_known traced found, fun r n same led => ?_⟩
      obtain ⟨other, named, noted⟩ | ⟨_, impossible, _⟩ | ⟨p, _, placed, _⟩ := lookup_cases found
      · have equal : r = other := Option.some.inj (same.symm.trans named)
        exact (traced.references r id (equal ▸ noted)).2 n led
      · cases impossible
      · have absent := (circular r n same led).2.1
        rw [absent] at placed
        cases placed
  | none =>
      obtain ⟨traced₁, later₁⟩ := traced_record traced issue
      obtain ⟨traced₂, later₂⟩ := stubbed_traced traced₁ name issue.message
      have known := stubbed_known (c.record issue) name issue.message
      have stands : ∀ r n, reference = some r → leads r n → Stands d leads r n
          (c.record issue).allocate.1 ((stubbed (c.record issue) name issue.message).remember
            (c.record issue).allocate.1 { reference, pointer }) := by
        intro r n same led
        obtain ⟨aliased, _, rfl, rfl⟩ := circular r n same led
        refine .inr ⟨aliased, r, (c.record (circularIssue r)).typeCount, led, aliased, rfl, ?_, ?_⟩
        · rw [(remember_slots _ _ _).1]
          simp [stubbed, Context.typeCount]
        · rw [(remember_slots _ _ _).2]
          simp [stubbed, Context.record, NodeIssue.severity, circularIssue, Context.warn]
      obtain ⟨traced₃, later₃⟩ := traced_remember { reference, pointer } traced₂
        (later_refl _) rfl rfl rfl (fun _ _ => id) known (fun r n same _ led => stands r n same led)
        fun _ _ impossible => by cases impossible
      refine ⟨traced₃, later_trans later₁ (later_trans later₂ later₃), ?_, stands⟩
      exact Context.known_later later₃.count known

structure Fits (d : Document) (leads : String → Nat → Prop) (reference : Option String)
    (item : Item) : Prop where
  named : ∀ r n, reference = some r → leads r n → referenceOf? d.graph item = none →
    item = .node n ∧ d.graph.isMap item
  aliased : ∀ r n next, reference = some r → leads r n → referenceOf? d.graph item = some next →
    IsAlias d r ∧ leads next n
  own : ∀ r other n, reference = some r → leads other n → item = .node n →
    leads r n ∧ ¬ IsAlias d r

def asked (reference : Option String) (item : Item) : Part :=
  match reference with
  | some r => .name r
  | none => .node item

section Resolve

variable {n : Nat} {entries : Entries} {reference pointer : Option String} {c : Context}

theorem known_standing (plain : referenceOf? d.graph (.node n) = none)
    (fits : Fits d leads reference (.node n)) (traced : Traced d leads c) {id : String} {c' : Context} (later : Later leads c c')
    (known : c'.Known id)
    (noted : ∀ r, reference = some r → c.references.lookup r = some id ∨
      c'.identities.lookup n = some id)
    (own : reference = none → c'.identities.lookup n = some id) :
    Standing d leads (asked reference (.node n)) id c' := by
  refine ⟨known, fun r m same led => ?_, fun m same _ bare => ?_⟩
  · cases reference with
    | none =>
        have absent : (asked none (.node n)).reference? d.graph = none := plain
        rw [absent] at same
        cases same
    | some other =>
        cases same
        obtain old | new := noted r rfl
        · exact stands_later later ((traced.references r id old).2 m led)
        · obtain ⟨equal, _⟩ := fits.named r m rfl led plain
          cases equal
          exact .inl new
  · cases reference with
    | none =>
        cases same
        exact own rfl
    | some other => cases same

theorem enter_known (plain : referenceOf? d.graph (.node n) = none)
    (fits : Fits d leads reference (.node n))
    (traced : Traced d leads c) {id : String}
    (found : c.lookup? { node := some n, reference, pointer } = some id) :
    let c' := c.remember id { node := some n, reference, pointer }
    Traced d leads c' ∧ Later leads c c' ∧ Standing d leads (asked reference (.node n)) id c' := by
  intro c'
  have known := lookup_known traced found
  have either : (∃ r, reference = some r ∧ c.references.lookup r = some id) ∨
      c.identities.lookup n = some id := by
    obtain ⟨r, same, noted⟩ | ⟨m, same, noted⟩ | ⟨_, impossible, _⟩ := lookup_cases found
    · exact .inl ⟨r, same, noted⟩
    · cases same
      exact .inr noted
    · cases impossible
  -- A node that references lead to is never noted late: the reference would have been its own.
  have owned : ∀ r m, some n = some m → c.identities.lookup m = none → leads r m → ¬ c.Known id := by
    intro r m same absent led
    cases same
    obtain ⟨own, same, noted⟩ | noted := either
    · obtain ⟨owned, direct⟩ := fits.own own r n same led rfl
      obtain stands | ⟨aliased, _⟩ := (traced.references own id noted).2 n owned
      · rw [absent] at stands
        cases stands
      · exact absurd aliased direct
    · rw [absent] at noted
      cases noted
  have named : ∀ r m, reference = some r → c.references.lookup r = none → leads r m →
      Stands d leads r m id c' := by
    intro r m same absent led
    obtain ⟨equal, _⟩ := fits.named r m same led plain
    cases equal
    obtain ⟨other, equal, noted⟩ | noted := either
    · rw [same] at equal
      cases equal
      rw [absent] at noted
      cases noted
    · refine .inl ?_
      rw [remember_identities]
      exact some_or noted
  obtain ⟨traced', later⟩ := traced_remember { node := some n, reference, pointer } traced
    (later_refl c) rfl rfl rfl (fun _ _ held => held) known named owned
  refine ⟨traced', later, known_standing plain fits traced later
    (Context.known_later later.count known) ?_ ?_⟩
  · intro r same
    obtain ⟨other, equal, noted⟩ | noted := either
    · rw [same] at equal
      cases equal
      exact .inl noted
    · exact .inr (later.identities n id noted)
  · intro bare
    obtain ⟨other, equal, _⟩ | noted := either
    · rw [bare] at equal
      cases equal
    · exact later.identities n id noted

theorem enter_fresh (plain : referenceOf? d.graph (.node n) = none)
    (fits : Fits d leads reference (.node n)) (traced : Traced d leads c)
    (absent : c.lookup? { node := some n, reference, pointer } = none) :
    let c' := c.allocate.2.remember c.allocate.1 { node := some n, reference, pointer }
    Traced d leads c' ∧ Later leads c c' ∧ c'.Known c.allocate.1 ∧
      c'.identities.lookup n = some c.allocate.1 ∧
      (∀ m, c'.identities.lookup m = some c.allocate.1 → m = n) ∧
      ∀ r, reference = some r → (c'.references.lookup r).isSome := by
  intro c'
  obtain ⟨noReference, noIdentity⟩ := lookup_none absent
  have unknown := fresh_not_known c
  have noted : c'.identities.lookup n = some c.allocate.1 := by
    rw [remember_identities, show c.allocate.2.identities.lookup n = none from noIdentity n rfl]
    simp
  obtain ⟨_, reserved⟩ := traced_allocate traced
  obtain ⟨traced', later⟩ := traced_remember { node := some n, reference, pointer } traced
    reserved rfl rfl rfl (fun _ _ => slot_of_append.mp) (fresh_known c) (fun r m same _ led => by
      obtain ⟨equal, _⟩ := fits.named r m same led plain
      cases equal
      exact .inl noted) fun _ _ _ _ _ => unknown
  refine ⟨traced', later, ?_, noted, ?_, ?_⟩
  · exact ⟨c.typeCount, by
      have slots := (remember_slots c.allocate.2 c.allocate.1 { node := some n, reference, pointer }).1
      have count := allocate_count c
      simp only [Context.typeCount, c'] at count ⊢
      rw [slots]
      omega, rfl⟩
  · intro m same
    rw [remember_identities] at same
    obtain old | ⟨_, keyed, _⟩ := or_of_some same
    · exact absurd (traced.identities m _ old).1 unknown
    · exact (Option.some.inj keyed).symm
  · intro r same
    rw [remember_references, show c.allocate.2.references.lookup r = none from noReference r same]
    simp [same]

theorem close_cases {id : String} {t : TypeDefinition} (known : c.Known id) :
    (∃ f, c.fill id t = .error f ∧ Ordinary f) ∨
      ∃ k, id = typeIdOf k ∧ t.id = id ∧ c.slots[k]? = some none ∧
        c.fill id t = .ok { c with slots := c.slots.set k (some t) } := by
  obtain ⟨k, below, same⟩ := known
  subst same
  cases filled : c.fill (typeIdOf k) t with
  | ok c' =>
      obtain ⟨empty, same, rfl⟩ := Context.fill_cases below filled
      exact .inr ⟨k, rfl, same, empty, rfl⟩
  | error f =>
      refine .inl ⟨f, rfl, ?_⟩
      rw [Context.fill, Context.slot_of_id c below] at filled
      split at filled
      next read => cases read
      · cases filled; trivial
      · split at filled
        · cases filled
        · cases filled; trivial

-- What is put into the slot of a node is of the node.
theorem closed_traced {id : String} {t : TypeDefinition} (traced : Traced d leads c)
    (known : c.Known id) (typed : NodeType d leads n t c)
    (own : ∀ r m, leads r m → c.identities.lookup m = some id → m = n) :
    (∃ f, c.fill id t = .error f ∧ Ordinary f) ∨
      ∃ c', c.fill id t = .ok c' ∧ Traced d leads c' ∧ Later leads c c' := by
  obtain failed | ⟨k, rfl, same, empty, filled⟩ := close_cases (t := t) known
  · exact .inl failed
  · refine .inr ⟨_, filled, traced_fill traced empty same (.inl ⟨n, typed⟩) ?_⟩
    intro r m led noted
    rw [own r m led noted]
    exact typed

-- Filling the slot either fails, which changes nothing, or leaves a traced state.
theorem close_kept {id name : String} {c₁ : Context} {t : TypeDefinition} (known : c.Known id)
    (traced : Traced d leads c₁) (later : Later leads c c₁) (typed : NodeType d leads n t c₁)
    (own : ∀ r m, leads r m → c₁.identities.lookup m = some id → m = n) :
    let left := c₁.leave id name (.ok t)
    Traced d leads left.2 ∧ Later leads c left.2 ∧ ∀ f, left.1 = .error f → Ordinary f := by
  obtain ⟨f, failed, ordinary⟩ | ⟨c₂, filled, traced₂, later₂⟩ :=
    closed_traced traced (Context.known_later later.count known) typed own
  · rw [Context.leave_unfilled failed]
    refine ⟨traced, later, fun f' same => ?_⟩
    cases same
    exact ordinary
  · rw [Context.leave_filled filled]
    refine ⟨traced₂, later_trans later later₂, fun f' same => ?_⟩
    cases same

theorem leave_kept (id name : String) (built : Except Fault TypeDefinition) (traced : Traced d leads c)
    (known : c.Known id) (map : d.graph.entries? (.node n) = some entries)
    (made : ∀ t, built = .ok t → Built d (Standing d leads · · c) (.node n) entries id t)
    (ordinary : ∀ f, built = .error f → Ordinary f)
    (own : ∀ r m, leads r m → c.identities.lookup m = some id → m = n) :
    let left := c.leave id name built
    Traced d leads left.2 ∧ Later leads c left.2 ∧ ∀ f, left.1 = .error f → Ordinary f := by
  cases built with
  | ok t =>
      have held := made t rfl
      have typed : NodeType d leads n t c := .inl ⟨entries, map, held.id ▸ held⟩
      exact close_kept known traced (later_refl c) typed own
  | error f =>
      cases f with
      | node issue =>
          obtain ⟨owner, rfl⟩ := ordinary _ rfl
          obtain ⟨traced₁, later₁⟩ := traced_record traced (.noItems owner)
          simp only [Context.leave_node]
          exact close_kept known traced₁ later₁ (.inr ⟨name, owner, rfl⟩) own
      | _ => exact ⟨traced, later_refl c, fun f same => by cases same; exact ordinary _ rfl⟩

theorem resolve_kept {name : String} {build : String → Conversion TypeDefinition}
    (map : d.graph.entries? (.node n) = some entries)
    (plain : referenceOf? d.graph (.node n) = none) (fits : Fits d leads reference (.node n))
    (builds : ∀ id c, Later leads start c →
      (∀ r, reference = some r → (c.references.lookup r).isSome) →
      (tracing d leads).Keeps c (build id) fun t c' =>
        Built d (Standing d leads · · c') (.node n) entries id t) :
    (tracing d leads).Keeps start
      (Conversion.resolve { node := some n, reference, pointer } name build)
      (Standing d leads (asked reference (.node n))) := by
  intro c traced later
  rw [resolve_run]
  cases found : c.lookup? { node := some n, reference, pointer } with
  | some id => exact enter_known plain fits traced found
  | none =>
      obtain ⟨traced₁, later₁, known₁, noted, own, listed⟩ := enter_fresh plain fits traced found
      have built := builds c.allocate.1 _ (later_trans later later₁) listed _ traced₁ (later_refl _)
      simp only
      generalize (build c.allocate.1).run.run (c.allocate.2.remember c.allocate.1
        { node := some n, reference, pointer }) = result at built ⊢
      obtain ⟨outcome, c₂⟩ := result
      obtain ⟨traced₂, later₂, outcome₂⟩ := built
      have own₂ : ∀ r m, leads r m → c₂.identities.lookup m = some c.allocate.1 → m = n := by
        intro r m led held
        obtain old | new := later₂.fresh r m _ led held
        · exact own m old
        · exact absurd known₁ new
      have left := leave_kept c.allocate.1 name outcome traced₂
        (Context.known_later later₂.count known₁) map (fun t same => by subst same; exact outcome₂)
        (fun f same => by subst same; exact outcome₂) own₂
      obtain ⟨traced₃, later₃, ordinary⟩ := left
      have all := later_trans later₁ (later_trans later₂ later₃)
      refine ⟨traced₃, all, ?_⟩
      cases ended : (c₂.leave c.allocate.1 name outcome).1 with
      | error f => exact ordinary f ended
      | ok _ =>
          have id_noted := later₃.identities n _ (later₂.identities n _ noted)
          exact known_standing plain fits traced all
            (Context.known_later (Nat.le_trans later₂.count later₃.count) known₁)
            (fun _ _ => .inr id_noted) fun _ => id_noted

end Resolve

def Ready (d : Document) (leads : String → Nat → Prop) (trail : List String)
    (reference : Option String) (c : Context) : Prop :=
  ∀ r n, r ∈ trail → leads r n → ¬ IsAlias d r →
    (c.references.lookup r).isSome ∨ reference = some r

theorem ready_later {trail : List String} {reference : Option String} {c c' : Context}
    (later : Later leads c c') (ready : Ready d leads trail reference c) :
    Ready d leads trail reference c' := by
  intro r n member led direct
  obtain noted | same := ready r n member led direct
  · obtain ⟨id, found⟩ := Option.isSome_iff_exists.mp noted
    refine .inl ?_
    rw [later.references r id found]
    rfl
  · exact .inr same

def Ask.name? : Ask → Option String
  | .node _ _ named _ => named
  | .reference _ => none

def Ask.Fits (d : Document) (leads : String → Nat → Prop) : Ask → Prop
  | .node item _ named _ => OpenApi.Fits d leads named item
  | .reference _ => True

def Ask.part : Ask → Part
  | .node item _ named _ => asked named item
  | .reference text => .name text

def Answers (d : Document) (leads : String → Nat → Prop) (convert : Convert) : Prop :=
  ∀ trail ask start, ask.Fits d leads → Ready d leads trail ask.name? start →
    (tracing d leads).Keeps start (convert trail ask) (Standing d leads ask.part)

theorem fits_none {item : Item} : Fits d leads none item where
  named _ _ impossible := by cases impossible
  aliased _ _ _ impossible := by cases impossible
  own _ _ _ impossible := by cases impossible

theorem answers_converts {convert : Convert} (answers : Answers d leads convert) {trail : List String}
    (ready : Ready d leads trail none start) :
    Converts (tracing d leads) (Standing d leads) start ⟨d, trail⟩ convert where
  quiet := tracing_quiet
  lasting part id _ _ later := standing_later later part id
  faults _ ordinary := ordinary
  nodes item name pointer := answers trail (.node item name none pointer) start fits_none ready
  names text := answers trail (.reference text) start trivial ready

theorem note_reference_kept {r id : String} (known : start.Known id)
    (stands : ∀ n, leads r n → Stands d leads r n id start) :
    (tracing d leads).Keeps start (noteReference r id) fun _ _ => True := by
  intro c traced later
  have known' := Context.known_later later.count known
  have noted : ∀ other n, some r = some other → c.references.lookup other = none →
      leads other n → Stands d leads other n id (c.remember id { reference := some r }) := by
    intro other n same _ led
    cases same
    obtain held | ⟨aliased, looped⟩ := stands_later later (stands n led)
    · refine .inl ?_
      rw [remember_identities]
      exact some_or held
    · obtain ⟨r', k, led', aliased', same, held, issued⟩ := looped
      refine .inr ⟨aliased, r', k, led', aliased', same, ?_, ?_⟩
      · rw [(remember_slots _ _ _).1]
        exact held
      · rw [(remember_slots _ _ _).2]
        exact issued
  obtain ⟨traced', later'⟩ := traced_remember { reference := some r } traced (later_refl c)
    rfl rfl rfl (fun _ _ held => held) known' noted fun _ _ impossible => by cases impossible
  exact ⟨traced', later', trivial⟩

theorem local_front {r : String} {item : Item} (found : localTarget? d r = some item) :
    r.toList.head? = some '#' := by
  unfold localTarget? at found
  split at found
  next same => rw [same]; rfl
  · cases found

theorem standing_name {r id : String} {c : Context} (known : c.Known id)
    (stands : ∀ n, leads r n → Stands d leads r n id c) : Standing d leads (.name r) id c where
  known := known
  reference r' n same led := by
    cases same
    exact stands n led
  node _ impossible := by cases impossible

theorem broken_kept {r reason : String}
    (circular : ∀ n, leads r n → IsAlias d r ∧ reason = "circular reference chain") :
    (tracing d leads).Keeps start (Conversion.placeholder (Pointer.lastName r)
      (.unresolved r (some reason)) (some r) none) (Standing d leads (.name r)) := by
  refine keeps_weaken (placeholder_kept fun other n same led => ?_) fun id c _ held => ?_
  · cases same
    obtain ⟨aliased, rfl⟩ := circular n led
    exact ⟨aliased, rfl, rfl, rfl⟩
  · exact standing_name held.1 fun n led => held.2 r n rfl led

theorem target_found (follows : Follows d leads) {r : String} {n : Nat} {item : Item} (led : leads r n)
    (there : localTarget? d r = some item) :
    (∃ next, referenceOf? d.graph item = some next ∧ leads next n) ∨
      referenceOf? d.graph item = none ∧ item = .node n ∧ d.graph.isMap item := by
  obtain ⟨other, same, goes⟩ := follows.target r n led
  rw [there] at same
  cases same
  exact goes

theorem leads_onward (follows : Follows d leads) {r next : String} {n : Nat} {item : Item}
    (there : localTarget? d r = some item) (onward : referenceOf? d.graph item = some next)
    (led : leads r n) : leads next n := by
  obtain ⟨other, further, led'⟩ | ⟨plain, _⟩ := target_found follows led there
  · rw [onward] at further
    cases further
    exact led'
  · rw [onward] at plain
    cases plain

theorem direct_of_plain {r : String} {item : Item} (there : localTarget? d r = some item)
    (plain : referenceOf? d.graph item = none) : ¬ IsAlias d r := by
  rintro ⟨other, next, same, further⟩
  rw [there] at same
  cases same
  rw [plain] at further
  cases further

-- A reference fits what it names, if what other references lead to is no reference itself.
theorem fits_target (follows : Follows d leads) {r : String} {item : Item}
    (there : localTarget? d r = some item)
    (last : ∀ other n, leads other n → item = .node n → referenceOf? d.graph item = none) :
    Fits d leads (some r) item where
  named other n same led plain := by
    cases same
    obtain ⟨_, further, _⟩ | ⟨_, held⟩ := target_found follows led there
    · rw [plain] at further
      cases further
    · exact held
  aliased other n next same led onward := by
    cases same
    exact ⟨⟨item, next, there, onward⟩, leads_onward follows there onward led⟩
  own own other n same led equal := by
    cases same
    exact ⟨follows.direct r other n led (by rw [there, equal]),
      direct_of_plain there (last other n led equal)⟩

theorem ready_cons {trail : List String} {r : String} {c : Context}
    (ready : Ready d leads trail none c) : Ready d leads (r :: trail) (some r) c := by
  intro other n member led direct
  obtain rfl | earlier := List.mem_cons.mp member
  · exact .inr rfl
  · obtain noted | impossible := ready other n earlier led direct
    · exact .inl noted
    · cases impossible

theorem ready_cons_alias {trail : List String} {r : String} {c : Context} (aliased : IsAlias d r)
    (ready : Ready d leads trail none c) : Ready d leads (r :: trail) none c := by
  intro other n member led direct
  obtain rfl | earlier := List.mem_cons.mp member
  · exact absurd aliased direct
  · exact ready other n earlier led direct

-- A reference that names a node itself has its id by the time it is met again, so only an alias is met
-- without one.
theorem alias_of_again {trail : List String} {r : String} {n : Nat} {c : Context}
    (ready : Ready d leads trail none c) (again : r ∈ trail) (led : leads r n)
    (absent : c.references.lookup r = none) : IsAlias d r := by
  by_cases aliased : IsAlias d r
  · exact aliased
  · obtain noted | impossible := ready r n again led aliased
    · rw [absent] at noted
      cases noted
    · cases impossible

theorem noted_standing {r id : String} {c : Context} (traced : Traced d leads c)
    (found : c.lookup? { reference := some r } = some id) : Standing d leads (.name r) id c := by
  obtain ⟨other, same, noted⟩ | ⟨_, impossible, _⟩ | ⟨_, _, impossible, _⟩ := lookup_cases found
  · cases same
    obtain ⟨known, stands⟩ := traced.references r id noted
    exact standing_name known stands
  · cases impossible
  · cases impossible

-- An alias takes the id of what it names, and with it whether that id is of the node.
theorem alias_kept (follows : Follows d leads) {convert : Convert} (answers : Answers d leads convert)
    {trail : List String} {r next : String} {item : Item} (there : localTarget? d r = some item)
    (onward : referenceOf? d.graph item = some next) (ready : Ready d leads trail none start) :
    (tracing d leads).Keeps start (do
      let id ← convert (r :: trail) (.reference next)
      noteReference r id
      return id) (Standing d leads (.name r)) := by
  have aliased : IsAlias d r := ⟨item, next, there, onward⟩
  refine keeps_bind (answers (r :: trail) (.reference next) start trivial
    (ready_cons_alias aliased ready)) fun id c₁ later₁ standing => ?_
  have stands : ∀ n, leads r n → Stands d leads r n id c₁ := by
    intro n led
    obtain held | ⟨_, looped⟩ :=
      standing.reference next n rfl (leads_onward follows there onward led)
    · exact .inl held
    · exact .inr ⟨aliased, looped⟩
  refine keeps_bind (note_reference_kept standing.known stands) fun _ c₂ later₂ _ => ?_
  exact keeps_pure fun c₃ later₃ =>
    standing_later (later_trans later₂ later₃) _ _ (standing_name standing.known stands)

theorem follow_kept (follows : Follows d leads) {convert : Convert} (answers : Answers d leads convert)
    {trail : List String} (r : String) (ready : Ready d leads trail none start) :
    (tracing d leads).Keeps start (follow ⟨d, trail⟩ convert r) (Standing d leads (.name r)) := by
  unfold follow
  refine keeps_get fun c traced later => ?_
  have ready' := ready_later later ready
  cases found : c.lookup? { reference := some r } with
  | some id => exact keeps_pure fun c' later' => standing_later later' _ _ (noted_standing traced found)
  | none =>
      have absent := (lookup_none found).1 r rfl
      simp only
      split
      next outside =>
        refine broken_kept fun n led => ?_
        obtain ⟨item, there, _⟩ := follows.target r n led
        exact absurd (local_front there) (by simpa using outside)
      · split
        next again =>
          exact broken_kept fun n led =>
            ⟨alias_of_again ready' (List.contains_iff_mem.mp again) led absent, rfl⟩
        · cases there : localTarget? d r with
          | none =>
              refine broken_kept fun n led => ?_
              obtain ⟨item, other, _⟩ := follows.target r n led
              rw [there] at other
              cases other
          | some item =>
              simp only [Scope.graph]
              cases onward : referenceOf? d.graph item with
              | some next => exact alias_kept follows answers there onward ready'
              | none =>
                  exact answers (r :: trail) (.node item (Pointer.lastName r) (some r) none) c
                    (fits_target follows there fun _ _ _ _ => onward) (ready_cons ready')

-- What is no map gets a placeholder; no reference that leads to a node leads here.
theorem unmapped_kept {item : Item} {name : String} {named pointer : Option String} {issue : NodeIssue}
    (fits : Fits d leads named item) (map : d.graph.entries? item = none) :
    (tracing d leads).Keeps start (Conversion.placeholder name issue named pointer)
      (Standing d leads (asked named item)) := by
  have plain : referenceOf? d.graph item = none := by simp [referenceOf?, map]
  refine keeps_weaken (placeholder_kept fun r n same led => ?_) fun id c _ held => ?_
  · have there := (fits.named r n same led plain).2
    rw [Graph.isMap, map] at there
    cases there
  · cases named with
    | some r => exact standing_name held.1 fun n led => held.2 r n rfl led
    | none =>
        refine ⟨held.1, fun r n same _ => ?_, fun n same there _ => ?_⟩
        · have same : referenceOf? d.graph item = some r := same
          rw [plain] at same
          cases same
        · cases same
          rw [Graph.isMap, map] at there
          cases there

-- What an id says about a reference, it says about the item that holds the reference.
theorem holder_standing {item : Item} {named : Option String} {text id : String} {c : Context}
    (fits : Fits d leads named item) (reference : referenceOf? d.graph item = some text)
    (standing : Standing d leads (.name text) id c) : Standing d leads (asked named item) id c := by
  cases named with
  | some r =>
      refine standing_name standing.known fun n led => ?_
      obtain ⟨aliased, led'⟩ := fits.aliased r n text rfl led reference
      obtain held | ⟨_, looped⟩ := standing.reference text n rfl led'
      · exact .inl held
      · exact .inr ⟨aliased, looped⟩
  | none =>
      refine ⟨standing.known, fun r n same led => ?_, fun n _ _ plain => ?_⟩
      · have same : referenceOf? d.graph item = some r := same
        rw [reference] at same
        cases same
        exact standing.reference text n rfl led
      · have plain : referenceOf? d.graph item = none := plain
        rw [reference] at plain
        cases plain

theorem step_kept (follows : Follows d leads) {convert : Convert} (answers : Answers d leads convert)
    (trail : List String) (ask : Ask) (fits : ask.Fits d leads)
    (ready : Ready d leads trail ask.name? start) :
    (tracing d leads).Keeps start (convertStep ⟨d, trail⟩ convert ask)
      (Standing d leads ask.part) := by
  cases ask with
  | reference text => exact follow_kept follows answers text ready
  | node item name named pointer =>
      unfold convertStep
      simp only [Scope.graph]
      cases map : d.graph.entries? item with
      | none => exact unmapped_kept fits map
      | some entries =>
          have reference : referenceOf? d.graph item = (fieldOf entries "$ref").text? := by
            simp [referenceOf?, map]
          cases onward : (fieldOf entries "$ref").text? with
          | some text =>
              rw [onward] at reference
              simp only [onward]
              have ready₁ : Ready d leads trail none start := by
                intro r n member led direct
                obtain noted | same := ready r n member led direct
                · exact .inl noted
                · exact absurd (fits.aliased r n text same led reference).1 direct
              exact keeps_weaken (follow_kept follows answers text ready₁) fun id c _ standing =>
                holder_standing fits reference standing
          | none =>
              rw [onward] at reference
              simp only [onward]
              cases item with
              | scalar a => simp [Graph.entries?, Graph.of?] at map
              | node n =>
                  refine resolve_kept map reference fits fun id c later listed => ?_
                  have ready₁ : Ready d leads trail none c := by
                    intro r m member led direct
                    obtain noted | same := ready_later later ready r m member led direct
                    · exact .inl noted
                    · exact .inl (listed r same)
                  exact build_kept (answers_converts answers ready₁) id (.node n) entries name

theorem within_answers (follows : Follows d leads) (fuel : Nat) :
    Answers d leads (convertWithin d fuel) := by
  induction fuel with
  | zero =>
      intro trail ask start _ _
      unfold convertWithin
      exact keeps_throw trivial
  | succ fuel ih =>
      intro trail ask start fits ready
      unfold convertWithin
      exact step_kept follows ih trail ask fits ready

theorem convert_node_answers (follows : Follows d leads) : Answers d leads (convertNode d) :=
  within_answers follows _

end Following

end ApiSchema.OpenApi
