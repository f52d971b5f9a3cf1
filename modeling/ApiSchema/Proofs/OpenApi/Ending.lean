import ApiSchema.Proofs.OpenApi.Asking

/-!
Why a conversion ends.

A question either builds the type of a node that has none yet, or follows a reference of the document
that is not being followed, or asks for nothing more. So questions inside each other are fewer than the
nodes and the references of the document, and no type is built twice.
-/

namespace ApiSchema.OpenApi

section Replies

variable (s : Scope)

structure Behind (reference : String) (q : Question) : Prop where
  trail : q.trail = reference :: s.trail
  inside : reference.toList.head? = some '#'
  new : reference ∉ s.trail
  mentioned : Mentioned s.document q

theorem reference_mentioned {d : Document} {item : Item} {text : String}
    (refers : referenceOf? d.graph item = some text) (inside : text.toList.head? = some '#') :
    text ∈ mentions d := by
  obtain ⟨entries, map, said⟩ := Option.bind_eq_some_iff.mp refers
  have known := mentioned map (field_member said) said
  rwa [local_mapping inside] at known

theorem lasting_note (reference id : String) : Lasting (noteReference reference id) :=
  fun c => recalls_refl c

theorem follow_asks (reference : String) :
    Asks (Behind s reference) fun convert => follow s convert reference := by
  unfold follow
  extract_lets broken
  have stub : ∀ reason, Asks (Behind s reference) fun _ => broken reason :=
    fun reason => asks_fixed (lasting_placeholder _ _ _ _)
  have looking : Lasting (get : Conversion Context) := fun c => recalls_refl c
  refine asks_bind (asks_fixed looking) fun c => ?_
  cases c.lookup? { reference := some reference } with
  | some id => exact asks_pure id
  | none =>
      by_cases outside : (reference.toList.head? != some '#') = true
      · simp only [outside, if_true]
        exact stub _
      have inside : reference.toList.head? = some '#' := by simpa using outside
      simp only [outside, Bool.false_eq_true, if_false]
      by_cases circular : s.trail.contains reference = true
      · simp only [circular, if_true]
        exact stub _
      have new : reference ∉ s.trail := by simpa using circular
      simp only [circular, Bool.false_eq_true, if_false]
      cases localTarget? s.document reference with
      | none => exact stub _
      | some node =>
          simp only
          cases refers : referenceOf? s.graph node with
          | none =>
              have behind : Behind s reference ⟨reference :: s.trail,
                  .node node (Pointer.lastName reference) (some reference) none⟩ :=
                ⟨rfl, inside, new, fun _ same => by cases same⟩
              exact asks_convert behind
          | some next =>
              have behind : Behind s reference ⟨reference :: s.trail, .reference next⟩ := by
                refine ⟨rfl, inside, new, fun text same inside => ?_⟩
                cases same
                exact reference_mentioned refers inside
              refine asks_bind (asks_convert behind) fun id => ?_
              exact asks_bind (asks_fixed (lasting_note reference id)) fun _ => asks_pure id

end Replies

def Visit.builds (d : Document) (v : Visit) : Option Nat :=
  match v.question.ask with
  | .node (.node n) _ reference pointer =>
    if d.graph.isMap (.node n) && (referenceOf? d.graph (.node n)).isNone &&
      (v.before.lookup? { node := some n, reference, pointer }).isNone then some n else none
  | _ => none

def Further (d : Document) (q q' : Question) : Prop :=
  ∃ reference ∈ mentions d, reference ∉ q.trail ∧ q'.trail = reference :: q.trail ∧ Mentioned d q'

/-- A script that answers a question. It follows a reference, if anything, or resolves a node. -/
structure Replies (d : Document) (q : Question) (script : Script String) : Prop where
  same : ∀ convert, script.run convert = convertStep ⟨d, q.trail⟩ convert q.ask
  kind : Mentioned d q → (∀ c, Visit.builds d ⟨q, c⟩ = none) ∧ script.Fits (Further d q) ∨
    ∃ (n : Nat) (name : String) (reference pointer : Option String)
      (build : String → Script TypeDefinition), d.graph.isMap (.node n) ∧
      script = .resolve { node := some n, reference, pointer } name build .done ∧
      (∀ id, (build id).Fits (Inner ⟨d, q.trail⟩)) ∧ ∀ c, Visit.builds d ⟨q, c⟩ =
        if (c.lookup? { node := some n, reference, pointer }).isNone then some n else none

theorem fits_imp {fits weaker : Question → Prop} (imp : ∀ q, fits q → weaker q) {α : Type}
    {script : Script α} (fit : script.Fits fits) : script.Fits weaker := by
  induction script with
  | done => trivial
  | step action next ih => exact ⟨fit.1, fun b => ih b (fit.2 b)⟩
  | ask q next ih => exact ⟨imp q fit.1, fun id => ih id (fit.2 id)⟩
  | resolve => exact fit.elim

section Reply

variable {d : Document} {q : Question}

theorem reply_follows {reference : String} (builds : ∀ c, Visit.builds d ⟨q, c⟩ = none)
    (known : Mentioned d q → reference.toList.head? = some '#' → reference ∈ mentions d)
    (asked : ∀ convert, convertStep ⟨d, q.trail⟩ convert q.ask = follow ⟨d, q.trail⟩ convert reference) :
    ∃ script, Replies d q script := by
  obtain ⟨script, fit, same⟩ := follow_asks ⟨d, q.trail⟩ reference
  refine ⟨script, fun convert => (same convert).trans (asked convert).symm, fun mentioned =>
    .inl ⟨builds, fits_imp (fun q' behind => ?_) fit⟩⟩
  exact ⟨reference, known mentioned behind.inside, behind.new, behind.trail, behind.mentioned⟩

theorem reply_exists (d : Document) (q : Question) : ∃ script, Replies d q script := by
  obtain ⟨trail, ask⟩ := q
  cases ask with
  | reference text =>
      exact reply_follows (fun c => rfl) (fun mentioned => mentioned text rfl) fun _ => rfl
  | node item name reference pointer =>
      cases map : d.graph.entries? item with
      | none =>
          have asked : ∀ convert, convertStep ⟨d, trail⟩ convert (.node item name reference pointer) =
              Conversion.placeholder name (.unknownKind (.text (kindName d.graph item)) name)
                reference pointer := by
            intro convert
            simp only [convertStep, Scope.graph, map]
          have stub : Asks (Further d ⟨trail, .node item name reference pointer⟩) fun _ =>
              Conversion.placeholder name (.unknownKind (.text (kindName d.graph item)) name)
                reference pointer := asks_fixed (lasting_placeholder _ _ _ _)
          obtain ⟨script, fit, same⟩ := stub
          refine ⟨script, fun convert => (same convert).trans (asked convert).symm,
            fun _ => .inl ⟨fun c => ?_, fit⟩⟩
          cases item with
          | scalar a => rfl
          | node n => simp [Visit.builds, Graph.isMap, map]
      | some entries =>
          obtain ⟨n, rfl, _⟩ := entries_cell map
          have isMap : d.graph.isMap (.node n) = true := by simp [Graph.isMap, map]
          cases refers : (fieldOf entries "$ref").text? with
          | some text =>
              have referring : referenceOf? d.graph (.node n) = some text := by
                simp [referenceOf?, map, refers]
              refine reply_follows (fun c => ?_) (fun _ => reference_mentioned referring) fun convert => ?_
              · simp [Visit.builds, referring]
              · simp only [convertStep, Scope.graph, map, refers]
          | none =>
              have plain : referenceOf? d.graph (.node n) = none := by simp [referenceOf?, map, refers]
              choose build fit same using fun id => build_asks ⟨d, trail⟩ id (.node n) entries name
              refine ⟨.resolve { node := some n, reference, pointer } name build .done, fun convert => ?_,
                fun _ => .inr ⟨n, name, reference, pointer, build, isMap, rfl, fit, fun c => ?_⟩⟩
              · simp only [convertStep, Scope.graph, map, refers, Script.run, same]
                exact bind_pure _
              · simp [Visit.builds, isMap, plain]

end Reply

section Measure

variable {d : Document} {c c' : Context} {trail : List String}

theorem recalls_some (recalls : Recalls c c') {n : Nat} (noted : (c.identities.lookup n).isSome) :
    (c'.identities.lookup n).isSome := by
  obtain ⟨id, held⟩ := Option.isSome_iff_exists.mp noted
  simp [recalls n id held]

theorem recalls_none (recalls : Recalls c c') {n : Nat} (absent : c'.identities.lookup n = none) :
    c.identities.lookup n = none := by
  cases held : c.identities.lookup n with
  | none => rfl
  | some id => exact absurd ((recalls n id held).symm.trans absent) (by simp)

def unbuilt (d : Document) (c : Context) : Nat :=
  ((List.range d.graph.size).filter fun n => (c.identities.lookup n).isNone).length

def unused (d : Document) (trail : List String) : Nat :=
  ((mentions d).filter fun reference => !trail.contains reference).length

theorem unbuilt_later (recalls : Recalls c c') : unbuilt d c' ≤ unbuilt d c := by
  refine List.Sublist.length_le (List.monotone_filter_right _ fun n absent => ?_)
  cases noted : c.identities.lookup n with
  | none => rfl
  | some id =>
      rw [recalls n id noted] at absent
      cases absent

theorem unbuilt_less (recalls : Recalls c c') {n : Nat} (map : d.graph.isMap (.node n))
    (absent : c.identities.lookup n = none) (noted : (c'.identities.lookup n).isSome) :
    unbuilt d c' < unbuilt d c := by
  have inside : n < d.graph.size := by
    obtain ⟨entries, map⟩ := Option.isSome_iff_exists.mp map
    obtain ⟨_, same, held⟩ := entries_cell map
    cases same
    exact (Array.getElem?_eq_some_iff.mp held).1
  refine filter_fewer (fun m absent' => ?_) (List.mem_range.mpr inside) (by simp [absent]) ?_
  · simpa using recalls_none recalls (by simpa using absent')
  · simpa using Option.isSome_iff_ne_none.mp noted

theorem unused_less {reference : String} (known : reference ∈ mentions d) (new : reference ∉ trail) :
    unused d (reference :: trail) < unused d trail := by
  refine filter_fewer (fun other later => ?_) known (by simpa using new) (by simp)
  have apart : other ∉ reference :: trail := by simpa using later
  simpa using fun member => apart (List.mem_cons_of_mem _ member)

theorem mentions_weight (cell : Cell) : (mentionsOf cell).length + 1 ≤ weight cell := by
  cases cell with
  | map entries =>
      have fewer := List.length_filterMap_le (fun entry : Scalar × Item =>
        entry.2.text?.map mappingReference) entries
      simpa [mentionsOf, weight] using fewer
  | list | set | pair => simp [mentionsOf, weight]

theorem measure_bounded (d : Document) (c : Context) (trail : List String) :
    unbuilt d c + unused d trail ≤ d.graph.cells.foldl (fun n cell => n + weight cell) 0 := by
  have nodes : unbuilt d c ≤ d.graph.cells.toList.length := by
    refine Nat.le_trans (List.length_filter_le _ _) ?_
    simp [Graph.size]
  have references : unused d trail ≤ (mentions d).length := List.length_filter_le _ _
  have cells : ∀ (cells : List Cell) (sofar : Nat), sofar + cells.length +
      (cells.flatMap mentionsOf).length ≤ cells.foldl (fun n cell => n + weight cell) sofar := by
    intro cells
    induction cells with
    | nil => simp
    | cons cell rest ih =>
        intro sofar
        have one := mentions_weight cell
        have others := ih (sofar + weight cell)
        simp only [List.length_cons, List.flatMap_cons, List.length_append, List.foldl_cons]
        omega
  have all := cells d.graph.cells.toList 0
  rw [← Array.foldl_toList]
  unfold mentions at references
  omega

theorem weights_from (d : Document) (a b : Nat) (less : a < b) :
    d.graph.cells.foldl (fun n cell => n + weight cell) a <
      d.graph.cells.foldl (fun n cell => n + weight cell) b := by
  have cells : ∀ (cells : List Cell) (a b : Nat), a < b →
      cells.foldl (fun n cell => n + weight cell) a < cells.foldl (fun n cell => n + weight cell) b := by
    intro cells
    induction cells with
    | nil => exact fun _ _ less => less
    | cons cell rest ih => exact fun a b less => ih _ _ (Nat.add_lt_add_right less _)
  simpa only [Array.foldl_toList] using cells d.graph.cells.toList a b less

end Measure

/-- What a part of a conversion has built and followed: no node twice, and none that had a type. -/
structure Accounts (d : Document) (c : Context) (log : List Visit) (c' : Context) : Prop where
  recalls : Recalls c c'
  once : (log.filterMap (·.builds d)).Nodup
  fresh : ∀ n ∈ log.filterMap (·.builds d), c.identities.lookup n = none
  noted : ∀ n ∈ log.filterMap (·.builds d), (c'.identities.lookup n).isSome
  trails : ∀ v ∈ log, v.question.trail.Nodup

section Accounts

variable {d : Document} {c c' c'' : Context} {log more : List Visit}

theorem accounts_nothing (recalls : Recalls c c') : Accounts d c [] c' where
  recalls := recalls
  once := .nil
  fresh _ member := by cases member
  noted _ member := by cases member
  trails _ member := by cases member

theorem accounts_append (first : Accounts d c log c') (second : Accounts d c' more c'') :
    Accounts d c (log ++ more) c'' where
  recalls := recalls_trans first.recalls second.recalls
  once := by
    rw [List.filterMap_append]
    refine List.nodup_append.mpr ⟨first.once, second.once, fun n early m late same => ?_⟩
    have noted := first.noted n early
    rw [same, second.fresh m late] at noted
    cases noted
  fresh n member := by
    rw [List.filterMap_append] at member
    obtain early | late := List.mem_append.mp member
    · exact first.fresh n early
    · exact recalls_none first.recalls (second.fresh n late)
  noted n member := by
    rw [List.filterMap_append] at member
    obtain early | late := List.mem_append.mp member
    · exact recalls_some second.recalls (first.noted n early)
    · exact second.noted n late
  trails v member := by
    obtain early | late := List.mem_append.mp member
    · exact first.trails v early
    · exact second.trails v late

-- A question that builds nothing itself.
theorem accounts_asked {q : Question} (distinct : q.trail.Nodup)
    (builds : Visit.builds d ⟨q, c⟩ = none) (inner : Accounts d c log c') :
    Accounts d c (⟨q, c⟩ :: log) c' := by
  have same : (⟨q, c⟩ :: log).filterMap (·.builds d) = log.filterMap (·.builds d) := by
    simp [builds]
  refine ⟨inner.recalls, same ▸ inner.once, same ▸ inner.fresh, same ▸ inner.noted, fun v member => ?_⟩
  obtain rfl | later := List.mem_cons.mp member
  · exact distinct
  · exact inner.trails v later

-- A question that builds a node, which is noted before anything is asked.
theorem accounts_built {q : Question} {n : Nat} (distinct : q.trail.Nodup)
    (builds : Visit.builds d ⟨q, c⟩ = some n) (recalls : Recalls c c')
    (absent : c.identities.lookup n = none) (noted : (c'.identities.lookup n).isSome)
    (inner : Accounts d c' log c'') : Accounts d c (⟨q, c⟩ :: log) c'' := by
  have parts : (⟨q, c⟩ :: log).filterMap (·.builds d) = n :: log.filterMap (·.builds d) := by
    simp [builds]
  constructor
  case recalls => exact recalls_trans recalls inner.recalls
  case once =>
    rw [parts]
    refine List.nodup_cons.mpr ⟨fun again => ?_, inner.once⟩
    rw [inner.fresh n again] at noted
    cases noted
  case fresh =>
    rw [parts]
    rintro m member
    obtain rfl | later := List.mem_cons.mp member
    · exact absent
    · exact recalls_none recalls (inner.fresh m later)
  case noted =>
    rw [parts]
    rintro m member
    obtain rfl | later := List.mem_cons.mp member
    · exact recalls_some inner.recalls noted
    · exact inner.noted m later
  case trails =>
    rintro v member
    obtain rfl | later := List.mem_cons.mp member
    · exact distinct
    · exact inner.trails v later

end Accounts

def Ends (d : Document) (reply : Question → Script String) {α : Type} (script : Script α) (c : Context)
    (first : List Visit) (out : Except Fault α × Context) : Prop :=
  ∃ log, Plays reply script c log out ∧ Accounts d c (first ++ log) out.2

section Playing

variable {d : Document} {reply : Question → Script String} {convert : Convert}

-- A script ends if whatever it asks is answered in the end.
theorem script_ends {fits : Question → Prop} {α : Type} {script : Script α} (fit : script.Fits fits)
    (c : Context) (answers : ∀ q, fits q → ∀ c', Recalls c c' →
      Ends d reply (reply q) c' [⟨q, c'⟩] ((convert q.trail q.ask).run.run c')) :
    Ends d reply script c [] ((script.run convert).run.run c) := by
  induction script generalizing c with
  | done answer => exact ⟨[], .done, accounts_nothing (recalls_refl c)⟩
  | resolve => exact fit.elim
  | step action next ih =>
      have lasting := fit.1 c
      rw [Script.run, run_bind]
      cases reached : action.run.run c with
      | mk answer c' =>
          rw [reached] at lasting
          cases answer with
          | error f => exact ⟨[], .stopped reached, accounts_nothing lasting⟩
          | ok b =>
              obtain ⟨log, plays, accounts⟩ := ih b (fit.2 b) c' fun q asked c₂ later =>
                answers q asked c₂ (recalls_trans lasting later)
              exact ⟨log, .step reached plays,
                accounts_append (accounts_nothing lasting) accounts⟩
  | ask q next ih =>
      obtain ⟨inner, plays, accounts⟩ := answers q fit.1 c (recalls_refl c)
      rw [Script.run, run_bind]
      cases reached : (convert q.trail q.ask).run.run c with
      | mk answer c' =>
          rw [reached] at plays accounts
          cases answer with
          | error f => exact ⟨_, .unanswered plays, accounts⟩
          | ok id =>
              obtain ⟨log, plays', accounts'⟩ := ih id (fit.2 id) c' fun q asked c₂ later =>
                answers q asked c₂ (recalls_trans accounts.recalls later)
              have both := accounts_append accounts accounts'
              exact ⟨_, .ask plays plays', both⟩

theorem fill_identities {c c' : Context} {id : String} {t : TypeDefinition}
    (filled : c.fill id t = .ok c') : c'.identities = c.identities := by
  obtain ⟨position, _, rfl⟩ := Context.fill_place filled
  rfl

theorem leave_identities (c : Context) (id name : String) (outcome : Except Fault TypeDefinition) :
    (c.leave id name outcome).2.identities = c.identities :=
  Context.leave_keeps (P := fun d => d.identities = c.identities)
    (fun d issue same => (record_identities d issue).trans same)
    (fun _ _ _ _ filled same => (fill_identities filled).trans same) rfl

theorem resolve_ends {q : Question} {n : Nat} {name : String} {reference pointer : Option String}
    {build : String → Script TypeDefinition} (distinct : q.trail.Nodup) (c : Context)
    (builds : Visit.builds d ⟨q, c⟩ =
      if (c.lookup? { node := some n, reference, pointer }).isNone then some n else none)
    (inner : ∀ c', Recalls c c' → c.identities.lookup n = none → (c'.identities.lookup n).isSome →
      ∀ id, Ends d reply (build id) c' [] (((build id).run convert).run.run c')) :
    Ends d reply (.resolve { node := some n, reference, pointer } name build .done) c [⟨q, c⟩]
      (((Script.resolve { node := some n, reference, pointer } name build .done).run convert).run.run
        c) := by
  let key : Key := { node := some n, reference, pointer }
  have remembers : ∀ (c₀ : Context) id, Recalls c₀ (c₀.remember id key) ∧
      ((c₀.remember id key).identities.lookup n).isSome := by
    intro c₀ id
    refine ⟨fun m other noted => ?_, ?_⟩
    · rw [remember_identities, noted]
      rfl
    · rw [remember_identities]
      simp [key]
  rw [Script.run, run_bind, resolve_run]
  -- What is found plays on at once. What is not is noted before its build asks anything, so the build
  -- does not come back to it.
  cases found : c.lookup? key with
  | some id =>
      have plain : Visit.builds d ⟨q, c⟩ = none := by rw [builds, found]; rfl
      have known := accounts_asked distinct plain (accounts_nothing (remembers c id).1)
      exact ⟨[], .known found .done, known⟩
  | none =>
      have absent := (lookup_none found).2 n rfl
      have building : Visit.builds d ⟨q, c⟩ = some n := by rw [builds, found]; rfl
      obtain ⟨recalls, noted⟩ := remembers c.allocate.2 c.allocate.1
      obtain ⟨log, plays, accounts⟩ := inner (c.allocate.2.remember c.allocate.1 key) recalls absent
        noted c.allocate.1
      simp only
      generalize ((build c.allocate.1).run convert).run.run (c.allocate.2.remember c.allocate.1 key) =
        built at plays accounts
      obtain ⟨outcome, c₁⟩ := built
      have still := leave_identities c₁ c.allocate.1 name outcome
      cases left : c₁.leave c.allocate.1 name outcome with
      | mk answer c₂ =>
          rw [left] at still
          have lasts : Accounts d c₁ [] c₂ := accounts_nothing fun m id held => still ▸ held
          have all := accounts_built distinct building recalls absent noted (accounts_append accounts lasts)
          cases answer with
          | ok => exact ⟨_, .built found plays left .done, all⟩
          | error f =>
              rw [List.append_nil] at all
              exact ⟨_, .unbuilt found plays left, all⟩

-- Induction on the levels: a question inside another has fewer nodes or fewer references left.
theorem question_ends (replies : ∀ q, Replies d q (reply q)) (fuel : Nat) (q : Question)
    (distinct : q.trail.Nodup) (mentioned : Mentioned d q) (c : Context)
    (enough : unbuilt d c + unused d q.trail < fuel) :
    Ends d reply (reply q) c [⟨q, c⟩] ((convertWithin d fuel q.trail q.ask).run.run c) := by
  induction fuel generalizing q c with
  | zero => omega
  | succ fuel ih =>
      obtain ⟨same, kind⟩ := replies q
      rw [convertWithin, ← same]
      obtain ⟨builds, fit⟩ | ⟨n, name, reference, pointer, build, map, script, fit, builds⟩ := kind mentioned
      · have ended : Ends d reply (reply q) c []
            (((reply q).run (convertWithin d fuel)).run.run c) :=
          script_ends fit c fun q' further c' later => by
            obtain ⟨reference, known, new, trail, mentioned'⟩ := further
            refine ih q' (trail ▸ List.nodup_cons.mpr ⟨new, distinct⟩) mentioned' c' ?_
            have fewer := unused_less known new
            have most := unbuilt_later (d := d) later
            rw [trail]
            omega
        obtain ⟨log, plays, accounts⟩ := ended
        exact ⟨log, plays, accounts_asked distinct (builds c) accounts⟩
      · rw [script]
        refine resolve_ends distinct c (builds c) fun c' later absent noted id => ?_
        refine script_ends (fit id) c' fun q' inner c₂ further => ?_
        obtain ⟨trail, mentioned'⟩ : q'.trail = q.trail ∧ Mentioned d q' := inner
        refine ih q' (trail ▸ distinct) mentioned' c₂ ?_
        have fewer := unbuilt_less later map absent noted
        have most := unbuilt_later (d := d) further
        rw [trail]
        omega

end Playing

def Faithful (d : Document) (reply : Question → Script String) : Prop :=
  ∀ q convert, (reply q).run convert = convertStep ⟨d, q.trail⟩ convert q.ask

/-- A conversion is played to its end with no bound on its depth. No node's type is built twice, and no
reference is followed inside itself. Gathering and following references never reach their bounds either:
each build visits a node once, and the references on the way to a target are different. -/
theorem conversion_ends (d : Document) (options : FrontendOptions) :
    (∃ reply script log, Faithful d reply ∧
      (∀ convert, script.run convert = convertBy convert d options) ∧
      Plays reply script {} log ((convert d options).run.run {}) ∧
      (log.filterMap (·.builds d)).Nodup ∧ ∀ v ∈ log, v.question.trail.Nodup) ∧
    (∀ (s : Scope) (convert : Convert) (bottom : Gather) (node : Item) (owner : String)
      (optional : Bool),
      gatherFrom s convert bottom (s.graph.size + 1) node owner optional {} =
          gather s convert (s.graph.size + 1) node owner optional {} ∧
        ∀ c result c', Gives (gather s convert (s.graph.size + 1) node owner optional {}) c result c' →
          result.1.seen.Nodup) ∧
    ∀ item, ∃ references, Chases d [] item references (target d item) ∧ references.Nodup := by
  refine ⟨?_, gather_ends, target_chases d⟩
  choose reply replies using reply_exists d
  obtain ⟨script, fit, same⟩ := convert_asks d options
  have room : d.graph.cells.foldl (fun n cell => n + weight cell) 0 <
      d.graph.cells.foldl (fun n cell => n + weight cell) 2 := weights_from d 0 2 (by decide)
  have ended : Ends d reply script {} [] ((script.run (convertNode d)).run.run {}) :=
    script_ends fit {} fun q inner c' _ => by
      obtain ⟨trail, mentioned⟩ : q.trail = [] ∧ Mentioned d q := inner
      exact question_ends replies _ q (trail ▸ .nil) mentioned c'
        (Nat.lt_of_le_of_lt (measure_bounded d c' q.trail) room)
  simp only [same] at ended
  rw [← convert_by_nodes] at ended
  obtain ⟨log, plays, accounts⟩ := ended
  exact ⟨reply, script, log, fun q => (replies q).same, same, plays, accounts.once, accounts.trails⟩

end ApiSchema.OpenApi
