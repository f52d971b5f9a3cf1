import ApiSchema.Proofs.OpenApi.Composed
import ApiSchema.Proofs.OpenApi.Naming
import ApiSchema.Proofs.OpenApi.Reporting
import ApiSchema.Proofs.Value.Keys

namespace ApiSchema.OpenApi

open Regime

def named? (d : Document) (raw : Item) : Option Entries :=
  (d.graph.entries? (target d raw)).filter (hasField · "name")

def declaredParameters (d : Document) (o : Operation) : Except Fault (List Entries) := do
  let outer ← itemsOrNone d.graph o.shared
  let inner ← itemsOrNone d.graph (fieldOf o.fields "parameters")
  return (outer ++ inner).filterMap (named? d)

section Merging

variable (g : Graph)

def keyOf (entries : Entries) : Value × Value :=
  (g.value (fieldOf entries "name"), g.value (declaredLocation entries))

def alike (a b : Entries) : Bool := (keyOf g a).1.same (keyOf g b).1 && (keyOf g a).2.same (keyOf g b).2

def firsts (declared : List Entries) : List Entries :=
  declared.foldl (fun kept entries => if kept.any (alike g · entries) then kept else kept ++ [entries]) []

def lastLike (declared : List Entries) (entries : Entries) : Entries :=
  (declared.filter (alike g entries)).getLastD entries

/-- One parameter of each key, in the order in which the keys are first met, as it is last declared. -/
def merged (declared : List Entries) : List Entries := (firsts g declared).map (lastLike g declared)

def Keyed (entries : Entries) : Prop := (keyOf g entries).1.isKey = true ∧ (keyOf g entries).2.isKey = true

variable {g} {a b c : Entries} {declared : List Entries}

theorem alike_symm (keyed : Keyed g a) (same : alike g a b = true) : alike g b a = true := by
  obtain ⟨names, places⟩ := Bool.and_eq_true_iff.mp same
  exact Bool.and_eq_true_iff.mpr ⟨Value.same_symm keyed.1 names, Value.same_symm keyed.2 places⟩

theorem alike_trans (keyed : Keyed g a) (same : alike g a b = true) (same' : alike g b c = true) :
    alike g a c = true := by
  obtain ⟨names, places⟩ := Bool.and_eq_true_iff.mp same
  obtain ⟨names', places'⟩ := Bool.and_eq_true_iff.mp same'
  exact Bool.and_eq_true_iff.mpr
    ⟨Value.same_trans keyed.1 names names', Value.same_trans keyed.2 places places'⟩

theorem firsts_more (entries : Entries) : firsts g (declared ++ [entries]) =
    if (firsts g declared).any (alike g · entries) then firsts g declared
    else firsts g declared ++ [entries] := by
  rw [firsts, List.foldl_append]
  rfl

theorem firsts_declared : ∀ entries ∈ firsts g declared, entries ∈ declared := by
  induction declared using List.reverseRecOn with
  | nil => simp [firsts]
  | append_singleton declared last ih =>
      intro entries member
      rw [firsts_more] at member
      split at member
      · exact List.mem_append_left _ (ih entries member)
      · exact List.mem_append.mpr ((List.mem_append.mp member).imp_left (ih entries))

theorem firsts_apart : (firsts g declared).Pairwise fun a b => alike g a b = false := by
  induction declared using List.reverseRecOn with
  | nil => exact .nil
  | append_singleton declared last ih =>
      rw [firsts_more]
      split
      · exact ih
      next new =>
        refine List.pairwise_append.mpr ⟨ih, List.pairwise_singleton _ _, fun a member b isLast => ?_⟩
        rw [List.mem_singleton.mp isLast]
        simpa using fun same => new (List.any_eq_true.mpr ⟨a, member, same⟩)

theorem last_like_more (entries last : Entries) : lastLike g (declared ++ [last]) entries =
    if alike g entries last then last else lastLike g declared entries := by
  unfold lastLike
  rw [List.filter_append]
  cases same : alike g entries last <;> simp [same]

theorem last_like_new (new : ∀ other ∈ declared, alike g a other = false) : lastLike g declared a = a := by
  unfold lastLike
  rw [List.filter_eq_nil_iff.mpr fun other member => by simp [new other member]]
  rfl

-- The last parameter with a key has this key, unless there is none.
theorem last_like_alike : lastLike g declared a = a ∨ alike g a (lastLike g declared a) = true := by
  unfold lastLike
  cases others : declared.filter (alike g a) with
  | nil => exact .inl rfl
  | cons first rest =>
      refine .inr ?_
      have member : (first :: rest).getLast (by simp) ∈ declared.filter (alike g a) := by
        rw [others]
        exact List.getLast_mem _
      rw [List.getLastD_cons, ← List.getLast_eq_getLastD]
      exact (List.mem_filter.mp member).2

-- What is put is alike at most one of the parameters before.
theorem put_apart {slots : List Entries} {stored : Entries → Entries} {new : Entries}
    (keyed : ∀ slot ∈ slots, Keyed g slot)
    (apart : slots.Pairwise fun a b => alike g a b = false) :
    putParameter (slots.map fun slot => (keyOf g slot, stored slot)) (keyOf g new) new =
      if slots.any (alike g · new) then
        slots.map fun slot => (keyOf g slot, if alike g slot new then new else stored slot)
      else (slots.map fun slot => (keyOf g slot, stored slot)) ++ [(keyOf g new, new)] := by
  induction slots with
  | nil => rfl
  | cons first rest ih =>
      obtain ⟨differ, others⟩ := List.pairwise_cons.mp apart
      have later := ih (fun slot member => keyed slot (List.mem_cons_of_mem _ member)) others
      cases same : alike g first new with
      | true =>
          have alone : ∀ slot ∈ rest, alike g slot new = false := by
            intro slot member
            by_contra again
            have again : alike g slot new = true := by simpa using again
            have both := alike_trans (keyed first (by simp)) same
              (alike_symm (keyed slot (by simp [member])) again)
            rw [differ slot member] at both
            cases both
          have put : ((keyOf g first).1.same (keyOf g new).1 && (keyOf g first).2.same (keyOf g new).2) = true :=
            same
          simp only [List.map_cons, putParameter, put, if_true, List.any_cons, same, Bool.true_or]
          congr 1
          exact List.map_congr_left fun slot member => by simp [alone slot member]
      | false =>
          have put : ((keyOf g first).1.same (keyOf g new).1 && (keyOf g first).2.same (keyOf g new).2) = false :=
            same
          simp only [List.map_cons, putParameter, put, Bool.false_eq_true, if_false, List.any_cons, same,
            Bool.false_or, later]
          split <;> rfl

-- Parameters that are put one after the other.
theorem put_each (keyed : ∀ entries ∈ declared, Keyed g entries) :
    declared.foldl (fun sofar entries => putParameter sofar (keyOf g entries) entries) [] =
      (firsts g declared).map fun first => (keyOf g first, lastLike g declared first) := by
  induction declared using List.reverseRecOn with
  | nil => rfl
  | append_singleton declared last ih =>
      have before : ∀ entries ∈ declared, Keyed g entries := fun entries member =>
        keyed entries (List.mem_append_left _ member)
      have own : Keyed g last := keyed last (by simp)
      have slots : ∀ slot ∈ firsts g declared, Keyed g slot := fun slot member =>
        before slot (firsts_declared slot member)
      rw [List.foldl_append, ih before, List.foldl_cons, List.foldl_nil, put_apart slots firsts_apart,
        firsts_more]
      split
      next known => simp only [last_like_more]
      next new =>
        have others (slot : Entries) (member : slot ∈ firsts g declared) : alike g slot last = false := by
          simpa using fun same => new (List.any_eq_true.mpr ⟨slot, member, same⟩)
        have alone : lastLike g (declared ++ [last]) last = last := by
          rw [last_like_more]
          split
          · rfl
          next unlike =>
            refine last_like_new fun other member => ?_
            simpa using fun same => unlike (alike_trans own same (alike_symm own same))
        rw [List.map_append, List.map_singleton, alone]
        congr 1
        exact List.map_congr_left fun slot member => by simp [last_like_more, others slot member]

theorem merged_apart (keyed : ∀ entries ∈ declared, Keyed g entries) :
    (merged g declared).Pairwise fun a b => alike g a b = false := by
  refine List.pairwise_map.mpr (List.Pairwise.imp_of_mem (fun {a b} first second apart => ?_) firsts_apart)
  have keyed' (a : Entries) (member : a ∈ firsts g declared) : Keyed g a :=
    keyed a (firsts_declared a member)
  by_contra same
  have same : alike g (lastLike g declared a) (lastLike g declared b) = true := by simpa using same
  have front : alike g a (lastLike g declared b) = true := by
    obtain own | like : lastLike g declared a = a ∨ alike g a (lastLike g declared a) = true :=
      last_like_alike
    · rwa [own] at same
    · exact alike_trans (keyed' a first) like same
  obtain own | like : lastLike g declared b = b ∨ alike g b (lastLike g declared b) = true :=
    last_like_alike
  · rw [own, apart] at front
    cases front
  · have both := alike_trans (keyed' a first) front (alike_symm (keyed' b second) like)
    rw [apart] at both
    cases both

end Merging

structure Described (w : Surroundings) (operation : Except Fault String) (entries : Entries)
    (p : Parameter) (c c' : Context) : Prop where
  name : Check.text (w.graph.value (fieldOf entries "name")) = .ok p.name
  location : declaredLocation entries = .text p.location.name
  type : ∃ schema, parameterSchema w.graph entries = .ok schema ∧ isNull schema = false ∧
    Gives (w.typeRef schema (do return (← operation) ++ "_" ++ (← shown w.graph (fieldOf entries "name"))))
      c p.type c' ∧
    p.default = declaredDefault w.graph ((w.graph.entries? (target w.scope.document schema)).getD [])
  required : p.required = (w.graph.truthy (fieldOf entries "required") || p.location = .path)
  description : Check.nullable Check.text (w.graph.value (fieldOf entries "description")) = .ok p.description
  deprecated : Check.nullable Check.flag (w.graph.value (fieldOf entries "deprecated")) = .ok p.deprecated

/-- Why a declared parameter is left out. -/
inductive LeftOut (g : Graph) (entries : Entries) : String → Prop
  | untyped {schema : Item} {name : String} (read : parameterSchema g entries = .ok schema)
      (null : isNull schema = true) (named : shown g (fieldOf entries "name") = .ok name) :
      LeftOut g entries ("Could not convert parameter: " ++ name)
  | unplaced {name place : String} (unknown : locationNamed? (declaredLocation entries) = none)
      (named : shown g (fieldOf entries "name") = .ok name)
      (placed : shown g (fieldOf entries "in") = .ok place) :
      LeftOut g entries ("Parameter '" ++ name ++ "' has unsupported location '" ++ place ++ "'")

inductive Taken (w : Surroundings) (operation : Except Fault String) :
    List Entries → List (Entries × Parameter) → Context → Context → Prop
  | done {c : Context} : Taken w operation [] [] c c
  | kept {entries : Entries} {p : Parameter} {rest : List Entries} {made : List (Entries × Parameter)}
      {c m c' : Context} (described : Described w operation entries p c m)
      (others : Taken w operation rest made m c') :
      Taken w operation (entries :: rest) ((entries, p) :: made) c c'
  | lost {entries : Entries} {message : String} {rest : List Entries} {made : List (Entries × Parameter)}
      {c c' : Context} (why : LeftOut w.graph entries message)
      (others : Taken w operation rest made (c.warn message) c') :
      Taken w operation (entries :: rest) made c c'

section Taking

variable {w : Surroundings} {c c' : Context} {operation : Except Fault String}

open Check Checked in
theorem parameter_described {name : Value} {place : Location} {type : TypeRef} {g : Graph}
    {entries : Entries} :
    ∀ p, parameter (.object ([("name", name), ("location", .text place.name), ("type", type.dump)] ++
      notes g entries)) = .ok p →
        text name = .ok p.name ∧ p.location = place ∧ p.type = type ∧
          nullable text (g.value (fieldOf entries "description")) = .ok p.description ∧
          nullable flag (g.value (fieldOf entries "deprecated")) = .ok p.deprecated := by
  have placed : location (.text place.name) = .ok place := by cases place <;> rfl
  simp only [parameter, all_and_then, all_seq, all_map, record_ok]
  intro pairs same name' named place' located type' typed _ _ description described deprecated marked
  cases same
  simp [Check.required, Check.optional, withDefault, Check.field?, notes, type_ref_dump, placed]
    at named located typed described marked
  exact ⟨named, located.symm, typed.symm, described, marked⟩

theorem location_named {item : Item} {place : Location} (found : locationNamed? item = some place) :
    item = .text place.name := by
  obtain ⟨name, said, found⟩ := Option.bind_eq_some_iff.mp found
  have same : place.name = name := by simpa using List.find?_some found
  cases item with
  | node n => cases said
  | scalar s =>
      cases s with
      | text t =>
          cases said
          rw [same]
      | _ => cases said

theorem parameter_taken {entries : Entries} {result : Option Parameter}
    (gave : Gives (parameterOf w operation entries) c result c') :
    (∃ p, result = some p ∧ Described w operation entries p c c') ∨
      ∃ message, result = none ∧ LeftOut w.graph entries message ∧ c' = c.warn message := by
  unfold parameterOf at gave
  obtain ⟨schema, read, gave⟩ := gives_of_except_bind.mp gave
  split at gave
  next null =>
    obtain ⟨_, c₁, warned, gave⟩ := gives_bind.mp gave
    obtain ⟨rfl, rfl⟩ := gives_pure.mp gave
    obtain ⟨message, said, rfl⟩ := warn_of_gives.mp warned
    obtain ⟨name, named, said⟩ := bound_ok said
    cases said
    exact .inr ⟨_, rfl, .untyped read null named, rfl⟩
  next typed =>
    split at gave
    next unknown =>
      obtain ⟨_, c₁, warned, gave⟩ := gives_bind.mp gave
      obtain ⟨rfl, rfl⟩ := gives_pure.mp gave
      obtain ⟨message, said, rfl⟩ := warn_of_gives.mp warned
      obtain ⟨name, named, said⟩ := bound_ok said
      obtain ⟨place, placed, said⟩ := bound_ok said
      cases said
      exact .inr ⟨_, rfl, .unplaced unknown named placed, rfl⟩
    next place known =>
      obtain ⟨type, c₁, asked, gave⟩ := gives_bind.mp gave
      obtain ⟨made, checks, gave⟩ := gives_of_except_bind.mp gave
      obtain ⟨rfl, rfl⟩ := gives_pure.mp gave
      obtain ⟨named, rfl, rfl, described, marked⟩ := parameter_described made (checked_ok checks)
      refine .inl ⟨_, rfl, ⟨named, location_named known, ⟨schema, read, by simpa using typed, asked, rfl⟩,
        rfl, described, marked⟩⟩

theorem parameters_taken {slots : List Entries} {results : List (Option Parameter)}
    (gave : Gives (slots.mapM (parameterOf w operation)) c results c') :
    ∃ made, Taken w operation slots made c c' ∧ results.filterMap id = made.map Prod.snd := by
  induction slots generalizing c results with
  | nil =>
      rw [List.mapM_nil] at gave
      obtain ⟨rfl, rfl⟩ := gives_pure.mp gave
      exact ⟨[], .done, rfl⟩
  | cons entries rest ih =>
      rw [List.mapM_cons] at gave
      obtain ⟨result, m, first, gave⟩ := gives_bind.mp gave
      obtain ⟨others, m', second, gave⟩ := gives_bind.mp gave
      obtain ⟨rfl, rfl⟩ := gives_pure.mp gave
      obtain ⟨made, taken, same⟩ := ih second
      obtain ⟨p, rfl, described⟩ | ⟨message, rfl, why, rfl⟩ := parameter_taken first
      · exact ⟨(entries, p) :: made, .kept described taken, congrArg (p :: ·) same⟩
      · exact ⟨made, .lost why taken, same⟩

theorem component_targeted {d : Document} {item : Item} {kind : String} {found : Option Entries}
    (gave : Gives (component? d item kind) c found c') : found = d.graph.entries? (target d item) := by
  unfold component? at gave
  split at gave
  next entries held => exact (gives_pure.mp gave).1.trans held.symm
  next absent =>
    obtain ⟨_, c₁, -, gave⟩ := gives_bind.mp gave
    exact (gives_pure.mp gave).1.trans absent.symm

-- Parameters are put one after the other; one that cannot be told apart stops them.
theorem merge_puts {sofar : List ((Value × Value) × Entries)} {raws : List Item} {slots : List Entries}
    (gave : Gives (mergeParameters w sofar raws) c slots c') :
    (∀ entries ∈ raws.filterMap (named? w.scope.document), Keyed w.graph entries) ∧
      slots = ((raws.filterMap (named? w.scope.document)).foldl (fun sofar entries =>
        putParameter sofar (keyOf w.graph entries) entries) sofar).map Prod.snd := by
  induction raws generalizing sofar c with
  | nil =>
      obtain ⟨rfl, -⟩ := gives_pure.mp gave
      exact ⟨by simp, rfl⟩
  | cons raw rest ih =>
      unfold mergeParameters at gave
      obtain ⟨found, c₁, looked, gave⟩ := gives_bind.mp gave
      have same := component_targeted looked
      rw [List.filterMap_cons, named?, ← same]
      cases found with
      | none => exact ih gave
      | some entries =>
          simp only [Option.filter_some] at gave ⊢
          split at gave
          next named =>
            rw [if_pos named]
            split at gave
            next keyed =>
              obtain ⟨others, put⟩ := ih gave
              have own : Keyed w.graph entries := Bool.and_eq_true_iff.mp keyed
              exact ⟨List.forall_mem_cons.mpr ⟨own, others⟩, put⟩
            · exact (gives_throw gave).elim
          next nameless =>
            rw [if_neg nameless]
            exact ih gave

theorem merge_merged {raws : List Item} {slots : List Entries}
    (gave : Gives (mergeParameters w [] raws) c slots c') :
    slots = merged w.graph (raws.filterMap (named? w.scope.document)) ∧
      slots.Pairwise fun a b => alike w.graph a b = false := by
  obtain ⟨keyed, rfl⟩ := merge_puts gave
  have same := congrArg (List.map Prod.snd) (put_each keyed)
  rw [List.map_map] at same
  exact ⟨same, same ▸ merged_apart keyed⟩

def Twins (g : Graph) (a b : Entries) : Prop :=
  ∃ name bytes, g.value (fieldOf a "name") = .text name ∧
    g.value (fieldOf b "name") = .scalar (.bytes bytes) ∧ Check.textOfBytes bytes = .ok name ∧
      declaredLocation a = declaredLocation b

theorem taken_described {slots : List Entries} {made : List (Entries × Parameter)}
    (taken : Taken w operation slots made c c') :
    (made.map Prod.fst).Sublist slots ∧
      ∀ entry ∈ made, ∃ m m', Described w operation entry.1 entry.2 m m' := by
  induction taken with
  | done => exact ⟨.slnil, by simp⟩
  | kept described _ ih =>
      exact ⟨ih.1.cons_cons _, List.forall_mem_cons.mpr ⟨⟨_, _, described⟩, ih.2⟩⟩
  | lost _ _ ih => exact ⟨ih.1.cons _, ih.2⟩

theorem text_scalar {v : Value} {name : String} (read : Check.text v = .ok name) : ∃ s, v = .scalar s := by
  cases v with
  | scalar s => exact ⟨s, rfl⟩
  | _ => cases read

theorem described_alike {a b : Entries} {p q : Parameter} {m m' n n' : Context}
    (one : Described w operation a p m m') (two : Described w operation b q n n')
    (names : p.name = q.name) (places : p.location = q.location) :
    alike w.graph a b = true ∨ Twins w.graph a b ∨ Twins w.graph b a := by
  obtain ⟨s, isName⟩ := text_scalar one.name
  obtain ⟨s', isName'⟩ := text_scalar two.name
  have read := one.name
  have read' := two.name
  have located : declaredLocation a = declaredLocation b := by rw [one.location, two.location, places]
  rw [isName] at read
  rw [isName', ← names] at read'
  obtain rfl | ⟨bytes, spelled, ⟨rfl, rfl⟩ | ⟨rfl, rfl⟩⟩ := keys_alike read read'
  · refine .inl (Bool.and_eq_true_iff.mpr ⟨?_, ?_⟩)
    · rw [keyOf, keyOf, isName, isName']
      exact Value.scalar_same.mpr ⟨s, rfl, same_self read⟩
    · rw [keyOf, keyOf, located, two.location]
      simp [Graph.value, Graph.valueWithin, Value.same]
  · exact .inr (.inl ⟨_, bytes, isName, isName', spelled, located⟩)
  · exact .inr (.inr ⟨_, bytes, isName', isName, spelled, located.symm⟩)

theorem location_of_name {place place' : Location} (same : place.name = place'.name) : place = place' := by
  revert same
  cases place <;> cases place' <;> decide

theorem twins_alike {a b : Entries} {p q : Parameter} {m m' n n' : Context}
    (one : Described w operation a p m m') (two : Described w operation b q n n')
    (twins : Twins w.graph a b) : p.name = q.name ∧ p.location = q.location := by
  obtain ⟨name, bytes, isText, isBytes, spelled, located⟩ := twins
  have read := one.name
  have read' := two.name
  rw [isText] at read
  rw [isBytes, Check.text, spelled] at read'
  rw [one.location, two.location] at located
  cases read
  exact ⟨Check.Checked.ok.inj read', location_of_name (Scalar.text.inj (Item.scalar.inj located))⟩

-- What is taken of parameters that are not alike differs in name or place, but for twins.
theorem names_places_apart {slots : List Entries} {made : List (Entries × Parameter)}
    (taken : Taken w operation slots made c c')
    (apart : slots.Pairwise fun a b => alike w.graph a b = false) :
    (made.map fun entry => (entry.2.name, entry.2.location)).Nodup ↔
      ∀ a ∈ made, ∀ b ∈ made, ¬ Twins w.graph a.1 b.1 := by
  obtain ⟨among, described⟩ := taken_described taken
  have apart' := List.pairwise_map.mp (apart.sublist among)
  constructor
  · intro distinct a there b there' twins
    obtain ⟨_, _, one⟩ := described a there
    obtain ⟨_, _, two⟩ := described b there'
    obtain ⟨names, places⟩ := twins_alike one two twins
    cases List.inj_on_of_nodup_map distinct there there' (by rw [names, places])
    obtain ⟨name, bytes, isText, isBytes, -⟩ := twins
    rw [isText] at isBytes
    cases isBytes
  · intro single
    refine List.pairwise_map.mpr (List.Pairwise.imp_of_mem (fun {a b} there there' differ same => ?_) apart')
    obtain ⟨names, places⟩ := Prod.mk.inj same
    obtain ⟨_, _, one⟩ := described a there
    obtain ⟨_, _, two⟩ := described b there'
    obtain like | twins | twins := described_alike one two names places
    · rw [differ] at like
      cases like
    · exact single a there b there' twins
    · exact single b there' a there twins

end Taking

section Endpoints

variable {d : Document} {schemes : List String} {o : Operation} {errors errors' : List ErrorDefinition}
  {e : Endpoint} {c c' : Context}

def surroundings (d : Document) (schemes : List String) : Surroundings := ⟨⟨d, []⟩, convertNode d, schemes⟩

-- The way of the parameters through the conversion of an operation.
theorem endpoint_parameters
    (gave : Gives (endpointOf (surroundings d schemes) o.path o.method o.fields o.shared errors) c
      (e, errors') c') :
    ∃ outer inner operation slots results m m', itemsOrNone d.graph o.shared = .ok outer ∧
      itemsOrNone d.graph (fieldOf o.fields "parameters") = .ok inner ∧
      Gives (mergeParameters (surroundings d schemes) [] (outer ++ inner)) c slots m ∧
      Gives (slots.mapM (parameterOf (surroundings d schemes) operation)) m results m' ∧
      e.parameters = results.filterMap id ∧ m'.warnings <+: c'.warnings := by
  have able (start : Context) : Converts reporting (fun _ _ _ => True) start
      (surroundings d schemes).scope (surroundings d schemes).convert := node_reports d _ start
  unfold endpointOf at gave
  obtain ⟨item, -, gave⟩ := gives_of_except_bind.mp gave
  have worded : Tame (shown d.graph item) := printed_tame
  obtain ⟨outer, shared, gave⟩ := gives_of_except_bind.mp gave
  obtain ⟨inner, own, gave⟩ := gives_of_except_bind.mp gave
  obtain ⟨slots, m, merging, gave⟩ := gives_bind.mp gave
  obtain ⟨results, m', each, gave⟩ := gives_bind.mp gave
  obtain ⟨body, m'', requested, gave⟩ := gives_bind.mp gave
  obtain ⟨-, first, -⟩ := gives_kept (body_of_kept (able m') worded _) trivial requested
  obtain ⟨answers, -, gave⟩ := gives_of_except_bind.mp gave
  obtain ⟨⟨responses, errors₁⟩, c₁, answered, gave⟩ := gives_bind.mp gave
  obtain ⟨-, second, -⟩ := gives_kept (responses_from_kept (able m'') worded errors answers
    fun _ _ _ _ => ⟨.null, trivial⟩) trivial answered
  -- Nothing more is warned of after the responses.
  obtain ⟨asked, -, gave⟩ := gives_of_except_bind.mp gave
  obtain ⟨ids, -, gave⟩ := gives_of_except_bind.mp gave
  obtain ⟨shownPath, -, gave⟩ := gives_of_except_bind.mp gave
  obtain ⟨streaming, -, gave⟩ := gives_of_except_bind.mp gave
  obtain ⟨tags, -, gave⟩ := gives_of_except_bind.mp gave
  obtain ⟨last, -, gave⟩ := gives_of_except_bind.mp gave
  obtain ⟨same, rfl⟩ := gives_pure.mp gave
  cases same
  exact ⟨outer, inner, _, slots, results, m, m', shared, own, merging, each, rfl, first.trans second⟩

/-- Of the parameters that a path and its operation declare, the last of each key counts, in the order in
which the keys are first met. Each that counts becomes a parameter of the endpoint, or is left out with
one warning. No two of the endpoint have one name and one place, unless one is named by a text and
another by the bytes of it. -/
theorem parameters_merged
    (gave : Gives (endpointOf (surroundings d schemes) o.path o.method o.fields o.shared errors) c
      (e, errors') c') :
    ∃ declared operation made m m', declaredParameters d o = .ok declared ∧
      (merged d.graph declared).Pairwise (fun a b => alike d.graph a b = false) ∧
      Taken (surroundings d schemes) operation (merged d.graph declared) made m m' ∧
      e.parameters = made.map Prod.snd ∧
      c.warnings <+: m.warnings ∧ m'.warnings <+: c'.warnings ∧
      ((e.parameters.map fun p => (p.name, p.location)).Nodup ↔
        ∀ a ∈ made, ∀ b ∈ made, ¬ Twins d.graph a.1 b.1) ∧
      ∀ p ∈ e.parameters, p.location = .path → p.required = true := by
  obtain ⟨outer, inner, operation, slots, results, m, m', shared, own, merging, each, listed, after⟩ :=
    endpoint_parameters gave
  have able : Converts reporting (fun _ _ _ => True) c (surroundings d schemes).scope
    (surroundings d schemes).convert := node_reports d _ c
  obtain ⟨-, before, -⟩ := gives_kept (merge_parameters_kept able [] _) trivial merging
  obtain ⟨made, taken, same⟩ := parameters_taken each
  obtain ⟨rfl, apart⟩ := merge_merged merging
  rw [same] at listed
  refine ⟨_, operation, made, m, m', ?_, apart, taken, listed, before, after, ?_, ?_⟩
  · rw [declaredParameters, shared, own]
    rfl
  · rw [listed, List.map_map]
    exact names_places_apart taken apart
  · rw [listed]
    intro p member path
    obtain ⟨entry, there, rfl⟩ := List.mem_map.mp member
    obtain ⟨_, _, held⟩ := (taken_described taken).2 entry there
    rw [held.required, decide_eq_true path, Bool.or_true]

def shelf (outer inner : List Value) : Document :=
  routed [("/items/\x7bid\x7d", [("parameters", .list outer),
    ("get", .object [("parameters", .list inner)])])]

def shelfOperation (outer inner : List Value) : Option Operation :=
  (operationsOf (shelf outer inner) (pathsOf (shelf outer inner))).head?

def shelfRun (outer inner : List Value) (o : Operation) :
    Except Fault (Endpoint × List ErrorDefinition) × Context :=
  (endpointOf (surroundings (shelf outer inner) []) o.path o.method o.fields o.shared []).run.run {}

def parametersShown (run : Except Fault (Endpoint × List ErrorDefinition) × Context) :
    Option (List (String × Location × Bool)) × List String :=
  (run.1.toOption.map fun answer => answer.1.parameters.map fun p => (p.name, p.location, p.required),
    run.2.warnings)

def parameterValue (name : Scalar) (place type : String) : Value :=
  .object ([("name", .scalar name), ("in", .text place)] ++
    if type.isEmpty then [] else [("schema", .object [("type", .text type)])])

def shelfOuter : List Value :=
  [parameterValue (.text "id") "path" "string", parameterValue (.text "page") "query" "string"]

def shelfInner : List Value :=
  [parameterValue (.text "page") "query" "integer", parameterValue (.text "sort") "query" "",
    parameterValue (.text "item") "body" "string"]

theorem shelf_parameters : ∃ o e errors c, shelfOperation shelfOuter shelfInner = some o ∧
    Gives (endpointOf (surroundings (shelf shelfOuter shelfInner) []) o.path o.method o.fields o.shared [])
      {} (e, errors) c ∧
    parametersShown (.ok (e, errors), c) = (some [("id", .path, true), ("page", .query, false)],
      ["Could not convert parameter: sort", "Parameter 'item' has unsupported location 'body'"]) ∧
    ∃ declared operation made m m', declaredParameters (shelf shelfOuter shelfInner) o = .ok declared ∧
      Taken (surroundings (shelf shelfOuter shelfInner) []) operation
        (merged (shelf shelfOuter shelfInner).graph declared) made m m' ∧
      e.parameters = made.map Prod.snd := by
  have found : (shelfOperation shelfOuter shelfInner).map
      (fun o => parametersShown (shelfRun shelfOuter shelfInner o)) =
      some (some [("id", .path, true), ("page", .query, false)],
        ["Could not convert parameter: sort", "Parameter 'item' has unsupported location 'body'"]) := by
    decide +kernel
  obtain ⟨o, isOperation, came⟩ := Option.map_eq_some_iff.mp found
  cases gave : shelfRun shelfOuter shelfInner o with
  | mk answer c =>
      rw [gave] at came
      cases answer with
      | error f => simp [parametersShown, Except.toOption] at came
      | ok answer =>
          obtain ⟨e, errors⟩ := answer
          obtain ⟨declared, operation, made, m, m', listed, -, taken, same, -⟩ := parameters_merged gave
          exact ⟨o, e, errors, c, isOperation, gave, came, declared, operation, made, m, m', listed, taken, same⟩

/-- Two names that are not one key, and are written alike. -/
theorem twin_parameters :
    let twins := [parameterValue (.text "id") "query" "string",
      parameterValue (.bytes [105, 100]) "query" "integer"]
    (shelfOperation [] twins).map (fun o => (parametersShown (shelfRun [] twins o)).1) =
      some (some [("id", .query, false), ("id", .query, false)]) := by
  decide +kernel

end Endpoints

end ApiSchema.OpenApi
