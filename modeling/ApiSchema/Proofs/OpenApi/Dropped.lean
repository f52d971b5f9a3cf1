import ApiSchema.Proofs.Check.Record
import ApiSchema.Proofs.Control.InStep
import ApiSchema.Proofs.Document.Alike
import ApiSchema.Proofs.OpenApi.Gathering
import ApiSchema.Proofs.OpenApi.Roles

/-!
A document without a validation keyword of one node.

Where the keyword is confined to itself, everything else is read from the document as if the keyword were
still there: fields by their names, tables and data as a whole, and what references lead to.
-/

namespace ApiSchema.OpenApi

def without (k : String) (entries : Entries) : Entries := entries.filter fun entry => entry.1 ≠ .text k

/-- `e` is `d` without what a node holds under a name. -/
structure Lacks (e d : Document) (n : Nat) (k : String) : Prop where
  root : d.root = e.root
  others : ∀ id, e.graph.Within e.root id → id ≠ n → d.graph.cell? id = e.graph.cell? id
  node : ∃ entries, d.graph.cell? n = some (.map entries) ∧
    e.graph.cell? n = some (.map (without k entries))

def dropped (d : Document) (n : Nat) (k : String) : Document :=
  match d.graph.entries? (.node n) with
  | some entries => ⟨d.graph.set n (.map (without k entries)), d.root⟩
  | none => d

theorem dropped_lacks {d : Document} {n : Nat} (k : String) (node : d.graph.isMap (.node n) = true) :
    Lacks (dropped d n k) d n k := by
  obtain ⟨entries, map⟩ := Option.isSome_iff_exists.mp node
  obtain ⟨_, same, held⟩ := entries_cell map
  cases same
  have other (id : Nat) : (d.graph.set n (.map (without k entries))).cell? id =
      if n = id then some (.map (without k entries)) else d.graph.cell? id :=
    Graph.set_cell _ (Graph.cell_inside held) _ id
  unfold dropped
  rw [map]
  exact ⟨rfl, fun id _ apart => ((other id).trans (if_neg (Ne.symm apart))).symm,
    entries, held, (other n).trans (if_pos rfl)⟩

theorem lacks_listed {d e : Document} {n : Nat} {k : String} (root : d.root = e.root)
    (size : d.graph.size = e.graph.size)
    (others : ∀ id < e.graph.size, id ≠ n → d.graph.cell? id = e.graph.cell? id) (entries : Entries)
    (held : d.graph.cell? n = some (.map entries))
    (left : e.graph.cell? n = some (.map (without k entries))) : Lacks e d n k := by
  refine ⟨root, fun id within apart => ?_, entries, held, left⟩
  by_cases inside : id < e.graph.size
  · exact others id inside apart
  · have outside : e.graph.size ≤ id := Nat.le_of_not_lt inside
    have outside' : d.graph.size ≤ id := Nat.le_trans (Nat.le_of_eq size) outside
    exact (Array.getElem?_eq_none outside').trans (Array.getElem?_eq_none outside).symm

structure Drops (d e : Document) (n : Nat) (k : String) : Prop where
  keyword : k ∈ keywords.map Prod.fst
  lacks : Lacks e d n k
  confined : Confined e n k

theorem lookup_without {k name : String} (other : name ≠ k) (entries : Entries) :
    lookup? (without k entries) (.text name) = lookup? entries (.text name) := by
  induction entries with
  | nil => rfl
  | cons entry rest ih =>
      obtain ⟨key, value⟩ := entry
      by_cases named : key = .text k
      · subst named
        simpa [without, Ne.symm other] using ih
      · rw [without, List.filter_cons_of_pos (by simpa using named), lookup_cons, lookup_cons]
        exact ite_congr rfl (fun _ => rfl) fun _ => ih

section Cells

variable {d e : Document} {n : Nat} {k : String} {role part : Role} {item : Item}
variable (drops : Drops d e n k)

inductive Spared (d e : Document) (role : Role) : Entries → Entries → Prop
  | nothing : Spared d e role [] []
  | read {item : Item} {entries entries' : Entries} (acts : Acts e role item)
      (map : e.graph.entries? item = some entries) (map' : d.graph.entries? item = some entries') :
      Spared d e role entries entries'

theorem entries_of_same {g g' : Graph} (same : g'.of? item = g.of? item) :
    g'.entries? item = g.entries? item := by
  simp only [Graph.entries?, same]

include drops

theorem of_elsewhere (acts : Acts e role item) (other : item ≠ .node n) :
    d.graph.of? item = e.graph.of? item := by
  cases item with
  | scalar s => rfl
  | node id => exact drops.lacks.others id (acts_within acts id rfl) fun same => other (same ▸ rfl)

-- What is read as a whole is not the node.
theorem of_whole (acts : Acts e role item) (all : role.each = some part) :
    d.graph.of? item = e.graph.of? item := by
  refine of_elsewhere drops acts ?_
  rintro rfl
  rw [drops.confined.named role acts] at all
  cases all

theorem entries_spared (acts : Acts e role item) :
    Option.Rel (Spared d e role) (e.graph.entries? item) (d.graph.entries? item) := by
  by_cases here : item = .node n
  · subst here
    obtain ⟨entries, held, held'⟩ := drops.lacks.node
    have map : e.graph.entries? (.node n) = some (without k entries) := by
      simp only [Graph.entries?, Graph.of?, held']
    have map' : d.graph.entries? (.node n) = some entries := by simp only [Graph.entries?, Graph.of?, held]
    rw [map, map']
    exact .some (.read acts map map')
  · have same := entries_of_same (of_elsewhere drops acts here)
    cases map : e.graph.entries? item with
    | none =>
        rw [same, map]
        exact .none
    | some entries =>
        rw [same, map]
        exact .some (.read acts map (same.trans map))

theorem entries_spared_or_none (acts : Acts e role item) :
    Spared d e role ((e.graph.entries? item).getD []) ((d.graph.entries? item).getD []) := by
  have spared := entries_spared drops acts
  generalize e.graph.entries? item = mine at spared ⊢
  generalize d.graph.entries? item = other at spared ⊢
  cases spared with
  | none => exact .nothing
  | some held => exact held

theorem map_alike (acts : Acts e role item) : d.graph.isMap item = e.graph.isMap item := by
  have spared := entries_spared drops acts
  unfold Graph.isMap
  generalize e.graph.entries? item = mine at spared ⊢
  generalize d.graph.entries? item = other at spared ⊢
  cases spared <;> rfl

theorem items_alike (acts : Acts e role item) : d.graph.items? item = e.graph.items? item := by
  unfold Graph.items?
  by_cases here : item = .node n
  · subst here
    obtain ⟨entries, held, held'⟩ := drops.lacks.node
    simp only [Graph.of?, held, held']
  · rw [of_elsewhere drops acts here]

theorem kind_alike (acts : Acts e role item) : kindName d.graph item = kindName e.graph item := by
  by_cases here : item = .node n
  · subst here
    obtain ⟨entries, held, held'⟩ := drops.lacks.node
    simp only [kindName, Graph.of?, held, held']
  · unfold kindName
    rw [of_elsewhere drops acts here]

variable {entries entries' : Entries}

theorem spared_cases (spared : Spared d e role entries entries') :
    entries = entries' ∨ entries = without k entries' ∧ d.graph.entries? (.node n) = some entries' := by
  cases spared with
  | nothing => exact .inl rfl
  | @read item _ _ acts map map' =>
      by_cases here : item = .node n
      · subst here
        obtain ⟨held, is, is'⟩ := drops.lacks.node
        have less : without k held = entries := by simpa [Graph.entries?, Graph.of?, is'] using map
        have all : held = entries' := by simpa [Graph.entries?, Graph.of?, is] using map'
        exact .inr ⟨by rw [← less, all], map'⟩
      · rw [entries_of_same (of_elsewhere drops acts here), map] at map'
        exact .inl (Option.some.inj map')

-- Under a name that is no keyword both have the same.
theorem lookup_alike (spared : Spared d e role entries entries') (name : String)
    (other : name ∉ keywords.map Prod.fst) :
    lookup? entries' (.text name) = lookup? entries (.text name) := by
  have apart : name ≠ k := fun same => other (same ▸ drops.keyword)
  obtain same | ⟨less, _⟩ := spared_cases drops spared
  · rw [same]
  · rw [less, lookup_without apart]

theorem field_alike (spared : Spared d e role entries entries') (name : String)
    (other : name ∉ keywords.map Prod.fst) : fieldOf entries' name = fieldOf entries name := by
  simp only [fieldOf, lookup_alike drops spared name other]

theorem has_alike (spared : Spared d e role entries entries') (name : String)
    (other : name ∉ keywords.map Prod.fst) : hasField entries' name = hasField entries name := by
  simp only [hasField, lookup_alike drops spared name other]

omit drops in
theorem spared_acts (spared : Spared d e role entries entries') {name : String}
    (listed : (name, part) ∈ role.fields) : Acts e part (fieldOf entries name) := by
  cases spared with
  | nothing => exact .scalar part .null
  | read acts map _ => exact acts_field acts map listed

omit drops in
-- A container whose parts have the same values.
theorem value_of_parts {g g' : Graph} {id : Nat} (same : g'.cell? id = g.cell? id) {fuel : Nat}
    {path : List Nat}
    (inner : ∀ cell, g.cell? id = some cell → ∀ part ∈ cell.parts,
      g'.valueWithin fuel (id :: path) part = g.valueWithin fuel (id :: path) part) :
    g'.valueWithin (fuel + 1) path (.node id) = g.valueWithin (fuel + 1) path (.node id) := by
  rw [Graph.valueWithin, Graph.valueWithin, same]
  cases held : g.cell? id with
  | none => rfl
  | some cell =>
      have inner := inner cell held
      cases cell with
      | list items =>
          have each : items.map (g'.valueWithin fuel (id :: path)) =
              items.map (g.valueWithin fuel (id :: path)) :=
            List.map_congr_left inner
          simp only [each]
      | map entries =>
          have each : entries.map (fun entry => (entry.1, g'.valueWithin fuel (id :: path) entry.2)) =
              entries.map fun entry => (entry.1, g.valueWithin fuel (id :: path) entry.2) :=
            List.map_congr_left fun entry member => by rw [inner _ (List.mem_map.mpr ⟨entry, member, rfl⟩)]
          simp only [each]
      | set members => rfl
      | pair a b => simp only [inner a (by simp [Cell.parts]), inner b (by simp [Cell.parts])]

theorem value_within_alike (fuel : Nat) (path : List Nat) (acts : Acts e .data item) :
    d.graph.valueWithin fuel path item = e.graph.valueWithin fuel path item := by
  induction fuel generalizing path item with
  | zero => cases item <;> rfl
  | succ fuel ih =>
      cases item with
      | scalar s => rfl
      | node id =>
          refine value_of_parts (of_whole drops acts rfl) fun cell held part member => ?_
          exact ih (id :: path) (acts_each acts held rfl member)

omit drops in
theorem value_of_within
    (same : ∀ fuel, d.graph.valueWithin (fuel + 1) [] item = e.graph.valueWithin (fuel + 1) [] item) :
    d.graph.value item = e.graph.value item := by
  -- Each graph has a bound of its own; beyond both of them the values are settled.
  have settled (g : Graph) (fuel : Nat) (deep : g.size < fuel) :
      g.value item = g.valueWithin fuel [] item :=
    value_settled g _ _ List.nodup_nil nofun (by simp) (by simpa using deep) item
  rw [settled d.graph (d.graph.size + e.graph.size + 1) (by omega),
    settled e.graph (d.graph.size + e.graph.size + 1) (by omega)]
  exact same _

-- Data is the same.
theorem value_alike (acts : Acts e .data item) : d.graph.value item = e.graph.value item :=
  value_of_within fun fuel => value_within_alike drops (fuel + 1) [] acts

-- What should be a map and is none, is the same too.
theorem unmapped_within (acts : Acts e role item) (byName : role.each = none)
    (unmapped : e.graph.entries? item = none) (fuel : Nat) :
    d.graph.valueWithin (fuel + 1) [] item = e.graph.valueWithin (fuel + 1) [] item := by
  cases item with
  | scalar s => rfl
  | node id =>
      have other : id ≠ n := by
        rintro rfl
        obtain ⟨entries, _, is⟩ := drops.lacks.node
        simp [Graph.entries?, Graph.of?, is] at unmapped
      have same : d.graph.cell? id = e.graph.cell? id :=
        of_elsewhere drops acts fun is => other (Item.node.inj is)
      refine value_of_parts same fun cell held part member => ?_
      have data : Acts e .data part := by
        refine .part acts ?_
        cases cell <;> simp_all [Role.parts, Graph.entries?, Graph.of?]
      exact value_within_alike drops fuel [id] data

theorem unmapped_alike (acts : Acts e role item) (byName : role.each = none)
    (unmapped : e.graph.entries? item = none) : d.graph.value item = e.graph.value item :=
  value_of_within (unmapped_within drops acts byName unmapped)

theorem truthy_alike (acts : Acts e role item) (all : role.each = some part) :
    d.graph.truthy item = e.graph.truthy item := by
  unfold Graph.truthy
  rw [of_whole drops acts all]

theorem shown_alike (acts : Acts e .data item) : shown d.graph item = shown e.graph item := by
  simp only [shown, value_alike drops acts]

theorem key_alike (acts : Acts e .data item) : isKey d.graph item = isKey e.graph item := by
  simp only [isKey, value_alike drops acts]

-- The items of a table or a list, which act as what it holds.
theorem items_of_alike (acts : Acts e role item) (all : role.each = some part) :
    Agreed (fun items items' => items' = items ∧ ∀ inner ∈ items, Acts e part inner)
      (itemsOf e.graph item) (itemsOf d.graph item) := by
  have same := of_whole drops acts all
  have parts : ∀ items, itemsOf e.graph item = .ok items → ∀ inner ∈ items, Acts e part inner := by
    intro items read inner member
    -- Keys of a map, members of a set and characters are scalars, which may be anything.
    have scalars {α : Type} {xs : List α} {f : α → Scalar} (among : inner ∈ xs.map fun x => .scalar (f x)) :
        Acts e part inner := by
      obtain ⟨x, _, rfl⟩ := List.mem_map.mp among
      exact .scalar part _
    unfold itemsOf at read
    split at read
    next items is =>
      cases read
      exact acts_each acts is all member
    next => cases read; exact scalars member
    next => cases read; exact scalars member
    next a b is =>
      cases read
      exact acts_each acts is all member
    next => cases read; exact scalars member
    next => cases read; exact scalars member
    next => cases read
  have alike : itemsOf d.graph item = itemsOf e.graph item := by
    unfold itemsOf
    rw [same]
  rw [alike]
  cases read : itemsOf e.graph item with
  | ok items => exact .ok ⟨rfl, parts items read⟩
  | error f => exact .error f

theorem items_or_none_alike (acts : Acts e role item) (all : role.each = some part) :
    Agreed (fun items items' => items' = items ∧ ∀ inner ∈ items, Acts e part inner)
      (itemsOrNone e.graph item) (itemsOrNone d.graph item) := by
  unfold itemsOrNone
  rw [truthy_alike drops acts all]
  split
  · exact items_of_alike drops acts all
  · exact .ok ⟨rfl, by simp⟩

-- The entries of a table.
theorem table_alike (acts : Acts e role item) (all : role.each = some part) :
    Agreed (fun entries entries' => entries' = entries ∧ ∀ entry ∈ entries, Acts e part entry.2)
      (entriesOrNone e.graph item) (entriesOrNone d.graph item) := by
  unfold entriesOrNone entriesOf
  rw [truthy_alike drops acts all, entries_of_same (of_whole drops acts all)]
  split
  · cases map : e.graph.entries? item with
    | none => exact .error _
    | some entries =>
        refine .ok ⟨rfl, fun entry member => ?_⟩
        obtain ⟨id, rfl, held⟩ := entries_cell map
        exact acts_each acts held all (List.mem_map.mpr ⟨entry, member, rfl⟩)
  · exact .ok ⟨rfl, by simp⟩

-- The fields of a record. What is empty is as good as absent, so a part with the keyword alone may be taken
-- for nothing where it was dropped.
theorem record_alike (acts : Acts e role item) :
    Agreed (Spared d e role) (entriesOrNone e.graph item) (entriesOrNone d.graph item) := by
  by_cases here : item = .node n
  · subst here
    obtain ⟨held, is, is'⟩ := drops.lacks.node
    have map : e.graph.entries? (.node n) = some (without k held) := by
      simp only [Graph.entries?, Graph.of?, is']
    have map' : d.graph.entries? (.node n) = some held := by simp only [Graph.entries?, Graph.of?, is]
    have read : entriesOrNone e.graph (.node n) = .ok (without k held) := by
      unfold entriesOrNone entriesOf Graph.truthy
      rw [map, Graph.of?, is']
      cases without k held <;> rfl
    have read' : entriesOrNone d.graph (.node n) = .ok held := by
      unfold entriesOrNone entriesOf Graph.truthy
      rw [map', Graph.of?, is]
      cases held <;> rfl
    rw [read, read']
    exact .ok (.read acts map map')
  · have same := of_elsewhere drops acts here
    have truthy : d.graph.truthy item = e.graph.truthy item := by
      unfold Graph.truthy
      rw [same]
    unfold entriesOrNone entriesOf
    rw [truthy, entries_of_same same]
    split
    · cases map : e.graph.entries? item with
      | none => exact .error _
      | some entries => exact .ok (.read acts map ((entries_of_same same).trans map))
    · exact .ok .nothing

theorem reference_alike (acts : Acts e role item) :
    referenceOf? d.graph item = referenceOf? e.graph item := by
  have spared := entries_spared drops acts
  unfold referenceOf?
  generalize e.graph.entries? item = mine at spared ⊢
  generalize d.graph.entries? item = other at spared ⊢
  cases spared with
  | none => rfl
  | some held => exact congrArg Item.text? (field_alike drops held _ (by decide))

end Cells

section References

variable {d e : Document} {n : Nat} {k : String} {role part : Role} {item : Item} {reference : String}

theorem step_alike (drops : Drops d e n k) (within : ∀ id, item = .node id → e.graph.Within e.root id)
    {step : List Char} (stays : item ≠ .node n ∨ Pointer.unescape step ≠ k.toList) :
    Pointer.follow? d.graph item step = Pointer.follow? e.graph item step := by
  by_cases here : item = .node n
  · subst here
    have other := stays.resolve_left (· rfl)
    obtain ⟨entries, held, held'⟩ := drops.lacks.node
    have named : String.ofList (Pointer.unescape step) ≠ k := fun same => other (by simp [← same])
    simp only [Pointer.follow?, Graph.of?, held, held', lookup_without named]
  · have same : d.graph.of? item = e.graph.of? item := by
      cases item with
      | scalar s => rfl
      | node id => exact drops.lacks.others id (within id rfl) fun same => here (same ▸ rfl)
    simp only [Pointer.follow?, same]

theorem steps_alike (drops : Drops d e n k) (steps : List (List Char))
    (within : ∀ id, item = .node id → e.graph.Within e.root id)
    (stays : leavesBy e.graph n k item steps = false) :
    steps.foldlM (Pointer.follow? d.graph) item = steps.foldlM (Pointer.follow? e.graph) item := by
  induction steps generalizing item with
  | nil => rfl
  | cons step rest ih =>
      obtain ⟨here, onward⟩ : ¬ (item = .node n ∧ Pointer.unescape step = k.toList) ∧
          ((Pointer.follow? e.graph item step).any fun next => leavesBy e.graph n k next rest) = false := by
        simpa [leavesBy] using stays
      rw [List.foldlM_cons, List.foldlM_cons, step_alike drops within (not_and_or.mp here)]
      cases first : Pointer.follow? e.graph item step with
      | none => rfl
      | some next =>
          rw [first] at onward
          exact ih (fun id is => Graph.within_trans within (Pointer.follow_within first id is)) onward

-- A reference that stays away from the keyword leads to the same part.
theorem local_alike (drops : Drops d e n k) (stays : crosses e n k reference = false) :
    localTarget? d reference = localTarget? e reference := by
  unfold localTarget?
  unfold crosses at stays
  split
  next pointer spelled =>
    rw [spelled] at stays
    simp only [Pointer.resolve?, String.toList_ofList, drops.lacks.root]
    rw [steps_alike drops (Pointer.steps pointer) (fun id is => .self is) stays]
  next => rfl

theorem linked (follows : role.follows = true) (refers : referenceOf? e.graph item = some reference) :
    (role, reference) ∈ role.links e.graph item := by
  cases role <;> simp_all [Role.links, Role.follows]

theorem chases_unique {seen references references' : List String} {last last' : Item}
    (chases : Chases d seen item references last) (chases' : Chases d seen item references' last') :
    last = last' := by
  -- Which rule comes next is decided by the reference of the item, so two chases go the same way.
  induction chases generalizing references' with
  | ends plain =>
      cases chases' with
      | ends => rfl
      | again refers | lost refers | on refers =>
          rw [plain] at refers
          cases refers
  | again refers circular =>
      cases chases' with
      | ends plain =>
          rw [plain] at refers
          cases refers
      | again | lost => rfl
      | on refers' new =>
          rw [refers] at refers'
          cases refers'
          exact absurd circular new
  | lost refers new missing =>
      cases chases' with
      | ends plain =>
          rw [plain] at refers
          cases refers
      | again | lost => rfl
      | on refers' _ leads =>
          rw [refers] at refers'
          cases refers'
          rw [missing] at leads
          cases leads
  | on refers new leads _ ih =>
      cases chases' with
      | ends plain =>
          rw [plain] at refers
          cases refers
      | again refers' circular =>
          rw [refers] at refers'
          cases refers'
          exact absurd circular new
      | lost refers' _ missing =>
          rw [refers] at refers'
          cases refers'
          rw [missing] at leads
          cases leads
      | on refers' _ leads' rest =>
          rw [refers] at refers'
          cases refers'
          rw [leads] at leads'
          cases leads'
          exact ih rest

theorem chases_alike (drops : Drops d e n k) {seen references : List String} {last : Item}
    (follows : role.follows = true) (chases : Chases e seen item references last)
    (acts : Acts e role item) : Chases d seen item references last ∧ Acts e role last := by
  have same {reference : String} {item : Item} (acts : Acts e role item)
      (refers : referenceOf? e.graph item = some reference) :
      localTarget? d reference = localTarget? e reference :=
    local_alike drops (drops.confined.apart _ _ _ _ acts (linked follows refers))
  -- Every reference on the way is one that is followed, so none leads through the keyword.
  induction chases with
  | ends plain => exact ⟨.ends ((reference_alike drops acts).trans plain), acts⟩
  | again refers circular =>
      exact ⟨.again ((reference_alike drops acts).trans refers) circular, .scalar role .null⟩
  | lost refers new missing =>
      exact ⟨.lost ((reference_alike drops acts).trans refers) new ((same acts refers).trans missing),
        .scalar role .null⟩
  | on refers new leads _ ih =>
      obtain ⟨rest, last⟩ := ih (.link acts (linked follows refers) leads)
      exact ⟨.on ((reference_alike drops acts).trans refers) new ((same acts refers).trans leads) rest, last⟩

-- References are followed to the same end, which acts as what refers to it.
theorem target_alike (drops : Drops d e n k) (follows : role.follows = true) (acts : Acts e role item) :
    target d item = target e item ∧ Acts e role (target e item) := by
  obtain ⟨_, chases, _⟩ := target_chases e item
  obtain ⟨_, chases', _⟩ := target_chases d item
  obtain ⟨moved, last⟩ := chases_alike drops follows chases acts
  exact ⟨chases_unique chases' moved, last⟩

end References

end ApiSchema.OpenApi
