import ApiSchema.Source.Loader

/-!
Documents as they are read: what a reference in one of them leads to, and what is met on the way
from part to part.
-/

namespace ApiSchema

structure Library where
  graph : Graph
  documents : List (String × Item)

/-- A part of a document, as it is met: references into the document itself are left alone if it is
met as a part of the first document. -/
structure Spot where
  location : String
  isRoot : Bool
  item : Item
deriving DecidableEq

namespace Library

variable (o : LoaderOptions) (b : Library)

def reference? (p : Spot) : Option String :=
  (b.graph.entries? p.item).bind (ApiSchema.reference? p.isRoot)

def follow? (p : Spot) : Option (String × Spot) :=
  match b.reference? p with
  | none => none
  | some reference =>
    match aim o reference p.location with
    | .error _ => none
    | .ok (location, pointer) =>
      (b.documents.lookup location).bind fun document =>
        (Pointer.resolve? b.graph document pointer).map fun item =>
          (targetKey location pointer, ⟨location, false, item⟩)

def contents (p : Spot) : List Item :=
  match b.graph.of? p.item with
  | some (.map entries) => entries.map (·.2)
  | some (.list items) => items
  | _ => []

inductive Leads : Spot → List String → Spot → Prop
  | stop (p : Spot) : Leads p [] p
  | on {p q e : Spot} {key : String} {keys : List String} : b.follow? o p = some (key, q) →
      Leads q keys e → Leads p (key :: keys) e

def Ends (p : Spot) (keys : List String) (e : Spot) : Prop :=
  b.Leads o p keys e ∧ b.reference? e = none

inductive Visits (p : Spot) : Spot → Prop
  | here : Visits p p
  | on {q r : Spot} {key : String} : Visits p q → b.follow? o q = some (key, r) → Visits p r
  | into {q : Spot} {item : Item} : Visits p q → b.reference? q = none → item ∈ b.contents q →
      Visits p { q with item }

inductive Entry (start : Spot) : Spot → Prop
  | first : Entry start start
  | part {q : Spot} {item : Item} : b.Visits o start q → b.reference? q = none →
      item ∈ b.contents q → Entry start { q with item }

inductive Kind where
  | map
  | list
  | leaf
deriving DecidableEq

def kind (item : Item) : Kind :=
  match b.graph.of? item with
  | some (.map _) => .map
  | some (.list _) => .list
  | _ => .leaf

def Returns (start p : Spot) (keys : List String) (e : Spot) : Prop :=
  b.Visits o start p ∧ b.Ends o p keys e ∧
    ∃ u, b.Visits o start u ∧ u.item = e.item ∧ b.Visits o u p

/-- Documents whose references can be replaced by copies that are shared. -/
structure Regular (start : Spot) : Prop where
  ends : ∀ p, b.Visits o start p → ∃ keys e, b.Ends o p keys e
  /-- Copies are noted under texts, which name one part each. -/
  same_target : ∀ {p p' q q' key}, b.Visits o start p → b.Visits o start p' →
    b.follow? o p = some (key, q) → b.follow? o p' = some (key, q') → q = q'
  /-- What is met both as a part of the first document and through a reference has no references into
  the document itself. -/
  alike : ∀ p q, b.Visits o start p → b.Visits o start q → p.item = q.item →
    b.reference? p = b.reference? q
  /-- The only way into a map leads through the references back to it. -/
  maps : ∀ p key keys e, b.Returns o start p (key :: keys) e → b.kind e.item = .map →
    ∀ q keys' e', b.Entry o start q → b.Leads o q keys' e' → e'.item = e.item → key ∈ keys'
  /-- A reference back to a list names the list itself. -/
  lists : ∀ p key keys e, b.Returns o start p (key :: keys) e → b.kind e.item = .list → keys = []

variable {o b} {start p q r e e' : Spot} {key : String} {keys keys' : List String}

theorem follow_reference (followed : b.follow? o p = some (key, q)) : b.reference? p ≠ none := by
  intro plain
  rw [follow?, plain] at followed
  cases followed

theorem leads_append (first : b.Leads o p keys q) (second : b.Leads o q keys' r) :
    b.Leads o p (keys ++ keys') r := by
  induction first with
  | stop p => exact second
  | on followed _ ih => exact .on followed (ih second)

theorem leads_split (ends : b.Ends o p keys e) (first : b.Leads o p keys' q) :
    ∃ rest, keys = keys' ++ rest ∧ b.Ends o q rest e := by
  induction first generalizing keys with
  | stop p => exact ⟨keys, rfl, ends⟩
  | on followed _ ih =>
      obtain ⟨leads, plain⟩ := ends
      cases leads with
      | stop => exact (follow_reference followed plain).elim
      | on other onward =>
          rw [followed] at other
          cases other
          obtain ⟨rest, rfl, ends⟩ := ih ⟨onward, plain⟩
          exact ⟨rest, rfl, ends⟩

theorem ends_here (ends : b.Ends o p keys e) (plain : b.reference? p = none) : keys = [] ∧ e = p := by
  obtain ⟨leads, _⟩ := ends
  cases leads with
  | stop => exact ⟨rfl, rfl⟩
  | on followed _ => exact (follow_reference followed plain).elim

theorem ends_unique (one : b.Ends o p keys e) (two : b.Ends o p keys' e') : keys = keys' ∧ e = e' := by
  obtain ⟨rest, same, onward⟩ := leads_split one two.1
  obtain ⟨rfl, rfl⟩ := ends_here onward two.2
  exact ⟨by rw [same, List.append_nil], rfl⟩

-- A chain that ends does not come back to where it was.
theorem ends_shorter (ends : b.Ends o p keys e) (first : b.Leads o p keys' q) {rest : List String}
    (onward : b.Ends o q rest e') : e = e' ∧ rest.length + keys'.length = keys.length := by
  obtain ⟨rest', rfl, ends'⟩ := leads_split ends first
  obtain ⟨rfl, rfl⟩ := ends_unique ends' onward
  exact ⟨rfl, by rw [List.length_append, Nat.add_comm]⟩

theorem leads_at (leads : b.Leads o p keys e) (passed : key ∈ keys) :
    ∃ before after q r, keys = before ++ key :: after ∧ b.Leads o p before q ∧
      b.follow? o q = some (key, r) ∧ b.Leads o r after e := by
  induction leads with
  | stop p => cases passed
  | on followed onward ih =>
      obtain rfl | later := List.mem_cons.mp passed
      · exact ⟨[], _, _, _, rfl, .stop _, followed, onward⟩
      · obtain ⟨before, after, q, r, rfl, first, at_, last⟩ := ih later
        exact ⟨_ :: before, after, q, r, rfl, .on followed first, at_, last⟩

theorem visits_trans (first : b.Visits o p q) (second : b.Visits o q r) : b.Visits o p r := by
  induction second with
  | here => exact first
  | on _ followed ih => exact .on ih followed
  | into _ plain inside ih => exact .into ih plain inside

theorem visits_leads (leads : b.Leads o p keys q) : b.Visits o p q := by
  induction leads with
  | stop p => exact .here
  | on followed _ ih => exact visits_trans (.on .here followed) ih

-- Whatever is met from a reference on is a reference of its chain, or is met from its end on.
theorem visits_chain (visits : b.Visits o p q) (ends : b.Ends o p keys e) :
    b.Visits o e q ∨ ∃ before, b.Leads o p before q := by
  induction visits with
  | here => exact .inr ⟨[], .stop p⟩
  | on _ followed ih =>
      refine ih.imp (fun met => .on met followed) ?_
      rintro ⟨before, first⟩
      exact ⟨_, leads_append first (.on followed (.stop _))⟩
  | into _ plain inside ih =>
      refine .inl ?_
      obtain met | ⟨before, first⟩ := ih
      · exact .into met plain inside
      · obtain ⟨rest, _, onward⟩ := leads_split ends first
        obtain ⟨_, rfl⟩ := ends_here onward plain
        exact .into .here plain inside

-- What is closed under steps holds all that is met.
theorem visits_inside (spots : List Spot) (first : start ∈ spots)
    (onward : ∀ q ∈ spots, ∀ found ∈ b.follow? o q, found.2 ∈ spots)
    (inward : ∀ q ∈ spots, b.reference? q = none → ∀ item ∈ b.contents q, { q with item } ∈ spots)
    (visits : b.Visits o start p) : p ∈ spots := by
  induction visits with
  | here => exact first
  | on _ followed ih => exact onward _ ih _ followed
  | into _ plain inside ih => exact inward _ ih plain _ inside

theorem ends_once (plain : b.follow? o p = none → b.reference? p = none)
    (next : ∀ found ∈ b.follow? o p, b.reference? found.2 = none) : ∃ keys e, b.Ends o p keys e := by
  cases followed : b.follow? o p with
  | none => exact ⟨[], p, .stop p, plain followed⟩
  | some found => exact ⟨[found.1], found.2, .on followed (.stop _), next found followed⟩

theorem visits_leaf (visits : b.Visits o p q) (plain : b.reference? p = none)
    (leaf : b.contents p = []) : q = p := by
  induction visits with
  | here => rfl
  | on _ followed ih => exact (follow_reference followed (ih ▸ plain)).elim
  | into _ _ inside ih =>
      rw [ih, leaf] at inside
      cases inside

theorem entry_visits (entry : b.Entry o start p) : b.Visits o start p := by
  cases entry with
  | first => exact .here
  | part visits plain inside => exact .into visits plain inside

theorem kind_map {item : Item} : b.kind item = .map ↔ ∃ entries, b.graph.of? item = some (.map entries) := by
  unfold kind
  split <;> simp_all

theorem kind_list {item : Item} : b.kind item = .list ↔ ∃ items, b.graph.of? item = some (.list items) := by
  unfold kind
  split <;> simp_all

theorem leaf_contents (leaf : b.kind p.item = .leaf) : b.contents p = [] := by
  unfold kind at leaf
  unfold contents
  split <;> simp_all

theorem reference_map {reference : String} (named : b.reference? p = some reference) :
    b.kind p.item = .map := by
  obtain ⟨entries, held, _⟩ := Option.bind_eq_some_iff.mp named
  refine kind_map.mpr ⟨entries, ?_⟩
  unfold Graph.entries? at held
  split at held
  · cases held
    assumption
  · cases held

-- The parts of a step from a reference to what it names.
theorem follow_parts (followed : b.follow? o p = some (key, q)) :
    ∃ reference pointer document, b.reference? p = some reference ∧
      aim o reference p.location = .ok (q.location, pointer) ∧ key = targetKey q.location pointer ∧
      b.documents.lookup q.location = some document ∧
      Pointer.resolve? b.graph document pointer = some q.item ∧ q.isRoot = false := by
  unfold follow? at followed
  cases named : b.reference? p with
  | none =>
      rw [named] at followed
      cases followed
  | some reference =>
      rw [named] at followed
      simp only at followed
      cases aimed : aim o reference p.location with
      | error f =>
          rw [aimed] at followed
          cases followed
      | ok place =>
          obtain ⟨location, pointer⟩ := place
          rw [aimed] at followed
          obtain ⟨document, listed, resolved⟩ := Option.bind_eq_some_iff.mp followed
          obtain ⟨item, found, same⟩ := Option.map_eq_some_iff.mp resolved
          cases same
          exact ⟨reference, pointer, document, rfl, aimed, rfl, listed, found, rfl⟩

theorem location_of_key {location : String} (pointer : String) (plain : '#' ∉ location.toList) :
    (targetKey location pointer).toList.takeWhile (· != '#') = location.toList := by
  have spelled : (targetKey location pointer).toList = location.toList ++ '#' :: pointer.toList := by
    simp [targetKey]
  rw [spelled, List.takeWhile_append_of_pos]
  · simp
  · intro c member
    have different : c ≠ '#' := fun same => plain (same ▸ member)
    simpa using different

theorem follow_alike (location : p.location = q.location) (same : b.reference? p = b.reference? q) :
    b.follow? o p = b.follow? o q := by
  simp only [follow?, location, same]

theorem target_key_injective {location location' pointer pointer' : String}
    (plain : '#' ∉ location.toList) (plain' : '#' ∉ location'.toList)
    (same : targetKey location pointer = targetKey location' pointer') :
    location = location' ∧ pointer = pointer' := by
  have cut := location_of_key pointer plain
  rw [same, location_of_key pointer' plain'] at cut
  have here : location = location' := (String.ext cut).symm
  subst here
  have spelled := congrArg String.toList same
  simp only [targetKey, String.toList_append, List.append_cancel_left_eq] at spelled
  exact ⟨rfl, String.ext spelled⟩

theorem same_target_of_plain {p' q' : Spot} (plain : '#' ∉ q.location.toList)
    (plain' : '#' ∉ q'.location.toList) (followed : b.follow? o p = some (key, q))
    (followed' : b.follow? o p' = some (key, q')) : q = q' := by
  obtain ⟨_, pointer, document, _, _, key₁, listed, found, isRoot⟩ := follow_parts followed
  obtain ⟨_, pointer', document', _, _, key₂, listed', found', isRoot'⟩ := follow_parts followed'
  obtain ⟨same, rfl⟩ := target_key_injective plain plain' (key₁.symm.trans key₂)
  rw [same, listed'] at listed
  cases listed
  rw [found'] at found
  obtain ⟨location, root, item⟩ := q
  obtain ⟨location', root', item'⟩ := q'
  simp_all

theorem Regular.followed (regular : b.Regular o start) (visits : b.Visits o start p) {reference : String}
    (named : b.reference? p = some reference) : ∃ key q, b.follow? o p = some (key, q) := by
  obtain ⟨keys, e, leads, plain⟩ := regular.ends p visits
  cases leads with
  | stop =>
      rw [named] at plain
      cases plain
  | on followed _ => exact ⟨_, _, followed⟩

end Library

end ApiSchema
