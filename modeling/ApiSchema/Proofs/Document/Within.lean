import ApiSchema.Document.Pointer

namespace ApiSchema

def Cell.parts : Cell → List Item
  | .list items => items
  | .map entries => entries.map (·.2)
  | .set _ => []
  | .pair first second => [first, second]

namespace Graph

variable {g g' g'' : Graph} {item : Item} {id : Nat}

inductive Within (g : Graph) (item : Item) : Nat → Prop
  | self {id : Nat} : item = .node id → Within g item id
  | part {i j : Nat} {cell : Cell} : Within g item i → g.cell? i = some cell →
      .node j ∈ cell.parts → Within g item j

theorem within_kept (same : ∀ i, g.Within item i → g'.cell? i = g.cell? i)
    (within : g.Within item id) : g'.Within item id := by
  induction within with
  | self is => exact .self is
  | part around held inside ih => exact .part ih ((same _ around).trans held) inside

theorem within_reflects (same : ∀ i, g.Within item i → g'.cell? i = g.cell? i)
    (within : g'.Within item id) : g.Within item id := by
  induction within with
  | self is => exact .self is
  | part _ held inside ih => exact .part ih ((same _ ih).symm.trans held) inside

theorem within_trans {inner : Item} (outer : ∀ j, inner = .node j → g.Within item j)
    (within : g.Within inner id) : g.Within item id := by
  induction within with
  | self is => exact outer _ is
  | part _ held inside ih => exact .part ih held inside

/-- New containers, which hold only new ones, and items among them. -/
structure Adds (g g' : Graph) (items : List Item) : Prop where
  size : g.size ≤ g'.size
  before : ∀ i, i < g.size → g'.cell? i = g.cell? i
  parts : ∀ i cell j, g.size ≤ i → g'.cell? i = some cell → .node j ∈ cell.parts →
    g.size ≤ j ∧ j < g'.size
  items : ∀ j, .node j ∈ items → g.size ≤ j ∧ j < g'.size

theorem cell_inside {cell : Cell} (held : g.cell? id = some cell) : id < g.size :=
  (Array.getElem?_eq_some_iff.mp held).1

theorem adds_within (added : Adds g g' [item]) (within : g'.Within item id) :
    g.size ≤ id ∧ id < g'.size := by
  induction within with
  | self is => exact added.items _ (by simp [is])
  | part _ held inside ih => exact added.parts _ _ _ ih.1 held inside

theorem adds_nothing (g : Graph) : Adds g g [] := by
  refine ⟨Nat.le_refl _, fun _ _ => rfl, fun i cell j new held _ => ?_, fun _ member => nomatch member⟩
  have old := cell_inside held
  omega

theorem adds_both {xs ys : List Item} (first : Adds g g' xs) (second : Adds g' g'' ys) :
    Adds g g'' (xs ++ ys) := by
  have size₁ := first.size
  have size₂ := second.size
  refine ⟨by omega, fun i old => ?_, fun i cell j new held inside => ?_, fun j member => ?_⟩
  · rw [second.before i (by omega), first.before i old]
  · by_cases early : i < g'.size
    · rw [second.before i early] at held
      have reached := first.parts i cell j new held inside
      omega
    · have reached := second.parts i cell j (by omega) held inside
      omega
  · obtain one | two := List.mem_append.mp member
    · have reached := first.items j one
      omega
    · have reached := second.items j two
      omega

theorem add_cell (g : Graph) (cell : Cell) (i : Nat) :
    (g.add cell).1.cell? i = if i = g.size then some cell else g.cell? i := by
  change (g.cells.push cell)[i]? = _
  rw [Array.getElem?_push]
  rfl

theorem add_size (g : Graph) (cell : Cell) : (g.add cell).1.size = g.size + 1 := by
  simp [add, size]

theorem adds_container {xs : List Item} (added : Adds g g' xs) {cell : Cell}
    (parts : ∀ j, .node j ∈ cell.parts → .node j ∈ xs) :
    Adds g (g'.add cell).1 [(g'.add cell).2] := by
  have size := added.size
  constructor
  case size =>
    rw [add_size]
    omega
  case before =>
    intro i old
    rw [add_cell, if_neg (by omega), added.before i old]
  case parts =>
    intro i inner j new held inside
    rw [add_size]
    rw [add_cell] at held
    split at held
    · cases held
      have reached := added.items j (parts j inside)
      omega
    · have reached := added.parts i inner j new held inside
      omega
  case items =>
    intro j member
    rw [add_size]
    cases List.mem_singleton.mp member
    omega

mutual

theorem add_value_adds (g : Graph) (v : Value) : Adds g (g.addValue v).1 [(g.addValue v).2] := by
  cases v with
  | scalar s =>
      have nothing := adds_nothing g
      exact ⟨nothing.size, nothing.before, nothing.parts, fun _ member => by simp [addValue] at member⟩
  | list items =>
      rw [addValue]
      exact adds_container (add_values_adds g items) fun _ inside => inside
  | map entries =>
      rw [addValue]
      exact adds_container (add_entries_adds g entries) fun _ inside => inside
  | set members => exact adds_container (adds_nothing g) fun _ inside => nomatch inside
  | pair a b =>
      rw [addValue]
      exact adds_container (adds_both (add_value_adds g a) (add_value_adds _ b)) fun _ inside => inside
  | loop ofMap =>
      have nothing := adds_nothing g
      exact ⟨nothing.size, nothing.before, nothing.parts, fun _ member => by simp [addValue] at member⟩

theorem add_values_adds (g : Graph) (vs : List Value) :
    Adds g (g.addValues vs).1 (g.addValues vs).2 := by
  cases vs with
  | nil => exact adds_nothing g
  | cons v rest =>
      rw [addValues]
      exact adds_both (add_value_adds g v) (add_values_adds _ rest)

theorem add_entries_adds (g : Graph) (entries : List (Scalar × Value)) :
    Adds g (g.addEntries entries).1 ((g.addEntries entries).2.map (·.2)) := by
  cases entries with
  | nil => exact adds_nothing g
  | cons entry rest =>
      obtain ⟨k, v⟩ := entry
      rw [addEntries]
      exact adds_both (add_value_adds g v) (add_entries_adds _ rest)

end

theorem moved_node {offset size j : Nat} {item : Item} (is : item.moved offset size = .node j) :
    offset ≤ j ∧ j < offset + size := by
  cases item with
  | scalar s => cases is
  | node id =>
      rw [Item.moved] at is
      by_cases inside : id < size
      · rw [if_pos inside] at is
        cases is
        omega
      · rw [if_neg inside] at is
        cases is

theorem parts_replace (change : Item → Item) (cell : Cell) :
    (cell.replace change).parts = cell.parts.map change := by
  cases cell <;> simp [Cell.replace, Cell.parts]

theorem add_document_adds (g : Graph) (d : Document) : Adds g (g.addDocument d).1 [(g.addDocument d).2] := by
  have size : (g.addDocument d).1.size = g.size + d.graph.size := by simp [addDocument, Graph.size]
  have moved {j : Nat} {item : Item} (is : item.moved g.size d.graph.size = .node j) :
      g.size ≤ j ∧ j < (g.addDocument d).1.size := by
    rw [size]
    exact moved_node is
  constructor
  case size => omega
  case before =>
    intro i old
    exact Array.getElem?_append_left old
  case parts =>
    intro i cell j new held inside
    have at_ : (g.addDocument d).1.cell? i =
        (d.graph.cells[i - g.size]?).map (·.replace (Item.moved g.size d.graph.size)) := by
      refine (Array.getElem?_append_right new).trans ?_
      rw [Array.getElem?_map]
      rfl
    rw [at_] at held
    obtain ⟨old, _, rfl⟩ := Option.map_eq_some_iff.mp held
    rw [parts_replace] at inside
    obtain ⟨part, _, same⟩ := List.mem_map.mp inside
    exact moved same
  case items =>
    intro j member
    exact moved (List.mem_singleton.mp member).symm

theorem of_same (same : ∀ i, g.Within item i → g'.cell? i = g.cell? i) : g'.of? item = g.of? item := by
  cases item with
  | scalar s => rfl
  | node id => exact same id (.self rfl)

def inside (g : Graph) (item : Item) : List Item :=
  match g.of? item with
  | some (.map entries) => entries.map (·.2)
  | some (.list items) => items
  | _ => []

inductive Inner (g : Graph) (item : Item) : Item → Prop
  | self : Inner g item item
  | part {around part : Item} : Inner g item around → part ∈ g.inside around → Inner g item part

inductive Nested (g : Graph) : Item → List Nat → Prop
  | stop (item : Item) : Nested g item []
  | into {id : Nat} {part : Item} {ids : List Nat} : part ∈ g.inside (.node id) → Nested g part ids →
      Nested g (.node id) (id :: ids)

theorem inside_cases (g : Graph) (item : Item) :
    (∃ entries, g.entries? item = some entries ∧ g.inside item = entries.map (·.2)) ∨
    (∃ items, g.items? item = some items ∧ g.inside item = items) ∨
    (g.entries? item = none ∧ g.items? item = none ∧ g.inside item = []) := by
  unfold entries? items? inside
  cases g.of? item with
  | none => exact .inr (.inr ⟨rfl, rfl, rfl⟩)
  | some cell =>
      cases cell with
      | map entries => exact .inl ⟨entries, rfl, rfl⟩
      | list items => exact .inr (.inl ⟨items, rfl, rfl⟩)
      | set members => exact .inr (.inr ⟨rfl, rfl, rfl⟩)
      | pair first second => exact .inr (.inr ⟨rfl, rfl, rfl⟩)

theorem inside_part {around part : Item} (held : part ∈ g.inside around) :
    ∃ j cell, around = .node j ∧ g.cell? j = some cell ∧ part ∈ cell.parts := by
  unfold inside at held
  cases around with
  | scalar s => cases held
  | node j =>
      split at held
      next entries is => exact ⟨j, _, rfl, is, held⟩
      next items is => exact ⟨j, _, rfl, is, held⟩
      next => cases held

theorem inner_within {part : Item} (inner : g.Inner item part) (node : part = .node id) :
    g.Within item id := by
  induction inner generalizing id with
  | self => exact .self node
  | part _ held ih =>
      obtain ⟨j, cell, rfl, is, member⟩ := inside_part held
      exact .part (ih rfl) is (node ▸ member)

theorem of_inner (same : ∀ i, g.Within item i → g'.cell? i = g.cell? i) {part : Item}
    (inner : g.Inner item part) : g'.of? part = g.of? part := by
  cases part with
  | scalar s => rfl
  | node i => exact same i (inner_within inner rfl)

end Graph

namespace Pointer

variable {g g' : Graph} {item target : Item}

theorem lookup_member {α : Type} {entries : List (Scalar × α)} {key : Scalar} {value : α}
    (found : lookup? entries key = some value) : value ∈ entries.map (·.2) := by
  obtain ⟨entry, held, rfl⟩ := Option.map_eq_some_iff.mp found
  exact List.mem_map.mpr ⟨entry, List.mem_of_find?_eq_some held, rfl⟩

theorem follow_part {step : List Char} (found : follow? g item step = some target) :
    ∃ cell, g.of? item = some cell ∧ target ∈ cell.parts := by
  unfold follow? at found
  split at found
  next entries held => exact ⟨_, held, lookup_member found⟩
  next items held =>
    obtain ⟨n, _, at_⟩ := Option.bind_eq_some_iff.mp found
    exact ⟨_, held, List.mem_of_getElem? at_⟩
  next => cases found

theorem follow_within {step : List Char} (found : follow? g item step = some target) :
    ∀ j, target = .node j → g.Within item j := by
  rintro j rfl
  obtain ⟨cell, held, inside⟩ := follow_part found
  cases item with
  | scalar s => cases held
  | node id => exact .part (.self rfl) held inside

theorem follow_same (same : ∀ i, g.Within item i → g'.cell? i = g.cell? i) (step : List Char) :
    follow? g' item step = follow? g item step := by
  simp only [follow?, Graph.of_same same]

theorem steps_within {path : List (List Char)} (found : path.foldlM (follow? g) item = some target) :
    ∀ j, target = .node j → g.Within item j := by
  induction path generalizing item with
  | nil =>
      cases found
      exact fun j is => .self is
  | cons step rest ih =>
      obtain ⟨next, first, onward⟩ := Option.bind_eq_some_iff.mp found
      exact fun j is => Graph.within_trans (follow_within first) (ih onward j is)

theorem steps_same (same : ∀ i, g.Within item i → g'.cell? i = g.cell? i) (path : List (List Char)) :
    path.foldlM (follow? g') item = path.foldlM (follow? g) item := by
  induction path generalizing item with
  | nil => rfl
  | cons step rest ih =>
      rw [List.foldlM_cons, List.foldlM_cons, follow_same same]
      cases first : follow? g item step with
      | none => rfl
      | some next => exact ih fun i within => same i (Graph.within_trans (follow_within first) within)

theorem resolve_within {pointer : String} (found : resolve? g item pointer = some target) :
    ∀ j, target = .node j → g.Within item j := by
  unfold resolve? at found
  split at found
  · cases found
    exact fun j is => .self is
  · exact steps_within found

theorem resolve_same (same : ∀ i, g.Within item i → g'.cell? i = g.cell? i) (pointer : String) :
    resolve? g' item pointer = resolve? g item pointer := by
  simp only [resolve?, steps_same same]

end Pointer

mutual

def Value.texts : Value → List String
  | .scalar (.text t) => [t]
  | .list items => textsAmong items
  | .map entries => textsUnder entries
  | .pair a b => a.texts ++ b.texts
  | _ => []

def textsAmong : List Value → List String
  | [] => []
  | v :: rest => v.texts ++ textsAmong rest

def textsUnder : List (Scalar × Value) → List String
  | [] => []
  | entry :: rest => entry.2.texts ++ textsUnder rest

end

namespace Graph

variable {g g' g'' : Graph}

structure Spells (g g' : Graph) (items : List Item) (texts : List String) : Prop where
  items : ∀ t, .scalar (.text t) ∈ items → t ∈ texts
  parts : ∀ i cell t, g.size ≤ i → g'.cell? i = some cell → .scalar (.text t) ∈ cell.parts → t ∈ texts

theorem spells_nothing (g : Graph) : Spells g g [] [] := by
  refine ⟨nofun, fun i cell t new held _ => ?_⟩
  have old := cell_inside held
  omega

theorem spells_both {xs ys : List Item} {ts us : List String} (first : Spells g g' xs ts)
    (second : Spells g' g'' ys us) (added : Adds g' g'' ys) : Spells g g'' (xs ++ ys) (ts ++ us) := by
  constructor
  · intro t member
    rcases List.mem_append.mp member with one | two
    · exact List.mem_append_left _ (first.items t one)
    · exact List.mem_append_right _ (second.items t two)
  · intro i cell t new held inside
    by_cases early : i < g'.size
    · rw [added.before i early] at held
      exact List.mem_append_left _ (first.parts i cell t new held inside)
    · exact List.mem_append_right _ (second.parts i cell t (by omega) held inside)

theorem spells_container {xs : List Item} {ts : List String} (spelled : Spells g g' xs ts) {cell : Cell}
    (parts : ∀ t, .scalar (.text t) ∈ cell.parts → .scalar (.text t) ∈ xs) :
    Spells g (g'.add cell).1 [(g'.add cell).2] ts := by
  constructor
  · intro t member
    cases List.mem_singleton.mp member
  · intro i inner t new held inside
    rw [add_cell] at held
    split at held
    · cases held
      exact spelled.items t (parts t inside)
    · exact spelled.parts i inner t new held inside

mutual

theorem value_spells (g : Graph) (v : Value) : Spells g (g.addValue v).1 [(g.addValue v).2] v.texts := by
  cases v with
  | scalar s =>
      constructor
      · intro t member
        cases List.mem_singleton.mp member
        exact List.mem_singleton_self t
      · exact fun i cell t new held inside => nomatch (spells_nothing g).parts i cell t new held inside
  | list items =>
      rw [addValue]
      exact spells_container (values_spell g items) fun _ inside => inside
  | map entries =>
      rw [addValue]
      exact spells_container (entries_spell g entries) fun _ inside => inside
  | set members => exact spells_container (spells_nothing g) fun _ inside => nomatch inside
  | pair a b =>
      rw [addValue]
      exact spells_container (spells_both (value_spells g a) (value_spells _ b) (add_value_adds _ b))
        fun _ inside => inside
  | loop ofMap =>
      refine ⟨fun t member => ?_, (spells_nothing g).parts⟩
      cases List.mem_singleton.mp member

theorem values_spell (g : Graph) (vs : List Value) :
    Spells g (g.addValues vs).1 (g.addValues vs).2 (textsAmong vs) := by
  cases vs with
  | nil => exact spells_nothing g
  | cons v rest =>
      rw [addValues]
      exact spells_both (value_spells g v) (values_spell _ rest) (add_values_adds _ rest)

theorem entries_spell (g : Graph) (entries : List (Scalar × Value)) :
    Spells g (g.addEntries entries).1 ((g.addEntries entries).2.map (·.2)) (textsUnder entries) := by
  cases entries with
  | nil => exact spells_nothing g
  | cons entry rest =>
      obtain ⟨k, v⟩ := entry
      rw [addEntries]
      exact spells_both (value_spells g v) (entries_spell _ rest) (add_entries_adds _ rest)

end

end Graph

end ApiSchema
