import ApiSchema.Proofs.Document.Within

namespace ApiSchema

def Item.behind (offset : Nat) : Item → Item
  | .scalar s => .scalar s
  | .node id => .node (offset + id)

namespace Graph

def before (g h : Graph) : Graph := ⟨g.cells ++ h.cells.map (·.replace (Item.behind g.size))⟩

variable (g : Graph)

@[simp] theorem before_empty : g.before empty = g := by
  simp [before, empty]

@[simp] theorem before_size (h : Graph) : (g.before h).size = g.size + h.size := by
  simp [before, size]

theorem before_first (h : Graph) {i : Nat} (inside : i < g.size) : (g.before h).cell? i = g.cell? i :=
  Array.getElem?_append_left inside

theorem before_cell (h : Graph) (i : Nat) :
    (g.before h).cell? (g.size + i) = (h.cell? i).map (·.replace (Item.behind g.size)) := by
  refine (Array.getElem?_append_right (Nat.le_add_right _ _)).trans ?_
  rw [Array.getElem?_map]
  have there : g.cells.size + i - g.cells.size = i := Nat.add_sub_cancel_left g.cells.size i
  change Option.map _ h.cells[g.cells.size + i - g.cells.size]? = _
  rw [there]
  rfl

theorem before_add (h : Graph) (cell : Cell) : (g.before h).add (cell.replace (Item.behind g.size)) =
    (g.before (h.add cell).1, (h.add cell).2.behind g.size) := by
  have cells : (g.cells ++ h.cells.map (·.replace (Item.behind g.size))).push
      (cell.replace (Item.behind g.size)) =
        g.cells ++ (h.cells.push cell).map (·.replace (Item.behind g.size)) := by
    rw [Array.map_push, Array.append_push]
  change ((⟨_⟩ : Graph), Item.node (g.before h).size) = (⟨_⟩, Item.node (g.size + h.size))
  rw [before_size]
  exact congrArg (fun cells => ((⟨cells⟩ : Graph), Item.node (g.size + h.size))) cells

theorem before_set (h : Graph) (i : Nat) (cell : Cell) :
    (g.before h).set (g.size + i) (cell.replace (Item.behind g.size)) = g.before (h.set i cell) := by
  have there : g.size + i - g.cells.size = i := Nat.add_sub_cancel_left g.size i
  have past : ¬ g.size + i < g.cells.size := Nat.not_lt.mpr (Nat.le_add_right g.cells.size i)
  have cells : (g.cells ++ h.cells.map (·.replace (Item.behind g.size))).setIfInBounds (g.size + i)
      (cell.replace (Item.behind g.size)) =
        g.cells ++ (h.cells.setIfInBounds i cell).map (·.replace (Item.behind g.size)) := by
    rw [Array.setIfInBounds_append, if_neg past, there, Array.map_setIfInBounds]
  exact congrArg Graph.mk cells

mutual

theorem before_value (h : Graph) (v : Value) : (g.before h).addValue v =
    (g.before (h.addValue v).1, (h.addValue v).2.behind g.size) := by
  cases v with
  | scalar s => rfl
  | list items =>
      rw [addValue, before_values h items]
      exact before_add g _ (.list _)
  | map entries =>
      rw [addValue, before_entries h entries]
      exact before_add g _ (.map _)
  | set members => exact before_add g h (.set members)
  | pair a b =>
      rw [addValue, before_value h a]
      dsimp only
      rw [before_value _ b]
      exact before_add g _ (.pair _ _)
  | loop ofMap => rfl

theorem before_values (h : Graph) (vs : List Value) : (g.before h).addValues vs =
    (g.before (h.addValues vs).1, (h.addValues vs).2.map (Item.behind g.size)) := by
  cases vs with
  | nil => rfl
  | cons v rest =>
      rw [addValues, before_value h v]
      dsimp only
      rw [before_values _ rest]
      rfl

theorem before_entries (h : Graph) (entries : List (Scalar × Value)) : (g.before h).addEntries entries =
    (g.before (h.addEntries entries).1,
      (h.addEntries entries).2.map fun (key, item) => (key, item.behind g.size)) := by
  cases entries with
  | nil => rfl
  | cons entry rest =>
      obtain ⟨k, v⟩ := entry
      rw [addEntries, before_value h v]
      dsimp only
      rw [before_entries _ rest]
      rfl

end

/-- A change that adds the same containers to every graph. -/
def Uniform (change : Graph → Graph × Item) : Prop :=
  ∀ g, change g = (g.before (change empty).1, (change empty).2.behind g.size)

theorem value_uniform (v : Value) : Uniform (·.addValue v) := by
  intro g
  have same := before_value g empty v
  rw [before_empty] at same
  exact same

theorem moved_behind (offset size : Nat) (item : Item) :
    (item.moved 0 size).behind offset = item.moved offset size := by
  cases item with
  | scalar s => rfl
  | node id =>
      by_cases inside : id < size
      · simp [Item.moved, Item.behind, inside]
      · simp [Item.moved, Item.behind, inside]

theorem replace_replace (first second : Item → Item) (cell : Cell) :
    (cell.replace first).replace second = cell.replace (second ∘ first) := by
  cases cell <;> simp [Cell.replace]

theorem document_uniform (d : Document) : Uniform (·.addDocument d) := by
  intro g
  have same : Item.behind g.size ∘ Item.moved 0 d.graph.size = Item.moved g.size d.graph.size :=
    funext (moved_behind g.size d.graph.size)
  have cells : g.cells ++ d.graph.cells.map (·.replace (Item.moved g.size d.graph.size)) =
      g.cells ++ ((#[] : Array Cell) ++ d.graph.cells.map (·.replace (Item.moved 0 d.graph.size))).map
        (·.replace (Item.behind g.size)) := by
    simp only [Array.empty_append, Array.map_map, Function.comp_def, replace_replace]
    rw [← same]
    rfl
  refine Prod.ext (congrArg Graph.mk cells) ?_
  exact (moved_behind g.size d.graph.size d.root).symm

end Graph

end ApiSchema
