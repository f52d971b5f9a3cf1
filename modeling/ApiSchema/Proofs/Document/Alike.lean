import ApiSchema.Proofs.Document.Behind
import ApiSchema.Proofs.Control.Keeps
import Mathlib.Data.List.Perm.Subperm

/-!
Documents that differ only in the numbers of their containers.

Containers of two graphs are tied to each other when each holds what the other does: the same keys and
scalars, and containers that are tied. No container is tied to two, so what is shared or contains itself
in the one document does so in the other.
-/

namespace ApiSchema

abbrev Ties := Nat → Nat → Prop

inductive Item.Tied (w : Ties) : Item → Item → Prop
  | scalar (s : Scalar) : Tied w (.scalar s) (.scalar s)
  | node {i j : Nat} : w i j → Tied w (.node i) (.node j)

def EntryTied (w : Ties) (a b : Scalar × Item) : Prop := a.1 = b.1 ∧ a.2.Tied w b.2

inductive Cell.Tied (w : Ties) : Cell → Cell → Prop
  | list {xs ys : List Item} : List.Forall₂ (Item.Tied w) xs ys → Tied w (.list xs) (.list ys)
  | map {xs ys : Entries} : List.Forall₂ (EntryTied w) xs ys → Tied w (.map xs) (.map ys)
  | set (members : List Scalar) : Tied w (.set members) (.set members)
  | pair {a b c d : Item} : a.Tied w b → c.Tied w d → Tied w (.pair a c) (.pair b d)

namespace Graph

structure Matches (w : Ties) (g h : Graph) : Prop where
  cells : ∀ i j, w i j → ∃ c d, g.cell? i = some c ∧ h.cell? j = some d ∧ c.Tied w d
  one : ∀ i j i' j', w i j → w i' j' → (i = i' ↔ j = j')

end Graph

def Document.Alike (d e : Document) : Prop :=
  ∃ w, Graph.Matches w d.graph e.graph ∧ d.root.Tied w e.root

variable {w v : Ties} {g h g' h' : Graph} {a b : Item}

theorem tied_imp (more : ∀ i j, w i j → v i j) (tied : a.Tied w b) : a.Tied v b := by
  cases tied with
  | scalar s => exact .scalar s
  | node known => exact .node (more _ _ known)

theorem entries_tied_imp (more : ∀ i j, w i j → v i j) {xs ys : Entries}
    (tied : List.Forall₂ (EntryTied w) xs ys) : List.Forall₂ (EntryTied v) xs ys :=
  tied.imp fun _ _ held => ⟨held.1, tied_imp more held.2⟩

theorem cell_tied_imp (more : ∀ i j, w i j → v i j) {c d : Cell} (tied : c.Tied w d) : c.Tied v d := by
  cases tied with
  | list each => exact .list (each.imp fun _ _ => tied_imp more)
  | map each => exact .map (entries_tied_imp more each)
  | set members => exact .set members
  | pair first second => exact .pair (tied_imp more first) (tied_imp more second)

theorem text_tied (tied : a.Tied w b) : a.text? = b.text? := by
  cases tied <;> rfl

theorem lookup_tied {xs ys : Entries} (tied : List.Forall₂ (EntryTied w) xs ys) (key : Scalar) :
    Option.Rel (Item.Tied w) (lookup? xs key) (lookup? ys key) := by
  unfold lookup?
  induction tied with
  | nil => exact .none
  | @cons x y xs ys held _ ih =>
      rw [List.find?_cons, List.find?_cons, ← held.1]
      split
      · exact .some held.2
      · exact ih

theorem item_tied {xs ys : List Item} (tied : List.Forall₂ (Item.Tied w) xs ys) (n : Nat) :
    Option.Rel (Item.Tied w) xs[n]? ys[n]? := by
  induction tied generalizing n with
  | nil => exact .none
  | cons held _ ih =>
      cases n with
      | zero => exact .some held
      | succ n =>
          rw [List.getElem?_cons_succ, List.getElem?_cons_succ]
          exact ih n

namespace Graph

theorem of_tied (alike : Matches w g h) (tied : a.Tied w b) :
    Option.Rel (Cell.Tied w) (g.of? a) (h.of? b) := by
  cases tied with
  | scalar s => exact .none
  | node known =>
      obtain ⟨c, d, one, two, held⟩ := alike.cells _ _ known
      change Option.Rel _ (g.cell? _) (h.cell? _)
      rw [one, two]
      exact .some held

theorem entries_tied (alike : Matches w g h) (tied : a.Tied w b) :
    Option.Rel (List.Forall₂ (EntryTied w)) (g.entries? a) (h.entries? b) := by
  have there := of_tied alike tied
  unfold entries?
  generalize g.of? a = one at there ⊢
  generalize h.of? b = two at there ⊢
  cases there with
  | none => exact .none
  | some held =>
      cases held with
      | map each => exact .some each
      | list _ => exact .none
      | set _ => exact .none
      | pair _ _ => exact .none

theorem is_map_tied (alike : Matches w g h) (tied : a.Tied w b) : g.isMap a = h.isMap b := by
  have there := entries_tied alike tied
  unfold isMap
  generalize g.entries? a = one at there ⊢
  generalize h.entries? b = two at there ⊢
  cases there <;> rfl

theorem matches_nothing (g h : Graph) : Matches (fun _ _ => False) g h :=
  ⟨fun _ _ known => known.elim, fun _ _ _ _ known => known.elim⟩

theorem matches_more (alike : Matches w g h)
    (kept : ∀ i j, w i j → g'.cell? i = g.cell? i ∧ h'.cell? j = h.cell? j)
    (cells : ∀ i j, v i j → ∃ c d, g'.cell? i = some c ∧ h'.cell? j = some d ∧
      c.Tied (fun i j => w i j ∨ v i j) d)
    (one : ∀ i j i' j', v i j → v i' j' → (i = i' ↔ j = j'))
    (apart : ∀ i j i' j', w i j → v i' j' → i ≠ i' ∧ j ≠ j') :
    Matches (fun i j => w i j ∨ v i j) g' h' := by
  constructor
  · rintro i j (old | new)
    · obtain ⟨c, d, here, there, tied⟩ := alike.cells i j old
      obtain ⟨same, same'⟩ := kept i j old
      exact ⟨c, d, same.trans here, same'.trans there, cell_tied_imp (fun _ _ => .inl) tied⟩
    · exact cells i j new
  · rintro i j i' j' (old | new) (old' | new')
    · exact alike.one i j i' j' old old'
    · obtain ⟨one, two⟩ := apart i j i' j' old new'
      exact iff_of_false one two
    · obtain ⟨one, two⟩ := apart i' j' i j old' new
      exact iff_of_false one.symm two.symm
    · exact one i j i' j' new new'

theorem matches_inside (alike : Matches w g h) {i j : Nat} (known : w i j) : i < g.size ∧ j < h.size := by
  obtain ⟨_, _, here, there, _⟩ := alike.cells i j known
  exact ⟨cell_inside here, cell_inside there⟩

theorem matches_add (alike : Matches w g h) {c d : Cell} (tied : c.Tied w d) :
    Matches (fun i j => w i j ∨ i = g.size ∧ j = h.size) (g.add c).1 (h.add d).1 := by
  refine matches_more alike (fun i j old => ?_) ?_ ?_ fun i j i' j' old new => ?_
  · obtain ⟨one, two⟩ := matches_inside alike old
    exact ⟨by rw [add_cell, if_neg (Nat.ne_of_lt one)], by rw [add_cell, if_neg (Nat.ne_of_lt two)]⟩
  · rintro i j ⟨rfl, rfl⟩
    exact ⟨c, d, by rw [add_cell, if_pos rfl], by rw [add_cell, if_pos rfl],
      cell_tied_imp (fun _ _ => .inl) tied⟩
  · rintro i j i' j' ⟨rfl, rfl⟩ ⟨rfl, rfl⟩
    exact iff_of_true rfl rfl
  · obtain ⟨one, two⟩ := matches_inside alike old
    obtain ⟨rfl, rfl⟩ := new
    exact ⟨Nat.ne_of_lt one, Nat.ne_of_lt two⟩

theorem set_cell (g : Graph) {i : Nat} (inside : i < g.size) (cell : Cell) (k : Nat) :
    (g.set i cell).cell? k = if i = k then some cell else g.cell? k := by
  change (g.cells.setIfInBounds i cell)[k]? = _
  rw [Array.getElem?_setIfInBounds]
  split
  · exact if_pos inside
  · rfl

theorem matches_set (alike : Matches w g h) {i j : Nat} (known : w i j) {c d : Cell} (tied : c.Tied w d) :
    Matches w (g.set i c) (h.set j d) := by
  obtain ⟨_, _, here, there, _⟩ := alike.cells i j known
  refine ⟨fun i' j' known' => ?_, alike.one⟩
  rw [set_cell g (cell_inside here), set_cell h (cell_inside there)]
  have same := alike.one i j i' j' known known'
  by_cases changed : i = i'
  · rw [if_pos changed, if_pos (same.mp changed)]
    exact ⟨c, d, rfl, rfl, tied⟩
  · rw [if_neg changed, if_neg fun absurd => changed (same.mpr absurd)]
    exact alike.cells i' j' known'

def Placed (h : Graph) (item : Item) (m n : Nat) (i j : Nat) : Prop :=
  ∃ k, h.Within item k ∧ i = m + k ∧ j = n + k

theorem placed_item {made : Graph} {item part : Item} {m n : Nat}
    (within : ∀ k, part = .node k → made.Within item k) :
    (part.behind m).Tied (Placed made item m n) (part.behind n) := by
  cases part with
  | scalar s => exact .scalar s
  | node k => exact .node ⟨k, within k rfl, rfl, rfl⟩

theorem placed_root (w : Ties) (made : Graph) (item : Item) (m n : Nat) :
    (item.behind m).Tied (fun i j => w i j ∨ Placed made item m n i j) (item.behind n) :=
  tied_imp (fun _ _ => .inr) (placed_item fun _ => .self)

theorem placed_cell {made : Graph} {item : Item} {m n k : Nat} {cell : Cell}
    (within : made.Within item k) (held : made.cell? k = some cell) :
    (cell.replace (Item.behind m)).Tied (Placed made item m n) (cell.replace (Item.behind n)) := by
  have each (part : Item) (inside : part ∈ cell.parts) :
      (part.behind m).Tied (Placed made item m n) (part.behind n) :=
    placed_item fun _ is => .part within held (is ▸ inside)
  cases cell with
  | list items =>
      refine .list (List.forall₂_map_left_iff.mpr (List.forall₂_map_right_iff.mpr ?_))
      exact List.forall₂_same.mpr each
  | map entries =>
      refine .map (List.forall₂_map_left_iff.mpr (List.forall₂_map_right_iff.mpr ?_))
      exact List.forall₂_same.mpr fun entry member => ⟨rfl, each _ (List.mem_map_of_mem member)⟩
  | set members => exact .set members
  | pair first second => exact .pair (each first (by simp [Cell.parts])) (each second (by simp [Cell.parts]))

def Lies (g : Graph) (n : Nat) (made : Graph) (item : Item) : Prop :=
  ∀ k, made.Within item k → g.cell? (n + k) = (made.cell? k).map (·.replace (Item.behind n))

theorem before_lies (g made : Graph) (item : Item) : Lies (g.before made) g.size made item :=
  fun k _ => before_cell g made k

theorem lies_within {made : Graph} {item : Item} {n k : Nat} (lies : Lies g n made item)
    (within : made.Within item k) : g.Within (item.behind n) (n + k) := by
  induction within with
  | self is =>
      subst is
      exact .self rfl
  | part around held inside ih =>
      have there := lies _ around
      rw [held] at there
      refine .part ih there ?_
      rw [parts_replace]
      exact List.mem_map_of_mem inside

theorem placed_one {made : Graph} {item : Item} {m n i j i' j' : Nat} (one : Placed made item m n i j)
    (two : Placed made item m n i' j') : i = i' ↔ j = j' := by
  obtain ⟨k, _, rfl, rfl⟩ := one
  obtain ⟨k', _, rfl, rfl⟩ := two
  omega

theorem matches_placed {made : Graph} {item : Item} {m n : Nat} (alike : Matches w g h)
    (added : empty.Adds made [item])
    (kept : ∀ i j, w i j → g'.cell? i = g.cell? i ∧ h'.cell? j = h.cell? j)
    (here : Lies g' m made item) (there : Lies h' n made item)
    (apart : ∀ i j k, w i j → made.Within item k → i ≠ m + k ∧ j ≠ n + k) :
    Matches (fun i j => w i j ∨ Placed made item m n i j) g' h' := by
  refine matches_more alike kept ?_ (fun i j i' j' => placed_one) ?_
  · rintro i j ⟨k, within, rfl, rfl⟩
    have inside := (adds_within added within).2
    have held : made.cell? k = some made.cells[k] := Array.getElem?_eq_getElem inside
    have one := here k within
    have two := there k within
    rw [held] at one two
    exact ⟨_, _, one, two, cell_tied_imp (fun _ _ => .inr) (placed_cell within held)⟩
  · rintro i j i' j' old ⟨k, within, rfl, rfl⟩
    exact apart i j k old within

theorem matches_before {made : Graph} {item : Item} (alike : Matches w g h)
    (added : empty.Adds made [item]) :
    Matches (fun i j => w i j ∨ Placed made item g.size h.size i j) (g.before made) (h.before made) := by
  refine matches_placed alike added (fun i j old => ?_) (before_lies g made item) (before_lies h made item)
    fun i j k old _ => ?_
  · obtain ⟨one, two⟩ := matches_inside alike old
    exact ⟨before_first g made one, before_first h made two⟩
  · obtain ⟨one, two⟩ := matches_inside alike old
    omega

theorem not_placed {made : Graph} {item : Item} {m n i j : Nat} (below : j < n) :
    ¬ Placed made item m n i j := by
  rintro ⟨k, _, _, rfl⟩
  omega

end Graph

namespace Pointer

theorem follow_tied (alike : Graph.Matches w g h) (tied : a.Tied w b) (step : List Char) :
    Option.Rel (Item.Tied w) (follow? g a step) (follow? h b step) := by
  have there := Graph.of_tied alike tied
  unfold follow?
  generalize g.of? a = one at there ⊢
  generalize h.of? b = two at there ⊢
  cases there with
  | none => exact .none
  | some held =>
      cases held with
      | map each => exact lookup_tied each _
      | @list xs ys each =>
          dsimp only
          rw [each.length_eq]
          cases position? ys.length (unescape step) with
          | none => exact .none
          | some n => exact item_tied each n
      | set _ => exact .none
      | pair _ _ => exact .none

theorem steps_tied (alike : Graph.Matches w g h) (tied : a.Tied w b) (path : List (List Char)) :
    Option.Rel (Item.Tied w) (path.foldlM (follow? g) a) (path.foldlM (follow? h) b) := by
  induction path generalizing a b with
  | nil => exact .some tied
  | cons step rest ih =>
      rw [List.foldlM_cons, List.foldlM_cons]
      have first := follow_tied alike tied step
      generalize follow? g a step = one at first ⊢
      generalize follow? h b step = two at first ⊢
      cases first with
      | none => exact .none
      | some onward => exact ih onward

theorem resolve_tied (alike : Graph.Matches w g h) (tied : a.Tied w b) (pointer : String) :
    Option.Rel (Item.Tied w) (resolve? g a pointer) (resolve? h b pointer) := by
  unfold resolve?
  split
  · exact .some tied
  · exact steps_tied alike tied _

end Pointer

theorem contains_tied (alike : Graph.Matches w g h) {path path' : List Nat}
    (around : List.Forall₂ w path path') {i j : Nat} (known : w i j) :
    path.contains i = path'.contains j := by
  induction around with
  | nil => rfl
  | @cons k l _ _ held _ ih =>
      have same := alike.one i j k l known held
      rw [List.contains_cons, List.contains_cons, ih]
      congr 1
      exact Bool.eq_iff_iff.mpr (by simpa using same)

theorem map_tied {α β γ : Type} {related : α → β → Prop} {f : α → γ} {f' : β → γ} {xs : List α}
    {ys : List β} (each : List.Forall₂ related xs ys) (same : ∀ x y, related x y → f x = f' y) :
    xs.map f = ys.map f' := by
  induction each with
  | nil => rfl
  | cons held _ ih => rw [List.map_cons, List.map_cons, same _ _ held, ih]

theorem value_tied (alike : Graph.Matches w g h) (fuel : Nat) {path path' : List Nat}
    (around : List.Forall₂ w path path') (tied : a.Tied w b) :
    g.valueWithin fuel path a = h.valueWithin fuel path' b := by
  induction fuel generalizing path path' a b with
  | zero => cases tied <;> rfl
  | succ fuel ih =>
      cases tied with
      | scalar s => rfl
      | @node i j known =>
          obtain ⟨c, d, here, there, held⟩ := alike.cells i j known
          rw [Graph.valueWithin, Graph.valueWithin, here, there]
          dsimp only
          rw [contains_tied alike around known]
          have inner {x y : Item} (tied : x.Tied w y) := ih (.cons known around) tied
          cases held with
          | list each =>
              dsimp only
              rw [map_tied each fun _ _ => inner]
          | map each =>
              have entry (x y : Scalar × Item) (held : EntryTied w x y) :
                  (x.1, g.valueWithin fuel (i :: path) x.2) = (y.1, h.valueWithin fuel (j :: path') y.2) :=
                Prod.ext held.1 (inner held.2)
              dsimp only
              rw [map_tied each entry]
          | set members => rfl
          | pair first second =>
              dsimp only
              rw [inner first, inner second]

theorem path_short {path : List Nat} {n : Nat} (distinct : path.Nodup) (inside : ∀ i ∈ path, i < n) :
    path.length ≤ n := by
  have among : path ⊆ List.range n := fun i member => List.mem_range.mpr (inside i member)
  have short := (List.subperm_of_subset distinct among).length_le
  rwa [List.length_range] at short

-- A path does not enter a container twice, so it ends before the fuel does.
theorem value_settled (g : Graph) (fuel fuel' : Nat) {path : List Nat} (distinct : path.Nodup)
    (inside : ∀ i ∈ path, i < g.size) (enough : g.size < fuel + path.length)
    (enough' : g.size < fuel' + path.length) (item : Item) :
    g.valueWithin fuel path item = g.valueWithin fuel' path item := by
  induction fuel generalizing fuel' path item with
  | zero =>
      have short := path_short distinct inside
      omega
  | succ fuel ih =>
      cases fuel' with
      | zero =>
          have short := path_short distinct inside
          omega
      | succ fuel' =>
          cases item with
          | scalar s => rfl
          | node id =>
              rw [Graph.valueWithin, Graph.valueWithin]
              cases held : g.cell? id with
              | none => rfl
              | some cell =>
                  dsimp only
                  split
                  · rfl
                  next outside =>
                    have new : id ∉ path := by simpa using outside
                    have same : g.valueWithin fuel (id :: path) = g.valueWithin fuel' (id :: path) := by
                      refine funext fun item => ih fuel' (List.nodup_cons.mpr ⟨new, distinct⟩) ?_ ?_ ?_ item
                      · intro i member
                        obtain rfl | old := List.mem_cons.mp member
                        · exact Graph.cell_inside held
                        · exact inside i old
                      · rw [List.length_cons]
                        omega
                      · rw [List.length_cons]
                        omega
                    rw [same]

theorem alike_up_to {d e : Document} (alike : d.Alike e) (depth : Nat) : d.upTo depth = e.upTo depth := by
  obtain ⟨w, alike, tied⟩ := alike
  exact value_tied alike depth .nil tied

theorem alike_value {d e : Document} (alike : d.Alike e) : d.value = e.value := by
  have settled (d : Document) (depth : Nat) (deep : d.graph.size < depth) : d.value = d.upTo depth :=
    value_settled d.graph _ _ List.nodup_nil nofun (by simp) (by simpa using deep) d.root
  rw [settled d (d.graph.size + e.graph.size + 1) (by omega),
    settled e (d.graph.size + e.graph.size + 1) (by omega)]
  exact alike_up_to alike _

end ApiSchema
