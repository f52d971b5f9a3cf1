import ApiSchema.Proofs.Check.Record
import ApiSchema.Proofs.Control.Keeps
import ApiSchema.Proofs.Document.Within
import ApiSchema.Yaml.Load

namespace ApiSchema.Yaml

open Regime

variable {g : Graph}

def New (g : Graph) (b : Builder) (item : Item) : Prop :=
  ∀ j, item = .node j → g.size ≤ j ∧ j < b.graph.size

structure Fresh (g : Graph) (b : Builder) : Prop where
  graph : g.Adds b.graph []
  made : ∀ entry ∈ b.made, New g b entry.2
  waiting : ∀ entry ∈ b.waiting, New g b entry.2

def reading (g : Graph) : Regime Builder LoadFault where
  holds := Fresh g
  grows b b' := b.graph.size ≤ b'.graph.size
  faults _ := True
  refl _ := Nat.le_refl _
  trans := Nat.le_trans

variable {b b' start : Builder} {item : Item}

theorem new_later (new : New g b item) (later : b.graph.size ≤ b'.graph.size) : New g b' item := by
  intro j is
  have reached := new j is
  omega

theorem new_scalar (s : Scalar) : New g b (.scalar s) := by
  intro j is
  cases is

-- A change of the nodes alone.
theorem keeps_nodes (change : Builder → Array Node) :
    (reading g).Keeps start (modify fun b => { b with nodes := change b }) fun _ _ => True :=
  keeps_modify fun _ fresh _ => ⟨⟨fresh.graph, fresh.made, fresh.waiting⟩, Nat.le_refl _, trivial⟩

theorem keeps_malformed {α : Type} {post : α → Builder → Prop} :
    (reading g).Keeps start Builder.malformed post :=
  keeps_throw trivial

theorem keeps_node_at (id : Nat) : (reading g).Keeps start (Builder.nodeAt id) fun _ _ => True :=
  keeps_get fun _ _ _ => keeps_pure fun _ _ => trivial

theorem keeps_set_node (id : Nat) (node : Node) :
    (reading g).Keeps start (Builder.setNode id node) fun _ _ => True :=
  keeps_nodes _

theorem keeps_text_within (fuel id : Nat) :
    (reading g).Keeps start (Builder.textWithin fuel id) fun _ _ => True := by
  induction fuel generalizing id start with
  | zero => exact keeps_malformed
  | succ fuel ih =>
      refine keeps_bind (keeps_node_at id) fun node c _ _ => ?_
      cases node.content with
      | scalar text => exact keeps_pure fun _ _ => trivial
      | sequence items => exact keeps_malformed
      | mapping entries =>
          refine keeps_bind ?_ fun found _ _ (_ : True) => ?_
          · refine keeps_loop entries _ trivial (fun _ _ _ _ _ => trivial) fun entry _ _ _ _ _ => ?_
            refine keeps_bind (keeps_node_at entry.1) fun key _ _ _ => ?_
            split
            · exact keeps_bind (ih entry.2) fun _ _ _ _ => keeps_pure fun _ _ => trivial
            · exact keeps_pure fun _ _ => trivial
          · obtain ⟨early, _⟩ := found
            cases early with
            | none => exact keeps_malformed
            | some text => exact keeps_pure fun _ _ => trivial

theorem keeps_entries_at (id : Nat) : (reading g).Keeps start (Builder.entriesAt id) fun _ _ => True := by
  refine keeps_bind (keeps_node_at id) fun node _ _ _ => ?_
  cases node.content with
  | mapping entries => exact keeps_pure fun _ _ => trivial
  | scalar text => exact keeps_malformed
  | sequence items => exact keeps_malformed

theorem keeps_sequence_at (id : Nat) :
    (reading g).Keeps start (Builder.sequenceAt id) fun _ _ => True := by
  refine keeps_bind (keeps_node_at id) fun node _ _ _ => ?_
  cases node.content with
  | sequence items => exact keeps_pure fun _ _ => trivial
  | scalar text => exact keeps_malformed
  | mapping entries => exact keeps_malformed

theorem keeps_set_entries (id : Nat) (entries : List (Nat × Nat)) :
    (reading g).Keeps start (Builder.setEntries id entries) fun _ _ => True :=
  keeps_bind (keeps_node_at id) fun _ _ _ _ => keeps_set_node id _

theorem keeps_flatten (fuel id index : Nat) (merged : List (Nat × Nat)) :
    (reading g).Keeps start (Builder.flatten fuel id index merged) fun _ _ => True := by
  induction fuel generalizing id index merged start with
  | zero => exact keeps_malformed
  | succ fuel ih =>
      refine keeps_bind (keeps_entries_at id) fun entries _ _ _ => ?_
      split
      · split
        · exact keeps_set_entries id _
        · exact keeps_pure fun _ _ => trivial
      next key value _ =>
        refine keeps_bind (keeps_node_at key) fun keyNode _ _ _ => ?_
        split
        · refine keeps_bind (keeps_set_entries id _) fun _ _ _ _ => ?_
          refine keeps_bind (keeps_node_at value) fun node _ _ _ => ?_
          cases node.content with
          | mapping inner =>
              refine keeps_bind (ih value 0 []) fun _ _ _ _ => ?_
              exact keeps_bind (keeps_entries_at value) fun _ _ _ _ => ih id index _
          | sequence items =>
              refine keeps_bind ?_ fun _ _ _ (_ : True) => ih id index _
              refine keeps_loop items _ trivial (fun _ _ _ _ _ => trivial) fun item _ _ _ _ _ => ?_
              refine keeps_bind (keeps_entries_at item) fun _ _ _ _ => ?_
              refine keeps_bind (ih item 0 []) fun _ _ _ _ => ?_
              exact keeps_bind (keeps_entries_at item) fun _ _ _ _ => keeps_pure fun _ _ => trivial
          | scalar text => exact keeps_malformed
        · refine keeps_bind (keeps_node_at key) fun _ _ _ _ => ?_
          exact keeps_bind (keeps_set_node key _) fun _ _ _ _ => ih id (index + 1) merged
        · exact ih id (index + 1) merged

theorem keeps_merge_fuel : (reading g).Keeps start Builder.mergeFuel fun _ _ => True :=
  keeps_get fun _ _ _ => keeps_pure fun _ _ => trivial

-- One more container, made of new items.
theorem fresh_add (fresh : Fresh g b) (cell : Cell) (parts : ∀ part ∈ cell.parts, New g b part) :
    let b' : Builder := { b with graph := (b.graph.add cell).1 }
    Fresh g b' ∧ b.graph.size ≤ b'.graph.size ∧ New g b' (b.graph.add cell).2 := by
  intro b'
  have items : g.Adds b.graph cell.parts :=
    { fresh.graph with items := fun j member => parts _ member j rfl }
  have added := Graph.adds_container items fun _ inside => inside
  have later : b.graph.size ≤ b'.graph.size := by
    change b.graph.size ≤ (b.graph.add cell).1.size
    rw [Graph.add_size]
    omega
  exact ⟨⟨{ added with items := nofun }, fun entry member => new_later (fresh.made entry member) later,
    fun entry member => new_later (fresh.waiting entry member) later⟩, later,
    fun j is => added.items j (by simp [is])⟩

theorem keeps_add_empty (id : Nat) {cell : Cell} (empty : cell.parts = []) :
    (reading g).Keeps start (Builder.addEmpty id cell) fun item b => New g b item := by
  intro b fresh _
  obtain ⟨fresh', later, new⟩ := fresh_add fresh cell (by simp [empty])
  refine ⟨⟨fresh'.graph, fun entry member => ?_, fun entry member => ?_⟩, later, new⟩
  · obtain rfl | old := List.mem_cons.mp member
    · exact new
    · exact fresh'.made entry old
  · obtain old | last := List.mem_append.mp member
    · exact fresh'.waiting entry old
    · cases List.mem_singleton.mp last
      exact new

theorem keeps_note_made (id : Nat) (s : Scalar) :
    (reading g).Keeps start (Builder.noteMade id (.scalar s)) fun _ _ => True := by
  refine keeps_modify fun b fresh _ => ⟨⟨fresh.graph, fun entry member => ?_, fresh.waiting⟩,
    Nat.le_refl _, trivial⟩
  obtain rfl | old := List.mem_cons.mp member
  · exact new_scalar s
  · exact fresh.made entry old

theorem keeps_make (id : Nat) : (reading g).Keeps start (Builder.make id) fun item b => New g b item := by
  refine keeps_get fun b fresh _ => ?_
  split
  next item known =>
    obtain ⟨before, after, same, _⟩ := List.lookup_eq_some_iff.mp known
    have new : New g b item := fresh.made (id, item) (by simp [same])
    exact keeps_pure fun _ later => new_later new later
  next =>
    refine keeps_bind (keeps_node_at id) fun node _ _ _ => ?_
    split
    · exact keeps_add_empty id rfl
    · exact keeps_add_empty id rfl
    · exact keeps_add_empty id rfl
    · exact keeps_add_empty id rfl
    · exact keeps_add_empty id rfl
    · exact keeps_malformed
    · exact keeps_malformed
    · exact keeps_malformed
    · refine keeps_get fun c _ _ => ?_
      refine keeps_bind (keeps_text_within _ id) fun text _ _ _ => ?_
      refine keeps_bind (keeps_of_except (fun _ _ => trivial)
        fun _ _ _ _ => trivial) fun s _ _ (_ : True) => ?_
      exact keeps_bind (keeps_note_made id s) fun _ _ _ _ => keeps_pure fun _ _ => new_scalar s

theorem keeps_map_entries (id : Nat) : (reading g).Keeps start (Builder.mapEntries id)
    fun entries b => ∀ entry ∈ entries, New g b entry.2 := by
  refine keeps_bind (keeps_entries_at id) fun _ _ _ _ => ?_
  refine keeps_bind keeps_merge_fuel fun fuel _ _ _ => ?_
  refine keeps_bind (keeps_flatten fuel id 0 []) fun _ _ _ _ => ?_
  refine keeps_bind (keeps_entries_at id) fun entries _ _ _ => ?_
  refine keeps_bind ?_ fun done b _ (new : ∀ entry ∈ done, New g b entry.2) =>
    keeps_pure fun b' later entry member => new_later (new entry member) later
  refine keeps_loop entries [] (by simp) (fun done b b' later new entry member =>
    new_later (new entry member) later) fun entry done b _ _ new => ?_
  refine keeps_bind (keeps_make entry.1) fun key b₁ later₁ _ => ?_
  cases key with
  | node j => exact keeps_malformed
  | scalar s =>
      refine keeps_bind (keeps_make entry.2) fun value b₂ later₂ made => ?_
      refine keeps_pure fun b₃ later₃ inserted member => ?_
      obtain now | ⟨old, held, same⟩ := inserted_entry member
      · rw [now]
        exact new_later made later₃
      · rw [same]
        exact new_later (new old held) (Nat.le_trans later₁ (Nat.le_trans later₂ later₃))

theorem keeps_pair_of (id : Nat) : (reading g).Keeps start (Builder.pairOf id) fun item b => New g b item := by
  refine keeps_bind (keeps_entries_at id) fun entries _ _ _ => ?_
  split
  next key value =>
    refine keeps_bind (keeps_make key) fun first b₁ _ made₁ => ?_
    refine keeps_bind (keeps_make value) fun second b₂ later₂ made₂ => ?_
    intro b fresh later
    refine fresh_add fresh (.pair first second) fun part member => ?_
    simp only [Cell.parts, List.mem_cons, List.not_mem_nil, or_false] at member
    obtain rfl | rfl := member
    · exact new_later made₁ (Nat.le_trans later₂ later)
    · exact new_later made₂ later
  next => exact keeps_malformed

theorem keeps_set {n : Nat} {cell : Cell} (new : New g start (.node n))
    (parts : ∀ part ∈ cell.parts, New g start part) :
    (reading g).Keeps start (modify fun b : Builder => { b with graph := b.graph.set n cell })
      fun _ _ => True := by
  refine keeps_modify fun b fresh later => ?_
  have size : (b.graph.set n cell).size = b.graph.size := by simp [Graph.set, Graph.size]
  have elsewhere : ∀ i, i ≠ n → (b.graph.set n cell).cell? i = b.graph.cell? i :=
    fun i different => Array.getElem?_setIfInBounds_ne (Ne.symm different)
  have old := (new n rfl).1
  refine ⟨⟨⟨?_, fun i before => ?_, fun i inner j after held inside => ?_,
      fun j member => by cases member⟩,
    fun entry member => new_later (fresh.made entry member) (Nat.le_of_eq size.symm),
    fun entry member => new_later (fresh.waiting entry member) (Nat.le_of_eq size.symm)⟩,
    Nat.le_of_eq size.symm, trivial⟩
  · rw [size]
    exact fresh.graph.size
  · rw [elsewhere i (by omega), fresh.graph.before i before]
  · rw [size]
    by_cases here : i = n
    · subst here
      have same : inner = cell := by
        have below := Graph.cell_inside held
        rw [size] at below
        have set := Array.getElem?_setIfInBounds_self_of_lt (a := cell) below
        exact Option.some.inj (held.symm.trans set)
      subst same
      have reached := new_later (parts _ inside) later j rfl
      omega
    · rw [elsewhere i here] at held
      exact fresh.graph.parts i inner j after held inside

theorem keeps_put {cell : Cell} (new : New g start item) (parts : ∀ part ∈ cell.parts, New g start part) :
    (reading g).Keeps start (match item with
      | .node n => modify fun b : Builder => { b with graph := b.graph.set n cell }
      | .scalar _ => pure ()) fun _ _ => True := by
  cases item with
  | scalar s => exact keeps_pure fun _ _ => trivial
  | node n => exact keeps_set new parts

theorem keeps_fill (id : Nat) (new : New g start item) :
    (reading g).Keeps start (Builder.fill id item) fun _ _ => True := by
  refine keeps_bind (keeps_node_at id) fun node b later _ => ?_
  have put (cell : Cell) (b' : Builder) (later' : b.graph.size ≤ b'.graph.size)
      (parts : ∀ part ∈ cell.parts, New g b' part) :=
    keeps_put (new_later new (Nat.le_trans later later')) parts
  have listed {read : Nat → Building Item}
      (each : ∀ {start} id, (reading g).Keeps start (read id) fun item b => New g b item) :
      (reading g).Keeps b (Cell.list <$> (do (← Builder.sequenceAt id).mapM read)) fun cell b =>
        ∀ part ∈ cell.parts, New g b part := by
    refine keeps_map (keeps_bind (keeps_sequence_at id) fun items _ _ _ => ?_)
    refine keeps_weaken (keeps_each items
      (fun _ item b _ later (new : New g b item) => new_later new later) fun a _ _ _ => each a) ?_
    intro made b _ all part member
    obtain ⟨n, below, rfl⟩ := List.mem_iff_getElem.mp member
    obtain ⟨length, at_⟩ := List.forall₂_iff_get.mp all
    exact at_ n (length ▸ below) below
  have mapped : (reading g).Keeps b (Cell.map <$> Builder.mapEntries id) fun cell b =>
      ∀ part ∈ cell.parts, New g b part := by
    refine keeps_map (keeps_weaken (keeps_map_entries id) fun entries b _ parts part member => ?_)
    obtain ⟨entry, held, rfl⟩ := List.mem_map.mp member
    exact parts entry held
  have keyed : (reading g).Keeps b ((fun entries : Entries => Cell.set (entries.map (·.1))) <$>
      Builder.mapEntries id) fun cell b => ∀ part ∈ cell.parts, New g b part := by
    refine keeps_map (keeps_weaken (keeps_map_entries id) fun entries b _ _ part member => ?_)
    cases member
  dsimp only
  split
  · exact keeps_bind mapped put
  · exact keeps_bind keyed put
  · exact keeps_bind (listed keeps_make) put
  · exact keeps_bind (listed keeps_pair_of) put

theorem keeps_fill_all (fuel : Nat) : (reading g).Keeps start (Builder.fillAll fuel) fun _ _ => True := by
  induction fuel generalizing start with
  | zero => exact keeps_pure fun _ _ => trivial
  | succ fuel ih =>
      refine keeps_get fun b fresh _ => ?_
      split
      · exact keeps_pure fun _ _ => trivial
      next id item rest same =>
        have new := fresh.waiting (id, item) (by simp [same])
        refine keeps_bind (keeps_modify fun b' fresh' later => ?_)
          fun _ b' later (_ : True) => keeps_bind (keeps_fill id (new_later new later)) fun _ _ _ _ => ih
        refine ⟨⟨fresh'.graph, fresh'.made, fun entry member => ?_⟩, Nat.le_refl _, trivial⟩
        exact new_later (fresh.waiting entry (by simp [same, member])) later

-- What is read is new, and what was there before stays as it was.
theorem load_adds {g' : Graph} {text : String} {depth : Nat} (loaded : load g text depth = .ok (g', item)) :
    g.Adds g' [item] := by
  unfold load at loaded
  cases composed : compose text depth with
  | error fault =>
      rw [composed] at loaded
      cases loaded
  | ok made =>
      obtain ⟨nodes, root⟩ := made
      rw [composed] at loaded
      cases root with
      | none =>
          cases loaded
          exact { Graph.adds_nothing g with items := by simp }
      | some root =>
          have kept : (reading g).Keeps { graph := g, nodes } (Builder.build root) fun item b =>
              New g b item := by
            refine keeps_bind (keeps_make root) fun item b _ new => ?_
            refine keeps_get fun _ _ later => ?_
            refine keeps_bind (keeps_fill_all _) fun _ _ later' _ => ?_
            exact keeps_pure fun _ later'' =>
              new_later new (Nat.le_trans later (Nat.le_trans later' later''))
          have begun : Fresh g { graph := g, nodes } :=
            ⟨Graph.adds_nothing g, nofun, nofun⟩
          obtain ⟨fresh, _, new⟩ := kept _ begun (Nat.le_refl _)
          simp only [bind, Except.bind] at loaded
          split at loaded
          next item' b run =>
            rw [run] at fresh new
            cases loaded
            exact { fresh.graph with items := fun j member => new j (List.mem_singleton.mp member).symm }
          next => cases loaded

end ApiSchema.Yaml
