import ApiSchema.Proofs.Control.Beside
import ApiSchema.Proofs.Document.Behind
import ApiSchema.Proofs.Yaml.Load

namespace ApiSchema.Yaml

open Bond

variable {g : Graph}

def Builder.behind (g : Graph) (b : Builder) : Builder where
  graph := g.before b.graph
  nodes := b.nodes
  made := b.made.map fun (id, item) => (id, item.behind g.size)
  waiting := b.waiting.map fun (id, item) => (id, item.behind g.size)

def offset (g : Graph) : Bond Builder Builder Unit where
  holds _ b b' := b' = b.behind g
  grows _ _ := True
  refl _ := trivial
  trans _ _ := trivial

variable {start : Unit}

theorem same_malformed {α β : Type} {post : Unit → α → β → Prop} :
    (offset g).Beside start Builder.malformed Builder.malformed post :=
  beside_throw _

theorem same_node_at (id : Nat) :
    (offset g).Beside start (Builder.nodeAt id) (Builder.nodeAt id) fun _ n n' => n = n' := by
  refine beside_get fun _ b b' _ held => ?_
  subst held
  exact beside_pure fun _ _ => rfl

theorem same_set_node (id : Nat) (node : Node) :
    (offset g).Beside start (Builder.setNode id node) (Builder.setNode id node) fun _ _ _ => True := by
  refine beside_modify fun _ b b' _ held => ⟨(), trivial, ?_, trivial⟩
  subst held
  rfl

theorem same_text_within (fuel id : Nat) :
    (offset g).Beside start (Builder.textWithin fuel id) (Builder.textWithin fuel id)
      fun _ t t' => t = t' := by
  induction fuel generalizing id start with
  | zero => exact same_malformed
  | succ fuel ih =>
      refine beside_bind (same_node_at id) fun _ node _ _ same => ?_
      subst same
      cases node.content with
      | scalar text => exact beside_pure fun _ _ => rfl
      | sequence items => exact same_malformed
      | mapping entries =>
          refine beside_bind ?_ fun _ found found' _ (same : found = found') => ?_
          · refine beside_loop entries (fun _ _ _ _ _ same => same) rfl fun entry _ _ _ _ same => ?_
            subst same
            refine beside_bind (same_node_at entry.1) fun _ key _ _ same => ?_
            subst same
            split
            · refine beside_bind (ih entry.2) fun _ text _ _ same => ?_
              subst same
              exact beside_pure fun _ _ => rfl
            · exact beside_pure fun _ _ => rfl
          · subst same
            obtain ⟨early, _⟩ := found
            cases early with
            | none => exact same_malformed
            | some text => exact beside_pure fun _ _ => rfl

theorem same_entries_at (id : Nat) :
    (offset g).Beside start (Builder.entriesAt id) (Builder.entriesAt id) fun _ n n' => n = n' := by
  refine beside_bind (same_node_at id) fun _ node _ _ same => ?_
  subst same
  cases node.content with
  | mapping entries => exact beside_pure fun _ _ => rfl
  | scalar text => exact same_malformed
  | sequence items => exact same_malformed

theorem same_sequence_at (id : Nat) :
    (offset g).Beside start (Builder.sequenceAt id) (Builder.sequenceAt id) fun _ n n' => n = n' := by
  refine beside_bind (same_node_at id) fun _ node _ _ same => ?_
  subst same
  cases node.content with
  | sequence items => exact beside_pure fun _ _ => rfl
  | scalar text => exact same_malformed
  | mapping entries => exact same_malformed

theorem same_set_entries (id : Nat) (entries : List (Nat × Nat)) :
    (offset g).Beside start (Builder.setEntries id entries) (Builder.setEntries id entries)
      fun _ _ _ => True := by
  refine beside_bind (same_node_at id) fun _ node _ _ same => ?_
  subst same
  exact same_set_node id _

theorem same_flatten (fuel id index : Nat) (merged : List (Nat × Nat)) :
    (offset g).Beside start (Builder.flatten fuel id index merged) (Builder.flatten fuel id index merged)
      fun _ _ _ => True := by
  induction fuel generalizing id index merged start with
  | zero => exact same_malformed
  | succ fuel ih =>
      refine beside_bind (same_entries_at id) fun _ entries _ _ same => ?_
      subst same
      -- At the end of the entries; at a merge key; at any other key.
      split
      · split
        · exact same_set_entries id _
        · exact beside_pure fun _ _ => trivial
      next key value _ =>
        refine beside_bind (same_node_at key) fun _ keyNode _ _ same => ?_
        subst same
        split
        · refine beside_bind (same_set_entries id _) fun _ _ _ _ _ => ?_
          refine beside_bind (same_node_at value) fun _ node _ _ same => ?_
          subst same
          cases node.content with
          | mapping inner =>
              refine beside_bind (ih value 0 []) fun _ _ _ _ _ => ?_
              refine beside_bind (same_entries_at value) fun _ entries _ _ same => ?_
              subst same
              exact ih id index _
          | sequence items =>
              refine beside_bind ?_ fun _ parts parts' _ (same : parts = parts') => ?_
              · refine beside_loop items (fun _ _ _ _ _ same => same) rfl fun item _ _ _ _ same => ?_
                subst same
                refine beside_bind (same_entries_at item) fun _ _ _ _ _ => ?_
                refine beside_bind (ih item 0 []) fun _ _ _ _ _ => ?_
                refine beside_bind (same_entries_at item) fun _ entries _ _ same => ?_
                subst same
                exact beside_pure fun _ _ => rfl
              · subst same
                exact ih id index _
          | scalar text => exact same_malformed
        · refine beside_bind (same_node_at key) fun _ node _ _ same => ?_
          subst same
          exact beside_bind (same_set_node key _) fun _ _ _ _ _ => ih id (index + 1) merged
        · exact ih id (index + 1) merged

theorem same_merge_fuel :
    (offset g).Beside start Builder.mergeFuel Builder.mergeFuel fun _ n n' => n = n' := by
  refine beside_get fun _ b b' _ held => ?_
  subst held
  exact beside_pure fun _ _ => rfl

theorem same_add_empty (id : Nat) {cell : Cell} (empty : cell.replace (Item.behind g.size) = cell) :
    (offset g).Beside start (Builder.addEmpty id cell) (Builder.addEmpty id cell)
      fun _ item item' => item' = item.behind g.size := by
  intro _ b b' _ held
  subst held
  have added := Graph.before_add g b.graph cell
  rw [empty] at added
  have reached := congrArg (fun made : Graph × Item => Builder.mk made.1 b.nodes
    ((id, made.2) :: (b.behind g).made) ((b.behind g).waiting ++ [(id, made.2)])) added
  refine ⟨(), trivial, reached.trans ?_, congrArg Prod.snd added⟩
  simp [Builder.behind, Graph.add]

theorem same_note_made (id : Nat) (s : Scalar) :
    (offset g).Beside start (Builder.noteMade id (.scalar s)) (Builder.noteMade id (.scalar s))
      fun _ _ _ => True := by
  refine beside_modify fun _ b b' _ held => ⟨(), trivial, ?_, trivial⟩
  subst held
  rfl

theorem lookup_behind (made : List (Nat × Item)) (id n : Nat) :
    (made.map fun (id, item) => (id, item.behind n)).lookup id = (made.lookup id).map (Item.behind n) := by
  induction made with
  | nil => rfl
  | cons first rest ih =>
      rw [List.map_cons, List.lookup_cons, List.lookup_cons]
      split
      · rfl
      · exact ih

theorem same_make (id : Nat) : (offset g).Beside start (Builder.make id) (Builder.make id)
    fun _ item item' => item' = item.behind g.size := by
  refine beside_get fun _ b b' _ held => ?_
  subst held
  have looked : (b.behind g).made.lookup id = (b.made.lookup id).map (Item.behind g.size) :=
    lookup_behind b.made id g.size
  rw [looked]
  cases b.made.lookup id with
  | some item => exact beside_pure fun _ _ => rfl
  | none =>
    refine beside_bind (same_node_at id) fun _ node _ _ same => ?_
    subst same
    dsimp only
    split
    · exact same_add_empty id rfl
    · exact same_add_empty id rfl
    · exact same_add_empty id rfl
    · exact same_add_empty id rfl
    · exact same_add_empty id rfl
    · exact same_malformed
    · exact same_malformed
    · exact same_malformed
    · refine beside_get fun _ c c' _ held => ?_
      subst held
      refine beside_bind (same_text_within _ id) fun _ text _ _ same => ?_
      subst same
      refine beside_bind (beside_of_except _) fun _ s _ _ same => ?_
      subst same
      exact beside_bind (same_note_made id s) fun _ _ _ _ _ => beside_pure fun _ _ => rfl

/-- Entries of a graph that is put behind others. -/
def entriesBehind (n : Nat) (entries : Entries) : Entries := entries.map fun (key, item) => (key, item.behind n)

theorem insert_behind (n : Nat) (entries : Entries) (key : Scalar) (item : Item) :
    insertEntry (entriesBehind n entries) key (item.behind n) =
      entriesBehind n (insertEntry entries key item) := by
  induction entries with
  | nil => rfl
  | cons first rest ih =>
      obtain ⟨k, old⟩ := first
      change (if k.same key then _ else _) = entriesBehind n (if k.same key then _ else _)
      split
      · rfl
      · exact congrArg ((k, old.behind n) :: ·) ih

theorem same_map_entries (id : Nat) :
    (offset g).Beside start (Builder.mapEntries id) (Builder.mapEntries id)
      fun _ entries entries' => entries' = entriesBehind g.size entries := by
  refine beside_bind (same_entries_at id) fun _ _ _ _ _ => ?_
  refine beside_bind same_merge_fuel fun _ fuel _ _ same => ?_
  subst same
  refine beside_bind (same_flatten fuel id 0 []) fun _ _ _ _ _ => ?_
  refine beside_bind (same_entries_at id) fun _ entries _ _ same => ?_
  subst same
  refine beside_bind ?_ fun _ done done' _ (same : done' = entriesBehind g.size done) =>
    beside_pure fun _ _ => same
  refine beside_loop entries (fun _ _ _ _ _ same => same) rfl fun entry _ _ _ _ same => ?_
  subst same
  refine beside_bind (same_make entry.1) fun _ key _ _ same => ?_
  subst same
  cases key with
  | node j => exact same_malformed
  | scalar s =>
      refine beside_bind (same_make entry.2) fun _ value _ _ same => ?_
      subst same
      exact beside_pure fun _ _ => insert_behind _ _ s value

theorem same_pair_of (id : Nat) : (offset g).Beside start (Builder.pairOf id) (Builder.pairOf id)
    fun _ item item' => item' = item.behind g.size := by
  refine beside_bind (same_entries_at id) fun _ entries _ _ same => ?_
  subst same
  split
  next key value =>
    refine beside_bind (same_make key) fun _ first _ _ same => ?_
    subst same
    refine beside_bind (same_make value) fun _ second _ _ same => ?_
    subst same
    intro _ b b' _ held
    subst held
    have added := Graph.before_add g b.graph (.pair first second)
    refine ⟨(), trivial, ?_, congrArg Prod.snd added⟩
    change Builder.mk _ _ _ _ = Builder.behind g (Builder.mk _ _ _ _)
    exact congrArg (fun made : Graph × Item => Builder.mk made.1 _ _ _) added
  next => exact same_malformed

theorem same_put (cell : Cell) (item : Item) :
    (offset g).Beside start
      (match item with
        | .node n => modify fun b : Builder => { b with graph := b.graph.set n cell }
        | .scalar _ => pure () : Building Unit)
      (match item.behind g.size with
        | .node n => modify fun b : Builder =>
            { b with graph := b.graph.set n (cell.replace (Item.behind g.size)) }
        | .scalar _ => pure () : Building Unit) fun _ _ _ => True := by
  cases item with
  | scalar s => exact beside_pure fun _ _ => trivial
  | node n =>
      refine beside_modify fun _ b b' _ held => ⟨(), trivial, ?_, trivial⟩
      subst held
      change Builder.mk _ _ _ _ = Builder.behind g (Builder.mk _ _ _ _)
      exact congrArg (fun graph => Builder.mk graph _ _ _) (Graph.before_set g b.graph n cell)

theorem same_fill (id : Nat) (item : Item) :
    (offset g).Beside start (Builder.fill id item) (Builder.fill id (item.behind g.size))
      fun _ _ _ => True := by
  refine beside_bind (same_node_at id) fun _ node _ _ same => ?_
  subst same
  have listed {read : Nat → Building Item} {start : Unit}
      (each : ∀ {start} id, (offset g).Beside start (read id) (read id)
        fun _ item item' => item' = item.behind g.size) :
      (offset g).Beside start (Cell.list <$> (do (← Builder.sequenceAt id).mapM read))
        (Cell.list <$> (do (← Builder.sequenceAt id).mapM read))
        fun _ cell cell' => cell' = cell.replace (Item.behind g.size) := by
    refine beside_map (beside_bind (same_sequence_at id) fun _ items _ _ same => ?_)
    subst same
    refine beside_weaken (beside_each items (fun _ _ _ _ _ same => same) fun a _ _ => each a) ?_
    intro _ made made' _ all
    refine congrArg Cell.list ?_
    induction all with
    | nil => rfl
    | cons same _ ih => rw [List.map_cons, same, ih]
  have mapped {start : Unit} : (offset g).Beside start (Cell.map <$> Builder.mapEntries id)
      (Cell.map <$> Builder.mapEntries id)
      fun _ cell cell' => cell' = cell.replace (Item.behind g.size) :=
    beside_map (beside_weaken (same_map_entries id) fun _ _ _ _ same => congrArg Cell.map same)
  have keyed {start : Unit} : (offset g).Beside start
      ((fun entries : Entries => Cell.set (entries.map (·.1))) <$> Builder.mapEntries id)
      ((fun entries : Entries => Cell.set (entries.map (·.1))) <$> Builder.mapEntries id)
      fun _ cell cell' => cell' = cell.replace (Item.behind g.size) := by
    refine beside_map (beside_weaken (same_map_entries id) fun _ entries _ _ same => ?_)
    subst same
    simp [entriesBehind, Cell.replace]
  have put {start : Unit} (cell cell' : Cell) (same : cell' = cell.replace (Item.behind g.size)) :
      (offset g).Beside start (match item with
        | .node n => modify fun b : Builder => { b with graph := b.graph.set n cell }
        | .scalar _ => pure () : Building Unit) (match item.behind g.size with
        | .node n => modify fun b : Builder => { b with graph := b.graph.set n cell' }
        | .scalar _ => pure () : Building Unit) fun _ _ _ => True := by
    subst same
    exact same_put cell item
  dsimp only
  -- By the kind of the node: a map, a set, a list or a list of pairs.
  split
  · exact beside_bind mapped fun _ cell cell' _ => put cell cell'
  · exact beside_bind keyed fun _ cell cell' _ => put cell cell'
  · exact beside_bind (listed same_make) fun _ cell cell' _ => put cell cell'
  · exact beside_bind (listed same_pair_of) fun _ cell cell' _ => put cell cell'

theorem same_fill_all (fuel : Nat) :
    (offset g).Beside start (Builder.fillAll fuel) (Builder.fillAll fuel) fun _ _ _ => True := by
  induction fuel generalizing start with
  | zero => exact beside_pure fun _ _ => trivial
  | succ fuel ih =>
      refine beside_get fun _ b b' _ held => ?_
      subst held
      cases waits : b.waiting with
      | nil =>
          simp only [Builder.behind, waits, List.map_nil]
          exact beside_pure fun _ _ => trivial
      | cons first rest =>
          obtain ⟨id, item⟩ := first
          simp only [Builder.behind, waits, List.map_cons]
          refine beside_bind (beside_modify fun _ c c' _ held => ⟨(), trivial, ?_, trivial⟩)
            fun _ _ _ _ (_ : True) => beside_bind (same_fill id item) fun _ _ _ _ _ => ih
          subst held
          rfl

theorem same_build (root : Nat) : (offset g).Beside start (Builder.build root) (Builder.build root)
    fun _ item item' => item' = item.behind g.size := by
  refine beside_bind (same_make root) fun _ item _ _ same => ?_
  subst same
  refine beside_get fun _ b b' _ held => ?_
  subst held
  exact beside_bind (same_fill_all _) fun _ _ _ _ _ => beside_pure fun _ _ => rfl

-- A text is malformed whatever the graph holds, or adds the same containers to every graph.
theorem load_uniform (text : String) (depth : Nat) : (∃ fault, ∀ g, load g text depth = .error fault) ∨
    ∃ h item, Graph.empty.Adds h [item] ∧
      ∀ g, load g text depth = .ok (g.before h, item.behind g.size) := by
  cases composed : compose text depth with
  | error fault =>
      refine .inl ⟨fault, fun g => ?_⟩
      rw [load, composed]
      rfl
  | ok made =>
      obtain ⟨nodes, root⟩ := made
      cases root with
      | none =>
          refine .inr ⟨.empty, .null, { Graph.adds_nothing _ with items := by simp }, fun g => ?_⟩
          rw [load, composed, Graph.before_empty]
          rfl
      | some root =>
          have started (g : Graph) : Builder.behind g { graph := .empty, nodes } =
              { graph := g, nodes } := by
            rw [Builder.behind, Graph.before_empty]
            rfl
          -- Built in any graph, the nodes give what they give in the empty one, put behind that graph.
          have same (g : Graph) : (offset g).Beside () _ _ _ := same_build root
          have came (g : Graph) := same g () { graph := .empty, nodes } { graph := g, nodes } trivial
            (started g).symm
          have stopped {g : Graph} {fault : LoadFault} {b : Builder}
              (ran : (Builder.build root).run.run { graph := g, nodes } = (.error fault, b)) :
              load g text depth = .error fault := by
            rw [load, composed]
            simp only [bind, Except.bind, ran]
            rfl
          have loaded {g : Graph} {item : Item} {b : Builder}
              (ran : (Builder.build root).run.run { graph := g, nodes } = (.ok item, b)) :
              load g text depth = .ok (b.graph, item) := by
            rw [load, composed]
            simp only [bind, Except.bind, ran]
            rfl
          cases built : (Builder.build root).run.run { graph := .empty, nodes } with
          | mk result b =>
              cases result with
              | error fault =>
                  refine .inl ⟨fault, fun g => ?_⟩
                  obtain ⟨_, same⟩ := outcome_error (built ▸ came g)
                  exact stopped same
              | ok item =>
                  refine .inr ⟨b.graph, item, load_adds (loaded built), fun g => ?_⟩
                  obtain ⟨item', b', _, same, _, rfl, rfl⟩ := outcome_ok (built ▸ came g)
                  exact loaded same

end ApiSchema.Yaml
