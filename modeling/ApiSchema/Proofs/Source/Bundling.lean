import ApiSchema.Proofs.Source.Frames

namespace ApiSchema

namespace Library

variable {s : Surround} {o : LoaderOptions} {b : Library} {start : Spot}
variable {l l' : Loader} {p q e : Spot} {frames frames' : List Frame} {x : Item}

structure Ready (s : Surround) (o : LoaderOptions) (b : Library) (start : Spot) (l : Loader)
    (frames : List Frame) (p : Spot) : Prop where
  housed : Housed s o [(start.location, start.item)] l
  known : Known start l p
  sound : b.Sound o start l frames
  around : ∀ f ∈ frames, b.Visits o f.spot p
  visits : b.Visits o start p
  entered : b.kind p.item = .map → b.Entered o start l p

structure Sees (b : Library) (start : Spot) (l : Loader) : Prop where
  documents : ∀ location item, l.documents.lookup location = some item →
    b.documents.lookup location = some item
  cells : ∀ location id, Belongs (roots start l) l.graph location id →
    b.graph.cell? id = l.graph.cell? id

theorem sees_before {n : Nat} (grown : Grows [(start.location, start.item)] n l l')
    (sees : b.Sees start l') : b.Sees start l where
  documents location item held := sees.documents location item (grown.documents location item held)
  cells location id belongs :=
    (sees.cells location id (belongs_later grown belongs)).trans (grown.kept location id belongs)

theorem of_seen (known : Known start l p) (sees : b.Sees start l) :
    b.graph.of? p.item = l.graph.of? p.item := by
  cases item : p.item with
  | scalar s => rfl
  | node id => exact sees.cells p.location id (known id item)

theorem gives_add {cell : Cell} :
    Gives (Loading.add cell) l x l' ↔ x = .node l.graph.size ∧
      l' = { l with graph := (l.graph.add cell).1 } := by
  change (Except.ok (Item.node l.graph.size), { l with graph := (l.graph.add cell).1 }) =
    (Except.ok x, l') ↔ _
  simp only [Prod.mk.injEq, Except.ok.injEq, eq_comm]

theorem gives_open_target {key : String} : Gives (openTarget key) l x l' ↔ x = .node l.graph.size ∧
    l' = { l with graph := (l.graph.add (.map [])).1,
                  targets := (key, .node l.graph.size) :: l.targets } := by
  simp only [openTarget, gives_bind, gives_add, Loading.noteTarget, gives_modify, gives_pure]
  constructor
  · rintro ⟨_, _, ⟨rfl, rfl⟩, _, _, rfl, rfl, rfl⟩
    exact ⟨rfl, rfl⟩
  · rintro ⟨rfl, rfl⟩
    exact ⟨_, _, ⟨rfl, rfl⟩, ⟨⟩, _, rfl, rfl, rfl⟩

theorem gives_open_copy {id : Nat} {empty : Cell} :
    Gives (openCopy id empty) l x l' ↔ x = .node l.graph.size ∧
      l' = { l with graph := (l.graph.add empty).1, copies := (id, .node l.graph.size) :: l.copies } := by
  simp only [openCopy, gives_bind, gives_add, Loading.noteCopy, gives_modify, gives_pure]
  constructor
  · rintro ⟨_, _, ⟨rfl, rfl⟩, _, _, rfl, rfl, rfl⟩
    exact ⟨rfl, rfl⟩
  · rintro ⟨rfl, rfl⟩
    exact ⟨_, _, ⟨rfl, rfl⟩, ⟨⟩, _, rfl, rfl, rfl⟩

theorem gives_update {c : Nat} {change : Cell → Cell} {done : Unit} :
    Gives (Loading.update (.node c) change) l done l' ↔
      l' = { l with graph := l.graph.set c (change ((l.graph.cell? c).getD (.map []))) } :=
  gives_modify

theorem fetch_notes {location label : String}
    (fetched : Gives (Loading.fetch s o location label) l x l') :
    l'.copies = l.copies ∧ l'.targets = l.targets := by
  rw [Gives, Loading.fetch_run] at fetched
  have reads := Loading.reads_at s o location label l
  split at fetched
  · cases fetched
    exact ⟨rfl, rfl⟩
  · split at fetched
    next item l₁ read =>
      rw [read] at reads
      cases fetched
      rw [reads.2]
      exact ⟨rfl, rfl⟩
    · cases fetched

theorem seek_gives {reference location pointer : String}
    (sought : Gives (seek s o reference location pointer) l x l') :
    ∃ document, Gives (Loading.fetch s o location location) l document l' ∧
      Pointer.resolve? l'.graph document pointer = some x := by
  obtain ⟨document, _, fetched, resolved⟩ := gives_bind.mp sought
  rw [gives_get_bind] at resolved
  split at resolved
  · exact (gives_throw resolved).elim
  next target found =>
    obtain ⟨rfl, rfl⟩ := gives_pure.mp resolved
    exact ⟨document, fetched, found⟩

theorem kept_open (regular : b.Regular o start) {key : String} {keys : List String} {c : Nat}
    (visits : b.Visits o start p) (followed : b.follow? o p = some (key, q))
    (ends : b.Ends o q keys e) (opened : b.Opened o start l ⟨q, c, some key⟩)
    (around : b.Visits o q p) : b.kind e.item = .map := by
  have whole : b.Ends o p (key :: keys) e := ⟨.on followed ends.1, ends.2⟩
  -- The spot is met from the frame on: behind the end of the frame's chain, or as a reference of it.
  obtain back | ⟨before, chain⟩ := visits_chain around ends
  · have visitsEnd := visits_trans visits (visits_leads whole.1)
    have returns : b.Returns o start p (key :: keys) e := ⟨visits, whole, e, visitsEnd, rfl, back⟩
    cases kind : b.kind e.item with
    | map => rfl
    | list =>
        have direct := regular.lists p key keys e returns kind
        subst direct
        cases ends.1
        rw [(opened.target key rfl).1] at kind
        cases kind
    | leaf =>
        cases visits_leaf back ends.2 (leaf_contents kind)
        exact (follow_reference followed ends.2).elim
  · -- Then following it would lead back to itself.
    have shorter := (ends_shorter ends chain whole).2
    rw [List.length_cons] at shorter
    omega

-- What a reference that has not been noted leads to is in no frame.
theorem frames_free (regular : b.Regular o start) {key : String} {keys : List String}
    (ready : Ready s o b start l frames p) (fresh : l.targets.lookup key = none)
    (followed : b.follow? o p = some (key, q)) (ends : b.Ends o q keys e)
    (map : b.kind e.item = .map) : ∀ f ∈ frames, ¬ Blocks f keys e := by
  intro f held blocks
  have whole : b.Ends o p (key :: keys) e := ⟨.on followed ends.1, ends.2⟩
  have opened := ready.sound.opened f held
  have back := ready.around f held
  have unnoted (passed : (l.targets.lookup key).isSome) : False := by
    rw [fresh] at passed
    cases passed
  -- In both cases the reference leads back into a frame, and all ways there have been noted.
  obtain ⟨_, item⟩ | ⟨key', rest, keyed, rfl⟩ := blocks
  · have returns : b.Returns o start p (key :: keys) e :=
      ⟨ready.visits, whole, f.spot, opened.visits, item, back⟩
    obtain ⟨r, keys', entry, leads, noted⟩ := opened.entered (.inl (item ▸ map))
    exact unnoted (noted key (regular.maps p key keys e returns map r keys' f.spot entry leads item))
  · obtain ⟨_, p', visits', followed'⟩ := opened.target key' keyed
    obtain ⟨leads, plain⟩ := ends
    cases leads with
    | on next onward =>
      have visitsTarget := Visits.on ready.visits followed
      cases regular.same_target visits' visitsTarget followed' next
      obtain met | ⟨before, chain⟩ := visits_chain back ⟨onward, plain⟩
      · have visitsEnd := visits_trans ready.visits (visits_leads whole.1)
        have returns : b.Returns o start p (key :: key' :: rest) e :=
          ⟨ready.visits, whole, e, visitsEnd, rfl, met⟩
        obtain ⟨r, keys', entry, leads', noted⟩ := opened.entered (.inr (by rw [keyed]; rfl))
        have passed := regular.maps p key _ e returns map r (keys' ++ rest) e entry
          (leads_append leads' onward) rfl
        obtain early | late := List.mem_append.mp passed
        · exact unnoted (noted key early)
        · obtain ⟨first, after, q₂, r₂, rfl, leads₂, followed₂, last⟩ := leads_at onward late
          have visits₂ := visits_trans opened.visits (visits_leads leads₂)
          cases regular.same_target ready.visits visits₂ followed followed₂
          have shorter := (ends_unique ⟨.on next onward, plain⟩ ⟨last, plain⟩).1
          have lengths := congrArg List.length shorter
          simp only [List.length_cons, List.length_append] at lengths
          omega
      · have shorter := (ends_shorter ⟨onward, plain⟩ chain whole).2
        simp only [List.length_cons] at shorter
        omega

def Bundles (s : Surround) (o : LoaderOptions) (b : Library) (start : Spot)
    (copy : Spot → Loading Item) : Prop :=
  ∀ p l x l' frames, Ready s o b start l frames p → Gives (copy p) l x l' → b.Sees start l' →
    b.Sound o start l' frames ∧ b.Notes o start l l' ∧ b.Stands o start l' p x

def Leaves (s : Surround) (o : LoaderOptions) (start : Spot) (copy : Spot → Loading Item) : Prop :=
  ∀ n l p, (loading s o [(start.location, start.item)] n).Keeps l (copy p) fun _ _ => True

theorem kept_noted (regular : b.Regular o start) {key : String} {keys : List String}
    (ready : Ready s o b start l frames p) (followed : b.follow? o p = some (key, q))
    (ends : b.Ends o q keys e) (noted : l.targets.lookup key = some x) :
    b.Stands o start l p x := by
  refine ⟨ready.visits, key :: keys, e, ⟨.on followed ends.1, ends.2⟩, ?_⟩
  obtain ⟨p', q', visits', followed', state⟩ := ready.sound.targets key x noted
  cases regular.same_target ready.visits visits' followed followed'
  obtain ⟨c, rfl, framed⟩ | ⟨keys', e', ends', settled⟩ := state
  · have map := kept_open regular ready.visits followed ends (ready.sound.opened _ framed)
      (ready.around _ framed)
    unfold Kept
    rw [map]
    exact noted
  · obtain ⟨_, rfl⟩ := ends_unique ends ends'
    by_cases map : b.kind e.item = .map
    · unfold Kept
      rw [map]
      exact noted
    · exact (kept_settled frames map).mpr settled

theorem seek_follows {n : Nat} {reference location pointer : String} {target : Item} {l₁ : Loader}
    (housed : Housed s o [(start.location, start.item)] l) (named : b.reference? p = some reference)
    (aimed : aim o reference p.location = .ok (location, pointer))
    (sought : Gives (seek s o reference location pointer) l target l₁)
    (onward : Grows [(start.location, start.item)] n l₁ l') (sees : b.Sees start l') :
    b.follow? o p = some (targetKey location pointer, ⟨location, false, target⟩) ∧
      (l₁.copies = l.copies ∧ l₁.targets = l.targets) ∧
      Grows [(start.location, start.item)] l.graph.size l l₁ ∧
      Housed s o [(start.location, start.item)] l₁ ∧ b.Sees start l₁ ∧
      Known start l₁ ⟨location, false, target⟩ := by
  obtain ⟨document, fetched, resolved⟩ := seek_gives sought
  obtain ⟨⟨housed₁, _⟩, grown, found⟩ := Regime.gives_kept
    (Loading.keeps_fetch (n := l.graph.size) location location) ⟨housed, Nat.le_refl _⟩ fetched
  have seen := sees_before onward sees
  obtain ⟨before, after, split, _⟩ := List.lookup_eq_some_iff.mp found
  have root : (location, document) ∈ roots start l₁ := by simp [roots, split]
  -- What has been read now is what the library has, so the pointer finds the same in both.
  have same (i : Nat) (within : l₁.graph.Within document i) : b.graph.cell? i = l₁.graph.cell? i :=
    seen.cells location i ⟨document, root, within⟩
  have there : Pointer.resolve? b.graph document pointer = some target := by
    rw [Pointer.resolve_same same, resolved]
  have followed : b.follow? o p = some (targetKey location pointer, ⟨location, false, target⟩) := by
    simp only [follow?, named, aimed, seen.documents _ _ found, Option.bind_some, there, Option.map_some]
  exact ⟨followed, fetch_notes fetched, grown, housed₁, seen, fun id node =>
    ⟨document, root, Pointer.resolve_within resolved id node⟩⟩

theorem seek_ready {n : Nat} {key reference pointer : String} {target : Item} {l₁ : Loader}
    (ready : Ready s o b start l frames p) (followed : b.follow? o p = some (key, q))
    (named : b.reference? p = some reference)
    (aimed : aim o reference p.location = .ok (q.location, pointer))
    (sought : Gives (seek s o reference q.location pointer) l target l₁)
    (onward : Grows [(start.location, start.item)] n l₁ l') (sees : b.Sees start l') :
    target = q.item ∧ l₁.targets = l.targets ∧ Housed s o [(start.location, start.item)] l₁ ∧
      b.Sees start l₁ ∧ Known start l₁ q ∧ b.Sound o start l₁ frames ∧ b.Notes o start l l₁ := by
  obtain ⟨found, ⟨copies, targets⟩, grown, housed, seen, known⟩ :=
    seek_follows ready.housed named aimed sought onward sees
  have same := (Prod.mk.inj (Option.some.inj (followed.symm.trans found))).2
  rw [← same] at known
  have elsewhere := sound_elsewhere ready.sound l₁ copies targets grown.size
    (fun location id => belongs_later grown) (fun c inside _ => grown.before c inside)
    fun f held _ ⟨items, list⟩ => ⟨items, (grown.before f.cell (ready.sound.opened f held).cell).trans list⟩
  exact ⟨congrArg Spot.item same.symm, targets, housed, seen, known, elsewhere.1, elsewhere.2⟩

theorem kind_seen {g : Graph} {item : Item} (same : b.graph.of? item = g.of? item) :
    g.isMap item = true ↔ b.kind item = .map := by
  rw [kind_map, same]
  unfold Graph.isMap Graph.entries?
  split <;> simp_all

theorem ends_from (regular : b.Regular o start) {key : String} (visits : b.Visits o start p)
    (followed : b.follow? o p = some (key, q)) : ∃ keys e, b.Ends o q keys e := by
  obtain ⟨keys, e, leads, plain⟩ := regular.ends p visits
  cases leads with
  | stop => exact (follow_reference followed plain).elim
  | on next onward =>
      rw [followed] at next
      cases next
      exact ⟨_, e, onward, plain⟩

theorem note_sound (regular : b.Regular o start) {key : String} {keys : List String}
    (sound : b.Sound o start l frames) (visits : b.Visits o start p)
    (followed : b.follow? o p = some (key, q)) (ends : b.Ends o q keys e)
    (other : b.kind e.item ≠ .map) (stands : b.Stands o start l q x)
    (fewer : ∀ f ∈ frames', f ∈ frames) (left : ∀ f ∈ frames, f ∈ frames' ∨ f.key = some key)
    (noted : Gives (Loading.noteTarget key x) l ⟨⟩ l') :
    b.Sound o start l' frames' ∧ b.Notes o start l l' ∧ b.Stands o start l' p x := by
  cases gives_modify.mp noted
  obtain ⟨_, keys', e', ends', value⟩ := stands
  obtain ⟨rfl, rfl⟩ := ends_unique ends ends'
  obtain ⟨sound', notes⟩ := sound_note regular sound visits followed ends other value fewer left
  refine ⟨sound', notes, stands_later notes ⟨visits, key :: keys, e, ⟨.on followed ends.1, ends.2⟩, ?_⟩⟩
  exact (kept_settled frames other).mpr ((kept_settled (o := o) frames other).mp value)

theorem entries_kind {g : Graph} {item : Item} {entries : Entries} (held : g.entries? item = some entries) :
    g.of? item = some (.map entries) := by
  unfold Graph.entries? at held
  split at held
  · cases held
    assumption
  · cases held

-- What stands for no map is no map.
theorem no_entries (sound : b.Sound o start l frames) (seen : b.Sees start l) {keys : List String}
    (ends : b.Ends o q keys e) (stands : b.Stands o start l q x) (other : b.kind e.item ≠ .map) :
    l.graph.entries? x = none := by
  obtain ⟨_, keys', e', ends', value⟩ := stands
  obtain ⟨rfl, rfl⟩ := ends_unique ends ends'
  refine Option.eq_none_iff_forall_not_mem.mpr fun entries held => ?_
  have map := entries_kind held
  unfold Kept at value
  cases kind : b.kind e.item with
  | map => exact other kind
  | leaf =>
      rw [kind] at value
      obtain ⟨rfl, known⟩ := value
      rw [← of_seen known seen] at map
      exact other (kind_map.mpr ⟨entries, map⟩)
  | list =>
      rw [kind] at value
      obtain ⟨id, node, noted⟩ := copy_node value
      obtain ⟨u, c, rfl, _, _, item, state⟩ := sound.copies id x noted
      have same := item.trans node.symm
      have list : ∃ items, l.graph.cell? c = some (.list items) := by
        obtain framed | ⟨mirrored, _⟩ := state
        · exact (sound.opened _ framed).list (same ▸ kind)
        · obtain ⟨items, held⟩ := kind_list.mp kind
          obtain ⟨cell, cell', held', copied, mirrors⟩ := mirrored
          rw [same, held] at held'
          cases held'
          cases mirrors with
          | list all => exact ⟨_, copied⟩
      obtain ⟨items, held⟩ := list
      have both := held.symm.trans map
      cases both

-- The map of a frame gets the entries of a complete copy, so it is one itself.
theorem fill_sound {key : String} {keys : List String} {c : Nat} {entries copies : Entries}
    (sound : b.Sound o start l (⟨q, c, some key⟩ :: frames)) (ends : b.Ends o q keys e)
    (apart : ∀ f ∈ frames, f.cell ≠ c) (held : b.graph.of? e.item = some (.map entries))
    (mirrors : Mirrors (fun part x => b.Stands o start l { e with item := part } x) (.map entries)
      (.map copies)) :
    let l' : Loader := { l with graph := l.graph.set c (.map copies) }
    (∀ location id, Belongs (roots start l) l.graph location id →
      Belongs (roots start l') l'.graph location id) →
    b.Sound o start l' frames ∧ b.Notes o start l l' := by
  intro l' read
  have opened := sound.opened ⟨q, c, some key⟩ (by simp)
  have elsewhere : ∀ i, i ≠ c → l'.graph.cell? i = l.graph.cell? i :=
    fun i different => Array.getElem?_setIfInBounds_ne (Ne.symm different)
  have here : l'.graph.cell? c = some (.map copies) :=
    Array.getElem?_setIfInBounds_self_of_lt opened.cell
  have size : l.graph.size ≤ l'.graph.size := by simp [l', Graph.set, Graph.size]
  obtain ⟨sound', notes⟩ := sound_elsewhere sound l' rfl rfl size read
    (fun i _ others => elsewhere i (Ne.symm (others ⟨q, c, some key⟩ (by simp))))
    fun f held list was => by
      obtain rfl | old := List.mem_cons.mp held
      · rw [(opened.target key rfl).1] at list
        cases list
      · rw [elsewhere _ (apart f old)]
        exact was
  have mirrored : b.Mirrored o start l' e c :=
    ⟨_, _, held, here, mirrors_imp (fun _ _ => stands_later notes) mirrors⟩
  refine ⟨sound_leave sound' (fun absent => by cases absent) fun k same => ?_, notes⟩
  cases same
  refine ⟨keys, e, ends, ?_⟩
  unfold Settled
  rw [kind_map.mpr ⟨entries, held⟩]
  exact ⟨c, rfl, mirrored, apart⟩

theorem close_sound (regular : b.Regular o start) (home : OneHome o b start) {key : String}
    {keys : List String} {c : Nat} {y : Item} (sound : b.Sound o start l (⟨q, c, some key⟩ :: frames))
    (visits : b.Visits o start p) (followed : b.follow? o p = some (key, q))
    (ends : b.Ends o q keys e) (apart : ∀ f ∈ frames, f.cell ≠ c)
    (free : b.kind e.item = .map → ∀ f ∈ (⟨q, c, some key⟩ : Frame) :: frames, ¬ Blocks f keys e)
    (noted : b.kind e.item = .map → l.targets.lookup key = some (.node c))
    (stands : b.Stands o start l q y) (seen : b.Sees start l)
    (read : ∀ location id, Belongs (roots start l) l.graph location id →
      Belongs (roots start l') l'.graph location id)
    (closed : Gives (closeTarget key (.node c) y) l x l') :
    b.Sound o start l' frames ∧ b.Notes o start l l' ∧ b.Stands o start l' p x := by
  rw [closeTarget, gives_get_bind] at closed
  by_cases map : b.kind e.item = .map
  · -- The copy is complete, since what a lookup of it would find is in no frame.
    obtain ⟨c', rfl, mirrored, _⟩ :
        ∃ c', y = .node c' ∧ b.Closed o start l (⟨q, c, some key⟩ :: frames) e c' := by
      have settled := settled_of_stands regular home sound ends stands (free map)
      unfold Settled at settled
      rw [map] at settled
      exact settled
    obtain ⟨cell, cell', held, copied, mirrors⟩ := mirrored
    obtain ⟨entries, is⟩ := kind_map.mp map
    rw [is] at held
    cases held
    cases mirrors with
    | @map _ copies all =>
      have found : l.graph.entries? (.node c') = some copies := by
        have held : l.graph.of? (.node c') = some (.map copies) := copied
        rw [Graph.entries?, held]
      rw [found] at closed
      simp only [gives_bind, gives_update, gives_pure] at closed
      obtain ⟨_, _, rfl, rfl, rfl⟩ := closed
      obtain ⟨sound', notes⟩ := fill_sound sound ends apart is (.map all) read
      refine ⟨sound', notes, visits, key :: keys, e, ⟨.on followed ends.1, ends.2⟩, ?_⟩
      unfold Kept
      rw [map]
      exact noted map
  · -- What turned out to be no map is noted in place of the frame's.
    rw [no_entries sound seen ends stands map] at closed
    simp only [gives_bind, gives_pure] at closed
    obtain ⟨_, _, done, rfl, rfl⟩ := closed
    refine note_sound regular sound visits followed ends map stands (fun f held =>
      List.mem_cons_of_mem _ held) (fun f held => ?_) done
    obtain rfl | old := List.mem_cons.mp held
    · exact .inr rfl
    · exact .inl old

variable {copy : Spot → Loading Item}

-- The new frame does not block itself: a chain that ends does not come back to its key.
theorem frame_free (regular : b.Regular o start) {key : String} {keys : List String} {c : Nat}
    (visits : b.Visits o start p) (followed : b.follow? o p = some (key, q))
    (ends : b.Ends o q keys e) : ¬ Blocks ⟨q, c, some key⟩ keys e := by
  rintro (⟨absent, _⟩ | ⟨k, rest, same, rfl⟩)
  · cases absent
  · cases same
    obtain ⟨leads, plain⟩ := ends
    cases leads with
    | on next onward =>
        cases regular.same_target visits (.on visits followed) followed next
        have lengths := congrArg List.length (ends_unique ⟨.on next onward, plain⟩ ⟨onward, plain⟩).1
        rw [List.length_cons] at lengths
        omega

-- A reference to a map, or to a reference in turn, has a frame of its own while that is copied.
theorem inline_map (regular : b.Regular o start) (home : OneHome o b start)
    (leaves : Leaves s o start copy) (bundles : Bundles s o b start copy) {key : String}
    {keys : List String} {m m' : Loader} {placeholder y : Item} (ready : Ready s o b start l frames p)
    (followed : b.follow? o p = some (key, q)) (ends : b.Ends o q keys e) (known : Known start l q)
    (map : b.kind q.item = .map) (fresh : l.targets.lookup key = none)
    (opened : Gives (openTarget key) l placeholder m) (copied : Gives (copy q) m y m')
    (closed : Gives (closeTarget key placeholder y) m' x l') (sees : b.Sees start l') :
    b.Sound o start l' frames ∧ b.Notes o start l l' ∧ b.Stands o start l' p x := by
  obtain ⟨housed₁, grown₁, own⟩ := Regime.gives_kept
    (Loading.keeps_open_target (n := 0) key) ⟨ready.housed, Nat.zero_le _⟩ opened
  obtain ⟨housed₂, grown₂, _⟩ := Regime.gives_kept (leaves 0 m q) housed₁ copied
  obtain ⟨_, grown₃, _⟩ := Regime.gives_kept
    (Loading.keeps_close_target key (own_later own grown₂) y) housed₂ closed
  have seen := sees_before grown₃ sees
  obtain ⟨rfl, made⟩ := gives_open_target.mp opened
  have visits := Visits.on ready.visits followed
  obtain ⟨reference, _, _, named, _⟩ := follow_parts followed
  have entered := ready.entered (reference_map named)
  obtain ⟨sound₁, notes₁⟩ := sound_open_target ready.sound ready.visits followed fresh map entered
    fun location id belongs => made ▸ belongs_later grown₁ belongs
  rw [← made] at sound₁ notes₁
  have within : Ready s o b start m (⟨q, l.graph.size, some key⟩ :: frames) q := by
    refine ⟨housed₁.1, known_later notes₁ known, sound₁, fun f held => ?_, visits,
      fun _ => (sound₁.opened _ List.mem_cons_self).entered (.inr rfl)⟩
    obtain rfl | old := List.mem_cons.mp held
    · exact .here
    · exact .on (ready.around f old) followed
  obtain ⟨sound₂, notes₂, stands⟩ := bundles q m y m' _ within copied seen
  have free (mapped : b.kind e.item = .map) : ∀ f ∈ (⟨q, l.graph.size, some key⟩ : Frame) :: frames,
      ¬ Blocks f keys e := by
    intro f held
    obtain rfl | old := List.mem_cons.mp held
    · exact frame_free regular ready.visits followed ends
    · exact frames_free regular ready fresh followed ends mapped f old
  have noted (mapped : b.kind e.item = .map) : m'.targets.lookup key = some (.node l.graph.size) := by
    refine notes₂.targets key _ ?_ ⟨p, q, keys, e, ready.visits, followed, ends, mapped⟩
    rw [made]
    exact List.lookup_cons_self
  have apart : ∀ f ∈ frames, f.cell ≠ l.graph.size :=
    fun f held => Nat.ne_of_lt (ready.sound.opened f held).cell
  obtain ⟨sound₃, notes₃, stands'⟩ := close_sound regular home sound₂ ready.visits followed ends apart
    free noted stands seen (fun location id => belongs_later grown₃) closed
  exact ⟨sound₃, notes_trans notes₁ (notes_trans notes₂ notes₃), stands'⟩

theorem other_plain (other : b.kind p.item ≠ .map) : b.reference? p = none := by
  cases named : b.reference? p with
  | none => rfl
  | some reference => exact (other (reference_map named)).elim

theorem inline_other (regular : b.Regular o start) (leaves : Leaves s o start copy)
    (bundles : Bundles s o b start copy) {key : String} {m : Loader}
    (ready : Ready s o b start l frames p) (followed : b.follow? o p = some (key, q))
    (known : Known start l q) (other : b.kind q.item ≠ .map) (copied : Gives (copy q) l x m)
    (noted : Gives (Loading.noteTarget key x) m ⟨⟩ l') (sees : b.Sees start l') :
    b.Sound o start l' frames ∧ b.Notes o start l l' ∧ b.Stands o start l' p x := by
  obtain ⟨housed₁, grown₁, _⟩ := Regime.gives_kept (leaves 0 l q) ⟨ready.housed, Nat.zero_le _⟩ copied
  obtain ⟨_, grown₂, _⟩ := Regime.gives_kept (Loading.keeps_note_target key x) housed₁ noted
  have within : Ready s o b start l frames q :=
    ⟨ready.housed, known, ready.sound, fun f held => .on (ready.around f held) followed,
      .on ready.visits followed, fun map => (other map).elim⟩
  obtain ⟨sound₁, notes₁, stands⟩ := bundles q l x m frames within copied (sees_before grown₂ sees)
  obtain ⟨sound₂, notes₂, stands'⟩ := note_sound regular sound₁ ready.visits followed
    ⟨.stop q, other_plain other⟩ other stands (fun _ held => held) (fun _ held => .inl held) noted
  exact ⟨sound₂, notes_trans notes₁ notes₂, stands'⟩

-- What is put in place of a target: a map is noted before it is copied, anything else after.
theorem gives_place_target {copied : Loading Item} {key : String} {isMap : Bool}
    (came : Gives (if isMap then do
        let placeholder ← openTarget key
        let copied ← copied
        closeTarget key placeholder copied
      else do
        let copied ← copied
        Loading.noteTarget key copied
        return copied) l x l') :
    (isMap = true ∧ ∃ placeholder m y m', Gives (openTarget key) l placeholder m ∧ Gives copied m y m' ∧
      Gives (closeTarget key placeholder y) m' x l') ∨
    isMap ≠ true ∧ ∃ m, Gives copied l x m ∧ Gives (Loading.noteTarget key x) m ⟨⟩ l' := by
  split at came
  next holds =>
    obtain ⟨placeholder, m, opened, came⟩ := gives_bind.mp came
    obtain ⟨y, m', copied, closed⟩ := gives_bind.mp came
    exact .inl ⟨holds, placeholder, m, y, m', opened, copied, closed⟩
  next other =>
    obtain ⟨y, m, copied, came⟩ := gives_bind.mp came
    obtain ⟨_, m', noted, last⟩ := gives_bind.mp came
    obtain ⟨rfl, rfl⟩ := gives_pure.mp last
    exact .inr ⟨other, m, copied, noted⟩

-- A target is taken from the notes, or looked for and put in place.
theorem gives_inline_target {copy : String → Item → Loading Item} {reference base : String}
    (came : Gives (inlineTarget s o copy reference base) l x l') :
    ∃ location pointer, aim o reference base = .ok (location, pointer) ∧
      (l.targets.lookup (targetKey location pointer) = some x ∧ l' = l ∨
        l.targets.lookup (targetKey location pointer) = none ∧
          ∃ target l₁, Gives (seek s o reference location pointer) l target l₁ ∧
            Gives (if l₁.graph.isMap target then do
                let placeholder ← openTarget (targetKey location pointer)
                let copied ← copy location target
                closeTarget (targetKey location pointer) placeholder copied
              else do
                let copied ← copy location target
                Loading.noteTarget (targetKey location pointer) copied
                return copied) l₁ x l') := by
  obtain ⟨⟨location, pointer⟩, aimed, came⟩ := gives_of_except_bind.mp came
  dsimp only at came
  rw [gives_get_bind] at came
  refine ⟨location, pointer, aimed, ?_⟩
  cases noted : l.targets.lookup (targetKey location pointer) with
  | some item =>
      rw [noted] at came
      obtain ⟨rfl, rfl⟩ := gives_pure.mp came
      exact .inl ⟨rfl, rfl⟩
  | none =>
      rw [noted] at came
      obtain ⟨target, l₁, sought, came⟩ := gives_bind.mp came
      exact .inr ⟨rfl, target, l₁, sought, came⟩

theorem inline_sound (regular : b.Regular o start) (home : OneHome o b start)
    (leaves : Leaves s o start copy) (bundles : Bundles s o b start copy) {reference : String}
    (ready : Ready s o b start l frames p) (named : b.reference? p = some reference)
    (came : Gives (inlineTarget s o (fun location item => copy ⟨location, false, item⟩) reference
      p.location) l x l') (sees : b.Sees start l') :
    b.Sound o start l' frames ∧ b.Notes o start l l' ∧ b.Stands o start l' p x := by
  obtain ⟨key, q, followed⟩ := regular.followed ready.visits named
  obtain ⟨keys, e, ends⟩ := ends_from regular ready.visits followed
  obtain ⟨reference', pointer, document, named', aimed, spelled, _, _, outside⟩ := follow_parts followed
  rw [named] at named'
  cases named'
  obtain ⟨location, pointer', aimed', placed⟩ := gives_inline_target came
  cases aimed.symm.trans aimed'
  rw [← spelled] at placed
  rcases placed with ⟨noted, rfl⟩ | ⟨fresh, target, l₁, sought, came⟩
  · exact ⟨ready.sound, notes_refl _, kept_noted regular ready followed ends noted⟩
  · obtain ⟨housed₁, _, _⟩ := Regime.gives_kept (Loading.keeps_seek (n := 0) reference q.location pointer)
      ⟨ready.housed, Nat.zero_le _⟩ sought
    -- Whatever is done with the target, documents stay as they are from here on.
    have onward : Grows [(start.location, start.item)] 0 l₁ l' :=
      (Regime.gives_kept (Loading.keeps_place_target (fun _ => leaves 0 _ _) key _) housed₁ came).2.1
    obtain ⟨rfl, targets, _, seen, known, sound₁, notes₁⟩ :=
      seek_ready ready followed named aimed sought onward sees
    have ready₁ : Ready s o b start l₁ frames p :=
      ⟨housed₁.1, known_later notes₁ ready.known, sound₁, ready.around, ready.visits,
        fun map => entered_later notes₁ (ready.entered map)⟩
    have same : (⟨q.location, false, q.item⟩ : Spot) = q := by rw [← outside]
    rw [← targets] at fresh
    rw [same] at came
    have isMap := kind_seen (of_seen known seen)
    rcases gives_place_target came with ⟨holds, placeholder, l₂, y, l₃, opened, copied, closed⟩ |
      ⟨other, l₂, copied, done⟩
    · obtain ⟨sound₂, notes₂, stands⟩ := inline_map regular home leaves bundles ready₁ followed ends
        known (isMap.mp holds) fresh opened copied closed sees
      exact ⟨sound₂, notes_trans notes₁ notes₂, stands⟩
    · obtain ⟨sound₂, notes₂, stands⟩ := inline_other regular leaves bundles ready₁ followed known
        (fun map => other (isMap.mpr map)) copied done sees
      exact ⟨sound₂, notes_trans notes₁ notes₂, stands⟩

def withParts (parts : List (Option Scalar × Item)) (cell : Cell) : Cell :=
  parts.foldl (fun cell part => withPart part.1 part.2 cell) cell

theorem with_entries (entries before : Entries) :
    withParts (entries.map fun (key, part) => (some key, part)) (.map before) =
      .map (before ++ entries) := by
  induction entries generalizing before with
  | nil => rw [List.append_nil]; rfl
  | cons entry rest ih => exact (ih (before ++ [entry])).trans (by rw [List.append_assoc]; rfl)

theorem with_items (items before : List Item) :
    withParts (items.map (none, ·)) (.list before) = .list (before ++ items) := by
  induction items generalizing before with
  | nil => rw [List.append_nil]; rfl
  | cons item rest ih => exact (ih (before ++ [item])).trans (by rw [List.append_assoc]; rfl)

theorem mirrors_part {R : Item → Item → Prop} {cell copied : Cell} (mirrors : Mirrors R cell copied)
    (key : Option Scalar) {part : Item} (stands : R part x) :
    Mirrors R (withPart key part cell) (withPart key x copied) := by
  cases mirrors with
  | map entries =>
      refine .map (List.rel_append entries ?_)
      cases key with
      | none => exact .nil
      | some key => exact .cons ⟨rfl, stands⟩ .nil
  | list items => exact .list (List.rel_append items (.cons stands .nil))

theorem part_sound {c : Nat} {cell : Cell} {key : Option Scalar} {y : Item}
    (sound : b.Sound o start l (⟨p, c, none⟩ :: frames)) (apart : ∀ f ∈ frames, f.cell ≠ c)
    (made : l.graph.cell? c = some cell)
    (housed : Housed s o [(start.location, start.item)] l)
    (own : Own [(start.location, start.item)] 0 l (.node c))
    (updated : Gives (Loading.update (.node c) (withPart key y)) l ⟨⟩ l') :
    b.Sound o start l' (⟨p, c, none⟩ :: frames) ∧ b.Notes o start l l' ∧
      l'.graph.cell? c = some (withPart key y cell) := by
  obtain ⟨_, grown, _⟩ := Regime.gives_kept (Loading.keeps_update own _) ⟨housed, Nat.zero_le _⟩ updated
  have elsewhere : ∀ i, i ≠ c → l'.graph.cell? i = l.graph.cell? i := by
    cases gives_update.mp updated
    exact fun i different => Array.getElem?_setIfInBounds_ne (Ne.symm different)
  have here : l'.graph.cell? c = some (withPart key y cell) := by
    cases gives_update.mp updated
    change (l.graph.set c _).cell? c = _
    rw [made]
    exact Array.getElem?_setIfInBounds_self_of_lt (Graph.cell_inside made)
  have kept := sound_elsewhere sound l' (by cases gives_update.mp updated; rfl)
    (by cases gives_update.mp updated; rfl) grown.size (fun location id => belongs_later grown)
    (fun i _ others => elsewhere i fun same => others ⟨p, c, none⟩ (by simp) same.symm)
    fun f held _ ⟨items, was⟩ => by
      obtain rfl | old := List.mem_cons.mp held
      · rw [made] at was
        cases was
        exact ⟨_, here⟩
      · exact ⟨items, (elsewhere _ (apart f old)).trans was⟩
  exact ⟨kept.1, kept.2, here⟩

theorem known_part (known : Known start l p) (same : b.graph.of? p.item = l.graph.of? p.item)
    {item : Item} (inside : item ∈ b.contents p) : Known start l { p with item } := by
  intro id node
  obtain ⟨cell, held, member⟩ : ∃ cell, b.graph.of? p.item = some cell ∧ item ∈ cell.parts := by
    unfold contents at inside
    split at inside
    next entries held => exact ⟨_, held, inside⟩
    next items held => exact ⟨_, held, inside⟩
    next => cases inside
  rw [same] at held
  cases at_ : p.item with
  | scalar s =>
      rw [at_] at held
      cases held
  | node i =>
      obtain ⟨document, listed, within⟩ := known i at_
      rw [at_] at held
      cases node
      exact ⟨document, listed, .part within held member⟩

theorem part_ready (ready : Ready s o b start l frames p) (plain : b.reference? p = none)
    (seen : b.Sees start l) {item : Item} (inside : item ∈ b.contents p) :
    Ready s o b start l frames { p with item } where
  housed := ready.housed
  known := known_part ready.known (of_seen ready.known seen) inside
  sound := ready.sound
  around f held := .into (ready.around f held) plain inside
  visits := .into ready.visits plain inside
  entered _ := ⟨_, [], .part ready.visits plain inside, .stop _, nofun⟩

-- The parts of a container are copied one after the other.
theorem parts_sound (leaves : Leaves s o start copy) (bundles : Bundles s o b start copy)
    (plain : b.reference? p = none) {c : Nat} (apart : ∀ f ∈ frames, f.cell ≠ c)
    (parts : List (Option Scalar × Item)) (inside : ∀ part ∈ parts, part.2 ∈ b.contents p)
    {cell copied : Cell} (ready : Ready s o b start l (⟨p, c, none⟩ :: frames) p)
    (own : Own [(start.location, start.item)] 0 l (.node c))
    (made : l.graph.cell? c = some copied)
    (mirrors : Mirrors (fun part x => b.Stands o start l { p with item := part } x) cell copied)
    (came : Gives (copyParts (fun item => copy { p with item }) (.node c) parts) l ⟨⟩ l')
    (sees : b.Sees start l') :
    b.Sound o start l' (⟨p, c, none⟩ :: frames) ∧ b.Notes o start l l' ∧
      ∃ copied', l'.graph.cell? c = some copied' ∧
        Mirrors (fun part x => b.Stands o start l' { p with item := part } x) (withParts parts cell)
          copied' := by
  -- `cell` holds the parts so far, and `copied` what stands for them.
  induction parts generalizing l cell copied with
  | nil =>
      cases came
      exact ⟨ready.sound, notes_refl _, copied, made, mirrors⟩
  | cons part rest ih =>
      obtain ⟨key, item⟩ := part
      obtain ⟨_, l₂, step, onward⟩ := gives_bind.mp came
      obtain ⟨y, l₁, first, updated⟩ := gives_bind.mp step
      obtain ⟨⟨housed₁, _⟩, grown₁, _⟩ := Regime.gives_kept (leaves l.graph.size l { p with item })
        ⟨ready.housed, Nat.le_refl _⟩ first
      have own₁ : Own [(start.location, start.item)] 0 l₁ (.node c) := by
        obtain ⟨id, is, _, below, outside⟩ := own
        exact ⟨id, is, Nat.zero_le _, Nat.lt_of_lt_of_le below grown₁.size,
          fun location belongs => outside location (grown₁.fresh location id below belongs)⟩
      obtain ⟨⟨housed₂, _⟩, grown₂, _⟩ := Regime.gives_kept
        (Loading.keeps_update own₁ (withPart key y)) ⟨housed₁, Nat.zero_le _⟩ updated
      have own₂ := own_later own₁ grown₂
      obtain ⟨_, grown₃, _⟩ := Regime.gives_kept
        (Loading.keeps_copy_parts (fun l item => leaves 0 l { p with item }) own₂ rest)
        ⟨housed₂, Nat.zero_le _⟩ onward
      have seen₁ := sees_before grown₂ (sees_before grown₃ sees)
      have within := part_ready ready plain (sees_before grown₁ seen₁) (inside (key, item) (by simp))
      obtain ⟨sound₁, notes₁, stands⟩ := bundles _ l y l₁ _ within first seen₁
      -- A copy of a part leaves what was there before alone, this container too.
      have made₁ : l₁.graph.cell? c = some copied :=
        (grown₁.before c (Graph.cell_inside made)).trans made
      obtain ⟨sound₂, notes₂, made₂⟩ := part_sound sound₁ apart made₁ housed₁ own₁ updated
      have notes := notes_trans notes₁ notes₂
      have ready₂ : Ready s o b start l₂ (⟨p, c, none⟩ :: frames) p :=
        ⟨housed₂, known_later notes ready.known, sound₂, ready.around, ready.visits,
          fun map => entered_later notes (ready.entered map)⟩
      have mirrors₂ := mirrors_part (mirrors_imp (fun _ _ => stands_later notes) mirrors) key
        (stands_later notes₂ stands)
      obtain ⟨sound₃, notes₃, whole⟩ :=
        ih (fun other held => inside other (List.mem_cons_of_mem _ held)) ready₂ own₂ made₂ mirrors₂ onward
      exact ⟨sound₃, notes_trans notes notes₃, whole⟩

theorem gives_copy_container {copy : Item → Loading Item} {id : Nat} {empty : Cell}
    {parts : List (Option Scalar × Item)} (came : Gives (copyContainer copy id empty parts) l x l') :
    l.copies.lookup id = some x ∧ l' = l ∨
      l.copies.lookup id = none ∧
        ∃ m, Gives (openCopy id empty) l x m ∧ Gives (copyParts copy x parts) m ⟨⟩ l' := by
  rw [copyContainer, gives_get_bind] at came
  cases known : l.copies.lookup id with
  | some copied =>
      rw [known] at came
      obtain ⟨rfl, rfl⟩ := gives_pure.mp came
      exact .inl ⟨rfl, rfl⟩
  | none =>
      rw [known] at came
      obtain ⟨copied, m, opened, came⟩ := gives_bind.mp came
      obtain ⟨_, m', filled, last⟩ := gives_bind.mp came
      obtain ⟨rfl, rfl⟩ := gives_pure.mp last
      exact .inr ⟨rfl, m, opened, filled⟩

-- A container is copied once; what is met inside it while it is copied finds the copy.
theorem container_sound (leaves : Leaves s o start copy) (bundles : Bundles s o b start copy)
    (ready : Ready s o b start l frames p) (plain : b.reference? p = none) {id : Nat}
    (node : p.item = .node id) {cell empty : Cell} {parts : List (Option Scalar × Item)}
    (held : b.graph.of? p.item = some cell) (whole : withParts parts empty = cell)
    (kinds : b.kind p.item = .map ∧ empty = .map [] ∨ b.kind p.item = .list ∧ empty = .list [])
    (inside : ∀ part ∈ parts, part.2 ∈ b.contents p)
    (came : Gives (copyContainer (fun item => copy { p with item }) id empty parts) l x l')
    (sees : b.Sees start l') :
    b.Sound o start l' frames ∧ b.Notes o start l l' ∧ b.Stands o start l' p x := by
  have stands {m : Loader} (noted : m.copies.lookup id = some x) : b.Stands o start m p x := by
    refine ⟨ready.visits, [], p, ⟨.stop p, plain⟩, ?_⟩
    unfold Kept copy?
    rw [node] at kinds ⊢
    obtain ⟨kind, _⟩ | ⟨kind, _⟩ := kinds <;> rw [kind] <;> exact noted
  rcases gives_copy_container came with ⟨known, rfl⟩ | ⟨known, l₁, opened, filled⟩
  · exact ⟨ready.sound, notes_refl _, stands known⟩
  · obtain ⟨⟨housed₁, _⟩, grown₁, own⟩ := Regime.gives_kept
      (Loading.keeps_open_copy (n := 0) id empty) ⟨ready.housed, Nat.zero_le _⟩ opened
    obtain ⟨rfl, is⟩ := gives_open_copy.mp opened
    have list (kind : b.kind p.item = .list) : empty = .list [] := by
      obtain ⟨map, _⟩ | ⟨_, same⟩ := kinds
      · rw [map] at kind
        cases kind
      · exact same
    obtain ⟨sound₁, notes₁⟩ := sound_open_copy ready.sound ready.visits plain node known
      ready.entered list fun location id belongs => is ▸ belongs_later grown₁ belongs
    rw [← is] at sound₁ notes₁
    -- The new container is beyond the cells of all frames, and is a frame while it is filled.
    have apart : ∀ f ∈ frames, f.cell ≠ l.graph.size :=
      fun f old => Nat.ne_of_lt (ready.sound.opened f old).cell
    have ready₁ : Ready s o b start l₁ (⟨p, l.graph.size, none⟩ :: frames) p := by
      refine ⟨housed₁, known_later notes₁ ready.known, sound₁, fun f old => ?_, ready.visits,
        fun map => entered_later notes₁ (ready.entered map)⟩
      obtain rfl | older := List.mem_cons.mp old
      · exact .here
      · exact ready.around f older
    have made : l₁.graph.cell? l.graph.size = some empty := by
      rw [is]
      exact (Graph.add_cell _ _ _).trans (if_pos rfl)
    have nothing : Mirrors (fun part x => b.Stands o start l₁ { p with item := part } x) empty empty := by
      obtain ⟨_, rfl⟩ | ⟨_, rfl⟩ := kinds
      · exact .map .nil
      · exact .list .nil
    obtain ⟨sound₂, notes₂, cell', made', mirrors⟩ :=
      parts_sound leaves bundles plain apart parts inside ready₁ own made nothing filled sees
    rw [whole] at mirrors
    refine ⟨sound_leave sound₂ (fun _ => ⟨⟨cell, cell', held, made', mirrors⟩, apart⟩) nofun,
      notes_trans notes₁ notes₂, stands (notes₂.copies id _ ?_)⟩
    rw [is]
    exact List.lookup_cons_self

theorem reference_of {entries : Entries} (held : b.graph.of? p.item = some (.map entries)) :
    b.reference? p = ApiSchema.reference? p.isRoot entries := by
  rw [reference?, Graph.entries?, held]
  rfl

inductive BundledAt (s : Surround) (o : LoaderOptions) (b : Library) (copy : Spot → Loading Item) (p : Spot)
    (l : Loader) (x : Item) (l' : Loader) : Prop
  | reference {reference : String} : b.reference? p = some reference →
      Gives (inlineTarget s o (fun location item => copy ⟨location, false, item⟩) reference p.location)
        l x l' → BundledAt s o b copy p l x l'
  | container {id : Nat} {cell empty : Cell} {parts : List (Option Scalar × Item)} :
      b.reference? p = none → p.item = .node id → b.graph.of? p.item = some cell →
      withParts parts empty = cell →
      (b.kind p.item = .map ∧ empty = .map [] ∨ b.kind p.item = .list ∧ empty = .list []) →
      (∀ part ∈ parts, part.2 ∈ b.contents p) →
      Gives (copyContainer (fun item => copy { p with item }) id empty parts) l x l' →
      BundledAt s o b copy p l x l'
  | leaf : b.kind p.item = .leaf → x = p.item → l' = l → BundledAt s o b copy p l x l'

theorem bundled_at {fuel : Nat} (same : b.graph.of? p.item = l.graph.of? p.item)
    (came : Gives (bundle s o (fuel + 1) p.isRoot p.location p.item) l x l') :
    BundledAt s o b (fun p => bundle s o fuel p.isRoot p.location p.item) p l x l' := by
  simp only [bundle, gives_get_bind] at came
  split at came
  next id entries node held =>
    rw [← same] at held
    have spelled := reference_of held
    cases named : ApiSchema.reference? p.isRoot entries with
    | some reference =>
        rw [named] at came spelled
        exact .reference spelled came
    | none =>
        rw [named] at came spelled
        refine .container spelled node held (with_entries entries [])
          (.inl ⟨kind_map.mpr ⟨entries, held⟩, rfl⟩) ?_ came
        intro part member
        obtain ⟨entry, inside, rfl⟩ := List.mem_map.mp member
        rw [contents, held]
        exact List.mem_map.mpr ⟨entry, inside, rfl⟩
  next id items node held =>
    rw [← same] at held
    have list : b.kind p.item = .list := kind_list.mpr ⟨items, held⟩
    refine .container (other_plain (by rw [list]; decide)) node held (with_items items [])
      (.inr ⟨list, rfl⟩) ?_ came
    intro part member
    obtain ⟨item, inside, rfl⟩ := List.mem_map.mp member
    rw [contents, held]
    exact inside
  next notMap notList =>
    obtain ⟨rfl, rfl⟩ := gives_pure.mp came
    refine .leaf ?_ rfl rfl
    unfold kind
    rw [same]
    cases item : p.item with
    | scalar s => rfl
    | node id =>
        split
        next entries held => exact (notMap id entries item (item ▸ held)).elim
        next items held => exact (notList id items item (item ▸ held)).elim
        next => rfl

theorem bundle_sound (regular : b.Regular o start) (home : OneHome o b start) (fuel : Nat) :
    Bundles s o b start fun p => bundle s o fuel p.isRoot p.location p.item := by
  induction fuel with
  | zero => exact fun p l x l' frames _ came _ => (gives_throw came).elim
  | succ fuel ih =>
      intro p l x l' frames ready came sees
      have leaves : Leaves s o start fun p => bundle s o fuel p.isRoot p.location p.item :=
        fun n l p => Loading.keeps_bundle fuel p.isRoot p.location p.item
      obtain ⟨_, grown, _⟩ := Regime.gives_kept
        (Loading.keeps_bundle (n := 0) (fuel + 1) p.isRoot p.location p.item)
        ⟨ready.housed, Nat.zero_le _⟩ came
      cases bundled_at (of_seen ready.known (sees_before grown sees)) came with
      | reference named came => exact inline_sound regular home leaves ih ready named came sees
      | container plain node held whole kinds inside came =>
          exact container_sound leaves ih ready plain node held whole kinds inside came sees
      | leaf leaf is same =>
          subst is same
          have plain := other_plain (p := p) (by rw [leaf]; decide)
          refine ⟨ready.sound, notes_refl _, ready.visits, [], p, ⟨.stop p, plain⟩, ?_⟩
          unfold Kept
          rw [leaf]
          exact ⟨rfl, ready.known⟩

end Library

end ApiSchema
