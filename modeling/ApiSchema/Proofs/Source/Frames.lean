import Mathlib.Data.List.Forall2
import ApiSchema.Proofs.Source.Growth
import ApiSchema.Proofs.Source.Library

/-!
What a loader has noted while it copies.

The copies that are being made are frames. What has been noted stands for what it was made of: the
copy of a container has copies of the parts, unless it is the cell of a frame, which is filled when
the frame is done.
-/

namespace ApiSchema

namespace Library

variable (o : LoaderOptions) (b : Library) (start : Spot)

def copy? (l : Loader) : Item → Option Item
  | .node id => l.copies.lookup id
  | .scalar _ => none

def roots (start : Spot) (l : Loader) : List (String × Item) :=
  [(start.location, start.item)] ++ l.documents

def Known (l : Loader) (p : Spot) : Prop :=
  ∀ id, p.item = .node id → Belongs (roots start l) l.graph p.location id

def Kept (l : Loader) (keys : List String) (e : Spot) (x : Item) : Prop :=
  match b.kind e.item with
  | .map =>
    match keys with
    | [] => copy? l e.item = some x
    | key :: _ => l.targets.lookup key = some x
  | .list => copy? l e.item = some x
  | .leaf => x = e.item ∧ Known start l e

def Stands (l : Loader) (p : Spot) (x : Item) : Prop :=
  b.Visits o start p ∧ ∃ keys e, b.Ends o p keys e ∧ b.Kept start l keys e x

inductive Mirrors (R : Item → Item → Prop) : Cell → Cell → Prop
  | map {entries copies : Entries} :
      List.Forall₂ (fun entry copy => entry.1 = copy.1 ∧ R entry.2 copy.2) entries copies →
      Mirrors R (.map entries) (.map copies)
  | list {items copies : List Item} : List.Forall₂ R items copies →
      Mirrors R (.list items) (.list copies)

def Mirrored (l : Loader) (u : Spot) (c : Nat) : Prop :=
  ∃ cell cell', b.graph.of? u.item = some cell ∧ l.graph.cell? c = some cell' ∧
    Mirrors (fun part x => b.Stands o start l { u with item := part } x) cell cell'

/-- A container that is being made: a copy of what is met at a spot, or what has been noted under a
key until then. -/
structure Frame where
  spot : Spot
  cell : Nat
  key : Option String

def Entered (l : Loader) (p : Spot) : Prop :=
  ∃ q keys, b.Entry o start q ∧ b.Leads o q keys p ∧ ∀ key ∈ keys, (l.targets.lookup key).isSome

structure Opened (l : Loader) (f : Frame) : Prop where
  visits : b.Visits o start f.spot
  entered : b.kind f.spot.item = .map ∨ f.key.isSome → b.Entered o start l f.spot
  cell : f.cell < l.graph.size
  copy : f.key = none → b.reference? f.spot = none
  list : b.kind f.spot.item = .list → ∃ items, l.graph.cell? f.cell = some (.list items)
  target : ∀ key, f.key = some key → b.kind f.spot.item = .map ∧
    ∃ p, b.Visits o start p ∧ b.follow? o p = some (key, f.spot)

def Closed (l : Loader) (frames : List Frame) (u : Spot) (c : Nat) : Prop :=
  b.Mirrored o start l u c ∧ ∀ f ∈ frames, f.cell ≠ c

def Settled (l : Loader) (frames : List Frame) (e : Spot) (x : Item) : Prop :=
  match b.kind e.item with
  | .map => ∃ c, x = .node c ∧ b.Closed o start l frames e c
  | .list => copy? l e.item = some x
  | .leaf => x = e.item ∧ Known start l e

def CopyFits (l : Loader) (frames : List Frame) (id : Nat) (x : Item) : Prop :=
  ∃ u c, x = .node c ∧ b.Visits o start u ∧ b.reference? u = none ∧ u.item = .node id ∧
    (⟨u, c, none⟩ ∈ frames ∨ b.Closed o start l frames u c)

def TargetFits (l : Loader) (frames : List Frame) (key : String) (x : Item) : Prop :=
  ∃ p q, b.Visits o start p ∧ b.follow? o p = some (key, q) ∧
    ((∃ c, x = .node c ∧ ⟨q, c, some key⟩ ∈ frames) ∨
      ∃ keys e, b.Ends o q keys e ∧ b.Settled o start l frames e x)

structure Sound (l : Loader) (frames : List Frame) : Prop where
  opened : ∀ f ∈ frames, b.Opened o start l f
  copies : ∀ id x, l.copies.lookup id = some x → b.CopyFits o start l frames id x
  targets : ∀ key x, l.targets.lookup key = some x → b.TargetFits o start l frames key x

def Heads (key : String) : Prop :=
  ∃ p q keys e, b.Visits o start p ∧ b.follow? o p = some (key, q) ∧ b.Ends o q keys e ∧
    b.kind e.item = .map

/-- What has been noted stays, but for placeholders of what turned out to be no map. -/
structure Notes (l l' : Loader) : Prop where
  read : ∀ location id, Belongs (roots start l) l.graph location id →
    Belongs (roots start l') l'.graph location id
  copies : ∀ id x, l.copies.lookup id = some x → l'.copies.lookup id = some x
  noted : ∀ key, (l.targets.lookup key).isSome → (l'.targets.lookup key).isSome
  targets : ∀ key x, l.targets.lookup key = some x → b.Heads o start key →
    l'.targets.lookup key = some x

variable {o b start} {l l' l'' : Loader} {p q u e : Spot} {frames : List Frame} {x : Item}

-- Only the notes of maps depend on the way to them, and on whether they are complete.
theorem kept_settled {keys : List String} (frames : List Frame) (other : b.kind e.item ≠ .map) :
    b.Kept start l keys e x ↔ b.Settled o start l frames e x := by
  unfold Kept Settled
  cases kind : b.kind e.item with
  | map => exact (other kind).elim
  | list => rfl
  | leaf => rfl

theorem notes_refl (l : Loader) : b.Notes o start l l :=
  ⟨fun _ _ => id, fun _ _ => id, fun _ => id, fun _ _ noted _ => noted⟩

theorem notes_trans (first : b.Notes o start l l') (second : b.Notes o start l' l'') :
    b.Notes o start l l'' where
  read location id belongs := second.read location id (first.read location id belongs)
  copies id x noted := second.copies id x (first.copies id x noted)
  noted key known := second.noted key (first.noted key known)
  targets key x noted heads := second.targets key x (first.targets key x noted heads) heads

theorem copy_node {item : Item} (noted : copy? l item = some x) :
    ∃ id, item = .node id ∧ l.copies.lookup id = some x := by
  cases item with
  | scalar s => cases noted
  | node id => exact ⟨id, rfl, noted⟩

theorem copy_later (notes : b.Notes o start l l') {item : Item} (noted : copy? l item = some x) :
    copy? l' item = some x := by
  cases item with
  | scalar s => cases noted
  | node id => exact notes.copies id x noted

theorem known_later (notes : b.Notes o start l l') (known : Known start l p) : Known start l' p :=
  fun id node => notes.read p.location id (known id node)

theorem stands_later (notes : b.Notes o start l l')
    (stands : b.Stands o start l p x) : b.Stands o start l' p x := by
  obtain ⟨visits, keys, e, ends, kept⟩ := stands
  refine ⟨visits, keys, e, ends, ?_⟩
  unfold Kept at kept ⊢
  split
  next map =>
    rw [map] at kept
    cases keys with
    | nil => exact copy_later notes kept
    | cons key keys =>
        obtain ⟨leads, plain⟩ := ends
        cases leads with
        | on followed onward =>
            exact notes.targets key x kept ⟨p, _, keys, e, visits, followed, ⟨onward, plain⟩, map⟩
  next list =>
    rw [list] at kept
    exact copy_later notes kept
  next leaf =>
    rw [leaf] at kept
    exact kept.imp_right (known_later notes)

theorem mirrors_imp {R R' : Item → Item → Prop} {cell cell' : Cell} (imp : ∀ part x, R part x → R' part x)
    (mirrors : Mirrors R cell cell') : Mirrors R' cell cell' := by
  cases mirrors with
  | map entries => exact .map (entries.imp fun _ _ ⟨same, stands⟩ => ⟨same, imp _ _ stands⟩)
  | list items => exact .list (items.imp imp)

theorem mirrored_later (notes : b.Notes o start l l') {c : Nat}
    (same : l'.graph.cell? c = l.graph.cell? c) (mirrored : b.Mirrored o start l u c) :
    b.Mirrored o start l' u c := by
  obtain ⟨cell, cell', held, copied, mirrors⟩ := mirrored
  exact ⟨cell, cell', held, same.trans copied, mirrors_imp (fun _ _ => stands_later notes) mirrors⟩

theorem mirrored_inside {c : Nat} (mirrored : b.Mirrored o start l u c) : c < l.graph.size := by
  obtain ⟨_, _, _, copied, _⟩ := mirrored
  exact Graph.cell_inside copied

theorem entered_later (notes : b.Notes o start l l') (entered : b.Entered o start l p) :
    b.Entered o start l' p := by
  obtain ⟨q, keys, entry, leads, noted⟩ := entered
  exact ⟨q, keys, entry, leads, fun key passed => notes.noted key (noted key passed)⟩

theorem opened_later {f : Frame} (notes : b.Notes o start l l') (size : l.graph.size ≤ l'.graph.size)
    (list : b.kind f.spot.item = .list → (∃ items, l.graph.cell? f.cell = some (.list items)) →
      ∃ items, l'.graph.cell? f.cell = some (.list items))
    (opened : b.Opened o start l f) : b.Opened o start l' f where
  visits := opened.visits
  entered needed := entered_later notes (opened.entered needed)
  cell := Nat.lt_of_lt_of_le opened.cell size
  copy := opened.copy
  list is := list is (opened.list is)
  target := opened.target

/-- How the frames change with the state: what is closed stays so, and a copy that is left is closed. -/
structure Moves (o : LoaderOptions) (b : Library) (start : Spot) (l : Loader) (frames : List Frame)
    (l' : Loader) (frames' : List Frame) : Prop where
  notes : b.Notes o start l l'
  closed : ∀ u c, b.Closed o start l frames u c → b.Closed o start l' frames' u c
  copied : ∀ u c, ⟨u, c, none⟩ ∈ frames → ⟨u, c, none⟩ ∈ frames' ∨ b.Closed o start l' frames' u c

variable {frames' : List Frame}

theorem settled_later (moves : Moves o b start l frames l' frames')
    (settled : b.Settled o start l frames e x) : b.Settled o start l' frames' e x := by
  unfold Settled at settled ⊢
  split
  next map =>
    rw [map] at settled
    obtain ⟨c, is, old⟩ := settled
    exact ⟨c, is, moves.closed e c old⟩
  next list =>
    rw [list] at settled
    exact copy_later moves.notes settled
  next leaf =>
    rw [leaf] at settled
    exact settled.imp_right (known_later moves.notes)

theorem copy_later_fits (moves : Moves o b start l frames l' frames') {id : Nat}
    (fits : b.CopyFits o start l frames id x) : b.CopyFits o start l' frames' id x := by
  obtain ⟨u, c, is, visits, plain, item, state⟩ := fits
  refine ⟨u, c, is, visits, plain, item, ?_⟩
  obtain framed | closed := state
  · exact moves.copied u c framed
  · exact .inr (moves.closed u c closed)

theorem target_later_fits (moves : Moves o b start l frames l' frames') {key : String}
    (placed : ∀ q c, ⟨q, c, some key⟩ ∈ frames → ⟨q, c, some key⟩ ∈ frames' ∨
      ∃ keys e, b.Ends o q keys e ∧ b.Settled o start l' frames' e (.node c))
    (fits : b.TargetFits o start l frames key x) : b.TargetFits o start l' frames' key x := by
  obtain ⟨p, q, visits, followed, state⟩ := fits
  refine ⟨p, q, visits, followed, ?_⟩
  obtain ⟨c, rfl, framed⟩ | ⟨keys, e, ends, settled⟩ := state
  · exact (placed q c framed).imp_left fun still => ⟨c, rfl, still⟩
  · exact .inr ⟨keys, e, ends, settled_later moves settled⟩

-- What happens elsewhere, or to the cells of frames, leaves what has been noted as it is.
theorem sound_elsewhere (sound : b.Sound o start l frames) (l' : Loader)
    (copies : l'.copies = l.copies) (targets : l'.targets = l.targets)
    (size : l.graph.size ≤ l'.graph.size)
    (read : ∀ location id, Belongs (roots start l) l.graph location id →
      Belongs (roots start l') l'.graph location id)
    (cells : ∀ c, c < l.graph.size → (∀ f ∈ frames, f.cell ≠ c) → l'.graph.cell? c = l.graph.cell? c)
    (lists : ∀ f ∈ frames, b.kind f.spot.item = .list →
      (∃ items, l.graph.cell? f.cell = some (.list items)) →
      ∃ items, l'.graph.cell? f.cell = some (.list items)) :
    b.Sound o start l' frames ∧ b.Notes o start l l' := by
  have notes : b.Notes o start l l' := by
    refine ⟨read, fun id x noted => ?_, fun key known => ?_, fun key x noted _ => ?_⟩
    · rwa [copies]
    · rwa [targets]
    · rwa [targets]
  have moves : Moves o b start l frames l' frames :=
    ⟨notes, fun u c ⟨mirrored, apart⟩ =>
        ⟨mirrored_later notes (cells c (mirrored_inside mirrored) apart) mirrored, apart⟩,
      fun u c => .inl⟩
  refine ⟨⟨fun f held => opened_later notes size (lists f held) (sound.opened f held),
    fun id x noted => ?_, fun key x noted => ?_⟩, notes⟩
  · rw [copies] at noted
    exact copy_later_fits moves (sound.copies id x noted)
  · rw [targets] at noted
    exact target_later_fits moves (fun _ _ => .inl) (sound.targets key x noted)

theorem lookup_noted {α : Type} [DecidableEq α] (entries : List (α × Item)) (key other : α) (x : Item) :
    ((key, x) :: entries).lookup other = if other = key then some x else entries.lookup other := by
  by_cases same : other = key
  · simp [same]
  · rw [List.lookup_cons, beq_false_of_ne same, if_neg same]

theorem add_kept (g : Graph) (cell : Cell) {c : Nat} (inside : c < g.size) :
    (g.add cell).1.cell? c = g.cell? c := by
  rw [Graph.add_cell, if_neg (Nat.ne_of_lt inside)]

-- The cell of a new frame is beyond all that has been closed.
theorem moves_open (notes : b.Notes o start l l') {cell : Cell} (graph : l'.graph = (l.graph.add cell).1)
    {f : Frame} (new : f.cell = l.graph.size) : Moves o b start l frames l' (f :: frames) := by
  refine ⟨notes, fun u c ⟨mirrored, apart⟩ => ⟨?_, fun f' held => ?_⟩, fun u c held => ?_⟩
  · refine mirrored_later notes ?_ mirrored
    rw [graph, add_kept _ _ (mirrored_inside mirrored)]
  · obtain rfl | old := List.mem_cons.mp held
    · have inside := mirrored_inside mirrored
      omega
    · exact apart f' old
  · exact .inl (List.mem_cons_of_mem f held)

theorem opened_add (sound : b.Sound o start l frames) (notes : b.Notes o start l l') {cell : Cell}
    (graph : l'.graph = (l.graph.add cell).1) {f : Frame} (held : f ∈ frames) :
    b.Opened o start l' f := by
  have opened := sound.opened f held
  refine opened_later notes ?_ (fun _ ⟨items, same⟩ => ⟨items, ?_⟩) opened
  · rw [graph, Graph.add_size]
    omega
  · rw [graph, add_kept _ _ opened.cell, same]

theorem sound_open_copy (sound : b.Sound o start l frames) {id : Nat} (visits : b.Visits o start p)
    (plain : b.reference? p = none) (item : p.item = .node id) (fresh : l.copies.lookup id = none)
    (entered : b.kind p.item = .map → b.Entered o start l p) {empty : Cell}
    (list : b.kind p.item = .list → empty = .list []) :
    let l' : Loader :=
      { l with graph := (l.graph.add empty).1, copies := (id, .node l.graph.size) :: l.copies }
    (∀ location id, Belongs (roots start l) l.graph location id →
      Belongs (roots start l') l'.graph location id) →
    b.Sound o start l' (⟨p, l.graph.size, none⟩ :: frames) ∧ b.Notes o start l l' := by
  intro l' read
  have lookup (other : Nat) : l'.copies.lookup other =
      if other = id then some (.node l.graph.size) else l.copies.lookup other := lookup_noted _ _ _ _
  have notes : b.Notes o start l l' := by
    refine ⟨read, fun other x noted => ?_, fun _ known => known, fun _ _ noted _ => noted⟩
    rw [lookup, if_neg, noted]
    rintro rfl
    rw [fresh] at noted
    cases noted
  have moves : Moves o b start l frames l' (⟨p, l.graph.size, none⟩ :: frames) :=
    moves_open notes rfl rfl
  refine ⟨⟨fun f held => ?_, fun other x noted => ?_, fun key x noted => ?_⟩, notes⟩
  · obtain rfl | old := List.mem_cons.mp held
    · refine ⟨visits, fun needed => ?_, ?_, fun _ => plain, fun is => ⟨[], ?_⟩, nofun⟩
      · obtain map | keyed := needed
        · exact entered_later notes (entered map)
        · cases keyed
      · change l.graph.size < (l.graph.add empty).1.size
        rw [Graph.add_size]
        omega
      · change (l.graph.add empty).1.cell? l.graph.size = _
        rw [Graph.add_cell, if_pos rfl, list is]
    · exact opened_add sound notes rfl old
  · rw [lookup] at noted
    by_cases same : other = id
    · rw [if_pos same] at noted
      cases noted
      subst same
      exact ⟨p, _, rfl, visits, plain, item, .inl (by simp)⟩
    · rw [if_neg same] at noted
      exact copy_later_fits moves (sound.copies other x noted)
  · exact target_later_fits moves (fun _ _ held => .inl (List.mem_cons_of_mem _ held))
      (sound.targets key x noted)

theorem sound_open_target (sound : b.Sound o start l frames) {key : String}
    (visits : b.Visits o start p) (followed : b.follow? o p = some (key, q))
    (fresh : l.targets.lookup key = none) (map : b.kind q.item = .map)
    (entered : b.Entered o start l p) :
    let l' : Loader :=
      { l with graph := (l.graph.add (.map [])).1, targets := (key, .node l.graph.size) :: l.targets }
    (∀ location id, Belongs (roots start l) l.graph location id →
      Belongs (roots start l') l'.graph location id) →
    b.Sound o start l' (⟨q, l.graph.size, some key⟩ :: frames) ∧ b.Notes o start l l' := by
  intro l' read
  have lookup (other : String) : l'.targets.lookup other =
      if other = key then some (.node l.graph.size) else l.targets.lookup other := lookup_noted _ _ _ _
  have notes : b.Notes o start l l' := by
    refine ⟨read, fun _ _ => id, fun other known => ?_, fun other x noted _ => ?_⟩
    · rw [lookup]
      split
      · rfl
      · exact known
    · rw [lookup, if_neg, noted]
      rintro rfl
      rw [fresh] at noted
      cases noted
  have moves : Moves o b start l frames l' (⟨q, l.graph.size, some key⟩ :: frames) :=
    moves_open notes rfl rfl
  -- The new frame leads on from the way to the reference; what was noted before stays as it fits.
  refine ⟨⟨fun f held => ?_, fun other x noted => ?_, fun other x noted => ?_⟩, notes⟩
  · obtain rfl | old := List.mem_cons.mp held
    · refine ⟨.on visits followed, fun _ => ?_, ?_, nofun, fun is => ?_, fun other same => ?_⟩
      · obtain ⟨r, keys, entry, leads, noted⟩ := entered_later notes entered
        refine ⟨r, keys ++ [key], entry, leads_append leads (.on followed (.stop q)), fun k passed => ?_⟩
        obtain early | last := List.mem_append.mp passed
        · exact noted k early
        · cases List.mem_singleton.mp last
          rw [lookup, if_pos rfl]
          rfl
      · change l.graph.size < (l.graph.add (.map [])).1.size
        rw [Graph.add_size]
        omega
      · rw [map] at is
        cases is
      · cases same
        exact ⟨map, p, visits, followed⟩
    · exact opened_add sound notes rfl old
  · exact copy_later_fits moves (sound.copies other x noted)
  · rw [lookup] at noted
    by_cases same : other = key
    · rw [if_pos same] at noted
      cases noted
      subst same
      exact ⟨p, q, visits, followed, .inl ⟨_, rfl, by simp⟩⟩
    · rw [if_neg same] at noted
      exact target_later_fits moves (fun _ _ held => .inl (List.mem_cons_of_mem _ held))
        (sound.targets other x noted)

-- A frame is left when what it has made is complete.
theorem sound_leave {f : Frame} (sound : b.Sound o start l (f :: frames))
    (copied : f.key = none → b.Closed o start l frames f.spot f.cell)
    (placed : ∀ key, f.key = some key → ∃ keys e, b.Ends o f.spot keys e ∧
      b.Settled o start l frames e (.node f.cell)) : b.Sound o start l frames := by
  have moves : Moves o b start l (f :: frames) l frames := by
    refine ⟨notes_refl l, fun u c ⟨mirrored, apart⟩ =>
      ⟨mirrored, fun f' held => apart f' (List.mem_cons_of_mem f held)⟩, fun u c held => ?_⟩
    obtain rfl | old := List.mem_cons.mp held
    · exact .inr (copied rfl)
    · exact .inl old
  refine ⟨fun f' held => sound.opened f' (List.mem_cons_of_mem f held),
    fun id x noted => copy_later_fits moves (sound.copies id x noted),
    fun key x noted => target_later_fits moves (fun q c held => ?_) (sound.targets key x noted)⟩
  obtain rfl | old := List.mem_cons.mp held
  · exact .inr (placed key rfl)
  · exact .inl old

theorem sound_note (regular : b.Regular o start) (sound : b.Sound o start l frames)
    {key : String} {keys : List String} (visits : b.Visits o start p)
    (followed : b.follow? o p = some (key, q)) (ends : b.Ends o q keys e)
    (other : b.kind e.item ≠ .map) (value : b.Kept start l keys e x)
    (fewer : ∀ f ∈ frames', f ∈ frames) (left : ∀ f ∈ frames, f ∈ frames' ∨ f.key = some key) :
    let l' : Loader := { l with targets := (key, x) :: l.targets }
    b.Sound o start l' frames' ∧ b.Notes o start l l' := by
  intro l'
  have lookup (k : String) : l'.targets.lookup k = if k = key then some x else l.targets.lookup k :=
    lookup_noted _ _ _ _
  have notes : b.Notes o start l l' := by
    refine ⟨fun _ _ => id, fun _ _ noted => noted, fun k known => ?_, fun k y noted heads => ?_⟩
    · rw [lookup]
      split
      · rfl
      · exact known
    · -- No key of a map is noted anew.
      rw [lookup, if_neg, noted]
      rintro rfl
      obtain ⟨p', q', keys', e', visits', followed', ends', map⟩ := heads
      cases regular.same_target visits visits' followed followed'
      obtain ⟨_, rfl⟩ := ends_unique ends ends'
      exact other map
  -- A frame that is left was that of the key, whose target is what is noted now.
  have moves : Moves o b start l frames l' frames' := by
    refine ⟨notes, fun u c ⟨mirrored, apart⟩ => ⟨mirrored_later notes rfl mirrored,
      fun f held => apart f (fewer f held)⟩, fun u c held => .inl ?_⟩
    obtain still | keyed := left _ held
    · exact still
    · cases keyed
  refine ⟨⟨fun f held => ?_, fun id y noted => copy_later_fits moves (sound.copies id y noted),
    fun k y noted => ?_⟩, notes⟩
  · exact opened_later notes (Nat.le_refl _) (fun _ => id) (sound.opened f (fewer f held))
  · rw [lookup] at noted
    by_cases same : k = key
    · rw [if_pos same] at noted
      cases noted
      subst same
      have settled := settled_later moves ((kept_settled frames other).mp value)
      exact ⟨p, q, visits, followed, .inr ⟨keys, e, ends, settled⟩⟩
    · rw [if_neg same] at noted
      refine target_later_fits moves (fun q' c held => .inl ?_) (sound.targets k y noted)
      obtain still | keyed := left _ held
      · exact still
      · exact (same (Option.some.inj keyed)).elim

def OneHome (o : LoaderOptions) (b : Library) (start : Spot) : Prop :=
  ∀ p q id, b.Visits o start p → b.Visits o start q → p.item = .node id → q.item = .node id →
    p.location = q.location

theorem stands_alike (regular : b.Regular o start) (home : OneHome o b start)
    (visits : b.Visits o start q) (same : p.item = q.item) (stands : b.Stands o start l p x) :
    b.Stands o start l q x := by
  obtain ⟨visits', keys, e, ends, kept⟩ := stands
  -- The same item met elsewhere is the same reference, or none in both places.
  have alike := regular.alike p q visits' visits same
  refine ⟨visits, ?_⟩
  cases named : b.reference? p with
  | none =>
      obtain ⟨rfl, rfl⟩ := ends_here ends named
      refine ⟨[], q, ⟨.stop q, alike.symm.trans named⟩, ?_⟩
      unfold Kept at kept ⊢
      rw [← same]
      cases kind : b.kind e.item with
      | map =>
          rw [kind] at kept
          exact kept
      | list =>
          rw [kind] at kept
          exact kept
      | leaf =>
          rw [kind] at kept
          refine ⟨kept.1, fun id node => ?_⟩
          rw [← home e q id visits' visits (same.trans node) node]
          exact kept.2 id (same.trans node)
  | some reference =>
      obtain ⟨leads, plain⟩ := ends
      cases leads with
      | stop =>
          rw [named] at plain
          cases plain
      | on followed onward =>
          obtain ⟨id, node⟩ : ∃ id, p.item = .node id := by
            obtain ⟨entries, held⟩ := kind_map.mp (reference_map named)
            cases item : p.item with
            | node id => exact ⟨id, rfl⟩
            | scalar s =>
                rw [item] at held
                cases held
          have location := home p q id visits' visits node (same ▸ node)
          rw [follow_alike location alike] at followed
          exact ⟨_, e, ⟨.on followed onward, plain⟩, kept⟩

theorem mirrored_alike (regular : b.Regular o start) (home : OneHome o b start)
    (visits : b.Visits o start e) (plain : b.reference? e = none) (same : u.item = e.item) {c : Nat}
    (mirrored : b.Mirrored o start l u c) : b.Mirrored o start l e c := by
  obtain ⟨cell, cell', held, copied, mirrors⟩ := mirrored
  rw [same] at held
  refine ⟨cell, cell', held, copied, ?_⟩
  have inside (part : Item) (member : part ∈ b.contents e) : b.Visits o start { e with item := part } :=
    .into visits plain member
  cases mirrors with
  | @map entries copies all =>
      refine .map (List.forall₂_iff_get.mpr ⟨(List.forall₂_iff_get.mp all).1, fun i below below' => ?_⟩)
      obtain ⟨key, stands⟩ := (List.forall₂_iff_get.mp all).2 i below below'
      refine ⟨key, stands_alike (p := { u with item := _ }) regular home (inside _ ?_) rfl stands⟩
      rw [contents, held]
      exact List.mem_map.mpr ⟨_, List.get_mem entries ⟨i, below⟩, rfl⟩
  | @list items copies all =>
      refine .list (List.forall₂_iff_get.mpr ⟨(List.forall₂_iff_get.mp all).1, fun i below below' => ?_⟩)
      have stands := (List.forall₂_iff_get.mp all).2 i below below'
      refine stands_alike (p := { u with item := _ }) regular home (inside _ ?_) rfl stands
      rw [contents, held]
      exact List.get_mem items ⟨i, below⟩

def Blocks (f : Frame) (keys : List String) (e : Spot) : Prop :=
  (f.key = none ∧ f.spot.item = e.item) ∨ ∃ key rest, f.key = some key ∧ keys = key :: rest

theorem settled_of_stands (regular : b.Regular o start) (home : OneHome o b start)
    (sound : b.Sound o start l frames) {keys : List String} (ends : b.Ends o q keys e)
    (stands : b.Stands o start l q x) (free : ∀ f ∈ frames, ¬ Blocks f keys e) :
    b.Settled o start l frames e x := by
  obtain ⟨visits, keys', e', ends', kept⟩ := stands
  obtain ⟨rfl, rfl⟩ := ends_unique ends ends'
  have visitsEnd := visits_trans visits (visits_leads ends.1)
  by_cases map : b.kind e.item = .map
  · unfold Kept at kept
    unfold Settled
    rw [map] at kept ⊢
    cases keys with
    | nil =>
        obtain ⟨id, node, noted⟩ := copy_node kept
        obtain ⟨u, c, is, _, _, item, framed | closed⟩ := sound.copies id x noted
        · exact (free _ framed (.inl ⟨rfl, item.trans node.symm⟩)).elim
        · exact ⟨c, is, mirrored_alike regular home visitsEnd ends.2 (item.trans node.symm) closed.1,
            closed.2⟩
    | cons key rest =>
        obtain ⟨leads, plain⟩ := ends
        cases leads with
        | on followed onward =>
            obtain ⟨p', q', visits', followed', state⟩ := sound.targets key x kept
            cases regular.same_target visits visits' followed followed'
            obtain ⟨c, _, framed⟩ | ⟨keys', e', ends', settled⟩ := state
            · exact (free _ framed (.inr ⟨key, rest, rfl, rfl⟩)).elim
            · obtain ⟨_, rfl⟩ := ends_unique ⟨onward, plain⟩ ends'
              unfold Settled at settled
              rw [map] at settled
              exact settled
  · exact (kept_settled frames map).mp kept

end Library

end ApiSchema
