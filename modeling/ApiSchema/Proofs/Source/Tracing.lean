import ApiSchema.Proofs.Source.Bundling

/-!
What a loader has noted, whatever the documents are like: which containers are copies of which, and
what references have been replaced by.

A copy holds what has been placed for the first parts of its container. It need not be complete, even
at the end: a placeholder gets what the copy of its target holds when that is handed over.
-/

namespace ApiSchema

abbrev Loader.library (l : Loader) : Library := ⟨l.graph, l.documents⟩

namespace Library

variable (o : LoaderOptions) (b : Library) (start : Spot)

-- Unlike the target itself, the key is known before anything has been read.
def key? (p : Spot) : Option String :=
  (b.reference? p).bind fun reference =>
    (aim o reference p.location).toOption.map fun (location, pointer) => targetKey location pointer

def OneTarget : Prop :=
  ∀ p p' q q' key, b.Visits o start p → b.Visits o start p' →
    b.follow? o p = some (key, q) → b.follow? o p' = some (key, q') → q = q'

def Straight (item : Item) : Prop :=
  ∀ p key keys e, b.Returns o start p (key :: keys) e → e.item = item → keys = []

def Firm (l : Loader) (p : Spot) (x : Item) : Prop :=
  b.OneTarget o start → ∀ keys e id, b.Ends o p keys e → b.kind e.item = .list →
    b.Straight o start e.item → e.item = .node id → (id, x) ∈ l.copies

inductive Placed (l : Loader) (p : Spot) : Item → Prop
  | leaf : b.kind p.item = .leaf → Placed l p p.item
  | copy {id : Nat} {x : Item} : b.reference? p = none → p.item = .node id → (id, x) ∈ l.copies →
      Placed l p x
  | target {key : String} {x : Item} : b.key? o p = some key → (key, x) ∈ l.targets →
      b.Firm o start l p x → Placed l p x

def Fills (l : Loader) (u : Spot) (rest : List (Option Scalar × Item)) (c : Nat) : Prop :=
  ∃ front copied, b.graph.of? u.item = some (withParts rest front) ∧ l.graph.cell? c = some copied ∧
    Mirrors (fun part x => b.Placed o start l { u with item := part } x) front copied

def CopyOf (l : Loader) (rest : List (Option Scalar × Item)) (item : Item) (c : Nat) : Prop :=
  ∃ u, b.Visits o start u ∧ b.reference? u = none ∧ u.item = item ∧ b.Fills o start l u rest c

def Renders (l : Loader) (e : Spot) (x : Item) : Prop :=
  match b.kind e.item with
  | .map => ∃ c rest, x = .node c ∧ b.CopyOf o start l rest e.item c
  | .list => ∃ id, e.item = .node id ∧ (id, x) ∈ l.copies
  | .leaf => x = e.item ∧ Known start l e

def Blank (l : Loader) (x : Item) : Prop := ∃ c, x = .node c ∧ l.graph.cell? c = some (.map [])

def Becomes (l : Loader) (q : Spot) (x : Item) : Prop :=
  Blank l x ∨ ∃ e, b.Visits o start e ∧ b.reference? e = none ∧ e.isRoot = false ∧
    (b.OneTarget o start → ∀ keys e', b.Ends o q keys e' → e' = e) ∧ b.Renders o start l e x

def Targeted (l : Loader) (key : String) (x : Item) : Prop :=
  ∃ p q, b.Visits o start p ∧ b.follow? o p = some (key, q) ∧ b.Becomes o start l q x

structure Traced (l : Loader) : Prop where
  copies : ∀ id x, (id, x) ∈ l.copies → ∃ c rest, x = .node c ∧ b.CopyOf o start l rest (.node id) c
  once : ∀ id x y, (id, x) ∈ l.copies → (id, y) ∈ l.copies → x = y
  apart : ∀ id id' x, (id, x) ∈ l.copies → (id', x) ∈ l.copies → id = id'
  targets : ∀ key x, (key, x) ∈ l.targets → b.Targeted o start l key x
  inside : ∀ key c, (key, .node c) ∈ l.targets → c < l.graph.size
  held : ∀ key key' x x', (key, x) ∈ l.targets → (key', x') ∈ l.targets → l.graph.isMap x = true →
    l.graph.isMap x' = true → (key = key' ↔ x = x')
  neither : ∀ key id x, (key, x) ∈ l.targets → l.graph.isMap x = true → (id, x) ∉ l.copies

/-- What is found under a key is what has been made of the target, or the placeholder of a target that
is being copied. -/
def Current (l : Loader) (pending : List (String × Spot)) : Prop :=
  ∀ key x, l.targets.lookup key = some x → (∃ q, (key, q) ∈ pending) ∨
    ∀ p q, b.Visits o start p → b.follow? o p = some (key, q) → b.Firm o start l q x

structure Later (start : Spot) (but : Option Nat) (l l' : Loader) : Prop where
  size : l.graph.size ≤ l'.graph.size
  read : ∀ location id, Belongs (roots start l) l.graph location id →
    Belongs (roots start l') l'.graph location id
  copies : ∀ note ∈ l.copies, note ∈ l'.copies
  targets : ∀ note ∈ l.targets, note ∈ l'.targets
  cells : ∀ i, i < l.graph.size → but ≠ some i → l'.graph.cell? i = l.graph.cell? i

def Complete (l l' : Loader) : Prop :=
  ∀ id x, (id, x) ∈ l'.copies → (id, x) ∈ l.copies ∨
    ∃ c, x = .node c ∧ l.graph.size ≤ c ∧ b.CopyOf o start l' [] (.node id) c

variable {o b start} {l l' l'' : Loader} {p q u e : Spot} {x y item : Item} {key : String}
variable {but but' : Option Nat} {rest : List (Option Scalar × Item)} {c : Nat}
variable {pending : List (String × Spot)}

theorem key_followed (followed : b.follow? o p = some (key, q)) : b.key? o p = some key := by
  obtain ⟨reference, pointer, _, named, aimed, spelled, _⟩ := follow_parts followed
  rw [key?, named, spelled]
  simp [aimed, Except.toOption]

theorem key_reference (keyed : b.key? o p = some key) : b.reference? p ≠ none := by
  intro plain
  rw [key?, plain] at keyed
  cases keyed

theorem placed_firm (placed : b.Placed o start l p x) : b.Firm o start l p x := by
  cases placed with
  | leaf kind =>
      intro _ keys e id ends list
      obtain ⟨_, rfl⟩ := ends_here ends (other_plain (by rw [kind]; decide))
      rw [kind] at list
      cases list
  | copy plain item noted =>
      intro _ keys e id ends list _ node
      obtain ⟨_, rfl⟩ := ends_here ends plain
      cases item.symm.trans node
      exact noted
  | target _ _ firm => exact firm

theorem later_refl (l : Loader) : Later start but l l :=
  ⟨Nat.le_refl _, fun _ _ => id, fun _ => id, fun _ => id, fun _ _ _ => rfl⟩

theorem later_trans (first : Later start but l l') (second : Later start but' l' l'')
    (inner : ∀ i, but' = some i → i < l.graph.size → but = some i) : Later start but l l'' where
  size := Nat.le_trans first.size second.size
  read location id belongs := second.read location id (first.read location id belongs)
  copies note noted := second.copies note (first.copies note noted)
  targets note noted := second.targets note (first.targets note noted)
  cells i below other := by
    have unchanged := second.cells i (Nat.lt_of_lt_of_le below first.size)
      fun same => other (inner i same below)
    rw [unchanged, first.cells i below other]

theorem later_then (first : Later start but l l') (second : Later start none l' l'') :
    Later start but l l'' := by
  refine later_trans first second fun i absurd => ?_
  cases absurd

theorem known_onward (later : Later start but l l') (known : Known start l p) : Known start l' p :=
  fun id node => later.read p.location id (known id node)

theorem placed_onward (later : Later start but l l') (placed : b.Placed o start l p x) :
    b.Placed o start l' p x := by
  cases placed with
  | leaf kind => exact .leaf kind
  | copy plain item noted => exact .copy plain item (later.copies _ noted)
  | target keyed noted firm =>
      apply Placed.target keyed (later.targets _ noted)
      intro one keys e id ends list straight node
      exact later.copies _ (firm one keys e id ends list straight node)

theorem fills_onward (later : Later start but l l') {c' : Nat}
    (same : l'.graph.cell? c' = l.graph.cell? c) (fills : b.Fills o start l u rest c) :
    b.Fills o start l' u rest c' := by
  obtain ⟨front, copied, held, cell, mirrors⟩ := fills
  exact ⟨front, copied, held, same.trans cell, mirrors_imp (fun _ _ => placed_onward later) mirrors⟩

theorem fills_inside (fills : b.Fills o start l u rest c) : c < l.graph.size := by
  obtain ⟨_, _, _, cell, _⟩ := fills
  exact Graph.cell_inside cell

theorem copy_onward (later : Later start but l l') {c' : Nat}
    (same : l'.graph.cell? c' = l.graph.cell? c) (copied : b.CopyOf o start l rest item c) :
    b.CopyOf o start l' rest item c' := by
  obtain ⟨u, visits, plain, is, fills⟩ := copied
  exact ⟨u, visits, plain, is, fills_onward later same fills⟩

theorem copy_inside (copied : b.CopyOf o start l rest item c) : c < l.graph.size := by
  obtain ⟨_, _, _, _, fills⟩ := copied
  exact fills_inside fills

theorem renders_onward (later : Later start but l l') (other : ∀ c, but = some c → x ≠ .node c)
    (renders : b.Renders o start l e x) : b.Renders o start l' e x := by
  unfold Renders at renders ⊢
  split
  next map =>
    rw [map] at renders
    obtain ⟨c, rest, rfl, copied⟩ := renders
    have same := later.cells c (copy_inside copied) fun here => other c here rfl
    exact ⟨c, rest, rfl, copy_onward later same copied⟩
  next list =>
    rw [list] at renders
    obtain ⟨id, node, noted⟩ := renders
    exact ⟨id, node, later.copies _ noted⟩
  next leaf =>
    rw [leaf] at renders
    exact ⟨renders.1, known_onward later renders.2⟩

theorem becomes_onward (later : Later start but l l') (other : ∀ c, but = some c → x ≠ .node c)
    (becomes : b.Becomes o start l q x) : b.Becomes o start l' q x := by
  rcases becomes with ⟨c, rfl, cell⟩ | ⟨e, visits, plain, outside, ends, renders⟩
  · have same := later.cells c (Graph.cell_inside cell) fun here => other c here rfl
    exact .inl ⟨c, rfl, same.trans cell⟩
  · exact .inr ⟨e, visits, plain, outside, ends, renders_onward later other renders⟩

theorem targeted_onward (later : Later start but l l') (other : ∀ c, but = some c → x ≠ .node c)
    (targeted : b.Targeted o start l key x) : b.Targeted o start l' key x := by
  obtain ⟨p, q, visits, followed, becomes⟩ := targeted
  exact ⟨p, q, visits, followed, becomes_onward later other becomes⟩

theorem map_onward (later : Later start but l l') (other : ∀ c, but = some c → x ≠ .node c)
    (inside : ∀ c, x = .node c → c < l.graph.size) : l'.graph.isMap x = l.graph.isMap x := by
  cases x with
  | scalar s => rfl
  | node c =>
      have same := later.cells c (inside c rfl) fun here => other c here rfl
      have held : l'.graph.of? (.node c) = l.graph.of? (.node c) := same
      rw [Graph.isMap, Graph.isMap, Graph.entries?, Graph.entries?, held]

theorem firm_onward (copies : ∀ note ∈ l.copies, note ∈ l'.copies) (firm : b.Firm o start l q x) :
    b.Firm o start l' q x :=
  fun one keys e id ends list straight node => copies _ (firm one keys e id ends list straight node)

theorem current_onward (copies : ∀ note ∈ l.copies, note ∈ l'.copies) (same : l'.targets = l.targets)
    (current : b.Current o start l pending) : b.Current o start l' pending := by
  intro key x noted
  rw [same] at noted
  rcases current key x noted with open_ | firm
  · exact .inl open_
  · exact .inr fun p q visits followed => firm_onward copies (firm p q visits followed)

theorem noted_map (traced : b.Traced o start l) (later : Later start but l l')
    (other : ∀ c, but = some c → x ≠ .node c) (noted : (key, x) ∈ l.targets) :
    l'.graph.isMap x = l.graph.isMap x := by
  refine map_onward later other fun c is => ?_
  subst is
  exact traced.inside key c noted

theorem noted_copy (traced : b.Traced o start l) (later : Later start none l l') {id : Nat}
    (noted : (id, x) ∈ l.copies) : ∃ c rest, x = .node c ∧ b.CopyOf o start l' rest (.node id) c := by
  obtain ⟨c, rest, rfl, copied⟩ := traced.copies id x noted
  exact ⟨c, rest, rfl, copy_onward later (later.cells c (copy_inside copied) nofun) copied⟩

-- What comes next is behind all that has been noted.
theorem next_unnoted (traced : b.Traced o start l) (id : Nat) : (id, .node l.graph.size) ∉ l.copies := by
  intro noted
  obtain ⟨c, _, same, copied⟩ := traced.copies id _ noted
  cases same
  exact Nat.lt_irrefl _ (copy_inside copied)

-- A step that adds no notes, and changes at most one container, which still is what it is noted as.
theorem traced_onward (traced : b.Traced o start l) (later : Later start but l l')
    (copies : l'.copies = l.copies) (targets : l'.targets = l.targets)
    (kind : ∀ c, but = some c → l'.graph.isMap (.node c) = l.graph.isMap (.node c))
    (copied : ∀ c id, but = some c → (id, .node c) ∈ l.copies →
      ∃ rest, b.CopyOf o start l' rest (.node id) c)
    (targeted : ∀ c key, but = some c → (key, .node c) ∈ l.targets →
      b.Targeted o start l' key (.node c)) : b.Traced o start l' := by
  -- The container that changes stays a map or stays none, the others stay as they are.
  have maps {key : String} {x : Item} (noted : (key, x) ∈ l.targets) :
      l'.graph.isMap x = l.graph.isMap x := by
    by_cases here : ∃ c, but = some c ∧ x = .node c
    · obtain ⟨c, is, rfl⟩ := here
      exact kind c is
    · exact noted_map traced later (fun c is same => here ⟨c, is, same⟩) noted
  constructor
  case copies =>
    intro id x noted
    rw [copies] at noted
    obtain ⟨c, rest, rfl, was⟩ := traced.copies id x noted
    by_cases here : but = some c
    · obtain ⟨rest', now⟩ := copied c id here noted
      exact ⟨c, rest', rfl, now⟩
    · exact ⟨c, rest, rfl, copy_onward later (later.cells c (copy_inside was) here) was⟩
  case once =>
    rw [copies]
    exact traced.once
  case apart =>
    rw [copies]
    exact traced.apart
  case targets =>
    intro key x noted
    rw [targets] at noted
    by_cases here : ∃ c, but = some c ∧ x = .node c
    · obtain ⟨c, is, rfl⟩ := here
      exact targeted c key is noted
    · exact targeted_onward later (fun c is same => here ⟨c, is, same⟩) (traced.targets key x noted)
  case inside =>
    intro key c noted
    rw [targets] at noted
    exact Nat.lt_of_lt_of_le (traced.inside key c noted) later.size
  case held =>
    intro key key' x x' noted noted'
    rw [targets] at noted noted'
    rw [maps noted, maps noted']
    exact traced.held key key' x x' noted noted'
  case neither =>
    intro key id x noted
    rw [targets] at noted
    rw [maps noted, copies]
    exact traced.neither key id x noted

-- A step that changes nothing that was there.
theorem traced_still (traced : b.Traced o start l) (later : Later start none l l')
    (copies : l'.copies = l.copies) (targets : l'.targets = l.targets) : b.Traced o start l' := by
  apply traced_onward traced later copies targets
  all_goals
    intros
    contradiction

theorem absent_note {α : Type} [DecidableEq α] {notes : List (α × Item)} {k : α}
    (fresh : notes.lookup k = none) (x : Item) : (k, x) ∉ notes := by
  intro noted
  have different := List.lookup_eq_none_iff.mp fresh (k, x) noted
  simp at different

theorem lookup_note {α : Type} [DecidableEq α] {notes : List (α × Item)} {k : α}
    (found : notes.lookup k = some x) : (k, x) ∈ notes := by
  obtain ⟨before, after, split, _⟩ := List.lookup_eq_some_iff.mp found
  simp [split]

theorem traced_open_copy {id : Nat} {empty : Cell} (traced : b.Traced o start l)
    (visits : b.Visits o start p) (plain : b.reference? p = none) (node : p.item = .node id)
    (fresh : l.copies.lookup id = none) (held : b.graph.of? p.item = some (withParts rest empty))
    (nothing : Mirrors (fun part x => b.Placed o start l' { p with item := part } x) empty empty)
    (opened : l' = { l with graph := (l.graph.add empty).1,
                            copies := (id, .node l.graph.size) :: l.copies })
    (later : Later start none l l') : b.Traced o start l' := by
  have copies : l'.copies = (id, .node l.graph.size) :: l.copies := by rw [opened]
  have targets : l'.targets = l.targets := by rw [opened]
  have made : l'.graph.cell? l.graph.size = some empty := by
    rw [opened]
    exact (Graph.add_cell _ _ _).trans (if_pos rfl)
  have maps {key : String} {x : Item} (noted : (key, x) ∈ l.targets) :=
    noted_map traced later nofun noted
  constructor
  case copies =>
    intro other x noted
    rw [copies] at noted
    rcases List.mem_cons.mp noted with here | old
    · cases here
      exact ⟨_, rest, rfl, p, visits, plain, node, empty, empty, held, made, nothing⟩
    · exact noted_copy traced later old
  -- Nothing was noted as the copy of this container, and the new container is noted as no other copy.
  case once =>
    intro other x y one two
    rw [copies] at one two
    rcases List.mem_cons.mp one with here | old <;> rcases List.mem_cons.mp two with here' | old'
    · cases here
      cases here'
      rfl
    · cases here
      exact (absent_note fresh _ old').elim
    · cases here'
      exact (absent_note fresh _ old).elim
    · exact traced.once other x y old old'
  case apart =>
    intro other other' x one two
    rw [copies] at one two
    rcases List.mem_cons.mp one with here | old <;> rcases List.mem_cons.mp two with here' | old'
    · cases here
      cases here'
      rfl
    · cases here
      exact (next_unnoted traced _ old').elim
    · cases here'
      exact (next_unnoted traced _ old).elim
    · exact traced.apart other other' x old old'
  case targets =>
    intro key x noted
    rw [targets] at noted
    exact targeted_onward later nofun (traced.targets key x noted)
  case inside =>
    intro key c noted
    rw [targets] at noted
    exact Nat.lt_of_lt_of_le (traced.inside key c noted) later.size
  case held =>
    intro key key' x x' noted noted'
    rw [targets] at noted noted'
    rw [maps noted, maps noted']
    exact traced.held key key' x x' noted noted'
  case neither =>
    intro key other x noted map
    rw [targets] at noted
    rw [maps noted] at map
    rw [copies]
    intro member
    rcases List.mem_cons.mp member with here | old
    · cases here
      exact Nat.lt_irrefl _ (traced.inside key _ noted)
    · exact traced.neither key other x noted map old

-- A note under a key, of a placeholder that is new or of what is no map.
theorem traced_note (traced : b.Traced o start l) (later : Later start none l l')
    (copies : l'.copies = l.copies) (targets : l'.targets = (key, x) :: l.targets)
    (targeted : b.Targeted o start l' key x) (inside : ∀ c, x = .node c → c < l'.graph.size)
    (new : l'.graph.isMap x = true → l.targets.lookup key = none ∧ x = .node l.graph.size) :
    b.Traced o start l' := by
  have maps {key : String} {x : Item} (noted : (key, x) ∈ l.targets) :=
    noted_map traced later nofun noted
  -- A new placeholder is noted nowhere else, nor is anything else noted under its key.
  have apart {other : String} {y : Item} (noted : (other, y) ∈ l.targets)
      (map : l'.graph.isMap x = true) : other ≠ key ∧ y ≠ x := by
    obtain ⟨fresh, rfl⟩ := new map
    constructor
    · rintro rfl
      exact absent_note fresh _ noted
    · rintro rfl
      exact Nat.lt_irrefl _ (traced.inside other _ noted)
  constructor
  case copies =>
    intro id y noted
    rw [copies] at noted
    exact noted_copy traced later noted
  case once =>
    rw [copies]
    exact traced.once
  case apart =>
    rw [copies]
    exact traced.apart
  case targets =>
    intro other y noted
    rw [targets] at noted
    rcases List.mem_cons.mp noted with here | old
    · cases here
      exact targeted
    · exact targeted_onward later nofun (traced.targets other y old)
  case inside =>
    intro other c noted
    rw [targets] at noted
    rcases List.mem_cons.mp noted with here | old
    · cases here
      exact inside c rfl
    · exact Nat.lt_of_lt_of_le (traced.inside other c old) later.size
  case held =>
    intro one two y z noted noted' map map'
    rw [targets] at noted noted'
    rcases List.mem_cons.mp noted with here | old <;> rcases List.mem_cons.mp noted' with here' | old'
    · cases here
      cases here'
      exact iff_of_true rfl rfl
    · cases here
      obtain ⟨other, different⟩ := apart old' map
      exact iff_of_false (Ne.symm other) (Ne.symm different)
    · cases here'
      obtain ⟨other, different⟩ := apart old map'
      exact iff_of_false other different
    · rw [maps old] at map
      rw [maps old'] at map'
      exact traced.held one two y z old old' map map'
  case neither =>
    intro other id y noted map
    rw [targets] at noted
    rw [copies]
    rcases List.mem_cons.mp noted with here | old
    · cases here
      obtain ⟨_, rfl⟩ := new map
      exact next_unnoted traced id
    · rw [maps old] at map
      exact traced.neither other id y old map

theorem mirrors_among {R R' : Item → Item → Prop} {cell cell' : Cell}
    (imp : ∀ part ∈ cell.parts, ∀ x, R part x → R' part x) (mirrors : Mirrors R cell cell') :
    Mirrors R' cell cell' := by
  cases mirrors with
  | @map entries copies all =>
      have both := (List.forall₂_and_left (p := fun entry : Scalar × Item => entry ∈ entries) _ _).mpr
        ⟨fun _ => id, all⟩
      refine .map (both.imp fun entry copy ⟨member, same, placed⟩ => ⟨same, imp _ ?_ _ placed⟩)
      exact List.mem_map_of_mem member
  | @list items copies all =>
      have both := (List.forall₂_and_left (p := (· ∈ items)) _ _).mpr ⟨fun _ => id, all⟩
      exact .list (both.imp fun part x ⟨member, placed⟩ => imp part member x placed)

theorem with_map (rest : List (Option Scalar × Item)) (entries : Entries) :
    ∃ more, withParts rest (.map entries) = .map (entries ++ more) := by
  induction rest generalizing entries with
  | nil => exact ⟨[], by rw [List.append_nil]; rfl⟩
  | cons part rest ih =>
      obtain ⟨more, same⟩ := ih (entries ++ (part.1.map (·, part.2)).toList)
      exact ⟨_, same.trans (by rw [List.append_assoc])⟩

theorem with_list (rest : List (Option Scalar × Item)) (items : List Item) :
    ∃ more, withParts rest (.list items) = .list (items ++ more) := by
  induction rest generalizing items with
  | nil => exact ⟨[], by rw [List.append_nil]; rfl⟩
  | cons part rest ih =>
      obtain ⟨more, same⟩ := ih (items ++ [part.2])
      exact ⟨_, same.trans (by rw [List.append_assoc])⟩

-- What is in a copy has been placed for parts of its container, in their order.
theorem fills_cases (fills : b.Fills o start l u rest c) :
    (∃ entries more copies, b.graph.of? u.item = some (.map (entries ++ more)) ∧
      l.graph.cell? c = some (.map copies) ∧ List.Forall₂ (fun entry copy => entry.1 = copy.1 ∧
        b.Placed o start l { u with item := entry.2 } copy.2) entries copies) ∨
    ∃ items more copies, b.graph.of? u.item = some (.list (items ++ more)) ∧
      l.graph.cell? c = some (.list copies) ∧
      List.Forall₂ (fun part x => b.Placed o start l { u with item := part } x) items copies := by
  obtain ⟨front, copied, held, cell, mirrors⟩ := fills
  cases mirrors with
  | @map entries copies all =>
      obtain ⟨more, same⟩ := with_map rest entries
      exact .inl ⟨entries, more, copies, same ▸ held, cell, all⟩
  | @list items copies all =>
      obtain ⟨more, same⟩ := with_list rest items
      exact .inr ⟨items, more, copies, same ▸ held, cell, all⟩

theorem fills_kinds (fills : b.Fills o start l u rest c) :
    b.kind u.item = .map ∧ (∃ copies, l.graph.cell? c = some (.map copies)) ∨
      b.kind u.item = .list ∧ ∃ copies, l.graph.cell? c = some (.list copies) := by
  rcases fills_cases fills with ⟨_, _, copies, held, cell, _⟩ | ⟨_, _, copies, held, cell, _⟩
  · exact .inl ⟨kind_map.mpr ⟨_, held⟩, copies, cell⟩
  · exact .inr ⟨kind_list.mpr ⟨_, held⟩, copies, cell⟩

-- A noted copy is of the kind of what it was made of.
theorem copy_kinds (traced : b.Traced o start l) {id : Nat} (noted : (id, x) ∈ l.copies)
    (node : item = .node id) : ∃ c, x = .node c ∧
      (b.kind item = .map ∧ (∃ copies, l.graph.cell? c = some (.map copies)) ∨
        b.kind item = .list ∧ ∃ copies, l.graph.cell? c = some (.list copies)) := by
  obtain ⟨c, rest, rfl, u, _, _, is, fills⟩ := traced.copies id x noted
  have kinds := fills_kinds fills
  rw [is, ← node] at kinds
  exact ⟨c, rfl, kinds⟩

theorem no_map (known : Known start l e) (sees : b.Sees start l) (leaf : b.kind e.item ≠ .map) :
    l.graph.isMap e.item = false := by
  cases map : l.graph.isMap e.item with
  | false => rfl
  | true => exact (leaf ((kind_seen (of_seen known sees)).mp map)).elim

theorem list_no_map {copies : List Item} (cell : l.graph.cell? c = some (.list copies)) :
    l.graph.isMap (.node c) = false := by
  have held : l.graph.of? (.node c) = some (.list copies) := cell
  rw [Graph.isMap, Graph.entries?, held]
  rfl

-- What is placed for a target is what is made of it.
theorem placed_becomes (traced : b.Traced o start l) (visits : b.Visits o start q)
    (outside : q.isRoot = false) (known : Known start l q) (placed : b.Placed o start l q x) :
    b.Becomes o start l q x := by
  cases placed with
  | leaf kind =>
      have plain := other_plain (p := q) (by rw [kind]; decide)
      refine .inr ⟨q, visits, plain, outside, fun _ keys e' ends => (ends_here ends plain).2, ?_⟩
      unfold Renders
      rw [kind]
      exact ⟨rfl, known⟩
  | @copy id x plain node noted =>
      refine .inr ⟨q, visits, plain, outside, fun _ keys e' ends => (ends_here ends plain).2, ?_⟩
      obtain ⟨c, rest, rfl, copied⟩ := traced.copies id x noted
      obtain ⟨_, _, kinds⟩ := copy_kinds traced noted node
      unfold Renders
      rcases kinds with ⟨map, _⟩ | ⟨list, _⟩
      · rw [map]
        exact ⟨c, rest, rfl, node ▸ copied⟩
      · rw [list]
        exact ⟨id, node, noted⟩
  | @target key x keyed noted firm =>
      obtain ⟨p', q', visits', followed', becomes⟩ := traced.targets key x noted
      rcases becomes with blank | ⟨e, visitsEnd, plain, outside', same, renders⟩
      · exact .inl blank
      · refine .inr ⟨e, visitsEnd, plain, outside', fun one keys e' ends => ?_, renders⟩
        obtain ⟨leads, plain'⟩ := ends
        cases leads with
        | stop => exact (key_reference keyed plain').elim
        | on followed onward =>
            cases keyed.symm.trans (key_followed followed)
            cases one _ _ _ _ _ visits' visits followed' followed
            exact same one _ e' ⟨onward, plain'⟩

-- What has been made of a target is handed over to the placeholder, if it is a map.
theorem becomes_given {entries : Entries} (traced : b.Traced o start l) (sees : b.Sees start l)
    (becomes : b.Becomes o start l q y) (map : l.graph.entries? y = some entries)
    (later : Later start but l l') (filled : l'.graph.cell? c = some (.map entries)) :
    b.Becomes o start l' q (.node c) := by
  have held := entries_kind map
  rcases becomes with ⟨c', rfl, cell⟩ | ⟨e, visits, plain, outside, same, renders⟩
  · cases held.symm.trans cell
    exact .inl ⟨c, rfl, filled⟩
  · refine .inr ⟨e, visits, plain, outside, same, ?_⟩
    unfold Renders at renders ⊢
    cases kind : b.kind e.item with
    | map =>
        rw [kind] at renders
        obtain ⟨c', rest, rfl, copied⟩ := renders
        exact ⟨c, rest, rfl, copy_onward later (filled.trans held.symm) copied⟩
    | list =>
        rw [kind] at renders
        obtain ⟨id, node, noted⟩ := renders
        obtain ⟨c', rfl, ⟨other, _⟩ | ⟨_, _, list⟩⟩ := copy_kinds traced noted node
        · rw [kind] at other
          cases other
        · cases held.symm.trans list
    | leaf =>
        rw [kind] at renders
        obtain ⟨rfl, known⟩ := renders
        have none := no_map known sees (by rw [kind]; decide)
        rw [Graph.isMap, map] at none
        cases none

end Library

end ApiSchema
