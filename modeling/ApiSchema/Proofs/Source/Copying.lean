import ApiSchema.Proofs.Source.Tracing
import ApiSchema.Proofs.Source.Unfolding

namespace ApiSchema

namespace Library

variable {s : Surround} {o : LoaderOptions} {b : Library} {start : Spot}
variable {l l' : Loader} {p q e : Spot} {x y : Item} {key : String} {c : Nat}
variable {pending pending' : List (String × Spot)}

structure Begun (s : Surround) (o : LoaderOptions) (b : Library) (start : Spot) (l : Loader)
    (pending : List (String × Spot)) (p : Spot) : Prop where
  housed : Housed s o [(start.location, start.item)] l
  known : Known start l p
  visits : b.Visits o start p
  traced : b.Traced o start l
  current : b.Current o start l pending
  around : ∀ f ∈ pending, b.Visits o f.2 p
  opened : ∀ f ∈ pending, b.kind f.2.item = .map ∧ ∃ p', b.Visits o start p' ∧ b.follow? o p' = some f

structure Done (o : LoaderOptions) (b : Library) (start : Spot) (l : Loader)
    (pending : List (String × Spot)) (p : Spot) (x : Item) (l' : Loader) : Prop where
  traced : b.Traced o start l'
  current : b.Current o start l' pending
  later : Later start none l l'
  complete : b.Complete o start l l'
  placed : b.Placed o start l' p x

def Traces (s : Surround) (o : LoaderOptions) (b : Library) (start : Spot)
    (copy : Spot → Loading Item) : Prop :=
  ∀ p l x l' pending, Begun s o b start l pending p → Gives (copy p) l x l' → b.Sees start l' →
    Done o b start l pending p x l'

theorem complete_same (copies : l'.copies = l.copies) : b.Complete o start l l' := by
  intro id x noted
  rw [copies] at noted
  exact .inl noted

theorem complete_before {m : Loader} (copies : m.copies = l.copies) (size : l.graph.size ≤ m.graph.size)
    (complete : b.Complete o start m l') : b.Complete o start l l' := by
  intro id x noted
  rcases complete id x noted with old | ⟨c, is, above, copied⟩
  · exact .inl (copies ▸ old)
  · exact .inr ⟨c, is, Nat.le_trans size above, copied⟩

theorem complete_trans {m : Loader} {but : Option Nat} (first : b.Complete o start l m)
    (second : b.Complete o start m l') (size : l.graph.size ≤ m.graph.size)
    (later : Later start but m l') (low : ∀ i, but = some i → i < l.graph.size) :
    b.Complete o start l l' := by
  intro id x noted
  rcases second id x noted with old | ⟨c, is, above, copied⟩
  · rcases first id x old with older | ⟨c, is, above, copied⟩
    · exact .inl older
    · -- What was whole has not been touched since.
      have same := later.cells c (copy_inside copied) fun here => Nat.not_lt.mpr above (low c here)
      exact .inr ⟨c, is, above, copy_onward later same copied⟩
  · exact .inr ⟨c, is, Nat.le_trans size above, copied⟩

theorem later_grown {n : Nat} (grown : Grows [(start.location, start.item)] n l l')
    (copies : ∀ note ∈ l.copies, note ∈ l'.copies) (targets : ∀ note ∈ l.targets, note ∈ l'.targets)
    {but : Option Nat} (cells : ∀ i, i < l.graph.size → but ≠ some i →
      l'.graph.cell? i = l.graph.cell? i) : Later start but l l' :=
  ⟨grown.size, fun _ _ belongs => belongs_later grown belongs, copies, targets, cells⟩

theorem begun_again {m : Loader} {but : Option Nat} (begun : Begun s o b start l pending p)
    (later : Later start but l m) (housed : Housed s o [(start.location, start.item)] m)
    (traced : b.Traced o start m) (current : b.Current o start m pending) :
    Begun s o b start m pending p :=
  ⟨housed, known_onward later begun.known, begun.visits, traced, current, begun.around, begun.opened⟩

theorem firm_before (followed : b.follow? o p = some (key, q)) (firm : b.Firm o start l q x) :
    b.Firm o start l p x := by
  intro one keys e id ends list straight node
  obtain ⟨leads, plain⟩ := ends
  cases leads with
  | stop => exact (follow_reference followed plain).elim
  | on next onward =>
      cases followed.symm.trans next
      exact firm one _ e id ⟨onward, plain⟩ list straight node

-- A placeholder is not found from inside a list that references lead back to directly.
theorem firm_found (begun : Begun s o b start l pending p) (keyed : b.key? o p = some key)
    (found : l.targets.lookup key = some x) : b.Firm o start l p x := by
  intro one keys e i ends list straight node
  obtain ⟨leads, plain⟩ := id ends
  cases leads with
  | stop => exact (key_reference keyed plain).elim
  | @on _ q _ _ rest followed onward =>
      cases keyed.symm.trans (key_followed followed)
      rcases begun.current key x found with ⟨q', open_⟩ | firm
      · obtain ⟨map, p', visits', followed'⟩ := begun.opened _ open_
        cases one _ _ _ _ _ visits' begun.visits followed' followed
        -- The spot is met behind the end of the chain, or on the chain.
        rcases visits_chain (begun.around _ open_) ⟨onward, plain⟩ with back | ⟨before, chain⟩
        · have visitsEnd := visits_trans begun.visits (visits_leads ends.1)
          have direct := straight p key rest e ⟨begun.visits, ends, e, visitsEnd, rfl, back⟩ rfl
          subst direct
          cases onward
          rw [map] at list
          cases list
        · have shorter := (ends_shorter ⟨onward, plain⟩ chain ends).2
          rw [List.length_cons] at shorter
          omega
      · exact firm p q begun.visits followed one rest e i ⟨onward, plain⟩ list straight node

-- A map is not what a list is copied to.
theorem firm_map {entries : Entries} (traced : b.Traced o start l) (placed : b.Placed o start l q y)
    (map : l.graph.entries? y = some entries) (l' : Loader) (x : Item) : b.Firm o start l' q x := by
  intro one keys e id ends list straight node
  have copied := placed_firm placed one keys e id ends list straight node
  obtain ⟨c', rfl, ⟨other, _⟩ | ⟨_, _, cell⟩⟩ := copy_kinds traced copied node
  · rw [list] at other
    cases other
  · cases (entries_kind map).symm.trans cell

theorem becomes_inside (housed : Housed s o [(start.location, start.item)] l)
    (traced : b.Traced o start l) (becomes : b.Becomes o start l q (.node c)) : c < l.graph.size := by
  rcases becomes with ⟨c', same, cell⟩ | ⟨e, _, _, _, _, renders⟩
  · cases same
    exact Graph.cell_inside cell
  · unfold Renders at renders
    cases kind : b.kind e.item with
    | map =>
        rw [kind] at renders
        obtain ⟨c', _, same, copied⟩ := renders
        cases same
        exact copy_inside copied
    | list =>
        rw [kind] at renders
        obtain ⟨id, _, noted⟩ := renders
        obtain ⟨c', _, same, copied⟩ := traced.copies id _ noted
        cases same
        exact copy_inside copied
    | leaf =>
        rw [kind] at renders
        exact housed.inside e.location c (renders.2 c renders.1.symm)

-- What is no map is noted when it has been copied.
theorem note_traced (housed : Housed s o [(start.location, start.item)] l) (traced : b.Traced o start l)
    (visits : b.Visits o start p) (visitsTarget : b.Visits o start q)
    (followed : b.follow? o p = some (key, q)) (outside : q.isRoot = false) (known : Known start l q)
    (placed : b.Placed o start l q x) (other : l.graph.isMap x = false)
    (current : b.Current o start l pending') (left : ∀ f ∈ pending', f ∈ pending ∨ f.1 = key)
    (noted : Gives (Loading.noteTarget key x) l ⟨⟩ l') : Done o b start l pending p x l' := by
  cases gives_modify.mp noted
  have later : Later start none l { l with targets := (key, x) :: l.targets } :=
    ⟨Nat.le_refl _, fun _ _ => id, fun _ => id, fun _ => List.mem_cons_of_mem _, fun _ _ _ => rfl⟩
  have becomes := placed_becomes traced visitsTarget outside known placed
  have firm := placed_firm placed
  constructor
  case traced =>
    apply traced_note traced later rfl rfl
    · exact ⟨p, q, visits, followed, becomes_onward later nofun becomes⟩
    · rintro c rfl
      have inside := becomes_inside housed traced becomes
      exact inside
    · intro map
      cases other.symm.trans map
  case current =>
    intro key' x' found
    change ((key, x) :: l.targets).lookup key' = some x' at found
    rw [lookup_noted] at found
    by_cases same : key' = key
    · rw [if_pos same] at found
      cases found
      subst same
      refine .inr fun p' q' visits' followed' one => ?_
      cases one _ _ _ _ _ visits visits' followed followed'
      exact firm one
    · rw [if_neg same] at found
      refine (current key' x' found).imp_left fun ⟨q', open_⟩ => ⟨q', ?_⟩
      rcases left _ open_ with still | here
      · exact still
      · exact (same here).elim
  case later =>
    exact later
  case complete =>
    exact complete_same rfl
  case placed =>
    exact .target (key_followed followed) List.mem_cons_self (firm_before followed firm)

-- A placeholder is no copy of a container, and is noted under no other key.
theorem fill_traced {entries : Entries} (traced : b.Traced o start l) (visits : b.Visits o start p)
    (followed : b.follow? o p = some (key, q)) (blank : l.graph.cell? c = some (.map []))
    (noted : (key, .node c) ∈ l.targets) (copies : l'.copies = l.copies) (targets : l'.targets = l.targets)
    (later : Later start (some c) l l') (filled : l'.graph.cell? c = some (.map entries))
    (becomes : b.Becomes o start l' q (.node c)) : b.Traced o start l' := by
  have map {g : Graph} {entries : Entries} (cell : g.cell? c = some (.map entries)) :
      g.isMap (.node c) = true := by
    have held : g.of? (.node c) = some (.map entries) := cell
    rw [Graph.isMap, Graph.entries?, held]
    rfl
  apply traced_onward traced later copies targets
  · intro i here
    cases here
    rw [map blank, map filled]
  · intro i id here copied
    cases here
    exact (traced.neither key id _ noted (map blank) copied).elim
  · intro i other here again
    cases here
    cases (traced.held key other _ _ noted again (map blank) (map blank)).mpr rfl
    exact ⟨p, q, visits, followed, becomes⟩

-- Filling the placeholder of the innermost target ends the copying of that target.
theorem current_filled {entries : Entries} (traced : b.Traced o start l) (visits : b.Visits o start p)
    (followed : b.follow? o p = some (key, q)) (placed : b.Placed o start l q y)
    (map : l.graph.entries? y = some entries) (copies : l'.copies = l.copies)
    (targets : l'.targets = l.targets) (current : b.Current o start l ((key, q) :: pending)) :
    b.Current o start l' pending := by
  intro key' x' found
  rw [targets] at found
  rcases current key' x' found with ⟨q', open_⟩ | old
  · rcases List.mem_cons.mp open_ with here | still
    · cases here
      refine .inr fun p' q' visits' followed' one => ?_
      cases one _ _ _ _ _ visits visits' followed followed'
      exact firm_map traced placed map l' x' one
    · exact .inl ⟨q', still⟩
  · exact .inr fun p' q' visits' followed' =>
      firm_onward (fun _ held => copies ▸ held) (old p' q' visits' followed')

theorem later_filled {n : Nat} {entries : Entries} (blank : l.graph.cell? c = some (.map []))
    (grown : Grows [(start.location, start.item)] n l l')
    (made : l' = { l with graph := l.graph.set c (.map entries) }) :
    Later start (some c) l l' ∧ l'.graph.cell? c = some (.map entries) := by
  subst made
  refine ⟨later_grown grown (fun _ => id) (fun _ => id) fun i _ other => ?_, ?_⟩
  · exact Array.getElem?_setIfInBounds_ne fun same => other (congrArg some same)
  · exact Array.getElem?_setIfInBounds_self_of_lt (Graph.cell_inside blank)

theorem close_traced {n : Nat} (housed : Housed s o [(start.location, start.item)] l)
    (traced : b.Traced o start l) (sees : b.Sees start l) (visits : b.Visits o start p)
    (visitsTarget : b.Visits o start q) (followed : b.follow? o p = some (key, q))
    (outside : q.isRoot = false) (known : Known start l q) (placed : b.Placed o start l q y)
    (blank : l.graph.cell? c = some (.map [])) (noted : (key, .node c) ∈ l.targets)
    (current : b.Current o start l ((key, q) :: pending))
    (grown : Grows [(start.location, start.item)] n l l')
    (closed : Gives (closeTarget key (.node c) y) l x l') :
    b.Traced o start l' ∧ b.Current o start l' pending ∧ Later start (some c) l l' ∧
      l'.copies = l.copies ∧ b.Placed o start l' p x := by
  rw [closeTarget, gives_get_bind] at closed
  cases map : l.graph.entries? y with
  | some entries =>
      rw [map] at closed
      simp only [gives_bind, gives_update, gives_pure] at closed
      obtain ⟨_, _, made, rfl, same⟩ := closed
      rw [← same] at made
      obtain ⟨later, filled⟩ := later_filled blank grown made
      have copies : l'.copies = l.copies := by rw [made]
      have targets : l'.targets = l.targets := by rw [made]
      have becomes := becomes_given traced sees
        (placed_becomes traced visitsTarget outside known placed) map later filled
      refine ⟨fill_traced traced visits followed blank noted copies targets later filled becomes,
        current_filled traced visits followed placed map copies targets current, later, copies, ?_⟩
      exact .target (key_followed followed) (later.targets _ noted)
        (firm_before followed (firm_map traced placed map l' _))
  | none =>
      rw [map] at closed
      simp only [gives_bind, gives_pure] at closed
      obtain ⟨_, _, done, rfl, rfl⟩ := closed
      have other : l.graph.isMap x = false := by rw [Graph.isMap, map]; rfl
      have result : Done o b start l pending p x l' := note_traced housed traced visits visitsTarget
        followed outside known placed other current (fun f member => ?_) done
      · refine ⟨result.traced, result.current, later_then (later_refl _) result.later, ?_,
          result.placed⟩
        cases gives_modify.mp done
        rfl
      · rcases List.mem_cons.mp member with here | still
        · exact .inr (congrArg Prod.fst here)
        · exact .inl still

variable {copy : Spot → Loading Item} {m m' : Loader}

theorem current_opened (current : b.Current o start l pending)
    (copies : ∀ note ∈ l.copies, note ∈ m.copies) (targets : m.targets = (key, x) :: l.targets) (q : Spot) :
    b.Current o start m ((key, q) :: pending) := by
  intro key' x' found
  rw [targets, lookup_noted] at found
  by_cases same : key' = key
  · exact .inl ⟨q, same ▸ List.mem_cons_self⟩
  · rw [if_neg same] at found
    rcases current key' x' found with ⟨q', open_⟩ | old
    · exact .inl ⟨q', List.mem_cons_of_mem _ open_⟩
    · exact .inr fun p' q' visits followed => firm_onward copies (old p' q' visits followed)

-- The placeholder is a new empty map, noted under a key that had nothing.
theorem begun_opened (begun : Begun s o b start l pending p)
    (followed : b.follow? o p = some (key, q)) (known : Known start l q) (map : b.kind q.item = .map)
    (fresh : l.targets.lookup key = none) (later : Later start none l m)
    (housed : Housed s o [(start.location, start.item)] m) (copies : m.copies = l.copies)
    (targets : m.targets = (key, .node l.graph.size) :: l.targets)
    (blank : m.graph.cell? l.graph.size = some (.map [])) :
    Begun s o b start m ((key, q) :: pending) q := by
  have traced : b.Traced o start m := by
    apply traced_note begun.traced later copies targets
    · exact ⟨p, q, begun.visits, followed, .inl ⟨_, rfl, blank⟩⟩
    · rintro c same
      cases same
      exact Graph.cell_inside blank
    · exact fun _ => ⟨fresh, rfl⟩
  refine ⟨housed, known_onward later known, Visits.on begun.visits followed, traced,
    current_opened begun.current later.copies targets q, ?_, ?_⟩
  · intro f held
    rcases List.mem_cons.mp held with rfl | old
    · exact .here
    · exact .on (begun.around f old) followed
  · intro f held
    rcases List.mem_cons.mp held with rfl | old
    · exact ⟨map, p, begun.visits, followed⟩
    · exact begun.opened f old

-- While the target of a reference is copied, what is found under its key is a placeholder.
theorem inline_map_traced (leaves : Leaves s o start copy) (traces : Traces s o b start copy)
    {placeholder : Item} (begun : Begun s o b start l pending p)
    (followed : b.follow? o p = some (key, q)) (outside : q.isRoot = false) (known : Known start l q)
    (map : b.kind q.item = .map) (fresh : l.targets.lookup key = none)
    (opened : Gives (openTarget key) l placeholder m) (copied : Gives (copy q) m y m')
    (closed : Gives (closeTarget key placeholder y) m' x l') (sees : b.Sees start l') :
    Done o b start l pending p x l' := by
  obtain ⟨housed₁, grown₁, own⟩ := Regime.gives_kept
    (Loading.keeps_open_target (n := l.graph.size) key) ⟨begun.housed, Nat.le_refl _⟩ opened
  obtain ⟨housed₂, grown₂, _⟩ := Regime.gives_kept (leaves l.graph.size m q) housed₁ copied
  obtain ⟨_, grown₃, _⟩ := Regime.gives_kept
    (Loading.keeps_close_target key (own_later own grown₂) y) housed₂ closed
  have seen := sees_before grown₃ sees
  obtain ⟨rfl, made⟩ := gives_open_target.mp opened
  have copies : m.copies = l.copies := by rw [made]
  have targets : m.targets = (key, .node l.graph.size) :: l.targets := by rw [made]
  have blank : m.graph.cell? l.graph.size = some (.map []) := by
    rw [made]
    exact (Graph.add_cell _ _ _).trans (if_pos rfl)
  have later₁ : Later start none l m := by
    apply later_grown grown₁
    · exact fun note held => copies ▸ held
    · exact fun note held => targets ▸ List.mem_cons_of_mem _ held
    · exact fun i below _ => grown₁.before i below
  have begun₁ := begun_opened begun followed known map fresh later₁ housed₁.1 copies targets blank
  have done := traces q m y m' _ begun₁ copied seen
  have still : m'.graph.cell? l.graph.size = some (.map []) :=
    (done.later.cells _ (Graph.cell_inside blank) nofun).trans blank
  have noted : (key, .node l.graph.size) ∈ m'.targets := by
    apply done.later.targets
    rw [targets]
    exact List.mem_cons_self
  obtain ⟨traced₃, current₃, later₃, copies₃, placed⟩ := close_traced housed₂.1 done.traced seen
    begun.visits (Visits.on begun.visits followed) followed outside
    (known_onward done.later (known_onward later₁ known)) done.placed still noted done.current grown₃ closed
  -- The placeholder is the one container that closing changes, and it is newer than all that `l` holds.
  refine ⟨traced₃, current₃, ?_, ?_, placed⟩
  · refine later_trans (later_then later₁ done.later) later₃ fun i here below => ?_
    cases here
    exact (Nat.lt_irrefl _ below).elim
  · refine complete_before copies grown₁.size
      (complete_trans done.complete (complete_same copies₃) done.later.size later₃ fun i here => ?_)
    cases here
    exact Graph.cell_inside blank

theorem inline_other_traced (leaves : Leaves s o start copy) (traces : Traces s o b start copy)
    (begun : Begun s o b start l pending p) (followed : b.follow? o p = some (key, q))
    (outside : q.isRoot = false) (known : Known start l q) (other : b.kind q.item ≠ .map)
    (copied : Gives (copy q) l x m) (noted : Gives (Loading.noteTarget key x) m ⟨⟩ l')
    (sees : b.Sees start l') : Done o b start l pending p x l' := by
  obtain ⟨housed₁, _, _⟩ := Regime.gives_kept (leaves 0 l q) ⟨begun.housed, Nat.zero_le _⟩ copied
  obtain ⟨_, grown₂, _⟩ := Regime.gives_kept (Loading.keeps_note_target key x) housed₁ noted
  have visitsTarget := Visits.on begun.visits followed
  have begun₁ : Begun s o b start l pending q :=
    ⟨begun.housed, known, visitsTarget, begun.traced, begun.current,
      fun f held => .on (begun.around f held) followed, begun.opened⟩
  have seen := sees_before grown₂ sees
  have done := traces q l x m pending begun₁ copied seen
  have known₁ := known_onward done.later known
  have noMap : m.graph.isMap x = false := by
    cases done.placed with
    | leaf kind => exact no_map known₁ seen other
    | copy plain node noted =>
        obtain ⟨c, rfl, ⟨map, _⟩ | ⟨_, _, cell⟩⟩ := copy_kinds done.traced noted node
        · exact (other map).elim
        · exact list_no_map cell
    | target keyed _ _ => exact (key_reference keyed (other_plain other)).elim
  have result : Done o b start m pending p x l' := note_traced housed₁.1 done.traced begun.visits
    visitsTarget followed outside known₁ done.placed noMap done.current (fun f held => .inl held) noted
  refine ⟨result.traced, result.current, later_then done.later result.later, ?_, result.placed⟩
  exact complete_trans done.complete result.complete done.later.size result.later nofun

theorem inline_traced (leaves : Leaves s o start copy) (traces : Traces s o b start copy)
    {reference : String} (begun : Begun s o b start l pending p)
    (named : b.reference? p = some reference)
    (came : Gives (inlineTarget s o (fun location item => copy ⟨location, false, item⟩) reference
      p.location) l x l') (sees : b.Sees start l') : Done o b start l pending p x l' := by
  obtain ⟨location, pointer, aimed, met⟩ := gives_inline_target came
  have keyed : b.key? o p = some (targetKey location pointer) := by
    rw [key?, named]
    simp [aimed, Except.toOption]
  rcases met with ⟨found, rfl⟩ | ⟨fresh, target, l₁, sought, came⟩
  · exact ⟨begun.traced, begun.current, later_refl _, complete_same rfl,
      .target keyed (lookup_note found) (firm_found begun keyed found)⟩
  · obtain ⟨housed, _, _⟩ := Regime.gives_kept (Loading.keeps_seek (n := 0) reference location pointer)
      ⟨begun.housed, Nat.zero_le _⟩ sought
    have onward : Grows [(start.location, start.item)] 0 l₁ l' :=
      (Regime.gives_kept (Loading.keeps_place_target (fun _ => leaves 0 _ _) _ _) housed came).2.1
    obtain ⟨followed, ⟨copies, targets⟩, grown, housed₁, seen, known⟩ :=
      seek_follows begun.housed named aimed sought onward sees
    have later₁ : Later start none l l₁ := by
      apply later_grown grown
      · exact fun note held => copies ▸ held
      · exact fun note held => targets ▸ held
      · exact fun i below _ => grown.before i below
    have begun₁ : Begun s o b start l₁ pending p :=
      begun_again begun later₁ housed₁
        (traced_still begun.traced later₁ copies targets)
        (current_onward later₁.copies targets begun.current)
    -- Looking for the target may read a document and changes no notes, so the invariant is that of `l`.
    have rest : Done o b start l₁ pending p x l' := by
      rw [← targets] at fresh
      have isMap := kind_seen (of_seen known seen)
      rcases gives_place_target came with ⟨holds, placeholder, l₂, y, l₃, opened, copied, closed⟩ |
        ⟨other, l₂, copied, done⟩
      · exact inline_map_traced leaves traces begun₁ followed rfl known (isMap.mp holds) fresh opened
          copied closed sees
      · exact inline_other_traced leaves traces begun₁ followed rfl known
          (fun map => other (isMap.mpr map)) copied done sees
    exact ⟨rest.traced, rest.current, later_then later₁ rest.later,
      complete_before copies grown.size rest.complete, rest.placed⟩

-- A list that is noted under a key is noted there as what it is a copy of.
theorem targeted_copy {id : Nat} (traced : b.Traced o start l) (sees : b.Sees start l)
    (later : Later start (some c) l l') (copied : (id, .node c) ∈ l.copies)
    (noted : (key, .node c) ∈ l.targets) : b.Targeted o start l' key (.node c) := by
  obtain ⟨c', same, kinds⟩ := copy_kinds traced copied rfl
  cases same
  -- A map is never noted both as a copy and under a key, so this is the copy of a list.
  rcases kinds with ⟨_, _, map⟩ | ⟨_, items, cell⟩
  · have held : l.graph.of? (.node c) = some (.map _) := map
    have isMap : l.graph.isMap (.node c) = true := by rw [Graph.isMap, Graph.entries?, held]; rfl
    exact (traced.neither key id _ noted isMap copied).elim
  · obtain ⟨p, q, visits, followed, becomes⟩ := traced.targets key _ noted
    refine ⟨p, q, visits, followed, ?_⟩
    rcases becomes with ⟨c', same, blank⟩ | ⟨e, visitsEnd, plain, outside, ends, renders⟩
    · cases same
      cases cell.symm.trans blank
    · refine .inr ⟨e, visitsEnd, plain, outside, ends, ?_⟩
      unfold Renders at renders ⊢
      cases kind : b.kind e.item with
      | map =>
          rw [kind] at renders
          obtain ⟨c', _, same, u, _, _, is, fills⟩ := renders
          cases same
          rcases fills_kinds fills with ⟨_, _, map⟩ | ⟨list, _⟩
          · cases cell.symm.trans map
          · rw [is, kind] at list
            cases list
      | list =>
          rw [kind] at renders
          obtain ⟨id, node, noted⟩ := renders
          exact ⟨id, node, later.copies _ noted⟩
      | leaf =>
          rw [kind] at renders
          obtain ⟨same, known⟩ := renders
          have list : b.kind e.item = .list := by
            refine kind_list.mpr ⟨items, ?_⟩
            rw [of_seen known sees, ← same]
            exact cell
          rw [kind] at list
          cases list

theorem part_traced {id : Nat} {rest : List (Option Scalar × Item)} {part : Option Scalar}
    {item : Item} {front copied : Cell} (housed : Housed s o [(start.location, start.item)] l)
    (traced : b.Traced o start l) (sees : b.Sees start l) (visits : b.Visits o start p)
    (plain : b.reference? p = none) (node : p.item = .node id)
    (held : b.graph.of? p.item = some (withParts ((part, item) :: rest) front))
    (made : l.graph.cell? c = some copied)
    (mirrors : Mirrors (fun part x => b.Placed o start l { p with item := part } x) front copied)
    (placed : b.Placed o start l { p with item } y) (noted : (id, .node c) ∈ l.copies)
    (own : Own [(start.location, start.item)] 0 l (.node c))
    (updated : Gives (Loading.update (.node c) (withPart part y)) l ⟨⟩ l') :
    b.Traced o start l' ∧ Later start (some c) l l' ∧ l'.copies = l.copies ∧
      l'.targets = l.targets ∧ l'.graph.cell? c = some (withPart part y copied) := by
  obtain ⟨_, grown, _⟩ := Regime.gives_kept (Loading.keeps_update own _) ⟨housed, Nat.zero_le _⟩ updated
  have is := gives_update.mp updated
  have copies : l'.copies = l.copies := by rw [is]
  have targets : l'.targets = l.targets := by rw [is]
  have here : l'.graph.cell? c = some (withPart part y copied) := by
    rw [is]
    change (l.graph.set c _).cell? c = _
    rw [made]
    exact Array.getElem?_setIfInBounds_self_of_lt (Graph.cell_inside made)
  have later : Later start (some c) l l' := by
    apply later_grown grown
    · exact fun note held => copies ▸ held
    · exact fun note held => targets ▸ held
    · intro i _ other
      rw [is]
      exact Array.getElem?_setIfInBounds_ne fun same => other (congrArg some same)
  -- Only the container that takes the part has changed; it is noted as the copy of this one alone.
  refine ⟨?_, later, copies, targets, here⟩
  apply traced_onward traced later copies targets
  · intro i same
    cases same
    have before : l.graph.of? (.node c) = some copied := made
    have now : l'.graph.of? (.node c) = some (withPart part y copied) := here
    rw [Graph.isMap, Graph.isMap, Graph.entries?, Graph.entries?, before, now]
    cases mirrors <;> rfl
  · intro i other same again
    cases same
    cases traced.apart id other _ noted again
    refine ⟨rest, p, visits, plain, node, withPart part item front, _, held, here, ?_⟩
    exact mirrors_part (mirrors_imp (fun _ _ => placed_onward later) mirrors) part
      (placed_onward later placed)
  · intro i other same again
    cases same
    exact targeted_copy traced sees later noted again

-- The parts are copied one after the other into a container that is already noted.
theorem parts_traced (leaves : Leaves s o start copy) (traces : Traces s o b start copy) {id : Nat}
    (plain : b.reference? p = none) (node : p.item = .node id) (parts : List (Option Scalar × Item))
    (inside : ∀ part ∈ parts, part.2 ∈ b.contents p) {front copied : Cell}
    (begun : Begun s o b start l pending p) (own : Own [(start.location, start.item)] 0 l (.node c))
    (held : b.graph.of? p.item = some (withParts parts front)) (made : l.graph.cell? c = some copied)
    (mirrors : Mirrors (fun part x => b.Placed o start l { p with item := part } x) front copied)
    (noted : (id, .node c) ∈ l.copies)
    (came : Gives (copyParts (fun item => copy { p with item }) (.node c) parts) l ⟨⟩ l')
    (sees : b.Sees start l') :
    b.Traced o start l' ∧ b.Current o start l' pending ∧ Later start (some c) l l' ∧
      b.Complete o start l l' ∧ b.CopyOf o start l' [] (.node id) c := by
  -- `front` holds the parts so far, and `copied` what has been placed for them.
  induction parts generalizing l front copied with
  | nil =>
      cases came
      exact ⟨begun.traced, begun.current, later_refl _, complete_same rfl, p, begun.visits, plain, node,
        front, copied, held, made, mirrors⟩
  | cons part rest ih =>
      obtain ⟨key, item⟩ := part
      obtain ⟨_, l₂, step, onward⟩ := gives_bind.mp came
      obtain ⟨y, l₁, first, updated⟩ := gives_bind.mp step
      obtain ⟨⟨housed₁, _⟩, grown₁, _⟩ := Regime.gives_kept (leaves 0 l { p with item })
        ⟨begun.housed, Nat.zero_le _⟩ first
      have own₁ := own_later own grown₁
      obtain ⟨⟨housed₂, _⟩, grown₂, _⟩ := Regime.gives_kept
        (Loading.keeps_update own₁ (withPart key y)) ⟨housed₁, Nat.zero_le _⟩ updated
      have own₂ := own_later own₁ grown₂
      obtain ⟨_, grown₃, _⟩ := Regime.gives_kept
        (Loading.keeps_copy_parts (fun l item => leaves 0 l { p with item }) own₂ rest)
        ⟨housed₂, Nat.zero_le _⟩ onward
      have seen₁ := sees_before grown₂ (sees_before grown₃ sees)
      have within : Begun s o b start l pending { p with item } :=
        ⟨begun.housed, known_part begun.known (of_seen begun.known (sees_before grown₁ seen₁))
            (inside (key, item) (by simp)), .into begun.visits plain (inside (key, item) (by simp)),
          begun.traced, begun.current,
          fun f open_ => .into (begun.around f open_) plain (inside (key, item) (by simp)), begun.opened⟩
      have done := traces _ l y l₁ pending within first seen₁
      have made₁ := (done.later.cells c (Graph.cell_inside made) nofun).trans made
      have mirrors₁ := mirrors_imp (fun _ _ => placed_onward done.later) mirrors
      have noted₁ := done.later.copies _ noted
      obtain ⟨traced₂, later₂, copies, targets, made₂⟩ := part_traced housed₁ done.traced seen₁
        begun.visits plain node held made₁ mirrors₁ done.placed noted₁ own₁ updated
      have later : Later start (some c) l l₂ := later_trans
        (later_then (later_refl l) done.later) later₂ fun _ here _ => here
      have begun₂ : Begun s o b start l₂ pending p := begun_again begun later housed₂ traced₂
        (current_onward later₂.copies targets done.current)
      have mirrors₂ := mirrors_part (mirrors_imp (fun _ _ => placed_onward later₂) mirrors₁) key
        (placed_onward later₂ done.placed)
      obtain ⟨traced₃, current₃, later₃, complete₃, copied₃⟩ :=
        ih (fun other member => inside other (List.mem_cons_of_mem _ member)) begun₂ own₂ held made₂
          mirrors₂ (later₂.copies _ noted₁) onward
      have low : ∀ i, some c = some i → i < l.graph.size := by
        rintro i ⟨⟩
        exact Graph.cell_inside made
      have complete : b.Complete o start l l₂ := complete_trans done.complete (complete_same copies)
        done.later.size later₂ low
      exact ⟨traced₃, current₃, later_trans later later₃ fun _ here _ => here,
        complete_trans complete complete₃ later.size later₃ low, copied₃⟩

-- A copy is noted while it is empty, so what is met inside it may refer to it.
theorem container_traced (leaves : Leaves s o start copy) (traces : Traces s o b start copy)
    (begun : Begun s o b start l pending p) (plain : b.reference? p = none) {id : Nat}
    (node : p.item = .node id) {cell empty : Cell} {parts : List (Option Scalar × Item)}
    (held : b.graph.of? p.item = some cell) (whole : withParts parts empty = cell)
    (kinds : b.kind p.item = .map ∧ empty = .map [] ∨ b.kind p.item = .list ∧ empty = .list [])
    (inside : ∀ part ∈ parts, part.2 ∈ b.contents p)
    (came : Gives (copyContainer (fun item => copy { p with item }) id empty parts) l x l')
    (sees : b.Sees start l') : Done o b start l pending p x l' := by
  rcases gives_copy_container came with ⟨known, rfl⟩ | ⟨known, l₁, opened, filled⟩
  · exact ⟨begun.traced, begun.current, later_refl _, complete_same rfl,
      .copy plain node (lookup_note known)⟩
  · obtain ⟨⟨housed₁, _⟩, grown₁, own⟩ := Regime.gives_kept
      (Loading.keeps_open_copy (n := l.graph.size) id empty) ⟨begun.housed, Nat.le_refl _⟩ opened
    obtain ⟨rfl, is⟩ := gives_open_copy.mp opened
    have copies : l₁.copies = (id, .node l.graph.size) :: l.copies := by rw [is]
    have targets : l₁.targets = l.targets := by rw [is]
    have made : l₁.graph.cell? l.graph.size = some empty := by
      rw [is]
      exact (Graph.add_cell _ _ _).trans (if_pos rfl)
    have later₁ : Later start none l l₁ := by
      apply later_grown grown₁
      · exact fun note held => copies ▸ List.mem_cons_of_mem _ held
      · exact fun note held => targets ▸ held
      · exact fun i below _ => grown₁.before i below
    have nothing : Mirrors (fun part x => b.Placed o start l₁ { p with item := part } x) empty empty := by
      rcases kinds with ⟨_, rfl⟩ | ⟨_, rfl⟩
      · exact .map .nil
      · exact .list .nil
    subst whole
    have begun₁ : Begun s o b start l₁ pending p := begun_again begun later₁ housed₁
      (traced_open_copy begun.traced begun.visits plain node known held nothing is later₁)
      (current_onward later₁.copies targets begun.current)
    have own₁ : Own [(start.location, start.item)] 0 l₁ (.node l.graph.size) := by
      obtain ⟨i, same, _, below, outside⟩ := own
      exact ⟨i, same, Nat.zero_le _, below, outside⟩
    have noted : (id, .node l.graph.size) ∈ l₁.copies := copies ▸ List.mem_cons_self
    obtain ⟨traced, current, later₂, complete, copied⟩ := parts_traced leaves traces plain node parts
      inside begun₁ own₁ held made nothing noted filled sees
    -- Only the new container has changed, and it is whole once its parts are in.
    refine ⟨traced, current, later_trans later₁ later₂ fun i here below => ?_, fun i x member => ?_,
      .copy plain node (later₂.copies _ noted)⟩
    · cases here
      exact (Nat.lt_irrefl _ below).elim
    · rcases complete i x member with old | ⟨c, same, above, new⟩
      · rcases List.mem_cons.mp (copies ▸ old) with here | older
        · cases here
          exact .inr ⟨_, rfl, Nat.le_refl _, copied⟩
        · exact .inl older
      · exact .inr ⟨c, same, Nat.le_trans grown₁.size above, new⟩

-- Whatever the documents are like, what a call answers with is placed for its spot, and copies that
-- have been begun by it are whole when it is done.
theorem bundle_traced (fuel : Nat) :
    Traces s o b start fun p => bundle s o fuel p.isRoot p.location p.item := by
  induction fuel with
  | zero => exact fun p l x l' pending _ came _ => (gives_throw came).elim
  | succ fuel ih =>
      intro p l x l' pending begun came sees
      have leaves : Leaves s o start fun p => bundle s o fuel p.isRoot p.location p.item :=
        fun n l p => Loading.keeps_bundle fuel p.isRoot p.location p.item
      obtain ⟨_, grown, _⟩ := Regime.gives_kept
        (Loading.keeps_bundle (n := 0) (fuel + 1) p.isRoot p.location p.item)
        ⟨begun.housed, Nat.zero_le _⟩ came
      cases bundled_at (of_seen begun.known (sees_before grown sees)) came with
      | reference named came => exact inline_traced leaves ih begun named came sees
      | container plain node held whole kinds inside came =>
          exact container_traced leaves ih begun plain node held whole kinds inside came sees
      | leaf leaf is same =>
          subst is same
          exact ⟨begun.traced, begun.current, later_refl _, complete_same rfl, .leaf leaf⟩

structure Loaded (o : LoaderOptions) (start : Spot) (l₁ l : Loader) (d : Document) : Prop where
  graph : d.graph = l.graph
  map : l₁.graph.isMap start.item = true
  grown : Grows [(start.location, start.item)] l₁.graph.size l₁ l
  home : OneHome o l.library start
  traced : Traced o l.library start l
  placed : Placed o l.library start l start d.root
  whole : ∀ id x, (id, x) ∈ l.copies → ∃ c, x = .node c ∧ l₁.graph.size ≤ c ∧
    CopyOf o l.library start l [] (.node id) c

theorem document_loaded {source : DocumentSource} {l₀ l₁ l : Loader} {d : Document} {location : String}
    {content : Item} (used : Used s o l₀) (resolves : o.resolveExternalRefs = true)
    (opened : Gives (openDocument s o source) l₀ (location, content) l₁)
    (loaded : Gives (loadDocument s o source) l₀ d l) : Loaded o ⟨location, true, content⟩ l₁ l d := by
  have housed₁ := housed_opened (housed_used used) opened
  obtain ⟨_, _, opened', loaded⟩ := gives_bind.mp loaded
  cases opened.symm.trans opened'
  rw [gives_get_bind] at loaded
  dsimp only at loaded
  split at loaded
  · obtain ⟨_, _, stopped, _⟩ := gives_bind.mp loaded
    exact (gives_throw stopped).elim
  next isMap =>
    rw [resolves] at loaded
    obtain ⟨_, l₂, cleared, loaded⟩ := gives_bind.mp loaded
    obtain ⟨root, _, copied, last⟩ := gives_bind.mp loaded
    rw [gives_get_bind] at last
    obtain ⟨rfl, rfl⟩ := gives_pure.mp last
    obtain ⟨housed₂, grown₂, _⟩ := Regime.gives_kept
      (Loading.keeps_notes (n := l₁.graph.size) fun _ => ([], [])) ⟨housed₁, Nat.le_refl _⟩ cleared
    obtain ⟨⟨housed, _⟩, grown, _⟩ := Regime.gives_kept
      (Loading.keeps_bundle o.depth true location content) housed₂ copied
    cases gives_modify.mp cleared
    have begun : Begun s o l.library ⟨location, true, content⟩
        { l₁ with copies := [], targets := [] } [] ⟨location, true, content⟩ :=
      ⟨housed₂.1, fun id node => ⟨content, by simp [roots], .self node⟩, .here,
        ⟨nofun, nofun, nofun, nofun, nofun, nofun, nofun⟩, nofun, nofun, nofun⟩
    have done := bundle_traced o.depth _ _ root l [] begun copied ⟨fun _ _ => id, fun _ _ _ => rfl⟩
    have home : OneHome o l.library ⟨location, true, content⟩ := one_home l housed
    refine ⟨rfl, by simpa using isMap, grows_trans grown₂ grown, home, done.traced, done.placed, ?_⟩
    intro id x noted
    rcases done.complete id x noted with old | new
    · cases old
    · exact new

end Library

end ApiSchema
