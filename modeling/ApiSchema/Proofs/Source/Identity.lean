import ApiSchema.Proofs.Source.Copying
import ApiSchema.Proofs.Source.Ending

namespace ApiSchema

namespace Graph

structure Isomorphic (g : Graph) (x : Item) (g' : Graph) (y : Item) (image : Item → Item) : Prop where
  root : image x = y
  apart : ∀ i j, g.Inner x i → g.Inner x j → image i = image j → i = j
  onto : ∀ j, g'.Inner y j → ∃ i, g.Inner x i ∧ image i = j
  maps : ∀ i entries, g.Inner x i → g.entries? i = some entries →
    g'.entries? (image i) = some (entries.map fun (key, part) => (key, image part))
  lists : ∀ i items, g.Inner x i → g.items? i = some items →
    g'.items? (image i) = some (items.map image)
  others : ∀ i, g.Inner x i → g.entries? i = none → g.items? i = none →
    image i = i ∧ g'.of? i = g.of? i

variable {g g' : Graph} {x y i : Item} {image : Item → Item}

theorem of_items {items : List Item} (held : g.items? i = some items) : g.of? i = some (.list items) := by
  unfold items? at held
  split at held
  · cases held
    assumption
  · cases held

theorem lookup_image (entries : Entries) (key : Scalar) :
    lookup? (entries.map fun (key, part) => (key, image part)) key = (lookup? entries key).map image := by
  unfold lookup?
  rw [List.find?_map, Option.map_map, Option.map_map]
  rfl

theorem isomorphic_part (same : Isomorphic g x g' y image) (inner : g.Inner x i) (step : Step) :
    g'.part? (image i) step = (g.part? i step).map image := by
  cases map : g.entries? i with
  | some entries =>
      have here := Library.entries_kind map
      have there := Library.entries_kind (same.maps i entries inner map)
      rw [part?, part?, here, there]
      cases step with
      | key key => exact lookup_image entries key
      | index n => rfl
  | none =>
      cases list : g.items? i with
      | some items =>
          have here := of_items list
          have there := of_items (same.lists i items inner list)
          rw [part?, part?, here, there]
          cases step with
          | key key => rfl
          | index n => exact List.getElem?_map
      | none =>
          -- Sets and pairs are the very same, and have no steps into them.
          obtain ⟨is, cell⟩ := same.others i inner map list
          rw [part?, part?, is, cell]
          unfold entries? at map
          unfold items? at list
          cases held : g.of? i with
          | none => rfl
          | some cell =>
              rw [held] at map list
              cases cell with
              | map entries => cases map
              | list items => cases list
              | set members => rfl
              | pair first second => rfl

theorem isomorphic_walk (same : Isomorphic g x g' y image) (inner : g.Inner x i) (path : List Step) :
    g'.walk? (image i) path = (g.walk? i path).map image ∧
      ∀ j, g.walk? i path = some j → g.Inner x j := by
  induction path generalizing i with
  | nil =>
      refine ⟨rfl, fun j is => ?_⟩
      cases is
      exact inner
  | cons step rest ih =>
      simp only [walk?, List.foldlM_cons]
      rw [isomorphic_part same inner]
      cases found : g.part? i step with
      | none =>
          refine ⟨rfl, fun j absurd => ?_⟩
          cases absurd
      | some part => exact ih (.part inner (part_among found))

-- Two paths lead to one part of one document exactly when they do in the other.
theorem isomorphic_positions (same : Isomorphic g x g' y image) (path path' : List Step) :
    g'.walk? y path = g'.walk? y path' ↔ g.walk? x path = g.walk? x path' := by
  obtain ⟨one, inner⟩ := isomorphic_walk same .self path
  obtain ⟨two, inner'⟩ := isomorphic_walk same .self path'
  rw [← same.root, one, two]
  constructor
  · intro alike
    cases first : g.walk? x path with
    | none =>
        rw [first] at alike
        exact (Option.map_eq_none_iff.mp alike.symm).symm
    | some i =>
        rw [first] at alike
        obtain ⟨j, second, is⟩ := Option.map_eq_some_iff.mp alike.symm
        rw [second, same.apart i j (inner i first) (inner' j second) is.symm]
  · intro alike
    rw [alike]

end Graph

namespace Library

variable {s : Surround} {o : LoaderOptions} {l l' l₁ : Loader} {d : Document} {location : String}
variable {content item part x : Item} {g : Graph} {id : Nat}

def SelfContained (g : Graph) (content : Item) : Prop :=
  ∀ item entries r, g.Inner content item → g.entries? item = some entries →
    lookup? entries (.text "$ref") = some (.text r) → r.toList.head? = some '#'

theorem own_reference (contained : SelfContained g content) (inner : g.Inner content item)
    {entries : Entries} (held : g.entries? item = some entries) :
    ApiSchema.reference? true entries = none := by
  unfold ApiSchema.reference?
  cases found : (lookup? entries (.text "$ref")).bind Item.text? with
  | none => rfl
  | some r =>
      obtain ⟨value, there, is⟩ := Option.bind_eq_some_iff.mp found
      have text : value = .text r := by
        unfold Item.text? at is
        split at is
        · cases is
          rfl
        · cases is
      subst text
      simp [contained item entries r inner held there]

theorem plain_own {b : Library} {start : Spot} (contained : SelfContained g start.item)
    (first : start.isRoot = true) (same : ∀ i, g.Within start.item i → b.graph.cell? i = g.cell? i)
    (inner : g.Inner start.item item) : b.reference? { start with item } = none := by
  rw [reference?, Graph.entries?, Graph.of_inner same inner, first]
  cases held : g.entries? item with
  | none =>
      unfold Graph.entries? at held
      rw [held]
      rfl
  | some entries =>
      have none := own_reference contained inner held
      unfold Graph.entries? at held
      rw [held]
      exact none

-- Nothing else is met in such a document.
theorem visits_own {b : Library} {start p : Spot} (contained : SelfContained g start.item)
    (first : start.isRoot = true) (same : ∀ i, g.Within start.item i → b.graph.cell? i = g.cell? i)
    (visits : b.Visits o start p) :
    p = { start with item := p.item } ∧ g.Inner start.item p.item ∧ b.reference? p = none := by
  induction visits with
  | here => exact ⟨rfl, .self, plain_own contained first same .self⟩
  | on _ followed ih => exact (follow_reference followed ih.2.2).elim
  | @into q part _ _ held ih =>
      have inner : g.Inner start.item part := by
        refine .part ih.2.1 ?_
        rw [Graph.inside, ← Graph.of_inner same ih.2.1]
        exact held
      have is : ({ q with item := part } : Spot) = { start with item := part } := by rw [ih.1]
      exact ⟨is, inner, is ▸ plain_own contained first same inner⟩

def copied (l : Loader) (item : Item) : Item := (copy? l item).getD item

theorem copied_noted (once : ∀ i x y, (i, x) ∈ l.copies → (i, y) ∈ l.copies → x = y)
    (noted : (id, x) ∈ l.copies) : copied l (.node id) = x := by
  change (l.copies.lookup id).getD _ = x
  cases found : l.copies.lookup id with
  | none => exact (absent_note found x noted).elim
  | some y => exact once id y x (lookup_note found) noted

theorem copied_absent (absent : ∀ x, (id, x) ∉ l.copies) : copied l (.node id) = .node id := by
  change (l.copies.lookup id).getD _ = _
  cases found : l.copies.lookup id with
  | none => rfl
  | some y => exact (absent y (lookup_note found)).elim

section Result

variable {b : Library} {start : Spot}

theorem copied_leaf (traced : b.Traced o start l) (leaf : b.kind item = .leaf) : copied l item = item := by
  cases item with
  | scalar s => rfl
  | node id =>
      apply copied_absent
      intro x noted
      obtain ⟨_, _, ⟨map, _⟩ | ⟨list, _⟩⟩ := copy_kinds traced noted rfl
      · rw [leaf] at map
        cases map
      · rw [leaf] at list
        cases list

theorem placed_copied (traced : b.Traced o start l) {p : Spot} (plain : b.reference? p = none)
    (placed : b.Placed o start l p x) : x = copied l p.item := by
  cases placed with
  | leaf kind => exact (copied_leaf traced kind).symm
  | copy _ node noted =>
      rw [node]
      exact (copied_noted traced.once noted).symm
  | target keyed _ _ => exact (key_reference keyed plain).elim

theorem placed_container {p : Spot} (plain : b.reference? p = none) (other : b.kind p.item ≠ .leaf)
    (placed : b.Placed o start l p x) : ∃ id, p.item = .node id ∧ (id, x) ∈ l.copies := by
  cases placed with
  | leaf kind => exact (other kind).elim
  | copy _ node noted => exact ⟨_, node, noted⟩
  | target keyed _ _ => exact (key_reference keyed plain).elim

end Result

theorem image_of {α β : Type} {f : α → β} {items : List α} {images : List β}
    (each : List.Forall₂ (fun a b => b = f a) items images) : images = items.map f := by
  induction each with
  | nil => rfl
  | cons same _ ih => rw [List.map_cons, same, ih]

section Copies

variable {start : Spot} (contained : SelfContained g start.item) (first : start.isRoot = true)
  (same : ∀ i, g.Within start.item i → l.graph.cell? i = g.cell? i) (loaded : Loaded o start l₁ l d)
include contained first same loaded

-- A copy of what is met in a self-contained document, part by part.
theorem copied_mirrors (noted : (id, x) ∈ l.copies) :
    ∃ c cell cell', x = .node c ∧ l₁.graph.size ≤ c ∧ g.Inner start.item (.node id) ∧
      g.cell? id = some cell ∧ l.graph.cell? c = some cell' ∧
      Mirrors (fun part y => y = copied l part ∧ Placed o l.library start l { start with item := part } y)
        cell cell' := by
  obtain ⟨c, is, above, u, visits, plain, node, cell, cell', held, made, mirrors⟩ := loaded.whole id x noted
  have own {p : Spot} (visits : l.library.Visits o start p) := visits_own contained first same visits
  obtain ⟨spot, inner, _⟩ := own visits
  rw [node] at inner held
  have cell_ : l.graph.cell? id = g.cell? id := same id (Graph.inner_within inner rfl)
  have held_ : l.graph.cell? id = some cell := held
  refine ⟨c, cell, cell', is, above, inner, cell_.symm.trans held_, made, ?_⟩
  have members : ∀ part ∈ cell.parts, part ∈ l.library.contents u := by
    have whole : l.library.graph.of? u.item = some cell := node ▸ held_
    rw [contents, whole]
    cases mirrors <;> exact fun _ member => member
  refine mirrors_among (fun part member y placed => ?_) mirrors
  obtain ⟨spot', _, plain'⟩ := own (.into visits plain (members part member))
  have there : ({ u with item := part } : Spot) = { start with item := part } := by rw [spot]
  exact ⟨placed_copied loaded.traced plain' placed, there ▸ placed⟩

theorem inner_placed (inner : g.Inner start.item item) :
    Placed o l.library start l { start with item } (copied l item) := by
  induction inner with
  | self =>
      obtain ⟨_, _, plain⟩ := visits_own (o := o) (b := l.library) contained first same .here
      rw [← placed_copied loaded.traced plain loaded.placed]
      exact loaded.placed
  | @part around part outer held ih =>
      -- What is around the part is a container, so its copy is whole and has one for the part.
      obtain ⟨j, cell, rfl, is, member⟩ := Graph.inside_part held
      have other : l.library.kind (.node j) ≠ .leaf := by
        intro leaf
        have there : part ∈ l.library.contents { start with item := .node j } := by
          rw [contents, Graph.of_inner same outer]
          exact held
        rw [leaf_contents leaf] at there
        cases there
      obtain ⟨_, node, noted⟩ := placed_container (plain_own contained first same outer) other ih
      cases node
      obtain ⟨_, cell₁, cell₂, _, _, _, is₁, _, mirrors⟩ := copied_mirrors contained first same loaded noted
      cases is.symm.trans is₁
      cases mirrors with
      | map all =>
          obtain ⟨entry, inside, rfl⟩ := List.mem_map.mp member
          obtain ⟨_, _, _, image, placed⟩ := forall_left all inside
          exact image ▸ placed
      | list all =>
          obtain ⟨_, _, image, placed⟩ := forall_left all member
          exact image ▸ placed

theorem container_copied (inner : g.Inner start.item item) (other : l.library.kind item ≠ .leaf) :
    ∃ id, item = .node id ∧ (id, copied l item) ∈ l.copies :=
  placed_container (plain_own (b := l.library) contained first same inner) other
    (inner_placed contained first same loaded inner)

theorem entries_copied {entries : Entries} (inner : g.Inner start.item item)
    (held : g.entries? item = some entries) :
    l.graph.entries? (copied l item) = some (entries.map fun (key, part) => (key, copied l part)) := by
  have map : l.library.kind item = .map :=
    kind_map.mpr ⟨entries, (Graph.of_inner same inner).trans (entries_kind held)⟩
  obtain ⟨id, rfl, noted⟩ := container_copied contained first same loaded inner (by rw [map]; decide)
  obtain ⟨c, cell, cell', is, _, _, is₁, made, mirrors⟩ :=
    copied_mirrors contained first same loaded noted
  cases (entries_kind held).symm.trans is₁
  cases mirrors with
  | @map _ copies all =>
      rw [is, Graph.entries?, Graph.of?, made]
      refine congrArg some (image_of (all.imp fun entry copy both => ?_))
      exact Prod.ext both.1.symm both.2.1

theorem items_copied {items : List Item} (inner : g.Inner start.item item)
    (held : g.items? item = some items) :
    l.graph.items? (copied l item) = some (items.map (copied l)) := by
  have list : l.library.kind item = .list :=
    kind_list.mpr ⟨items, (Graph.of_inner same inner).trans (Graph.of_items held)⟩
  obtain ⟨id, rfl, noted⟩ := container_copied contained first same loaded inner (by rw [list]; decide)
  obtain ⟨c, cell, cell', is, _, _, is₁, made, mirrors⟩ :=
    copied_mirrors contained first same loaded noted
  cases (Graph.of_items held).symm.trans is₁
  cases mirrors with
  | @list _ copies all =>
      rw [is, Graph.items?, Graph.of?, made]
      exact congrArg some (image_of (all.imp fun part copy placed => placed.1))

omit contained first loaded in
theorem leaf_of_neither (inner : g.Inner start.item item) (noMap : g.entries? item = none)
    (noList : g.items? item = none) : l.library.kind item = .leaf := by
  unfold kind
  rw [Graph.of_inner same inner]
  unfold Graph.entries? at noMap
  unfold Graph.items? at noList
  split <;> simp_all

-- A copy is behind all that the document holds, so it is no leaf of the document.
theorem copy_new (low : ∀ i, g.Within start.item i → i < l₁.graph.size) {leaf : Item}
    (inner : g.Inner start.item item) (inner' : g.Inner start.item leaf)
    (other : l.library.kind item ≠ .leaf) : copied l item ≠ leaf := by
  intro alike
  obtain ⟨id, rfl, noted⟩ := container_copied contained first same loaded inner other
  obtain ⟨c, _, _, is, above, _⟩ := copied_mirrors contained first same loaded noted
  rw [is] at alike
  have below := low c (Graph.inner_within inner' alike.symm)
  omega

theorem copied_injective (low : ∀ i, g.Within start.item i → i < l₁.graph.size) {i j : Item}
    (inner : g.Inner start.item i) (inner' : g.Inner start.item j) (alike : copied l i = copied l j) :
    i = j := by
  by_cases leaf : l.library.kind i = .leaf <;> by_cases leaf' : l.library.kind j = .leaf
  · rw [← copied_leaf loaded.traced leaf, alike, copied_leaf loaded.traced leaf']
  · rw [copied_leaf loaded.traced leaf] at alike
    exact (copy_new contained first same loaded low inner' inner leaf' alike.symm).elim
  · rw [copied_leaf loaded.traced leaf'] at alike
    exact (copy_new contained first same loaded low inner inner' leaf alike).elim
  · obtain ⟨id, rfl, noted⟩ := container_copied contained first same loaded inner leaf
    obtain ⟨id', rfl, noted'⟩ := container_copied contained first same loaded inner' leaf'
    rw [alike] at noted
    rw [loaded.traced.apart id id' _ noted noted']

-- What is met in the copy of the document is the copy of something met in the document.
theorem inner_of_copied {y : Item} (root : copied l start.item = d.root)
    (inner : l.graph.Inner d.root y) : ∃ i, g.Inner start.item i ∧ copied l i = y := by
  induction inner with
  | self => exact ⟨start.item, .self, root⟩
  | part _ held ih =>
      obtain ⟨i, inner, rfl⟩ := ih
      rcases Graph.inside_cases g i with ⟨entries, map, inside⟩ | ⟨items, list, inside⟩ | ⟨noMap, noList, inside⟩
      · have there := entries_copied contained first same loaded inner map
        rw [Graph.inside, entries_kind there] at held
        obtain ⟨entry, among, rfl⟩ := List.mem_map.mp held
        obtain ⟨old, member, rfl⟩ := List.mem_map.mp among
        exact ⟨old.2, .part inner (inside ▸ List.mem_map_of_mem member), rfl⟩
      · have there := items_copied contained first same loaded inner list
        rw [Graph.inside, Graph.of_items there] at held
        obtain ⟨old, member, rfl⟩ := List.mem_map.mp held
        exact ⟨old, .part inner (inside ▸ member), rfl⟩
      · have leaf := leaf_of_neither same inner noMap noList
        rw [Graph.inside, copied_leaf loaded.traced leaf, Graph.of_inner same inner] at held
        unfold Graph.inside at inside
        rw [inside] at held
        cases held

theorem isomorphic_copied (low : ∀ i, g.Within start.item i → i < l₁.graph.size) :
    g.Isomorphic start.item d.graph d.root (copied l) := by
  rw [loaded.graph]
  have root : copied l start.item = d.root :=
    (placed_copied loaded.traced (plain_own contained first same .self) loaded.placed).symm
  refine ⟨root, fun i j inner inner' => copied_injective contained first same loaded low inner inner',
    fun j inner => inner_of_copied contained first same loaded root inner,
    fun i entries inner held => entries_copied contained first same loaded inner held,
    fun i items inner held => items_copied contained first same loaded inner held,
    fun i inner noMap noList => ?_⟩
  have leaf := leaf_of_neither same inner noMap noList
  exact ⟨copied_leaf loaded.traced leaf, Graph.of_inner same inner⟩

end Copies

section Depth

variable {f : Fault} {fuel : Nat}

structure Intact (s : Surround) (o : LoaderOptions) (g : Graph) (location : String) (content : Item)
    (l : Loader) : Prop where
  housed : Housed s o [(location, content)] l
  same : ∀ i, g.Within content i → l.graph.cell? i = g.cell? i

theorem intact_after {m : Loader} {log : List Aim} {α : Type} {result : Except Fault α}
    (intact : Intact s o g location content l)
    (expands : Loading.Expands s o [(location, content)] (fun _ => True) l log (result, m)) :
    Intact s o g location content m ∧ ∀ i, m.copies.lookup i = none → l.copies.lookup i = none := by
  refine ⟨⟨expands.housed, fun i within => ?_⟩, fun i => Loading.lookup_back (expands.copies i)⟩
  have here := Graph.within_kept intact.same within
  rw [expands.grown.kept location i ⟨content, by simp, here⟩, intact.same i within]

/-- The steps that leave a document as it was and take no note of a copy back. -/
def copying (s : Surround) (o : LoaderOptions) (g : Graph) (location : String) (content : Item) :
    Regime Loader Fault where
  holds := Intact s o g location content
  grows l m := Grows [(location, content)] 0 l m ∧ ∀ i, m.copies.lookup i = none → l.copies.lookup i = none
  faults _ := True
  refl _ := ⟨grows_refl _ _ _, fun _ absent => absent⟩
  trans first second := ⟨grows_trans first.1 second.1, fun i absent => first.2 i (second.2 i absent)⟩

theorem keeps_copying {α : Type} {step : Loading α} {start : Loader}
    (expands : ∀ l, Intact s o g location content l → Grows [(location, content)] 0 start l →
      ∃ log, Loading.Expands s o [(location, content)] (fun _ => True) l log (step.run.run l)) :
    (copying s o g location content).Keeps start step fun _ _ => True := by
  intro l intact later
  obtain ⟨log, expands⟩ := expands l intact later.1
  obtain ⟨intact', back⟩ := intact_after intact expands
  refine ⟨intact', ⟨expands.grown, back⟩, ?_⟩
  unfold Regime.outcome
  split <;> trivial

theorem bundle_intact (intact : Intact s o g location content l) (inner : g.Inner content item) :
    Loading.Expands s o [(location, content)] (fun _ => True) l
      (Loading.expansions s o fuel true location item l)
      ((bundle s o fuel true location item).run.run l) := by
  refine (Loading.bundle_expands (fun _ _ _ _ _ _ _ _ _ _ _ _ => trivial) fuel true location item l ?_).expands
  refine ⟨intact.housed, fun _ _ _ _ _ _ _ => trivial, trivial, fun i node => ⟨content, by simp, ?_⟩⟩
  exact Graph.within_kept intact.same (Graph.inner_within inner node)

-- If the parts of a container cannot be copied, then one of them cannot.
theorem parts_stop {c : Nat} {parts : List (Option Scalar × Item)}
    (intact : Intact s o g location content l) (own : Own [(location, content)] 0 l (.node c))
    (inner : ∀ part ∈ parts, g.Inner content part.2)
    (stopped : Stops (copyParts (bundle s o fuel true location) (.node c) parts) l f l') :
    ∃ part ∈ parts, ∃ m m', Intact s o g location content m ∧
      (∀ i, m.copies.lookup i = none → l.copies.lookup i = none) ∧
      Stops (bundle s o fuel true location part.2) m f m' := by
  let R := copying s o g location content
  have each (part : Option Scalar × Item) (m : Loader) (later : R.grows l m) (member : part ∈ parts) :
      R.Keeps m (bundle s o fuel true location part.2 >>= fun y =>
        Loading.update (.node c) (withPart part.1 y)) fun _ _ => True := by
    refine Regime.keeps_bind (keeps_copying fun m intact _ => ⟨_, bundle_intact intact (inner part member)⟩)
      fun y m₁ further _ => keeps_copying fun m₂ intact onward => ⟨[], ?_⟩
    have owned := own_later (own_later (own_later own later.1) further.1) onward
    exact Loading.update_expands intact.housed owned (withPart part.1 y)
  obtain ⟨part, member, m, intact', ⟨_, back⟩, here⟩ := Regime.stops_for each intact (R.refl l) stopped
  rcases stops_bind.mp here with bundling | ⟨_, _, _, updating⟩
  · exact ⟨part, member, m, l', intact', back, bundling⟩
  · exact (stops_modify updating).elim

-- A container that cannot be copied holds as many others, one inside the other, as may be copied.
theorem container_stop {empty : Cell} {parts : List (Option Scalar × Item)}
    (below : ∀ l item f l', Intact s o g location content l → g.Inner content item →
      Stops (bundle s o fuel true location item) l f l' → f = .misuse .depth ∧
        ∃ ids, ids.length = fuel ∧ ids.Nodup ∧ g.Nested item ids ∧ ∀ i ∈ ids, l.copies.lookup i = none)
    (intact : Intact s o g location content l) (inner : g.Inner content (.node id))
    (among : ∀ part ∈ parts, part.2 ∈ g.inside (.node id))
    (stopped : Stops (copyContainer (bundle s o fuel true location) id empty parts) l f l') :
    f = .misuse .depth ∧ ∃ ids, ids.length = fuel + 1 ∧ ids.Nodup ∧ g.Nested (.node id) ids ∧
      ∀ i ∈ ids, l.copies.lookup i = none := by
  unfold copyContainer at stopped
  rw [stops_get_bind] at stopped
  cases noted : l.copies.lookup id with
  | some y =>
      rw [noted] at stopped
      exact (stops_pure stopped).elim
  | none =>
      rw [noted] at stopped
      have opened : Gives (openCopy id empty) l (.node l.graph.size) _ := gives_open_copy.mpr ⟨rfl, rfl⟩
      have owned := (Regime.gives_kept (Loading.keeps_open_copy id empty)
        ⟨intact.housed, Nat.zero_le _⟩ opened).2.2
      have expands : Loading.Expands s o [(location, content)] (fun _ => True) l [] _ :=
        Loading.open_copy_expands intact.housed id empty
      rw [opened] at expands
      obtain ⟨intact₁, back₁⟩ := intact_after intact expands
      rcases stops_bind.mp stopped with opening | ⟨copied, m, opening, rest⟩
      · cases opened.symm.trans opening
      · cases opened.symm.trans opening
        rcases stops_bind.mp rest with filling | ⟨_, _, _, done⟩
        · -- One of its parts holds one container less than what is allowed here.
          obtain ⟨part, member, m, m', intact₂, back₂, copying⟩ := parts_stop intact₁ owned
            (fun part member => .part inner (among part member)) filling
          obtain ⟨depth, ids, length, apart, nested, absent⟩ :=
            below m part.2 f m' intact₂ (.part inner (among part member)) copying
          refine ⟨depth, id :: ids, by rw [List.length_cons, length], ?_,
            .into (among part member) nested, fun i held => ?_⟩
          · -- The container itself has been noted by now.
            refine List.nodup_cons.mpr ⟨fun held => ?_, apart⟩
            have still := back₂ id (absent id held)
            rw [List.lookup_cons_self] at still
            cases still
          · rcases List.mem_cons.mp held with rfl | deeper
            · exact noted
            · exact back₁ i (back₂ i (absent i deeper))
        · exact (stops_pure done).elim

theorem bundle_stop (contained : SelfContained g content) :
    ∀ l item f l', Intact s o g location content l → g.Inner content item →
      Stops (bundle s o fuel true location item) l f l' → f = .misuse .depth ∧
        ∃ ids, ids.length = fuel ∧ ids.Nodup ∧ g.Nested item ids ∧ ∀ i ∈ ids, l.copies.lookup i = none := by
  induction fuel with
  | zero =>
      intro l item f l' _ _ stopped
      exact ⟨(stops_throw.mp stopped).1, [], rfl, .nil, .stop item, nofun⟩
  | succ fuel ih =>
      intro l item f l' intact inner stopped
      have same := Graph.of_inner intact.same inner
      simp only [bundle, stops_get_bind] at stopped
      split at stopped
      next _ id entries held =>
        rw [same] at held
        have entered : g.entries? (.node id) = some entries := by rw [Graph.entries?, held]
        rw [own_reference contained inner entered] at stopped
        refine container_stop ih intact inner (fun part member => ?_) stopped
        obtain ⟨entry, among, rfl⟩ := List.mem_map.mp member
        rw [Graph.inside, held]
        exact List.mem_map_of_mem among
      next _ id items held =>
        rw [same] at held
        refine container_stop ih intact inner (fun part member => ?_) stopped
        obtain ⟨item, among, rfl⟩ := List.mem_map.mp member
        rw [Graph.inside, held]
        exact among
      next => exact (stops_pure stopped).elim

end Depth

/-- A document whose references all lead into itself is loaded as it is, with the same sharing, or it is
nested too deeply. The maps and lists of the loaded document are new ones. -/
theorem self_contained_loaded {source : DocumentSource} {l₀ : Loader} (used : Used s o l₀)
    (resolves : o.resolveExternalRefs = true)
    (opened : Gives (openDocument s o source) l₀ (location, content) l₁)
    (map : l₁.graph.isMap content = true) (contained : SelfContained l₁.graph content) :
    (∃ d l image, Gives (loadDocument s o source) l₀ d l ∧
      l₁.graph.Isomorphic content d.graph d.root image ∧
      (∀ path path', d.graph.walk? d.root path = d.graph.walk? d.root path' ↔
        l₁.graph.walk? content path = l₁.graph.walk? content path') ∧
      (∀ i, l₁.graph.Inner content i → (l₁.graph.entries? i).isSome ∨ (l₁.graph.items? i).isSome →
        ∃ c, image i = .node c ∧ l₁.graph.size ≤ c) ∧
      ∀ i, i < l₁.graph.size → d.graph.cell? i = l₁.graph.cell? i) ∨
    ∃ l ids, Stops (loadDocument s o source) l₀ (.misuse .depth) l ∧ ids.length = o.depth ∧ ids.Nodup ∧
      l₁.graph.Nested content ids := by
  have housed := housed_opened (housed_used used) opened
  have low (i : Nat) (within : l₁.graph.Within content i) : i < l₁.graph.size :=
    housed.inside location i ⟨content, by simp, within⟩
  rcases gives_or_stops (loadDocument s o source) l₀ with ⟨d, l, came⟩ | ⟨f, l, stopped⟩
  · left
    have loaded := document_loaded used resolves opened came
    have same (i : Nat) (within : l₁.graph.Within content i) : l.graph.cell? i = l₁.graph.cell? i :=
      loaded.grown.before i (low i within)
    have own : SelfContained l₁.graph (Spot.item ⟨location, true, content⟩) := contained
    have iso := isomorphic_copied own rfl same loaded low
    refine ⟨d, l, copied l, came, iso, Graph.isomorphic_positions iso, fun i inner container => ?_,
      fun i below => ?_⟩
    · have other : l.library.kind i ≠ .leaf := by
        unfold kind
        rw [Graph.of_inner same inner]
        unfold Graph.entries? Graph.items? at container
        split <;> simp_all
      obtain ⟨id, rfl, noted⟩ := container_copied own rfl same loaded inner other
      obtain ⟨c, is, above, _⟩ := loaded.whole id _ noted
      exact ⟨c, is, above⟩
    · rw [loaded.graph]
      exact loaded.grown.before i below
  · -- The document has been opened and is a map, so it is copying that stops.
    right
    have run := Loading.load_with_run opened (bundle s o o.depth)
    rw [map, resolves, ← Loading.load_with_bundle] at run
    have intact : Intact s o l₁.graph location content (Loading.cleared l₁) :=
      ⟨(Loading.keeps_notes (n := 0) (fun _ => ([], [])) l₁ ⟨housed, Nat.zero_le _⟩ (grows_refl _ _ _)).1.1,
        fun _ _ => rfl⟩
    have copying : Stops (bundle s o o.depth true location content >>= Loading.complete)
        (Loading.cleared l₁) f l := run.symm.trans stopped
    rcases stops_bind.mp copying with bundling | ⟨_, _, _, done⟩
    · obtain ⟨rfl, ids, length, apart, nested, _⟩ := bundle_stop contained _ content f l intact .self bundling
      exact ⟨l, ids, stopped, length, apart, nested⟩
    · exact (stops_pure done).elim

def foreign? (cell : Cell) : Option String :=
  ((cell.part? (.key (.text "$ref"))).bind Item.text?).filter (·.toList.head? != some '#')

theorem self_contained_cells (own : ∀ cell ∈ g.cells, foreign? cell = none) : SelfContained g content := by
  intro item entries r _ held named
  have map := entries_kind held
  cases item with
  | scalar s => cases map
  | node id =>
      have none := own _ (Array.mem_of_getElem? map)
      simpa [foreign?, Cell.part?, named, Item.text?] using none

def cyclic : Document where
  graph := ⟨#[.map [(.text "a", .node 1), (.text "b", .node 1), (.text "c", .node 2)],
    .list [.node 0, .scalar (.int 1)], .map [(.text "$ref", .text "#/a")]]⟩
  root := .node 0

theorem cyclic_opened : ∃ l₁, Gives (openDocument nodeFile atTop (.shared cyclic)) {}
    ("/__document__", .node 0) l₁ ∧ l₁.graph = cyclic.graph := by
  have cells : ((openDocument nodeFile atTop (.shared cyclic)).run.run {}).2.graph.cells =
      cyclic.graph.cells := by decide +kernel
  exact ⟨_, gives_ok (by decide +kernel), congrArg Graph.mk cells⟩

theorem cyclic_loaded : ∃ d l image, Gives (loadDocument nodeFile atTop (.shared cyclic)) {} d l ∧
    cyclic.graph.Isomorphic (.node 0) d.graph d.root image := by
  obtain ⟨l₁, opened, graph⟩ := cyclic_opened
  have loads : ((loadDocument nodeFile atTop (.shared cyclic)).run.run {}).1.toOption.isSome = true := by
    decide +kernel
  obtain ⟨_, came⟩ := Option.isSome_iff_exists.mp loads
  have given := gives_ok came
  have map : l₁.graph.isMap (.node 0) = true := by
    rw [graph]
    decide
  have contained : SelfContained l₁.graph (.node 0) := by
    rw [graph]
    exact self_contained_cells (by decide +kernel)
  rcases self_contained_loaded .new rfl opened map contained with
    ⟨d, l, image, loaded, same, _⟩ | ⟨_, _, stopped, _⟩
  · exact ⟨d, l, image, loaded, graph ▸ same⟩
  · cases given.symm.trans stopped

def pairsFile : Surround := around "r.yaml" "a: &x\n  k: 1\nb: !!pairs\n- p: *x\n"

def pairsOpened : Except Fault (String × Item) × Loader :=
  (openDocument pairsFile atTop (.named "r.yaml")).run.run {}

def pairsLoaded : Except Fault Document × Loader :=
  (loadDocument pairsFile atTop (.named "r.yaml")).run.run {}

theorem pairs_opened : pairsOpened.1.toOption = some ("/r.yaml", .node 0) ∧
    pairsOpened.2.graph.isMap (.node 0) = true ∧
    (∀ cell ∈ pairsOpened.2.graph.cells, foreign? cell = none) ∧
    pairsOpened.2.graph.walk? (.node 0) [.key (.text "a")] = some (.node 1) ∧
    (pairsOpened.2.graph.walk? (.node 0) [.key (.text "b"), .index 0]).bind pairsOpened.2.graph.of? =
      some (.pair (.text "p") (.node 1)) := by
  decide +kernel

theorem pairs_loaded : pairsLoaded.1.toOption.map (fun d => (d.graph.walk? d.root [.key (.text "a")],
    (d.graph.walk? d.root [.key (.text "b"), .index 0]).bind d.graph.of?)) =
      some (some (.node 5), some (.pair (.text "p") (.node 1))) := by
  decide +kernel

/-- A pair is not copied: in the loaded document it holds the map that was read, and not the copy of it
that is elsewhere. -/
theorem pair_keeps : ∃ location content l₁ d l x y z,
    Gives (openDocument pairsFile atTop (.named "r.yaml")) {} (location, content) l₁ ∧
    l₁.graph.isMap content = true ∧ SelfContained l₁.graph content ∧
    Gives (loadDocument pairsFile atTop (.named "r.yaml")) {} d l ∧
    l₁.graph.walk? content [.key (.text "a")] = some x ∧
    (l₁.graph.walk? content [.key (.text "b"), .index 0]).bind l₁.graph.of? = some (.pair (.text "p") x) ∧
    d.graph.walk? d.root [.key (.text "a")] = some y ∧
    (d.graph.walk? d.root [.key (.text "b"), .index 0]).bind d.graph.of? = some (.pair (.text "p") z) ∧
    z ≠ y := by
  obtain ⟨opened, map, own, source, pair⟩ := pairs_opened
  obtain ⟨d, came, found⟩ := Option.map_eq_some_iff.mp pairs_loaded
  obtain ⟨one, two⟩ := Prod.mk.inj found
  exact ⟨"/r.yaml", .node 0, pairsOpened.2, d, pairsLoaded.2, .node 1, .node 5, .node 1, gives_ok opened,
    map, self_contained_cells own, gives_ok came, source, pair, one, two, by decide⟩

end Library

end ApiSchema
