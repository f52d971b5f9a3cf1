import ApiSchema.Proofs.Source.Copying

namespace ApiSchema

namespace Library

variable (o : LoaderOptions) (b : Library) (start : Spot)

def Steady (p : Spot) : Prop :=
  ∀ q, b.Visits o start q → q.item = p.item → b.reference? q = b.reference? p

inductive Shown (g : Graph) (root : Item) : Spot → Item → Prop
  | first : Shown g root start root
  | part {p e : Spot} {x y item : Item} {keys : List String} {step : Step} : Shown g root p x →
      b.Steady o start p → b.Ends o p keys e → b.graph.part? e.item step = some item →
      g.part? x step = some y → Shown g root { e with item } y

variable {o b start} {s : Surround} {l : Loader} {p q e u : Spot} {x y item root : Item}
variable {keys : List String} {key : String}

-- It is enough that no location of a document has the sign that ends it in a key.
theorem one_target_of_plain (plain : ∀ p, b.Visits o start p → '#' ∉ p.location.toList) :
    b.OneTarget o start :=
  fun _ _ _ _ _ visits visits' followed followed' => same_target_of_plain (plain _ (.on visits followed))
    (plain _ (.on visits' followed')) followed followed'

theorem placed_alike (home : OneHome o b start) (visits : b.Visits o start p)
    (visits' : b.Visits o start q) (same : p.item = q.item) (alike : b.reference? p = b.reference? q)
    (placed : b.Placed o start l p x) : b.Placed o start l q x := by
  cases placed with
  | leaf kind =>
      rw [same] at kind ⊢
      exact .leaf kind
  | copy plain node noted => exact .copy (alike ▸ plain) (same ▸ node) noted
  | target keyed noted firm =>
      obtain ⟨id, node⟩ : ∃ id, p.item = .node id := by
        cases named : b.reference? p with
        | none => exact (key_reference keyed named).elim
        | some reference =>
            obtain ⟨entries, held⟩ := kind_map.mp (reference_map named)
            cases item : p.item with
            | node id => exact ⟨id, rfl⟩
            | scalar s =>
                rw [item] at held
                cases held
      have location := home p q id visits visits' node (same ▸ node)
      refine .target ?_ noted ?_
      · rw [key?, ← alike, ← location]
        exact keyed
      · intro one keys e i ends list straight at_
        obtain ⟨leads, plain⟩ := ends
        cases leads with
        | stop => exact (key_reference keyed (alike.trans plain)).elim
        | on followed onward =>
            rw [← follow_alike location alike] at followed
            exact firm one _ e i ⟨.on followed onward, plain⟩ list straight at_

-- What is found among the first parts is found among all.
theorem front_part {rest : List (Option Scalar × Item)} {front : Cell} {step : Step}
    (found : front.part? step = some item) : (withParts rest front).part? step = some item := by
  cases front with
  | map entries =>
      obtain ⟨more, same⟩ := with_map rest entries
      rw [same]
      cases step with
      | index i => cases found
      | key key =>
          obtain ⟨entry, held, is⟩ := Option.map_eq_some_iff.mp found
          change ((entries ++ more).find? _).map _ = some item
          rw [List.find?_append, held]
          exact congrArg some is
  | list items =>
      obtain ⟨more, same⟩ := with_list rest items
      rw [same]
      cases step with
      | key key => cases found
      | index i =>
          have below := (List.getElem?_eq_some_iff.mp found).1
          exact (List.getElem?_append_left below).trans found
  | set members => cases found
  | pair first second => cases found

theorem copy_part {rest : List (Option Scalar × Item)} {c : Nat} {step : Step}
    (copied : b.CopyOf o start l rest e.item c) (found : l.graph.part? (.node c) step = some y)
    (held : b.graph.part? e.item step = some item) :
    ∃ u, b.Visits o start u ∧ b.reference? u = none ∧ u.item = e.item ∧
      b.Placed o start l { u with item } y := by
  obtain ⟨u, visits, plain, same, front, cell, whole, made, mirrors⟩ := copied
  obtain ⟨cell', made', there⟩ := Option.bind_eq_some_iff.mp found
  cases made.symm.trans made'
  have part := mirrors_part? mirrors step
  rw [there] at part
  cases first : front.part? step with
  | none =>
      rw [first] at part
      cases part
  | some item' =>
      rw [first] at part
      cases part with
      | some placed =>
          have all : b.graph.part? u.item step = some item' := by
            rw [Graph.part?, whole]
            exact front_part first
          rw [same, held] at all
          cases all
          exact ⟨u, visits, plain, same, placed⟩

theorem leaf_part {step : Step} (leaf : b.kind item = .leaf) : b.graph.part? item step = none := by
  unfold kind at leaf
  unfold Graph.part?
  cases held : b.graph.of? item with
  | none => rfl
  | some cell =>
      rw [held] at leaf
      cases cell with
      | map entries => cases leaf
      | list items => cases leaf
      | set members => rfl
      | pair first second => rfl

theorem targeted_end (traced : b.Traced o start l) (one : b.OneTarget o start)
    (visits : b.Visits o start p) (ends : b.Ends o p (key :: keys) e) (noted : (key, x) ∈ l.targets) :
    Blank l x ∨ b.Renders o start l e x := by
  obtain ⟨leads, plain⟩ := ends
  cases leads with
  | on followed onward =>
      obtain ⟨p', q', visits', followed', becomes⟩ := traced.targets key x noted
      cases one _ _ _ _ _ visits' visits followed' followed
      refine becomes.imp_right fun ⟨e', _, _, _, same, renders⟩ => ?_
      cases same one keys e ⟨onward, plain⟩
      exact renders

-- What is placed for a spot is a copy of what its chain ends at, if it has parts at all.
theorem placed_copy (sees : b.graph = l.graph) (traced : b.Traced o start l)
    (one : b.OneTarget o start) (visits : b.Visits o start p) (placed : b.Placed o start l p x)
    (ends : b.Ends o p keys e) {step : Step} (found : l.graph.part? x step = some y) :
    ∃ c rest, x = .node c ∧ b.CopyOf o start l rest e.item c := by
  have renders_copy (renders : b.Renders o start l e x) :
      ∃ c rest, x = .node c ∧ b.CopyOf o start l rest e.item c := by
    unfold Renders at renders
    cases kind : b.kind e.item with
    | map =>
        rw [kind] at renders
        exact renders
    | list =>
        rw [kind] at renders
        obtain ⟨id, node, noted⟩ := renders
        rw [node]
        exact traced.copies id x noted
    | leaf =>
        rw [kind] at renders
        rw [renders.1, ← sees, leaf_part kind] at found
        cases found
  -- What holds a part is no leaf and no placeholder, so it is the copy of what the chain ends at.
  cases placed with
  | leaf kind =>
      rw [← sees, leaf_part kind] at found
      cases found
  | copy plain node noted =>
      obtain ⟨_, rfl⟩ := ends_here ends plain
      rw [node]
      exact traced.copies _ x noted
  | @target key' x keyed noted firm =>
      obtain ⟨leads, plain⟩ := id ends
      cases leads with
      | stop => exact (key_reference keyed plain).elim
      | on followed onward =>
          cases keyed.symm.trans (key_followed followed)
          rcases targeted_end traced one visits ends noted with ⟨c, rfl, blank⟩ | renders
          · obtain ⟨cell, held, inside⟩ := Option.bind_eq_some_iff.mp found
            cases blank.symm.trans held
            cases step <;> cases inside
          · exact renders_copy renders

theorem shown_placed (home : OneHome o b start) (sees : b.graph = l.graph)
    (traced : b.Traced o start l) (one : b.OneTarget o start) (first : b.Placed o start l start root)
    (shown : b.Shown o start l.graph root p x) :
    b.Visits o start p ∧ (b.Steady o start p → b.Placed o start l p x) := by
  induction shown with
  | first => exact ⟨.here, fun _ => first⟩
  | part _ steady ends held found ih =>
      obtain ⟨visits, placed⟩ := ih
      have visitsEnd := visits_trans visits (visits_leads ends.1)
      have visitsPart := Visits.into visitsEnd ends.2 (Graph.part_among held)
      refine ⟨visitsPart, fun steady' => ?_⟩
      obtain ⟨c, rest, rfl, copied⟩ := placed_copy sees traced one visits (placed steady) ends found
      obtain ⟨u, visits', plain, same, placed'⟩ := copy_part copied found held
      have visitsCopy : b.Visits o start { u with item := _ } :=
        .into visits' plain (Graph.part_among (same ▸ held))
      exact placed_alike home visitsCopy visitsPart rfl (steady' _ visitsCopy rfl) placed'

theorem placed_noted (ends : b.Ends o p (key :: keys) e) (placed : b.Placed o start l p x) :
    (key, x) ∈ l.targets := by
  obtain ⟨leads, plain⟩ := ends
  cases leads with
  | on followed onward =>
      cases placed with
      | leaf kind => exact (follow_reference followed (other_plain (by rw [kind]; decide))).elim
      | copy plain _ _ => exact (follow_reference followed plain).elim
      | target keyed noted _ =>
          cases keyed.symm.trans (key_followed followed)
          exact noted

theorem targeted_map (traced : b.Traced o start l) (one : b.OneTarget o start)
    (visits : b.Visits o start p) (ends : b.Ends o p (key :: keys) e) (map : b.kind e.item = .map)
    (noted : (key, x) ∈ l.targets) : l.graph.isMap x = true := by
  obtain ⟨c, entries, rfl, cell⟩ : ∃ c entries, x = .node c ∧ l.graph.cell? c = some (.map entries) := by
    rcases targeted_end traced one visits ends noted with ⟨c, rfl, blank⟩ | renders
    · exact ⟨c, _, rfl, blank⟩
    · unfold Renders at renders
      rw [map] at renders
      obtain ⟨c, rest, rfl, u, _, _, same, fills⟩ := renders
      rcases fills_kinds fills with ⟨_, entries, cell⟩ | ⟨list, _⟩
      · exact ⟨c, entries, rfl, cell⟩
      · rw [same, map] at list
        cases list
  have held : l.graph.of? (.node c) = some (.map entries) := cell
  rw [Graph.isMap, Graph.entries?, held]
  rfl

theorem list_copied {id : Nat} (traced : b.Traced o start l) (one : b.OneTarget o start)
    (visits : b.Visits o start p) (ends : b.Ends o p (key :: keys) e) (list : b.kind e.item = .list)
    (node : e.item = .node id) (noted : (key, x) ∈ l.targets) :
    (id, x) ∈ l.copies ∨ l.graph.outline? x = some (.map []) := by
  rcases targeted_end traced one visits ends noted with ⟨c, rfl, blank⟩ | renders
  · exact .inr (by rw [Graph.outline?, blank]; rfl)
  · unfold Renders at renders
    rw [list] at renders
    obtain ⟨id', node', copied⟩ := renders
    cases node.symm.trans node'
    exact .inl copied

/-- Two references whose chains end at the same map are one map in the loaded document exactly when
they spell the location and the pointer alike. If they end at the same list, they are one list, unless
a reference inside the list leads back to it through another reference: then one may be an empty map. -/
theorem references_shared {source : DocumentSource} {l₀ l₁ l : Loader} {d : Document}
    {location : String} {content : Item} (used : Used s o l₀) (resolves : o.resolveExternalRefs = true)
    (opened : Gives (openDocument s o source) l₀ (location, content) l₁)
    (loaded : Gives (loadDocument s o source) l₀ d l)
    (one : l.library.OneTarget o ⟨location, true, content⟩) {p₁ p₂ e₁ e₂ : Spot} {x₁ x₂ : Item}
    {key₁ key₂ : String} {keys₁ keys₂ : List String}
    (shown₁ : l.library.Shown o ⟨location, true, content⟩ d.graph d.root p₁ x₁)
    (shown₂ : l.library.Shown o ⟨location, true, content⟩ d.graph d.root p₂ x₂)
    (steady₁ : l.library.Steady o ⟨location, true, content⟩ p₁)
    (steady₂ : l.library.Steady o ⟨location, true, content⟩ p₂)
    (ends₁ : l.library.Ends o p₁ (key₁ :: keys₁) e₁) (ends₂ : l.library.Ends o p₂ (key₂ :: keys₂) e₂)
    (same : e₁.item = e₂.item) :
    (l.library.kind e₁.item = .map → (x₁ = x₂ ↔ key₁ = key₂)) ∧
    (l.library.kind e₁.item = .list →
      (l.library.Straight o ⟨location, true, content⟩ e₁.item → x₁ = x₂) ∧
      (x₁ = x₂ ∨ d.graph.outline? x₁ = some (.map []) ∨ d.graph.outline? x₂ = some (.map []))) := by
  obtain ⟨graph, _, _, home, traced, first, _⟩ := document_loaded used resolves opened loaded
  rw [graph] at shown₁ shown₂ ⊢
  obtain ⟨visits₁, placed₁⟩ := shown_placed home rfl traced one first shown₁
  obtain ⟨visits₂, placed₂⟩ := shown_placed home rfl traced one first shown₂
  have noted₁ := placed_noted ends₁ (placed₁ steady₁)
  have noted₂ := placed_noted ends₂ (placed₂ steady₂)
  -- Notes under keys tell maps apart by the keys, and notes of copies tell lists apart by what was copied.
  constructor
  · intro map
    have map₁ := targeted_map traced one visits₁ ends₁ map noted₁
    have map₂ := targeted_map traced one visits₂ ends₂ (same ▸ map) noted₂
    exact (traced.held key₁ key₂ x₁ x₂ noted₁ noted₂ map₁ map₂).symm
  · intro list
    obtain ⟨id, node⟩ : ∃ id, e₁.item = .node id := by
      obtain ⟨items, held⟩ := kind_list.mp list
      cases item : e₁.item with
      | node id => exact ⟨id, rfl⟩
      | scalar s =>
          rw [item] at held
          cases held
    constructor
    · intro straight
      have copied₁ := placed_firm (placed₁ steady₁) one _ _ id ends₁ list straight node
      have copied₂ := placed_firm (placed₂ steady₂) one _ _ id ends₂ (same ▸ list) (same ▸ straight)
        (same ▸ node)
      exact traced.once id x₁ x₂ copied₁ copied₂
    · rcases list_copied traced one visits₁ ends₁ list node noted₁ with copied₁ | blank₁
      · rcases list_copied traced one visits₂ ends₂ (same ▸ list) (same ▸ node) noted₂ with copied₂ | blank₂
        · exact .inl (traced.once id x₁ x₂ copied₁ copied₂)
        · exact .inr (.inr blank₂)
      · exact .inr (.inl blank₁)

def aliasFile : Surround := around "ext.yaml" "A:\n  $ref: \"#/B\"\nB:\n  z: 1\n"

def namedTarget (target : String) : Value :=
  .map [(.text "$ref", .text ("ext.yaml#/" ++ target))]

def aliasSource : DocumentSource :=
  .inMemory (.map [(.text "a", namedTarget "A"), (.text "b", namedTarget "B"), (.text "c", namedTarget "B")])

def aliasLoad : Except Fault Document × Loader := (loadDocument aliasFile atTop aliasSource).run.run {}

def aliasLibrary : Library where
  graph := ⟨#[.map [(.text "$ref", .text "ext.yaml#/A")], .map [(.text "$ref", .text "ext.yaml#/B")],
    .map [(.text "$ref", .text "ext.yaml#/B")],
    .map [(.text "a", .node 0), (.text "b", .node 1), (.text "c", .node 2)],
    .map [(.text "a", .node 8), (.text "b", .node 9), (.text "c", .node 9)],
    .map [(.text "A", .node 6), (.text "B", .node 7)], .map [(.text "$ref", .text "#/B")],
    .map [(.text "z", .scalar (.int 1))], .map [(.text "z", .scalar (.int 1))],
    .map [(.text "z", .scalar (.int 1))], .map [(.text "z", .scalar (.int 1))]]⟩
  documents := [("/ext.yaml", .node 5)]

theorem alias_load : aliasLoad.2.graph.cells = aliasLibrary.graph.cells ∧
    aliasLoad.2.documents = aliasLibrary.documents ∧
    aliasLoad.1.toOption.map (fun d => (d.graph.cells, d.root)) =
      some (aliasLibrary.graph.cells, .node 4) := by
  decide +kernel

theorem alias_document : ∃ d, Gives (loadDocument aliasFile atTop aliasSource) {} d aliasLoad.2 ∧
    d.graph = aliasLibrary.graph ∧ d.root = .node 4 ∧ aliasLoad.2.library = aliasLibrary := by
  obtain ⟨cells, documents, done⟩ := alias_load
  obtain ⟨⟨⟨made⟩, root⟩, came, same⟩ := Option.map_eq_some_iff.mp done
  obtain ⟨cells', root'⟩ := Prod.mk.inj same
  exact ⟨_, gives_ok came, congrArg Graph.mk cells', root', library_of cells documents⟩

def aliasB : Spot := ⟨"/ext.yaml", false, .node 7⟩

def aliasSpots : List Spot :=
  [atDocument (.node 3), atDocument (.node 0), atDocument (.node 1), atDocument (.node 2),
    ⟨"/ext.yaml", false, .node 6⟩, aliasB, ⟨"/ext.yaml", false, .scalar (.int 1)⟩]

theorem alias_visits (visits : aliasLibrary.Visits atTop (atDocument (.node 3)) p) : p ∈ aliasSpots :=
  visits_inside aliasSpots (by decide) (by decide +kernel) (by decide +kernel) visits

theorem alias_one : aliasLibrary.OneTarget atTop (atDocument (.node 3)) := by
  have plain : ∀ p ∈ aliasSpots, '#' ∉ p.location.toList := by decide
  exact one_target_of_plain fun p visits => plain p (alias_visits visits)

theorem alias_steady (spot : p ∈ aliasSpots) : aliasLibrary.Steady atTop (atDocument (.node 3)) p := by
  have all : ∀ p ∈ aliasSpots, ∀ q ∈ aliasSpots, q.item = p.item →
      aliasLibrary.reference? q = aliasLibrary.reference? p := by decide +kernel
  exact fun q visits => all p spot q (alias_visits visits)

theorem alias_shown (field : String) {x : Item}
    (there : aliasLibrary.graph.part? (.node 3) (.key (.text field)) = some item)
    (made : aliasLibrary.graph.part? (.node 4) (.key (.text field)) = some x) :
    aliasLibrary.Shown atTop (atDocument (.node 3)) aliasLibrary.graph (.node 4) (atDocument item) x :=
  .part .first (alias_steady (by decide)) ⟨.stop _, rfl⟩ there made

theorem alias_follow : aliasLibrary.follow? atTop (atDocument (.node 1)) = some ("/ext.yaml#/B", aliasB) ∧
    aliasLibrary.follow? atTop (atDocument (.node 2)) = some ("/ext.yaml#/B", aliasB) ∧
    aliasLibrary.follow? atTop (atDocument (.node 0)) =
      some ("/ext.yaml#/A", ⟨"/ext.yaml", false, .node 6⟩) ∧
    aliasLibrary.follow? atTop ⟨"/ext.yaml", false, .node 6⟩ = some ("/ext.yaml#/B", aliasB) := by
  decide +kernel

theorem alias_named_twice : ∃ d l x y, Gives (loadDocument aliasFile atTop aliasSource) {} d l ∧
    l.library.Shown atTop (atDocument (.node 3)) d.graph d.root (atDocument (.node 1)) x ∧
    l.library.Shown atTop (atDocument (.node 3)) d.graph d.root (atDocument (.node 2)) y ∧ x = y := by
  obtain ⟨d, loaded, graph, root, library⟩ := alias_document
  have shown₁ := alias_shown "b" rfl rfl
  have shown₂ := alias_shown "c" rfl rfl
  rw [← graph, ← root, ← library] at shown₁ shown₂
  obtain ⟨second, third, _⟩ := alias_follow
  have opened : Gives (openDocument aliasFile atTop aliasSource) {} ("/__document__", .node 3)
      ((openDocument aliasFile atTop aliasSource).run.run {}).2 := gives_ok (by decide +kernel)
  have ends {p : Spot} (followed : aliasLibrary.follow? atTop p = some ("/ext.yaml#/B", aliasB)) :
      aliasLoad.2.library.Ends atTop p ["/ext.yaml#/B"] aliasB := by
    rw [library]
    exact ⟨.on followed (.stop _), rfl⟩
  have shared := references_shared .new rfl opened loaded (library ▸ alias_one) shown₁ shown₂
    (library ▸ alias_steady (by decide)) (library ▸ alias_steady (by decide)) (ends second) (ends third)
    rfl
  have map : aliasLoad.2.library.kind aliasB.item = .map := by
    rw [library]
    decide
  exact ⟨d, _, _, _, loaded, shown₁, shown₂, (shared.1 map).mpr rfl⟩

/-- References to one map, once directly and once through another reference, are two maps in the loaded
document. -/
theorem alias_apart : ∃ d l x y keys keys', Gives (loadDocument aliasFile atTop aliasSource) {} d l ∧
    l.library.Shown atTop (atDocument (.node 3)) d.graph d.root (atDocument (.node 0)) x ∧
    l.library.Shown atTop (atDocument (.node 3)) d.graph d.root (atDocument (.node 1)) y ∧
    l.library.Ends atTop (atDocument (.node 0)) keys aliasB ∧
    l.library.Ends atTop (atDocument (.node 1)) keys' aliasB ∧ x ≠ y := by
  obtain ⟨d, loaded, graph, root, library⟩ := alias_document
  obtain ⟨second, _, first, again⟩ := alias_follow
  refine ⟨d, aliasLoad.2, .node 8, .node 9, ["/ext.yaml#/A", "/ext.yaml#/B"], ["/ext.yaml#/B"], loaded, ?_⟩
  rw [graph, root, library]
  exact ⟨alias_shown "a" rfl rfl, alias_shown "b" rfl rfl,
    ⟨.on first (.on again (.stop _)), rfl⟩, ⟨.on second (.stop _), rfl⟩, by decide⟩

end Library

end ApiSchema
