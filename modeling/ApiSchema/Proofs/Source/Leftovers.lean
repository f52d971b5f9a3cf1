import ApiSchema.Proofs.Source.Sharing

namespace ApiSchema

namespace Library

variable {s : Surround} {o : LoaderOptions} {b : Library} {start p q e u : Spot} {l l₁ : Loader}
variable {d : Document} {x y item part : Item} {rest : List (Option Scalar × Item)} {c id : Nat}

inductive Origin (o : LoaderOptions) (b : Library) (start : Spot) (l : Loader) (x : Item) : Prop
  | leaf {e : Spot} : b.Visits o start e → b.kind e.item = .leaf → x = e.item → Origin o b start l x
  | blank : Blank l x → Origin o b start l x
  | copied {id : Nat} : (id, x) ∈ l.copies → Origin o b start l x
  -- What a placeholder has been given.
  | given {e : Spot} {c : Nat} {rest : List (Option Scalar × Item)} : b.Visits o start e →
      b.reference? e = none → e.isRoot = false → x = .node c → b.CopyOf o start l rest e.item c →
      Origin o b start l x

theorem placed_origin (traced : b.Traced o start l) (visits : b.Visits o start p)
    (placed : b.Placed o start l p x) : Origin o b start l x := by
  cases placed with
  | leaf kind => exact .leaf visits kind rfl
  | copy _ _ noted => exact .copied noted
  | target _ noted _ =>
      obtain ⟨_, _, _, _, blank | ⟨e, visitsEnd, plain, outside, _, renders⟩⟩ := traced.targets _ x noted
      · exact .blank blank
      · unfold Renders at renders
        cases kind : b.kind e.item with
        | map =>
            rw [kind] at renders
            obtain ⟨c, rest, is, copied⟩ := renders
            exact .given visitsEnd plain outside is copied
        | list =>
            rw [kind] at renders
            obtain ⟨id, _, noted⟩ := renders
            exact .copied noted
        | leaf =>
            rw [kind] at renders
            exact .leaf visitsEnd kind renders.1

-- What is in a copy has been placed for something that is met.
theorem copy_inner (copied : b.CopyOf o start l rest item c) (held : part ∈ l.graph.inside (.node c)) :
    ∃ q, b.Visits o start q ∧ b.Placed o start l q part := by
  obtain ⟨u, visits, plain, _, fills⟩ := copied
  rcases fills_cases fills with ⟨entries, more, copies, whole, cell, all⟩ | ⟨items, more, copies, whole, cell, all⟩
  · rw [Graph.inside, Graph.of?, cell] at held
    obtain ⟨copy, member, rfl⟩ := List.mem_map.mp held
    obtain ⟨entry, inside, _, placed⟩ := forall_right all member
    refine ⟨_, .into visits plain ?_, placed⟩
    rw [contents, whole]
    exact List.mem_map_of_mem (List.mem_append_left _ inside)
  · rw [Graph.inside, Graph.of?, cell] at held
    obtain ⟨item, inside, placed⟩ := forall_right all held
    refine ⟨_, .into visits plain ?_, placed⟩
    rw [contents, whole]
    exact List.mem_append_left _ inside

theorem origin_inner (sees : b.graph = l.graph) (traced : b.Traced o start l)
    (origin : Origin o b start l x) (held : part ∈ l.graph.inside x) :
    ∃ q, b.Visits o start q ∧ b.Placed o start l q part := by
  cases origin with
  | leaf _ kind is =>
      have nothing := leaf_contents kind
      rw [contents, ← is, sees] at nothing
      change l.graph.inside x = [] at nothing
      rw [nothing] at held
      cases held
  | blank blank =>
      obtain ⟨c, rfl, cell⟩ := blank
      rw [Graph.inside, Graph.of?, cell] at held
      cases held
  | copied noted =>
      obtain ⟨c, rest, rfl, copied⟩ := traced.copies _ x noted
      exact copy_inner copied held
  | given _ _ _ is copied =>
      subst is
      exact copy_inner copied held

theorem inner_origin (sees : b.graph = l.graph) (traced : b.Traced o start l)
    (first : b.Placed o start l start y) (inner : l.graph.Inner y x) : Origin o b start l x := by
  have placed : ∃ q, b.Visits o start q ∧ b.Placed o start l q x := by
    induction inner with
    | self => exact ⟨start, .here, first⟩
    | part _ held ih =>
        obtain ⟨q, visits, placed⟩ := ih
        exact origin_inner sees traced (placed_origin traced visits placed) held
  obtain ⟨q, visits, placed⟩ := placed
  exact placed_origin traced visits placed

theorem placed_text {t : String} (text : p.item = .text t) (placed : b.Placed o start l p x) :
    x = .text t := by
  cases placed with
  | leaf _ => exact text
  | copy _ node _ =>
      rw [text] at node
      cases node
  | target keyed _ _ =>
      refine (key_reference keyed (other_plain fun map => ?_)).elim
      obtain ⟨entries, held⟩ := kind_map.mp map
      rw [text] at held
      cases held

def TextReferences (o : LoaderOptions) (b : Library) (start : Spot) : Prop :=
  ∀ p, b.Visits o start p → ∀ entries value, b.graph.entries? p.item = some entries →
    lookup? entries (.text "$ref") = some value → ∃ t, value = .text t

-- A reference in a copy was one in what it was made of.
theorem copy_reference {entries : Entries} {r : String} (texts : TextReferences o b start)
    (copied : b.CopyOf o start l rest item c) (held : l.graph.entries? (.node c) = some entries)
    (named : lookup? entries (.text "$ref") = some (.text r)) :
    ∃ u old, b.Visits o start u ∧ b.reference? u = none ∧ u.item = item ∧
      b.graph.entries? item = some old ∧ lookup? old (.text "$ref") = some (.text r) := by
  obtain ⟨u, visits, plain, same, front, cell, whole, made, mirrors⟩ := copied
  cases made.symm.trans (entries_kind held)
  have part := mirrors_part? mirrors (.key (.text "$ref"))
  cases mirrors with
  | @map before _ all =>
      obtain ⟨more, spelled⟩ := with_map rest before
      have old : b.graph.entries? u.item = some (before ++ more) := by
        rw [Graph.entries?, whole, spelled]
      change Option.Rel _ (lookup? before _) (lookup? entries _) at part
      rw [named] at part
      -- The value under the key has been placed for the first one under it, which is a text.
      cases first : lookup? before (.text "$ref") with
      | none =>
          rw [first] at part
          cases part
      | some value =>
          rw [first] at part
          cases part with
          | some placed =>
              have found : (withParts rest (.map before)).part? (.key (.text "$ref")) = some value :=
                front_part first
              rw [spelled] at found
              obtain ⟨t, rfl⟩ := texts u visits _ value old found
              cases placed_text rfl placed
              exact ⟨u, before ++ more, visits, plain, same, same ▸ old, found⟩

theorem copy_keys {entries before : Entries} (copied : b.CopyOf o start l [] item c)
    (held : l.graph.entries? (.node c) = some entries) (old : b.graph.entries? item = some before) :
    before.map (·.1) = entries.map (·.1) := by
  obtain ⟨u, _, _, rfl, front, cell, whole, made, mirrors⟩ := copied
  cases made.symm.trans (entries_kind held)
  cases (show withParts [] front = front from rfl) ▸ whole.symm.trans (entries_kind old)
  have outline := mirrors_outline mirrors
  exact (Outline.map.inj outline).symm

theorem copy_container (copied : b.CopyOf o start l rest item c)
    (noMap : l.graph.entries? (.node c) = none) (noList : l.graph.items? (.node c) = none) : False := by
  obtain ⟨_, _, _, _, fills⟩ := copied
  rcases fills_kinds fills with ⟨_, _, cell⟩ | ⟨_, _, cell⟩
  · rw [Graph.entries?, Graph.of?, cell] at noMap
    cases noMap
  · rw [Graph.items?, Graph.of?, cell] at noList
    cases noList

theorem reference_named {entries : Entries} {r : String} (held : b.graph.entries? p.item = some entries)
    (named : lookup? entries (.text "$ref") = some (.text r)) (plain : b.reference? p = none) :
    p.isRoot = true ∧ r.toList.head? = some '#' := by
  rw [reference?, held, Option.bind_some, ApiSchema.reference?, named] at plain
  by_cases own : p.isRoot && r.toList.head? == some '#'
  · simpa using own
  · simp [Item.text?, own] at plain

theorem root_within (visits : b.Visits o start p) (first : p.isRoot = true) :
    ∀ i, p.item = .node i → b.graph.Within start.item i := by
  induction visits with
  | here => exact fun i node => .self node
  | on _ followed _ =>
      obtain ⟨_, _, _, _, _, _, _, _, outside⟩ := follow_parts followed
      rw [first] at outside
      cases outside
  | @into q part _ _ held ih =>
      intro i node
      cases node
      obtain ⟨j, cell, is, held', member⟩ := Graph.inside_part held
      exact .part (ih first j is) held' member

/-- A reference that is left in a loaded document leads into the document itself, and is the copy of one
in the first document. -/
theorem references_left {source : DocumentSource} {l₀ : Loader} {location : String} {content : Item}
    (used : Used s o l₀) (resolves : o.resolveExternalRefs = true)
    (opened : Gives (openDocument s o source) l₀ (location, content) l₁)
    (loaded : Gives (loadDocument s o source) l₀ d l)
    (texts : TextReferences o l.library ⟨location, true, content⟩) (inner : d.graph.Inner d.root x) :
    (∀ entries r, d.graph.entries? x = some entries → lookup? entries (.text "$ref") = some (.text r) →
      r.toList.head? = some '#' ∧ ∃ id old, l₁.graph.Within content id ∧ (id, x) ∈ l.copies ∧
        l₁.graph.entries? (.node id) = some old ∧ old.map (·.1) = entries.map (·.1) ∧
        lookup? old (.text "$ref") = some (.text r)) ∧
    (d.graph.entries? x = none → d.graph.items? x = none → ∀ id, x = .node id →
      ∃ place, Belongs (roots ⟨location, true, content⟩ l) d.graph place id) := by
  have whole := document_loaded used resolves opened loaded
  have traced := whole.traced
  have housed := housed_opened (housed_used used) opened
  have below (i : Nat) (within : l₁.graph.Within content i) : l.graph.cell? i = l₁.graph.cell? i :=
    whole.grown.before i (housed.inside location i ⟨content, by simp, within⟩)
  rw [whole.graph] at inner ⊢
  have origin := inner_origin rfl traced whole.placed inner
  constructor
  · intro entries r held named
    cases origin with
    | leaf _ kind is =>
        have map : l.library.kind x = .map := kind_map.mpr ⟨entries, entries_kind held⟩
        rw [is, kind] at map
        cases map
    | blank blank =>
        obtain ⟨c, rfl, cell⟩ := blank
        cases cell.symm.trans (entries_kind held)
        cases named
    | @copied id noted =>
        obtain ⟨c, rfl, _, copied⟩ := whole.whole id x noted
        obtain ⟨u, old, visits, plain, node, before, found⟩ := copy_reference texts copied held named
        obtain ⟨first, own⟩ := reference_named (p := u) (node ▸ before) found plain
        -- A reference that is not followed is met in the first document.
        have within := Graph.within_reflects below (root_within visits first id node)
        refine ⟨own, id, old, within, noted, ?_, copy_keys copied held before, found⟩
        rw [Graph.entries?, Graph.of?, ← below id within]
        exact before
    | given visits plain outside is copied =>
        -- The map is met outside the first document, where every text under the key is followed.
        subst is
        obtain ⟨u, old, _, _, _, before, found⟩ := copy_reference texts copied held named
        obtain ⟨first, _⟩ := reference_named before found plain
        rw [outside] at first
        cases first
  · intro noMap noList id node
    cases origin with
    | leaf visits _ is => exact ⟨_, visits_known l visits id (is ▸ node)⟩
    | blank blank =>
        obtain ⟨c, rfl, cell⟩ := blank
        rw [Graph.entries?, Graph.of?, cell] at noMap
        cases noMap
    | copied noted =>
        obtain ⟨c, rest, rfl, copied⟩ := traced.copies _ x noted
        exact (copy_container copied noMap noList).elim
    | given _ _ _ is copied =>
        subst is
        exact (copy_container copied noMap noList).elim

theorem graph_of {g g' : Graph} (same : g.cells = g'.cells) : g = g' := by
  obtain ⟨cells⟩ := g
  obtain ⟨cells'⟩ := g'
  exact congrArg Graph.mk same

theorem text_cells (texts : ∀ cell ∈ b.graph.cells, ∀ value ∈ cell.part? (.key (.text "$ref")),
    value.text?.isSome = true) : TextReferences o b start := by
  intro p _ entries value held named
  have map := entries_kind held
  cases item : p.item with
  | scalar s =>
      rw [item] at map
      cases map
  | node id =>
      rw [item] at map
      obtain ⟨t, is⟩ := Option.isSome_iff_exists.mp (texts _ (Array.mem_of_getElem? map) value named)
      unfold Item.text? at is
      split at is
      · exact ⟨_, rfl⟩
      · cases is

def mixedSource : DocumentSource :=
  .inMemory (.map [(.text "a", .map [(.text "$ref", .text "node.yaml#/Node")]),
    (.text "b", .map [(.text "$ref", .text "#/a")])])

def mixedOpened : Except Fault (String × Item) × Loader :=
  (openDocument nodeFile atTop mixedSource).run.run {}

def mixedLoaded : Except Fault Document × Loader := (loadDocument nodeFile atTop mixedSource).run.run {}

theorem mixed_texts : TextReferences atTop mixedLoaded.2.library (atDocument (.node 2)) :=
  text_cells (by decide +kernel)

theorem mixed_loaded : mixedOpened.1.toOption = some ("/__document__", .node 2) ∧
    mixedLoaded.1.toOption.map (fun d => (d.root, d.graph.cells)) =
      some (.node 3, mixedLoaded.2.graph.cells) ∧
    mixedLoaded.2.graph.entries? (.node 3) = some [(.text "a", .node 7), (.text "b", .node 9)] ∧
    mixedLoaded.2.graph.entries? (.node 9) = some [(.text "$ref", .text "#/a")] := by
  decide +kernel

theorem mixed_left : ∃ d l₁ l id old,
    Gives (openDocument nodeFile atTop mixedSource) {} ("/__document__", .node 2) l₁ ∧
    Gives (loadDocument nodeFile atTop mixedSource) {} d l ∧ d.graph.Inner d.root (.node 9) ∧
    (id, .node 9) ∈ l.copies ∧ l₁.graph.entries? (.node id) = some old ∧
    lookup? old (.text "$ref") = some (.text "#/a") := by
  obtain ⟨opened, done, whole, left⟩ := mixed_loaded
  obtain ⟨d, came, same⟩ := Option.map_eq_some_iff.mp done
  obtain ⟨root, cells⟩ := Prod.mk.inj same
  have graph : d.graph = mixedLoaded.2.graph := graph_of cells
  have given : Gives (openDocument nodeFile atTop mixedSource) {} ("/__document__", .node 2) mixedOpened.2 :=
    gives_ok opened
  have loaded : Gives (loadDocument nodeFile atTop mixedSource) {} d mixedLoaded.2 := gives_ok came
  have inner : d.graph.Inner d.root (.node 9) := by
    rw [root, graph]
    refine .part .self ?_
    rw [Graph.inside, entries_kind whole]
    decide
  obtain ⟨_, id, old, _, noted, before, _, named⟩ :=
    (references_left .new rfl given loaded mixed_texts inner).1 [(.text "$ref", .text "#/a")] "#/a"
      (by rw [graph, left]) rfl
  exact ⟨d, mixedOpened.2, mixedLoaded.2, id, old, given, loaded, inner, noted, before, named⟩

def pairedFiles : Surround where
  files :=
    { files := [(["root.yaml"], ⟨"x: !!pairs\n- a:\n    $ref: ext.yaml\n".toUTF8, false⟩),
        (["ext.yaml"], ⟨"z: 1\n".toUTF8, false⟩)]
      directories := []
      current := [] }

def pairedOpened : Except Fault (String × Item) × Loader :=
  (openDocument pairedFiles atTop (.named "root.yaml")).run.run {}

def pairedLoaded : Except Fault Document × Loader :=
  (loadDocument pairedFiles atTop (.named "root.yaml")).run.run {}

theorem paired_texts : TextReferences atTop pairedLoaded.2.library ⟨"/root.yaml", true, .node 0⟩ :=
  text_cells (by decide +kernel)

theorem paired_loaded : pairedOpened.1.toOption = some ("/root.yaml", .node 0) ∧
    pairedLoaded.1.toOption.map (fun d => (
      (d.graph.walk? d.root [.key (.text "x"), .index 0]).bind d.graph.of?, d.graph.entries? (.node 2))) =
      some (some (.pair (.text "a") (.node 2)), some [(.text "$ref", .text "ext.yaml")]) := by
  decide +kernel

/-- A reference in a pair is left as it is, also if it leads to another file. -/
theorem pair_left : ∃ location content l₁ d l x entries,
    Gives (openDocument pairedFiles atTop (.named "root.yaml")) {} (location, content) l₁ ∧
    Gives (loadDocument pairedFiles atTop (.named "root.yaml")) {} d l ∧
    TextReferences atTop l.library ⟨location, true, content⟩ ∧
    (d.graph.walk? d.root [.key (.text "x"), .index 0]).bind d.graph.of? = some (.pair (.text "a") x) ∧
    d.graph.entries? x = some entries ∧ lookup? entries (.text "$ref") = some (.text "ext.yaml") := by
  obtain ⟨opened, done⟩ := paired_loaded
  obtain ⟨d, came, found⟩ := Option.map_eq_some_iff.mp done
  obtain ⟨pair, held⟩ := Prod.mk.inj found
  have given : Gives (openDocument pairedFiles atTop (.named "root.yaml")) {} ("/root.yaml", .node 0)
      pairedOpened.2 := gives_ok opened
  have loaded : Gives (loadDocument pairedFiles atTop (.named "root.yaml")) {} d pairedLoaded.2 :=
    gives_ok came
  exact ⟨"/root.yaml", .node 0, pairedOpened.2, d, pairedLoaded.2, .node 2,
    [(.text "$ref", .text "ext.yaml")], given, loaded, paired_texts, pair, held, rfl⟩

end Library

end ApiSchema
