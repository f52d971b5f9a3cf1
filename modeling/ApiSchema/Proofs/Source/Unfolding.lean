import ApiSchema.Proofs.Source.Bundling

namespace ApiSchema

inductive Step where
  | key (key : Scalar)
  | index (index : Nat)
deriving DecidableEq

inductive Outline where
  | scalar (s : Scalar)
  | list (length : Nat)
  | map (keys : List Scalar)
  | set (members : List Scalar)
  | pair (first second : Item)
deriving DecidableEq

def Cell.part? : Cell → Step → Option Item
  | .map entries, .key key => lookup? entries key
  | .list items, .index index => items[index]?
  | _, _ => none

def Cell.outline : Cell → Outline
  | .list items => .list items.length
  | .map entries => .map (entries.map (·.1))
  | .set members => .set members
  | .pair first second => .pair first second

namespace Graph

def part? (g : Graph) (item : Item) (step : Step) : Option Item :=
  (g.of? item).bind (·.part? step)

def walk? (g : Graph) (item : Item) (path : List Step) : Option Item := path.foldlM g.part? item

def outline? (g : Graph) : Item → Option Outline
  | .scalar s => some (.scalar s)
  | .node id => (g.cell? id).map Cell.outline

theorem part_among {g : Graph} {item part : Item} {step : Step}
    (found : g.part? item step = some part) : part ∈ g.inside item := by
  obtain ⟨cell, held, there⟩ := Option.bind_eq_some_iff.mp found
  rw [inside, held]
  cases cell with
  | map entries =>
      cases step with
      | key key => exact Pointer.lookup_member there
      | index n => cases there
  | list items =>
      cases step with
      | key key => cases there
      | index n => exact List.mem_of_getElem? there
  | set members => cases there
  | pair first second => cases there

end Graph

namespace Library

inductive Reaches (o : LoaderOptions) (b : Library) : Spot → List Step → Spot → Prop
  | here {p e : Spot} {keys : List String} : b.Ends o p keys e → Reaches o b p [] e
  | into {p e r : Spot} {keys : List String} {step : Step} {item : Item} {path : List Step} :
      b.Ends o p keys e → b.graph.part? e.item step = some item →
      Reaches o b { e with item } path r → Reaches o b p (step :: path) r

structure Unfolds (o : LoaderOptions) (b : Library) (g : Graph) (p : Spot) (x : Item) : Prop where
  there : ∀ path e, b.Reaches o p path e →
    ∃ y, g.walk? x path = some y ∧ g.outline? y = b.graph.outline? e.item
  back : ∀ path y, g.walk? x path = some y →
    ∃ e, b.Reaches o p path e ∧ g.outline? y = b.graph.outline? e.item

variable {s : Surround} {o : LoaderOptions} {b : Library} {start p e : Spot} {l : Loader} {x : Item}

theorem mirrors_outline {R : Item → Item → Prop} {cell cell' : Cell} (mirrors : Mirrors R cell cell') :
    cell'.outline = cell.outline := by
  cases mirrors with
  | map entries =>
      refine congrArg Outline.map ?_
      induction entries with
      | nil => rfl
      | cons same _ ih => rw [List.map_cons, List.map_cons, same.1, ih]
  | list items => exact congrArg Outline.list items.length_eq.symm

theorem mirrors_part? {R : Item → Item → Prop} {cell cell' : Cell} (mirrors : Mirrors R cell cell')
    (step : Step) : Option.Rel R (cell.part? step) (cell'.part? step) := by
  cases mirrors with
  | map entries =>
      cases step with
      | index i => exact .none
      | key key =>
          induction entries with
          | nil => exact .none
          | @cons entry copy _ _ same _ ih =>
              simp only [Cell.part?, lookup?, List.find?_cons, ← same.1] at ih ⊢
              cases entry.1.same key with
              | true => exact .some same.2
              | false => exact ih
  | list items =>
      cases step with
      | key key => exact .none
      | index i =>
          induction items generalizing i with
          | nil => exact .none
          | cons same _ ih =>
              cases i with
              | zero => exact .some same
              | succ i => exact ih i

/-- An item shows what is there at the end of a chain, and its parts stand for the parts there. -/
structure Shows (o : LoaderOptions) (b : Library) (start : Spot) (l : Loader) (e : Spot) (x : Item) :
    Prop where
  outline : l.graph.outline? x = b.graph.outline? e.item
  parts : ∀ step, Option.Rel (fun part y => b.Stands o start l { e with item := part } y)
    (b.graph.part? e.item step) (l.graph.part? x step)

theorem shows_part (shows_ : b.Shows o start l e x) {step : Step} {item : Item}
    (inside : b.graph.part? e.item step = some item) :
    ∃ y, l.graph.part? x step = some y ∧ b.Stands o start l { e with item } y := by
  have part := shows_.parts step
  rw [inside] at part
  cases held : l.graph.part? x step with
  | none =>
      rw [held] at part
      cases part
  | some y =>
      rw [held] at part
      cases part with
      | some stands => exact ⟨y, rfl, stands⟩

theorem part_shown (shows_ : b.Shows o start l e x) {step : Step} {y : Item}
    (held : l.graph.part? x step = some y) :
    ∃ item, b.graph.part? e.item step = some item ∧ b.Stands o start l { e with item } y := by
  have part := shows_.parts step
  rw [held] at part
  cases inside : b.graph.part? e.item step with
  | none =>
      rw [inside] at part
      cases part
  | some item =>
      rw [inside] at part
      cases part with
      | some stands => exact ⟨item, rfl, stands⟩

theorem mirrored_shows {c : Nat} (mirrored : b.Mirrored o start l e c) :
    b.Shows o start l e (.node c) := by
  obtain ⟨cell, cell', held, copied, mirrors⟩ := mirrored
  cases item : e.item with
  | scalar s =>
      rw [item] at held
      cases held
  | node id =>
      rw [item] at held
      replace held : b.graph.cell? id = some cell := held
      refine ⟨?_, fun step => ?_⟩
      · rw [item]
        change (l.graph.cell? c).map Cell.outline = (b.graph.cell? id).map Cell.outline
        rw [copied, held]
        exact congrArg some (mirrors_outline mirrors)
      · rw [item]
        change Option.Rel _ ((b.graph.cell? id).bind _) ((l.graph.cell? c).bind _)
        rw [copied, held]
        exact mirrors_part? mirrors step

theorem leaf_shows (leaf : b.kind e.item = .leaf) (same : b.graph.of? e.item = l.graph.of? e.item) :
    b.Shows o start l e e.item := by
  have none (step : Step) (cell : Cell) (held : b.graph.of? e.item = some cell) :
      cell.part? step = none := by
    unfold kind at leaf
    rw [held] at leaf
    cases cell with
    | map entries => cases leaf
    | list items => cases leaf
    | set members => rfl
    | pair first second => rfl
  refine ⟨?_, fun step => ?_⟩
  · cases item : e.item with
    | scalar s => rfl
    | node id =>
        rw [item] at same
        exact congrArg (Option.map Cell.outline) same.symm
  · unfold Graph.part?
    rw [← same]
    cases held : b.graph.of? e.item with
    | none => exact .none
    | some cell =>
        rw [Option.bind_some, none step cell held]
        exact .none

-- Once no copy is being made, an item shows what it stands for.
theorem stands_shows (regular : b.Regular o start) (home : OneHome o b start) (sees : b.Sees start l)
    (sound : b.Sound o start l []) (stands : b.Stands o start l p x) :
    ∃ keys e, b.Ends o p keys e ∧ b.Shows o start l e x := by
  obtain ⟨visits, keys, e, ends, _⟩ := id stands
  -- With no frames, what is noted is complete.
  have settled := settled_of_stands regular home sound ends stands nofun
  refine ⟨keys, e, ends, ?_⟩
  unfold Settled at settled
  cases kind : b.kind e.item with
  | map =>
      rw [kind] at settled
      obtain ⟨c, rfl, mirrored, _⟩ := settled
      exact mirrored_shows mirrored
  | list =>
      rw [kind] at settled
      obtain ⟨id, node, noted⟩ := copy_node settled
      obtain ⟨u, c, rfl, _, _, item, framed | ⟨mirrored, _⟩⟩ := sound.copies id x noted
      · cases framed
      · exact mirrored_shows (mirrored_alike regular home (visits_trans visits (visits_leads ends.1))
          ends.2 (item.trans node.symm) mirrored)
  | leaf =>
      rw [kind] at settled
      obtain ⟨rfl, known⟩ := settled
      exact leaf_shows kind (of_seen known sees)

theorem unfolds_of_stands (regular : b.Regular o start) (home : OneHome o b start)
    (sees : b.Sees start l) (sound : b.Sound o start l []) (stands : b.Stands o start l p x) :
    b.Unfolds o l.graph p x := by
  refine ⟨fun path r reaches => ?_, fun path y came => ?_⟩
  · induction reaches generalizing x with
    | here ends =>
        obtain ⟨_, _, ends', shows_⟩ := stands_shows regular home sees sound stands
        obtain ⟨_, rfl⟩ := ends_unique ends ends'
        exact ⟨x, rfl, shows_.outline⟩
    | into ends inside _ ih =>
        obtain ⟨_, _, ends', shows_⟩ := stands_shows regular home sees sound stands
        obtain ⟨_, rfl⟩ := ends_unique ends ends'
        obtain ⟨y, held, stands'⟩ := shows_part shows_ inside
        obtain ⟨z, onward, outline⟩ := ih stands'
        exact ⟨z, by rw [Graph.walk?, List.foldlM_cons, held]; exact onward, outline⟩
  · induction path generalizing p x with
    | nil =>
        cases came
        obtain ⟨_, e, ends, shows_⟩ := stands_shows regular home sees sound stands
        exact ⟨e, .here ends, shows_.outline⟩
    | cons step path ih =>
        obtain ⟨_, e, ends, shows_⟩ := stands_shows regular home sees sound stands
        obtain ⟨z, held, onward⟩ := Option.bind_eq_some_iff.mp came
        obtain ⟨item, inside, stands'⟩ := part_shown shows_ held
        obtain ⟨r, reaches, outline⟩ := ih stands' onward
        exact ⟨r, .into ends inside reaches, outline⟩

theorem visits_known (l : Loader) (visits : Visits o ⟨l.graph, l.documents⟩ start p) :
    Known start l p := by
  induction visits with
  | here => exact fun id node => ⟨start.item, by simp [roots], .self node⟩
  | on _ followed ih =>
      obtain ⟨_, _, document, _, _, _, listed, found, _⟩ := follow_parts followed
      obtain ⟨before, after, split, _⟩ := List.lookup_eq_some_iff.mp listed
      replace split : l.documents = before ++ (_, document) :: after := split
      exact fun id node => ⟨document, by simp [roots, split], Pointer.resolve_within found id node⟩
  | into _ _ inside ih => exact known_part ih rfl inside

theorem one_home (l : Loader) (housed : Housed s o [(start.location, start.item)] l) :
    OneHome o ⟨l.graph, l.documents⟩ start :=
  fun p q id visits visits' node node' =>
    housed.one p.location q.location id (visits_known l visits id node) (visits_known l visits' id node')

variable (start) in
-- What is copied with nothing noted before unfolds as what it was copied from.
theorem bundled_unfolds {fuel : Nat} {l₁ : Loader}
    (housed : Housed s o [(start.location, start.item)] l₁) (noCopies : l₁.copies = [])
    (noTargets : l₁.targets = [])
    (copied : Gives (bundle s o fuel start.isRoot start.location start.item) l₁ x l)
    (regular : Regular o ⟨l.graph, l.documents⟩ start) :
    Unfolds o ⟨l.graph, l.documents⟩ l.graph start x := by
  have home : OneHome o ⟨l.graph, l.documents⟩ start :=
    one_home l (Regime.gives_kept (Loading.keeps_bundle (n := 0) fuel _ _ _)
      ⟨housed, Nat.zero_le _⟩ copied).1.1
  have sees : Sees ⟨l.graph, l.documents⟩ start l := ⟨fun _ _ => id, fun _ _ _ => rfl⟩
  have sound : Sound o ⟨l.graph, l.documents⟩ start l₁ [] := by
    refine ⟨nofun, fun id x noted => ?_, fun key x noted => ?_⟩
    · rw [noCopies] at noted
      cases noted
    · rw [noTargets] at noted
      cases noted
  have ready : Ready s o ⟨l.graph, l.documents⟩ start l₁ [] start :=
    ⟨housed, fun id node => ⟨start.item, by simp [roots], .self node⟩, sound, nofun, .here,
      fun _ => ⟨start, [], .first, .stop start, nofun⟩⟩
  obtain ⟨sound', _, stands⟩ := bundle_sound regular home fuel start l₁ x l [] ready copied sees
  exact unfolds_of_stands regular home sees sound' stands

/-- Whatever a loader has been used for, a document whose references are regular unfolds as the
documents it was made of, which are still as they were read. -/
theorem loading_unfolds {source : DocumentSource} {l₀ l₁ l : Loader} {d : Document}
    {location : String} {content : Item} (used : Used s o l₀) (resolves : o.resolveExternalRefs = true)
    (opened : Gives (openDocument s o source) l₀ (location, content) l₁)
    (loaded : Gives (loadDocument s o source) l₀ d l)
    (regular : Regular o ⟨l.graph, l.documents⟩ ⟨location, true, content⟩) :
    Unfolds o ⟨l.graph, l.documents⟩ d.graph ⟨location, true, content⟩ d.root ∧
      (∀ id, l₁.graph.Within content id → l.graph.cell? id = l₁.graph.cell? id) ∧
      ∀ place item, (place, item) ∈ l.documents → AsRead s o l.graph place item := by
  have housed₁ := housed_opened (housed_used used) opened
  obtain ⟨_, _, opened', loaded⟩ := gives_bind.mp loaded
  cases opened.symm.trans opened'
  rw [gives_get_bind] at loaded
  dsimp only at loaded
  split at loaded
  · obtain ⟨_, _, stopped, _⟩ := gives_bind.mp loaded
    exact (gives_throw stopped).elim
  · rw [resolves] at loaded
    obtain ⟨_, l₂, cleared, loaded⟩ := gives_bind.mp loaded
    obtain ⟨root, _, copied, last⟩ := gives_bind.mp loaded
    rw [gives_get_bind] at last
    obtain ⟨rfl, rfl⟩ := gives_pure.mp last
    obtain ⟨⟨housed₂, _⟩, grown₂, _⟩ := Regime.gives_kept
      (Loading.keeps_notes (n := 0) fun _ => ([], [])) ⟨housed₁, Nat.zero_le _⟩ cleared
    obtain ⟨⟨housed, _⟩, grown, _⟩ := Regime.gives_kept
      (Loading.keeps_bundle o.depth true location content) ⟨housed₂, Nat.zero_le _⟩ copied
    refine ⟨?_, fun id within => ?_, housed.read⟩
    · cases gives_modify.mp cleared
      exact bundled_unfolds ⟨location, true, content⟩ housed₂ rfl rfl copied regular
    · exact (grows_trans grown₂ grown).kept location id ⟨content, by simp, within⟩

def around (name text : String) : Surround :=
  { files := { files := [([name], ⟨text.toUTF8, false⟩)], directories := [], current := [] } }

def atTop : LoaderOptions := { base := ⟨"/", []⟩ }

def referring (reference : String) : DocumentSource :=
  .inMemory (.map [(.text "a", .map [(.text "$ref", .text reference)])])

def atDocument (item : Item) : Spot := ⟨"/__document__", true, item⟩

theorem gives_ok {α : Type} {step : Loading α} {l : Loader} {a : α}
    (came : (step.run.run l).1.toOption = some a) : Gives step l a (step.run.run l).2 :=
  Prod.ext (ok_of_option came) rfl

theorem library_of {l : Loader} (cells : l.graph.cells = b.graph.cells)
    (documents : l.documents = b.documents) : (⟨l.graph, l.documents⟩ : Library) = b := by
  obtain ⟨⟨_⟩, _⟩ := b
  obtain ⟨⟨_⟩, _, _, _⟩ := l
  cases cells
  cases documents
  rfl

def nodeFile : Surround := around "node.yaml" "Node:\n  next:\n    $ref: \"#/Node\"\n"

def nodeLoad : Except Fault Document × Loader :=
  (loadDocument nodeFile atTop (referring "node.yaml#/Node")).run.run {}

def nodeLibrary : Library where
  graph := ⟨#[.map [(.text "$ref", .text "node.yaml#/Node")], .map [(.text "a", .node 0)],
    .map [(.text "a", .node 6)], .map [(.text "Node", .node 4)], .map [(.text "next", .node 5)],
    .map [(.text "$ref", .text "#/Node")], .map [(.text "next", .node 6)],
    .map [(.text "next", .node 6)]]⟩
  documents := [("/node.yaml", .node 3)]

theorem node_load : nodeLoad.2.graph.cells = nodeLibrary.graph.cells ∧
    nodeLoad.2.documents = nodeLibrary.documents ∧ nodeLoad.1.toOption.isSome = true := by
  decide +kernel

def nodeTarget : Spot := ⟨"/node.yaml", false, .node 4⟩

def nodeSpots : List Spot :=
  [atDocument (.node 1), atDocument (.node 0), nodeTarget, { nodeTarget with item := .node 5 }]

theorem node_visits (visits : nodeLibrary.Visits atTop (atDocument (.node 1)) p) : p ∈ nodeSpots :=
  visits_inside nodeSpots (by decide) (by decide +kernel) (by decide +kernel) visits

theorem node_follow {key : String} {q : Spot} (spot : p ∈ nodeSpots)
    (followed : nodeLibrary.follow? atTop p = some (key, q)) :
    key = "/node.yaml#/Node" ∧ q = nodeTarget := by
  have all : ∀ p ∈ nodeSpots, ∀ found ∈ nodeLibrary.follow? atTop p,
      found = ("/node.yaml#/Node", nodeTarget) := by decide +kernel
  cases all p spot _ followed
  exact ⟨rfl, rfl⟩

theorem node_regular : nodeLibrary.Regular atTop (atDocument (.node 1)) := by
  have plain : ∀ p ∈ nodeSpots, nodeLibrary.follow? atTop p = none → nodeLibrary.reference? p = none := by
    decide +kernel
  have target : nodeLibrary.reference? nodeTarget = none := by decide +kernel
  have parts : ∀ q ∈ nodeSpots, nodeLibrary.reference? q = none → ∀ item ∈ nodeLibrary.contents q,
      { q with item } ≠ nodeTarget := by decide +kernel
  have items : ∀ p ∈ nodeSpots, ∀ q ∈ nodeSpots, p.item = q.item → p = q := by decide
  have kinds : ∀ p ∈ nodeSpots, nodeLibrary.kind p.item ≠ .list := by decide +kernel
  constructor
  case ends =>
    intro p visits
    refine ends_once (plain p (node_visits visits)) fun found followed => ?_
    rw [(node_follow (node_visits visits) followed).2]
    exact target
  case same_target =>
    intro p p' q q' key visits visits' followed followed'
    rw [(node_follow (node_visits visits) followed).2, (node_follow (node_visits visits') followed').2]
  case alike =>
    intro p q visits visits' same
    rw [items p (node_visits visits) q (node_visits visits') same]
  case maps =>
    intro p key keys e returns _ q keys' e' entry leads same
    obtain ⟨visits, ⟨chain, plainEnd⟩, _⟩ := returns
    cases chain with
    | on followed onward =>
      obtain ⟨rfl, rfl⟩ := node_follow (node_visits visits) followed
      obtain ⟨_, rfl⟩ := ends_here ⟨onward, plainEnd⟩ target
      have visitsEnd := visits_trans (entry_visits entry) (visits_leads leads)
      have reached := items e' (node_visits visitsEnd) nodeTarget (by decide) same
      cases leads with
      | stop =>
        cases entry with
        | first => exact absurd reached (by decide)
        | part around_ plain inside => exact (parts _ (node_visits around_) plain _ inside reached).elim
      | on first _ =>
        rw [(node_follow (node_visits (entry_visits entry)) first).1]
        exact List.mem_cons_self
  case lists =>
    intro p key keys e returns list
    obtain ⟨visits, ⟨chain, _⟩, _⟩ := returns
    exact (kinds e (node_visits (visits_trans visits (visits_leads chain))) list).elim

theorem node_unfolds : ∃ d l, Gives (loadDocument nodeFile atTop (referring "node.yaml#/Node")) {} d l ∧
    Unfolds atTop ⟨l.graph, l.documents⟩ d.graph (atDocument (.node 1)) d.root := by
  obtain ⟨cells, documents, done⟩ := node_load
  obtain ⟨d, came⟩ := Option.isSome_iff_exists.mp done
  have loaded : Gives (loadDocument nodeFile atTop (referring "node.yaml#/Node")) {} d nodeLoad.2 :=
    gives_ok came
  have regular : Regular atTop ⟨nodeLoad.2.graph, nodeLoad.2.documents⟩ (atDocument (.node 1)) := by
    rw [library_of cells documents]
    exact node_regular
  have opened : Gives (openDocument nodeFile atTop (referring "node.yaml#/Node")) {}
      ("/__document__", .node 1)
      ((openDocument nodeFile atTop (referring "node.yaml#/Node")).run.run {}).2 :=
    gives_ok (by decide +kernel)
  exact ⟨d, nodeLoad.2, loaded, (loading_unfolds .new rfl opened loaded regular).1⟩

def loopFile : Surround := around "ext.yaml" "A:\n  self:\n    $ref: \"#/A\"\n  z: 1\n"

def loopLoad : Except Fault Document × Loader :=
  (loadDocument loopFile atTop (referring "ext.yaml")).run.run {}

def loopLibrary : Library where
  graph := ⟨#[.map [(.text "$ref", .text "ext.yaml")], .map [(.text "a", .node 0)],
    .map [(.text "a", .node 6)], .map [(.text "A", .node 4)],
    .map [(.text "self", .node 5), (.text "z", .scalar (.int 1))], .map [(.text "$ref", .text "#/A")],
    .map [(.text "A", .node 8)], .map [(.text "A", .node 8)],
    .map [(.text "self", .node 9), (.text "z", .scalar (.int 1))], .map []]⟩
  documents := [("/ext.yaml", .node 3)]

theorem loop_load : loopLoad.2.graph.cells = loopLibrary.graph.cells ∧
    loopLoad.2.documents = loopLibrary.documents ∧
    loopLoad.1.toOption.map (fun d => (d.graph.cells, d.root)) =
      some (loopLibrary.graph.cells, .node 2) := by
  decide +kernel

def loopSpots : List Spot :=
  [atDocument (.node 1), atDocument (.node 0), ⟨"/ext.yaml", false, .node 3⟩,
    ⟨"/ext.yaml", false, .node 4⟩, ⟨"/ext.yaml", false, .node 5⟩, ⟨"/ext.yaml", false, .scalar (.int 1)⟩]

theorem loop_reaches : loopLibrary.Reaches atTop (atDocument (.node 1))
    [.key (.text "a"), .key (.text "A"), .key (.text "self")] ⟨"/ext.yaml", false, .node 4⟩ := by
  have whole : loopLibrary.follow? atTop (atDocument (.node 0)) =
      some ("/ext.yaml#", ⟨"/ext.yaml", false, .node 3⟩) := by decide +kernel
  have back : loopLibrary.follow? atTop ⟨"/ext.yaml", false, .node 5⟩ =
      some ("/ext.yaml#/A", ⟨"/ext.yaml", false, .node 4⟩) := by decide +kernel
  have a : loopLibrary.graph.part? (.node 1) (.key (.text "a")) = some (.node 0) := by decide
  have A : loopLibrary.graph.part? (.node 3) (.key (.text "A")) = some (.node 4) := by decide
  have self : loopLibrary.graph.part? (.node 4) (.key (.text "self")) = some (.node 5) := by decide
  exact .into ⟨.stop _, rfl⟩ a (.into ⟨.on whole (.stop _), rfl⟩ A
    (.into ⟨.stop _, rfl⟩ self (.here ⟨.on back (.stop _), rfl⟩)))

/-- A map that is met inside a whole file before the reference back to it is cut where that reference
is: the placeholder is given the entries that have been copied by then. -/
theorem loop_cut : ∃ d l, Gives (loadDocument loopFile atTop (referring "ext.yaml")) {} d l ∧
    (∀ p, Visits atTop ⟨l.graph, l.documents⟩ (atDocument (.node 1)) p →
      ∃ keys e, Ends atTop ⟨l.graph, l.documents⟩ p keys e) ∧
    ¬ Unfolds atTop ⟨l.graph, l.documents⟩ d.graph (atDocument (.node 1)) d.root := by
  obtain ⟨cells, documents, done⟩ := loop_load
  obtain ⟨d, came, made⟩ := Option.map_eq_some_iff.mp done
  obtain ⟨cells', root⟩ := Prod.mk.inj made
  refine ⟨d, loopLoad.2, gives_ok came, ?_⟩
  have graph : d.graph = loopLibrary.graph := by
    obtain ⟨⟨_⟩, _⟩ := d
    exact congrArg Graph.mk cells'
  rw [library_of cells documents, graph, root]
  refine ⟨fun p visits => ?_, fun unfolds => ?_⟩
  · have inside : p ∈ loopSpots :=
      visits_inside loopSpots (by decide) (by decide +kernel) (by decide +kernel) visits
    have plain : ∀ p ∈ loopSpots, loopLibrary.follow? atTop p = none → loopLibrary.reference? p = none := by
      decide +kernel
    have next : ∀ p ∈ loopSpots, ∀ found ∈ loopLibrary.follow? atTop p,
        loopLibrary.reference? found.2 = none := by decide +kernel
    exact ends_once (plain p inside) (next p inside)
  · obtain ⟨y, walked, outline⟩ := unfolds.there _ _ loop_reaches
    have reached : loopLibrary.graph.walk? (.node 2)
        [.key (.text "a"), .key (.text "A"), .key (.text "self")] = some (.node 9) := by decide
    cases walked.symm.trans reached
    exact absurd outline (by decide)

end Library

end ApiSchema
