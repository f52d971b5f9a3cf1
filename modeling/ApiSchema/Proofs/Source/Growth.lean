import ApiSchema.Proofs.Control.Keeps
import ApiSchema.Proofs.Yaml.Load
import ApiSchema.Source.Loader

namespace ApiSchema

def Belongs (documents : List (String × Item)) (g : Graph) (location : String) (id : Nat) : Prop :=
  ∃ item, (location, item) ∈ documents ∧ g.Within item id

def Loading.readAt (s : Surround) (o : LoaderOptions) (location label : String) : Loading Item :=
  if Address.isWeb location then readPage s o location else readFile s o location label

def AsRead (s : Surround) (o : LoaderOptions) (g : Graph) (location : String) (item : Item) : Prop :=
  ∃ label l l', Gives (Loading.readAt s o location label) l item l' ∧
    ∀ id, l'.graph.Within item id → g.cell? id = l'.graph.cell? id

/-- Every container belongs to at most one document. `extra` is the document that is being loaded. -/
structure Housed (s : Surround) (o : LoaderOptions) (extra : List (String × Item)) (l : Loader) :
    Prop where
  inside : ∀ location id, Belongs (extra ++ l.documents) l.graph location id → id < l.graph.size
  one : ∀ location other id, Belongs (extra ++ l.documents) l.graph location id →
    Belongs (extra ++ l.documents) l.graph other id → location = other
  read : ∀ location item, (location, item) ∈ l.documents → AsRead s o l.graph location item

structure Grows (extra : List (String × Item)) (n : Nat) (l l' : Loader) : Prop where
  size : l.graph.size ≤ l'.graph.size
  documents : ∀ location item, l.documents.lookup location = some item →
    l'.documents.lookup location = some item
  listed : ∀ entry ∈ l.documents, entry ∈ l'.documents
  before : ∀ id, id < n → l'.graph.cell? id = l.graph.cell? id
  kept : ∀ location id, Belongs (extra ++ l.documents) l.graph location id →
    l'.graph.cell? id = l.graph.cell? id
  fresh : ∀ location id, id < l.graph.size → Belongs (extra ++ l'.documents) l'.graph location id →
    Belongs (extra ++ l.documents) l.graph location id

def Own (extra : List (String × Item)) (n : Nat) (l : Loader) (item : Item) : Prop :=
  ∃ id, item = .node id ∧ n ≤ id ∧ id < l.graph.size ∧
    ∀ location, ¬ Belongs (extra ++ l.documents) l.graph location id

variable {s : Surround} {o : LoaderOptions} {extra : List (String × Item)} {n : Nat}
variable {l l' l'' : Loader} {item : Item}

theorem belongs_kept {documents documents' : List (String × Item)} {g g' : Graph}
    (listed : ∀ entry ∈ documents, entry ∈ documents')
    (same : ∀ location id, Belongs documents g location id → g'.cell? id = g.cell? id)
    {location : String} {id : Nat} (belongs : Belongs documents g location id) :
    Belongs documents' g' location id := by
  obtain ⟨item, held, within⟩ := belongs
  exact ⟨item, listed _ held, Graph.within_kept (fun i inner => same location i ⟨item, held, inner⟩) within⟩

theorem belongs_later (grown : Grows extra n l l') {location : String} {id : Nat}
    (belongs : Belongs (extra ++ l.documents) l.graph location id) :
    Belongs (extra ++ l'.documents) l'.graph location id := by
  refine belongs_kept (fun entry held => ?_) grown.kept belongs
  obtain given | read := List.mem_append.mp held
  · exact List.mem_append_left _ given
  · exact List.mem_append_right _ (grown.listed entry read)

theorem grows_refl (extra : List (String × Item)) (n : Nat) (l : Loader) : Grows extra n l l :=
  ⟨Nat.le_refl _, fun _ _ => id, fun _ => id, fun _ _ => rfl, fun _ _ _ => rfl, fun _ _ _ => id⟩

theorem grows_trans (first : Grows extra n l l') (second : Grows extra n l' l'') :
    Grows extra n l l'' where
  size := Nat.le_trans first.size second.size
  documents location item held := second.documents location item (first.documents location item held)
  listed entry held := second.listed entry (first.listed entry held)
  before id below := (second.before id below).trans (first.before id below)
  kept location id belongs :=
    (second.kept location id (belongs_later first belongs)).trans (first.kept location id belongs)
  fresh location id below belongs := first.fresh location id below
    (second.fresh location id (Nat.lt_of_lt_of_le below first.size) belongs)

def loading (s : Surround) (o : LoaderOptions) (extra : List (String × Item)) (n : Nat) :
    Regime Loader Fault where
  holds l := Housed s o extra l ∧ n ≤ l.graph.size
  grows := Grows extra n
  faults _ := True
  refl := grows_refl extra n
  trans := grows_trans

theorem as_read_kept {g g' : Graph} {location : String} {documents : List (String × Item)}
    (held : (location, item) ∈ documents)
    (same : ∀ location id, Belongs documents g location id → g'.cell? id = g.cell? id)
    (read : AsRead s o g location item) : AsRead s o g' location item := by
  obtain ⟨label, l₀, l₁, came, as⟩ := read
  refine ⟨label, l₀, l₁, came, fun id within => ?_⟩
  have inner := Graph.within_kept as within
  rw [same location id ⟨item, held, inner⟩, as id within]

theorem belongs_back (l l' : Loader) (documents : l'.documents = l.documents)
    (same : ∀ location id, Belongs (extra ++ l.documents) l.graph location id →
      l'.graph.cell? id = l.graph.cell? id) {location : String} {id : Nat}
    (belongs : Belongs (extra ++ l'.documents) l'.graph location id) :
    Belongs (extra ++ l.documents) l.graph location id := by
  obtain ⟨item, held, within⟩ := belongs
  rw [documents] at held
  exact ⟨item, held, Graph.within_reflects (fun i inner => same location i ⟨item, held, inner⟩) within⟩

-- Whatever is done elsewhere in the graph, the documents hold the same containers.
theorem housed_elsewhere (housed : Housed s o extra l) (l' : Loader) (documents : l'.documents = l.documents)
    (size : l.graph.size ≤ l'.graph.size) (before : ∀ id, id < n → l'.graph.cell? id = l.graph.cell? id)
    (same : ∀ location id, Belongs (extra ++ l.documents) l.graph location id →
      l'.graph.cell? id = l.graph.cell? id) :
    Housed s o extra l' ∧ Grows extra n l l' := by
  have back {location : String} {id : Nat}
      (belongs : Belongs (extra ++ l'.documents) l'.graph location id) :=
    belongs_back l l' documents same belongs
  refine ⟨⟨fun location id belongs => ?_, fun location other id one two => ?_,
    fun location item held => ?_⟩, size, fun location item held => ?_, fun entry held => ?_, before, same,
    fun location id _ => back⟩
  · exact Nat.lt_of_lt_of_le (housed.inside location id (back belongs)) size
  · exact housed.one location other id (back one) (back two)
  · rw [documents] at held
    exact as_read_kept (List.mem_append_right extra held) same (housed.read location item held)
  · rw [documents]
    exact held
  · rw [documents]
    exact held

-- A container of a document is an old one, or one of what was added.
theorem belongs_new {documents documents' : List (String × Item)} {g g' : Graph}
    {location other : String} {id : Nat}
    (inside : ∀ location id, Belongs documents g location id → id < g.size)
    (added : g.Adds g' [item])
    (listed : ∀ entry ∈ documents', entry ∈ documents ∨ entry = (location, item))
    (belongs : Belongs documents' g' other id) :
    Belongs documents g other id ∨ other = location ∧ g'.Within item id := by
  obtain ⟨root, held, within⟩ := belongs
  obtain old | new := listed _ held
  · refine .inl ⟨root, old, Graph.within_reflects (fun i inner => ?_) within⟩
    exact added.before i (inside other i ⟨root, old, inner⟩)
  · cases new
    exact .inr ⟨rfl, within⟩

-- What has just been added shares nothing with the documents before it.
theorem housed_new {extra' : List (String × Item)} (location : String) (housed : Housed s o extra l)
    (l' : Loader) (added : l.graph.Adds l'.graph [item])
    (listed : ∀ entry ∈ extra' ++ l'.documents,
      entry ∈ extra ++ l.documents ∨ entry = (location, item))
    (read : ∀ location item, (location, item) ∈ l'.documents → AsRead s o l'.graph location item) :
    Housed s o extra' l' := by
  have apart {other : String} {id : Nat} (old : Belongs (extra ++ l.documents) l.graph other id)
      (new : l'.graph.Within item id) : False := by
    have below := housed.inside other id old
    have inside := Graph.adds_within added new
    omega
  refine ⟨fun other id belongs => ?_, fun one two id first second => ?_, read⟩
  · obtain old | ⟨_, new⟩ := belongs_new housed.inside added listed belongs
    · exact Nat.lt_of_lt_of_le (housed.inside other id old) added.size
    · exact (Graph.adds_within added new).2
  · obtain old₁ | ⟨here₁, new₁⟩ := belongs_new housed.inside added listed first
    · obtain old₂ | ⟨_, new₂⟩ := belongs_new housed.inside added listed second
      · exact housed.one one two id old₁ old₂
      · exact (apart old₁ new₂).elim
    · obtain old₂ | ⟨here₂, _⟩ := belongs_new housed.inside added listed second
      · exact (apart old₂ new₁).elim
      · rw [here₁, here₂]

theorem own_later (own : Own extra n l item) (grown : Grows extra n l l') : Own extra n l' item := by
  obtain ⟨id, is, above, below, apart⟩ := own
  exact ⟨id, is, above, Nat.lt_of_lt_of_le below grown.size,
    fun location belongs => apart location (grown.fresh location id below belongs)⟩

namespace Loading

open Regime

variable {start : Loader}

theorem keeps_add (cell : Cell) :
    (loading s o extra n).Keeps start (add cell) fun item l => Own extra n l item := by
  intro l ⟨housed, above⟩ _
  have same : ∀ id, id < l.graph.size → (l.graph.add cell).1.cell? id = l.graph.cell? id := by
    intro id below
    rw [Graph.add_cell, if_neg (by omega)]
  have outside : ∀ location id, Belongs (extra ++ l.documents) l.graph location id →
      (l.graph.add cell).1.cell? id = l.graph.cell? id :=
    fun location id belongs => same id (housed.inside location id belongs)
  have more : l.graph.size < (l.graph.add cell).1.size := by
    rw [Graph.add_size]
    omega
  obtain ⟨housed', grown⟩ := housed_elsewhere housed { l with graph := (l.graph.add cell).1 } rfl
    (Nat.le_of_lt more) (fun id below => same id (Nat.lt_of_lt_of_le below above)) outside
  refine ⟨⟨housed', Nat.le_trans above (Nat.le_of_lt more)⟩, grown, l.graph.size, rfl, above, more,
    fun location belongs => ?_⟩
  have old : Belongs (extra ++ l.documents) l.graph location l.graph.size :=
    belongs_back l { l with graph := (l.graph.add cell).1 } rfl outside belongs
  exact Nat.lt_irrefl _ (housed.inside location _ old)

theorem keeps_update (own : Own extra n start item) (change : Cell → Cell) :
    (loading s o extra n).Keeps start (update item change) fun _ _ => True := by
  refine keeps_modify fun l ⟨housed, above⟩ later => ?_
  obtain ⟨id, rfl, high, below, apart⟩ := own_later own later
  let g' := l.graph.set id (change ((l.graph.cell? id).getD (.map [])))
  have elsewhere : ∀ i, i ≠ id → g'.cell? i = l.graph.cell? i :=
    fun i different => Array.getElem?_setIfInBounds_ne (Ne.symm different)
  have size : l.graph.size ≤ g'.size := by simp [g', Graph.set, Graph.size]
  obtain ⟨housed', grown⟩ := housed_elsewhere (n := n) housed { l with graph := g' } rfl size
    (fun i low => elsewhere i (by omega))
    fun location i belongs => elsewhere i fun same => apart location (same ▸ belongs)
  exact ⟨⟨housed', Nat.le_trans above size⟩, grown, trivial⟩

theorem keeps_notes (change : Loader → List (Nat × Item) × List (String × Item)) :
    (loading s o extra n).Keeps start
      (modify fun l => { l with copies := (change l).1, targets := (change l).2 }) fun _ _ => True := by
  refine keeps_modify fun l ⟨housed, above⟩ _ => ?_
  obtain ⟨housed', grown⟩ := housed_elsewhere housed
    { l with copies := (change l).1, targets := (change l).2 } rfl (Nat.le_refl _) (fun _ _ => rfl)
    fun _ _ _ => rfl
  exact ⟨⟨housed', above⟩, grown, trivial⟩

theorem keeps_note_copy (id : Nat) (copy : Item) :
    (loading s o extra n).Keeps start (noteCopy id copy) fun _ _ => True :=
  keeps_notes fun l => ((id, copy) :: l.copies, l.targets)

theorem keeps_note_target (reference : String) (copy : Item) :
    (loading s o extra n).Keeps start (noteTarget reference copy) fun _ _ => True :=
  keeps_notes fun l => (l.copies, (reference, copy) :: l.targets)

def Reads (step : Loading Item) : Prop :=
  ∀ l, match step.run.run l with
    | (.ok item, l') => l.graph.Adds l'.graph [item] ∧ l' = { l with graph := l'.graph }
    | (.error _, l') => l' = l

theorem reads_throw (f : Fault) : Reads (throw f) := fun _ => rfl

theorem reads_stopped {α : Type} (f : Fault) (rest : α → Loading Item) :
    Reads (throw f >>= rest) :=
  fun _ => rfl

theorem reads_of_except {α : Type} (e : Except Fault α) {rest : α → Loading Item}
    (each : ∀ a, Reads (rest a)) : Reads (ofExcept e >>= rest) := by
  cases e with
  | error f => exact fun _ => rfl
  | ok a => exact each a

theorem reads_json (o : LoaderOptions) (label text : String) : Reads (readJson o label text) := by
  unfold readJson
  split
  next v _ => exact fun l => ⟨Graph.add_value_adds l.graph v, rfl⟩
  · split
    all_goals exact reads_throw _

theorem reads_yaml (o : LoaderOptions) (label text : String) : Reads (readYaml o label text) := by
  intro l
  have came : (readYaml o label text).run.run l = readYaml o label text l := rfl
  rw [came, readYaml]
  cases loaded : Yaml.load l.graph text o.yamlDepth with
  | ok made => exact ⟨Yaml.load_adds loaded, rfl⟩
  | error fault => cases fault <;> rfl

theorem reads_page (s : Surround) (o : LoaderOptions) (address : String) :
    Reads (readPage s o address) := by
  unfold readPage
  split
  · exact reads_throw _
  · exact reads_throw _
  · split
    · exact reads_yaml _ _ _
    · exact reads_json _ _ _

theorem reads_file (s : Surround) (o : LoaderOptions) (location label : String) :
    Reads (readFile s o location label) := by
  unfold readFile
  dsimp only
  split
  · exact reads_stopped _ _
  · split
    · exact reads_stopped _ _
    · split
      · exact reads_throw _
      · refine reads_of_except _ fun text => ?_
        split
        · exact reads_yaml _ _ _
        · exact reads_json _ _ _

theorem reads_at (s : Surround) (o : LoaderOptions) (location label : String) :
    Reads (readAt s o location label) := by
  unfold readAt
  split
  · exact reads_page s o location
  · exact reads_file s o location label

theorem fetch_run (s : Surround) (o : LoaderOptions) (location label : String) (l : Loader) :
    (fetch s o location label).run.run l = match l.documents.lookup location with
      | some item => (.ok item, l)
      | none => match (readAt s o location label).run.run l with
        | (.ok item, l') => (.ok item, { l' with documents := l'.documents ++ [(location, item)] })
        | (.error f, l') => (.error f, l') := by
  unfold fetch readAt
  rw [run_bind]
  change StateT.run (ExceptT.run (match l.documents.lookup location with
    | some item => _
    | none => _)) l = _
  cases l.documents.lookup location with
  | some item => rfl
  | none =>
      dsimp only
      split
      · rw [run_bind]
        cases (readPage s o location).run.run l with
        | mk result l' => cases result <;> rfl
      · rw [run_bind]
        cases (readFile s o location label).run.run l with
        | mk result l' => cases result <;> rfl

theorem keeps_read {g' : Graph} {location label : String} (housed : Housed s o extra l)
    (above : n ≤ l.graph.size) (absent : l.documents.lookup location = none)
    (read : Gives (readAt s o location label) l item { l with graph := g' })
    (added : l.graph.Adds g' [item]) :
    let l' : Loader := { l with graph := g', documents := l.documents ++ [(location, item)] }
    Housed s o extra l' ∧ Grows extra n l l' ∧ l'.documents.lookup location = some item := by
  intro l'
  have same : ∀ other id, Belongs (extra ++ l.documents) l.graph other id →
      g'.cell? id = l.graph.cell? id :=
    fun other id belongs => added.before id (housed.inside other id belongs)
  have listed : ∀ entry ∈ extra ++ l'.documents,
      entry ∈ extra ++ l.documents ∨ entry = (location, item) := by
    intro entry held
    rw [← List.append_assoc] at held
    exact (List.mem_append.mp held).imp_right List.mem_singleton.mp
  refine ⟨housed_new location housed l' added listed fun other root held => ?_,
    ⟨added.size, fun other root held => ?_, fun entry held => List.mem_append_left _ held,
      fun id below => added.before id (by omega), same, fun other id below belongs => ?_⟩, ?_⟩
  · obtain old | new := List.mem_append.mp held
    · exact as_read_kept (List.mem_append_right extra old) same (housed.read other root old)
    · cases List.mem_singleton.mp new
      exact ⟨label, l, _, read, fun _ _ => rfl⟩
  · rw [List.lookup_append, held]
    rfl
  · obtain old | ⟨_, new⟩ := belongs_new housed.inside added listed belongs
    · exact old
    · have inside := Graph.adds_within added new
      omega
  · rw [List.lookup_append, absent]
    simp

theorem keeps_fetch (location label : String) :
    (loading s o extra n).Keeps start (fetch s o location label) fun item l =>
      l.documents.lookup location = some item := by
  intro l ⟨housed, above⟩ _
  rw [fetch_run]
  cases known : l.documents.lookup location with
  | some item => exact ⟨⟨housed, above⟩, grows_refl extra n l, known⟩
  | none =>
      have reads := reads_at s o location label l
      cases read : (readAt s o location label).run.run l with
      | mk result l' =>
          rw [read] at reads
          cases result with
          | error f =>
              cases reads
              exact ⟨⟨housed, above⟩, grows_refl extra n l, trivial⟩
          | ok item =>
              obtain ⟨added, same⟩ := reads
              rw [same] at read ⊢
              obtain ⟨housed', grown, found⟩ := keeps_read housed above known read added
              exact ⟨⟨housed', Nat.le_trans above added.size⟩, grown, found⟩

theorem keeps_seek (reference location pointer : String) :
    (loading s o extra n).Keeps start (seek s o reference location pointer) fun _ _ => True := by
  refine keeps_bind (keeps_fetch location location) fun document _ _ _ => keeps_get fun l _ _ => ?_
  split
  · exact keeps_throw trivial
  · exact keeps_pure fun _ _ => trivial

theorem keeps_open_target (key : String) :
    (loading s o extra n).Keeps start (openTarget key) fun item l => Own extra n l item :=
  keeps_bind (keeps_add _) fun item _ _ own => keeps_bind (keeps_note_target key item) fun _ _ later _ =>
    keeps_pure fun _ later' => own_later own (grows_trans later later')

theorem keeps_close_target (key : String) {placeholder : Item} (own : Own extra n start placeholder)
    (copied : Item) :
    (loading s o extra n).Keeps start (closeTarget key placeholder copied) fun _ _ => True := by
  refine keeps_get fun l _ later => ?_
  split
  · exact keeps_bind (keeps_update (own_later own later) _) fun _ _ _ _ => keeps_pure fun _ _ => trivial
  · exact keeps_bind (keeps_note_target key copied) fun _ _ _ _ => keeps_pure fun _ _ => trivial

-- What is done with the target of a reference once it has been found.
theorem keeps_place_target {copied : Loading Item}
    (each : ∀ start : Loader, (loading s o extra n).Keeps start copied fun _ _ => True)
    (key : String) (isMap : Bool) :
    (loading s o extra n).Keeps start (if isMap then do
        let placeholder ← openTarget key
        let copied ← copied
        closeTarget key placeholder copied
      else do
        let copied ← copied
        noteTarget key copied
        return copied) fun _ _ => True := by
  split
  · refine keeps_bind (keeps_open_target _) fun placeholder _ _ own => ?_
    exact keeps_bind (each _) fun copied _ later _ => keeps_close_target _ (own_later own later) copied
  · refine keeps_bind (each _) fun copied _ _ _ => ?_
    exact keeps_bind (keeps_note_target _ copied) fun _ _ _ _ => keeps_pure fun _ _ => trivial

theorem keeps_inline_target {copy : String → Item → Loading Item}
    (each : ∀ (start : Loader) location item,
      (loading s o extra n).Keeps start (copy location item) fun _ _ => True)
    (reference base : String) :
    (loading s o extra n).Keeps start (inlineTarget s o copy reference base) fun _ _ => True := by
  refine keeps_bind (keeps_of_except (fun _ _ => trivial) fun _ _ _ _ => trivial)
    fun aimed _ _ (_ : True) => keeps_get fun l _ _ => ?_
  split
  · exact keeps_pure fun _ _ => trivial
  · refine keeps_bind (keeps_seek reference _ _) fun target _ _ _ => keeps_get fun l' _ _ => ?_
    exact keeps_place_target (fun start => each start _ _) _ _

theorem keeps_open_copy (id : Nat) (empty : Cell) :
    (loading s o extra n).Keeps start (openCopy id empty) fun item l => Own extra n l item :=
  keeps_bind (keeps_add _) fun item _ _ own => keeps_bind (keeps_note_copy id item) fun _ _ later _ =>
    keeps_pure fun _ later' => own_later own (grows_trans later later')

theorem keeps_copy_parts {copy : Item → Loading Item}
    (each : ∀ (start : Loader) item, (loading s o extra n).Keeps start (copy item) fun _ _ => True)
    {copied : Item} (own : Own extra n start copied) (parts : List (Option Scalar × Item)) :
    (loading s o extra n).Keeps start (copyParts copy copied parts) fun _ _ => True := by
  refine keeps_for parts fun (key, part) l later _ => ?_
  refine keeps_bind (each l part) fun part' l' later' _ => ?_
  exact keeps_update (own_later own (grows_trans later later')) _

theorem keeps_copy_container {copy : Item → Loading Item}
    (each : ∀ (start : Loader) item, (loading s o extra n).Keeps start (copy item) fun _ _ => True)
    (id : Nat) (empty : Cell) (parts : List (Option Scalar × Item)) :
    (loading s o extra n).Keeps start (copyContainer copy id empty parts) fun _ _ => True := by
  refine keeps_get fun l _ _ => ?_
  split
  · exact keeps_pure fun _ _ => trivial
  · refine keeps_bind (keeps_open_copy id empty) fun copied _ _ own => ?_
    exact keeps_bind (keeps_copy_parts each own parts) fun _ _ _ _ => keeps_pure fun _ _ => trivial

theorem keeps_bundle (fuel : Nat) (isRoot : Bool) (location : String) (item : Item) :
    (loading s o extra n).Keeps start (bundle s o fuel isRoot location item) fun _ _ => True := by
  induction fuel generalizing isRoot location item start with
  | zero => exact keeps_throw trivial
  | succ fuel ih =>
      refine keeps_get fun l _ _ => ?_
      split
      · split
        · exact keeps_inline_target (fun _ location item => ih false location item) _ _
        · exact keeps_copy_container (fun _ item => ih isRoot location item) _ _ _
      · exact keeps_copy_container (fun _ item => ih isRoot location item) _ _ _
      · exact keeps_pure fun _ _ => trivial

-- A document in memory is added beside the others.
theorem keeps_adding (change : Graph → Graph × Item) (adds : ∀ g : Graph, g.Adds (change g).1 [(change g).2]) :
    (loading s o extra n).Keeps start
      (fun l => (.ok (change l.graph).2, { l with graph := (change l.graph).1 })) fun _ _ => True := by
  intro l ⟨housed, above⟩ _
  have added := adds l.graph
  obtain ⟨housed', grown⟩ := housed_elsewhere housed { l with graph := (change l.graph).1 } rfl
    added.size (fun id below => added.before id (Nat.lt_of_lt_of_le below above))
    fun location id belongs => added.before id (housed.inside location id belongs)
  exact ⟨⟨housed', Nat.le_trans above added.size⟩, grown, trivial⟩

theorem keeps_add_value (v : Value) : (loading s o extra n).Keeps start (addValue v) fun _ _ => True :=
  keeps_adding (·.addValue v) fun g => Graph.add_value_adds g v

theorem keeps_add_document (d : Document) :
    (loading s o extra n).Keeps start (addDocument d) fun _ _ => True :=
  keeps_adding (·.addDocument d) fun g => Graph.add_document_adds g d

theorem keeps_open_document (source : DocumentSource) :
    (loading s o extra n).Keeps start (openDocument s o source) fun _ _ => True := by
  cases source with
  | inMemory content =>
      exact keeps_bind (keeps_add_value content) fun _ _ _ _ => keeps_pure fun _ _ => trivial
  | shared document =>
      exact keeps_bind (keeps_add_document document) fun _ _ _ _ => keeps_pure fun _ _ => trivial
  | named text =>
      refine keeps_bind (keeps_of_except (fun _ _ => trivial) fun _ _ _ _ => trivial)
        fun location _ _ (_ : True) => ?_
      exact keeps_bind (keeps_fetch location _) fun _ _ _ _ => keeps_pure fun _ _ => trivial

theorem keeps_load (source : DocumentSource) :
    (loading s o extra n).Keeps start (loadDocument s o source) fun _ _ => True := by
  refine keeps_bind (keeps_open_document source) fun (location, content) _ _ _ =>
    keeps_get fun l _ _ => ?_
  have whole (start : Loader) : (loading s o extra n).Keeps start (do
      modify fun l : Loader => { l with copies := [], targets := [] }
      let root ← bundle s o o.depth true location content
      return (⟨(← get).graph, root⟩ : Document)) fun _ _ => True :=
    keeps_bind (keeps_notes fun _ => ([], [])) fun _ _ _ _ =>
      keeps_bind (keeps_bundle o.depth true location content) fun _ _ _ _ =>
        keeps_get fun _ _ _ => keeps_pure fun _ _ => trivial
  dsimp only
  split
  · refine keeps_bind (keeps_throw trivial) fun _ _ _ (_ : True) => ?_
    split
    · exact keeps_get fun _ _ _ => keeps_pure fun _ _ => trivial
    · exact whole _
  · split
    · exact keeps_get fun _ _ _ => keeps_pure fun _ _ => trivial
    · exact whole _

end Loading

inductive Used (s : Surround) (o : LoaderOptions) : Loader → Prop
  | new : Used s o {}
  | load {l : Loader} (source : DocumentSource) : Used s o l →
      Used s o ((loadDocument s o source).run.run l).2

theorem housed_used (used : Used s o l) : Housed s o [] l := by
  induction used with
  | new =>
      refine ⟨fun location id belongs => ?_, fun location other id belongs => ?_, nofun⟩
      · obtain ⟨_, held, _⟩ := belongs
        cases held
      · obtain ⟨_, held, _⟩ := belongs
        cases held
  | load source _ ih =>
      exact (Loading.keeps_load (n := 0) source _ ⟨ih, Nat.zero_le _⟩ (grows_refl _ _ _)).1.1

theorem housed_added {location : String} {g : Graph} (housed : Housed s o [] l)
    (added : l.graph.Adds g [item]) : Housed s o [(location, item)] { l with graph := g } := by
  apply housed_new location housed { l with graph := g } added
  · exact fun entry held => (List.mem_cons.mp held).symm
  · intro other root held
    exact as_read_kept held
      (fun _ id belongs => added.before id (housed.inside _ id belongs)) (housed.read other root held)

-- The document that is being loaded shares nothing with the others, unless it is one of them.
theorem housed_opened {source : DocumentSource} {location : String} (housed : Housed s o [] l)
    (opened : Gives (openDocument s o source) l (location, item) l') :
    Housed s o [(location, item)] l' := by
  cases source with
  | inMemory content =>
      cases opened
      exact housed_added housed (Graph.add_value_adds l.graph content)
  | shared document =>
      cases opened
      exact housed_added housed (Graph.add_document_adds l.graph document)
  | named text =>
      simp only [openDocument, gives_bind, gives_of_except, gives_pure, Prod.mk.injEq] at opened
      obtain ⟨_, _, ⟨_, rfl⟩, _, _, fetched, ⟨rfl, rfl⟩, rfl⟩ := opened
      obtain ⟨⟨housed', _⟩, _, found⟩ :=
        Regime.gives_kept (Loading.keeps_fetch (n := 0) _ _) ⟨housed, Nat.zero_le _⟩ fetched
      obtain ⟨before, after, same, _⟩ := List.lookup_eq_some_iff.mp found
      have held : (location, item) ∈ l'.documents := by simp [same]
      have listed : ∀ entry ∈ [(location, item)] ++ l'.documents, entry ∈ [] ++ l'.documents := by
        intro entry member
        obtain rfl | old := List.mem_cons.mp member
        · exact held
        · exact old
      have belongs {other : String} {id : Nat}
          (new : Belongs ([(location, item)] ++ l'.documents) l'.graph other id) :
          Belongs ([] ++ l'.documents) l'.graph other id :=
        belongs_kept listed (fun _ _ _ => rfl) new
      exact ⟨fun other id new => housed'.inside other id (belongs new),
        fun other another id one two => housed'.one other another id (belongs one) (belongs two),
        housed'.read⟩

end ApiSchema
