import ApiSchema.Proofs.Source.Layers
import ApiSchema.Proofs.Source.Tracing

namespace ApiSchema

namespace Library

inductive Deep (o : LoaderOptions) (b : Library) : Spot → Nat → Prop
  | stop (p : Spot) : Deep o b p 0
  | on {p q : Spot} {key : String} {n : Nat} : b.follow? o p = some (key, q) → Deep o b q n →
      Deep o b p (n + 1)
  | into {p : Spot} {part : Item} {n : Nat} : b.reference? p = none → part ∈ b.contents p →
      Deep o b { p with item := part } n → Deep o b p (n + 1)

end Library

namespace Loading

open Regime

variable {s : Surround} {o : LoaderOptions} {extra : List (String × Item)} {reach : String → Prop}
variable {l l' m l₀ l₁ : Loader} {item content : Item} {location label : String} {f : Fault} {id : Nat}

def IsLoadFault (f : Fault) : Prop := ∃ label cause, f = .load label cause

inductive Written (s : Surround) (o : LoaderOptions) (location : String) : Bool → String → Prop
  | page {page : Page} : Address.isWeb location = true →
      s.web.get o.followsRedirects location = .ok page →
      Written s o location (Text.occurs "yaml".toList page.contentType.toList ||
        endsWith location ".yaml" || endsWith location ".yml") page.body
  | file {bytes : ByteArray} {text : String} : Address.isWeb location = false →
      s.files.refuses (Path.ofString location) = none →
      s.files.read (Path.ofString location) = .ok bytes → textOf bytes = .ok text →
      Written s o location (Text.lowerText (Path.ofString location).suffix == ".yaml" ||
        Text.lowerText (Path.ofString location).suffix == ".yml") text

/-- There is a document at a location, but it cannot be read: its bytes are no text, its JSON is nested too
deep or has a number of too many digits, or a scalar in its YAML is not what its tag says, or that is nested
too deep. Or it cannot be asked for: the system will not say what is at the path, or the address is none. -/
inductive Chokes (s : Surround) (o : LoaderOptions) (g : Graph) (location : String) : Fault → Prop
  | bytes {bytes : ByteArray} : Address.isWeb location = false →
      s.files.refuses (Path.ofString location) = none →
      s.files.read (Path.ofString location) = .ok bytes → String.fromUTF8? bytes = none →
      Chokes s o g location (.misuse .encoding)
  | number {text : String} {failure : Json.Failure} : Written s o location false text →
      Json.readWithin o.jsonDepth text.toList = .error failure → failure.cause = .longInteger →
      Chokes s o g location (.misuse .value)
  | nested {text : String} {failure : Json.Failure} : Written s o location false text →
      Json.readWithin o.jsonDepth text.toList = .error failure → failure.cause = .depth →
      Chokes s o g location (.misuse .depth)
  | scalar {text : String} {misuse : Misuse} : Written s o location true text →
      Yaml.load g text o.yamlDepth = .error (.misuse misuse) → Chokes s o g location (.misuse misuse)
  | page {misuse : Misuse} : Address.isWeb location = true →
      s.web.get o.followsRedirects location = .error (.misuse misuse) →
      Chokes s o g location (.misuse misuse)
  | path {wording : String} : Address.isWeb location = false →
      s.files.refuses (Path.ofString location) = some wording →
      Chokes s o g location (.file (.refused wording (Path.ofString location).toString))

section Reading

variable {text : String} {misuse : Misuse} {yaml : Bool}

theorem text_stops {bytes : ByteArray} (stopped : textOf bytes = .error f) :
    f = .misuse .encoding ∧ String.fromUTF8? bytes = none := by
  unfold textOf at stopped
  split at stopped
  · cases stopped
  next none =>
    cases stopped
    exact ⟨rfl, none⟩

theorem json_stops (written : Written s o location false text)
    (stopped : Stops (readJson o label text) l f l') : IsLoadFault f ∨ Chokes s o l.graph location f := by
  unfold readJson at stopped
  split at stopped
  · cases stopped
  next failure read =>
    split at stopped
    next cause =>
      rw [(stops_throw.mp stopped).1]
      exact .inr (.number written read cause)
    next cause =>
      rw [(stops_throw.mp stopped).1]
      exact .inr (.nested written read cause)
    · exact .inl ⟨_, _, (stops_throw.mp stopped).1⟩

theorem yaml_stops (written : Written s o location true text)
    (stopped : Stops (readYaml o label text) l f l') : IsLoadFault f ∨ Chokes s o l.graph location f := by
  change readYaml o label text l = (.error f, l') at stopped
  unfold readYaml at stopped
  split at stopped
  · cases stopped
  · cases stopped
    exact .inl ⟨_, _, rfl⟩
  next misuse loaded =>
    cases stopped
    exact .inr (.scalar written loaded)

theorem written_stops (written : Written s o location yaml text)
    (stopped : Stops (if yaml then readYaml o label text else readJson o label text) l f l') :
    IsLoadFault f ∨ Chokes s o l.graph location f := by
  cases yaml with
  | true => exact yaml_stops written stopped
  | false => exact json_stops written stopped

theorem page_stops (remote : Address.isWeb location = true)
    (stopped : Stops (readPage s o location) l f l') :
    IsLoadFault f ∨ Chokes s o l.graph location f := by
  unfold readPage at stopped
  split at stopped
  · exact .inl ⟨_, _, (stops_throw.mp stopped).1⟩
  next misuse got =>
    rw [(stops_throw.mp stopped).1]
    exact .inr (.page remote got)
  next page got => exact written_stops (.page remote got) stopped

theorem file_stops (here : Address.isWeb location = false)
    (stopped : Stops (readFile s o location label) l f l') :
    IsLoadFault f ∨ Chokes s o l.graph location f := by
  unfold readFile at stopped
  dsimp only at stopped
  split at stopped
  next wording refused =>
    rcases stops_bind.mp stopped with asking | ⟨_, _, asking, _⟩
    · rw [(stops_throw.mp asking).1]
      exact .inr (.path here refused)
    · exact (gives_throw asking).elim
  next unrefused =>
    have admitted := Option.eq_none_iff_forall_ne_some.mpr unrefused
    split at stopped
    · rcases stops_bind.mp stopped with missing | ⟨_, _, missing, _⟩
      · exact .inl ⟨_, _, (stops_throw.mp missing).1⟩
      · exact (gives_throw missing).elim
    · split at stopped
      · exact .inl ⟨_, _, (stops_throw.mp stopped).1⟩
      next bytes read =>
        rcases stops_bind.mp stopped with decoding | ⟨text, m, decoding, rest⟩
        · obtain ⟨rfl, none⟩ := text_stops (stops_of_except.mp decoding).1
          exact .inr (.bytes here admitted read none)
        · obtain ⟨decoded, rfl⟩ := gives_of_except.mp decoding
          exact written_stops (.file here admitted read decoded) rest

theorem read_stops (stopped : Stops (readAt s o location label) l f l') :
    IsLoadFault f ∨ Chokes s o l.graph location f := by
  unfold readAt at stopped
  split at stopped
  next remote => exact page_stops remote stopped
  next here => exact file_stops (by simpa using here) stopped

theorem fetch_stops (stopped : Stops (fetch s o location label) l f l') :
    IsLoadFault f ∨ Chokes s o l.graph location f := by
  rw [Stops, fetch_run] at stopped
  split at stopped
  · cases stopped
  · split at stopped
    · cases stopped
    next read =>
      cases stopped
      exact read_stops read

theorem seek_stops {reference pointer : String} (stopped : Stops (seek s o reference location pointer) l f l') :
    IsLoadFault f ∨ Chokes s o l.graph location f := by
  rcases stops_bind.mp stopped with fetching | ⟨document, m, _, resolving⟩
  · exact fetch_stops fetching
  · rw [stops_get_bind] at resolving
    split at resolving
    · exact .inl ⟨_, _, (stops_throw.mp resolving).1⟩
    · exact (stops_pure resolving).elim

end Reading

section Copying

variable {copy : Item → Loading Item}

theorem aim_stops {reference base : String} (stopped : aim o reference base = .error f) :
    f = .misuse .value ∧ Address.isWeb base = true ∧ Address.join? base (filePart reference) = none := by
  unfold aim at stopped
  dsimp only at stopped
  by_cases own : (Text.cutAt '#' reference.toList).1.isEmpty = true
  · -- Without a file in it, a reference leads to where it stands.
    rw [if_pos own] at stopped
    cases stopped
  · rw [if_neg own] at stopped
    change (locate o (filePart reference) (some base) >>= fun location =>
      Except.ok (location, pointerPart reference)) = Except.error f at stopped
    cases located : locate o (filePart reference) (some base) with
    | ok location =>
        rw [located] at stopped
        cases stopped
    | error g =>
        rw [located] at stopped
        obtain rfl : g = f := Except.error.inj stopped
        unfold locate at located
        dsimp only at located
        -- Of the ways to a location, only joining to an address can fail.
        split at located
        · cases located
        · split at located
          next remote =>
            split at located
            · cases located
            next none =>
              cases located
              exact ⟨rfl, remote, none⟩
          · cases located

inductive Blamed (s : Surround) (o : LoaderOptions) (extra : List (String × Item)) (reach : String → Prop)
    (l : Loader) (p : Spot) (depth : Nat) : Fault → Prop
  | load {f : Fault} : IsLoadFault f → Blamed s o extra reach l p depth f
  | content {g : Graph} {location : String} {f : Fault} : reach location →
      Chokes s o g location f → Blamed s o extra reach l p depth f
  | address {entry : String × Item} {reference : String} : entry ∈ extra ++ l.documents →
      reach entry.1 → Mentions l.graph entry.2 reference → Address.isWeb entry.1 = true →
      Address.join? entry.1 (filePart reference) = none → Blamed s o extra reach l p depth (.misuse .value)
  | depth : l.library.Deep o p depth → Blamed s o extra reach l p depth (.misuse .depth)

theorem blamed_step {p q : Spot} {depth depth' : Nat} (blamed : Blamed s o extra reach l q depth f)
    (deeper : l.library.Deep o q depth → l.library.Deep o p depth') :
    Blamed s o extra reach l p depth' f := by
  cases blamed with
  | load is => exact .load is
  | content near chokes => exact .content near chokes
  | address held near mentions remote none => exact .address held near mentions remote none
  | depth deep => exact .depth (deeper deep)

theorem blamed_content {p : Spot} {depth : Nat} {g : Graph} (near : reach location)
    (why : IsLoadFault f ∨ Chokes s o g location f) : Blamed s o extra reach l p depth f := by
  rcases why with load | chokes
  · exact .load load
  · exact .content near chokes

theorem stops_grown {α : Type} {step : Loading α} {post : α → Loader → Prop}
    (kept : (loading s o extra 0).Keeps l step post) (housed : Housed s o extra l)
    (stopped : Stops step l f l') : Housed s o extra l' ∧ Grows extra 0 l l' := by
  obtain ⟨⟨housed', _⟩, grown, _⟩ := kept l ⟨housed, Nat.zero_le _⟩ (grows_refl _ _ _)
  rw [stopped] at housed' grown
  exact ⟨housed', grown⟩

theorem open_target_going {key : String} : ¬ Stops (openTarget key) l f l' := by
  intro stopped
  cases stopped

theorem close_target_going {key : String} {placeholder copied : Item} :
    ¬ Stops (closeTarget key placeholder copied) l f l' := by
  intro stopped
  rw [closeTarget, stops_get_bind] at stopped
  split at stopped
  all_goals
    rcases stops_bind.mp stopped with first | ⟨_, _, _, last⟩
    · exact stops_modify first
    · exact stops_pure last

-- A reference that cannot be replaced leads nowhere, or what it names cannot be copied.
theorem inline_stops {copy : String → Item → Loading Item} {reference : String} (housed : Housed s o extra l)
    (stopped : Stops (inlineTarget s o copy reference location) l f l') :
    (aim o reference location = .error f ∧ l' = l) ∨
    ∃ target, aim o reference location = .ok target ∧
      (Stops (seek s o reference target.1 target.2) l f l' ∨
        ∃ item m m', Gives (seek s o reference target.1 target.2) l item m ∧ Grows extra 0 l m ∧
          Housed s o extra m' ∧ Grows extra 0 m m' ∧ Stops (copy target.1 item) m' f l') := by
  rcases stops_bind.mp stopped with aiming | ⟨target, m, aiming, rest⟩
  · exact .inl (stops_of_except.mp aiming)
  · obtain ⟨aimed, rfl⟩ := gives_of_except.mp aiming
    refine .inr ⟨target, aimed, ?_⟩
    rw [stops_get_bind] at rest
    split at rest
    · exact (stops_pure rest).elim
    · rcases stops_bind.mp rest with seeking | ⟨item, m, found, rest⟩
      · exact .inl seeking
      · -- The target is there, so what stops is copying it; its placeholder may come before that.
        right
        obtain ⟨⟨housed', _⟩, sought, _⟩ :=
          gives_kept (keeps_seek (n := 0) reference _ _) ⟨housed, Nat.zero_le _⟩ found
        rw [stops_get_bind] at rest
        split at rest
        · rcases stops_bind.mp rest with opening | ⟨placeholder, m', opening, rest⟩
          · exact (open_target_going opening).elim
          · obtain ⟨⟨housed'', _⟩, grown, _⟩ :=
              gives_kept (keeps_open_target (n := 0) _) ⟨housed', Nat.zero_le _⟩ opening
            rcases stops_bind.mp rest with copying | ⟨_, _, _, closing⟩
            · exact ⟨item, m, m', found, sought, housed'', grown, copying⟩
            · exact (close_target_going closing).elim
        · rcases stops_bind.mp rest with copying | ⟨_, _, _, rest⟩
          · exact ⟨item, m, m, found, sought, housed', grows_refl _ _ _, copying⟩
          · rcases stops_bind.mp rest with noting | ⟨_, _, _, last⟩
            · exact (stops_modify noting).elim
            · exact (stops_pure last).elim

theorem container_stops {empty : Cell} {parts : List (Option Scalar × Item)}
    (each : ∀ (start : Loader) item, (loading s o extra 0).Keeps start (copy item) fun _ _ => True)
    (housed : Housed s o extra l) (stopped : Stops (copyContainer copy id empty parts) l f l') :
    ∃ part ∈ parts, ∃ m, Housed s o extra m ∧ Grows extra 0 l m ∧ Stops (copy part.2) m f l' := by
  rw [copyContainer, stops_get_bind] at stopped
  split at stopped
  · exact (stops_pure stopped).elim
  · rcases stops_bind.mp stopped with opening | ⟨copied, m, opening, rest⟩
    · cases opening
    · obtain ⟨sound, grown, own⟩ :=
        gives_kept (keeps_open_copy (n := 0) id empty) ⟨housed, Nat.zero_le _⟩ opening
      rcases stops_bind.mp rest with filling | ⟨_, _, _, last⟩
      · have updates (part : Option Scalar × Item) (c : Loader) (later : Grows extra 0 m c)
            (_ : part ∈ parts) : (loading s o extra 0).Keeps c
              (copy part.2 >>= fun y => update copied (withPart part.1 y)) fun _ _ => True :=
          keeps_bind (each c part.2) fun y c' later' _ =>
            keeps_update (own_later own (grows_trans later later')) (withPart part.1 y)
        obtain ⟨part, member, m', ⟨housed', _⟩, further, here⟩ :=
          stops_for updates sound (grows_refl _ _ _) filling
        rcases stops_bind.mp here with copying | ⟨_, _, _, updating⟩
        · exact ⟨part, member, m', housed', grows_trans grown further, copying⟩
        · exact (stops_modify updating).elim
      · exact (stops_pure last).elim

theorem follow_names {p : Spot} {reference : String} {target : Aim} (named : l.library.reference? p = some reference)
    (aimed : aim o reference p.location = .ok target) (names : Names l target item) :
    l.library.follow? o p = some (targetKey target.1 target.2, ⟨target.1, false, item⟩) := by
  obtain ⟨document, listed, resolved⟩ := names
  simp only [Library.follow?, named, aimed, listed, Option.bind_some, resolved, Option.map_some]

section Depth

variable {depth : Nat} {isRoot : Bool} {cell empty : Cell} {parts : List (Option Scalar × Item)}
variable {entries : Entries} {reference : String}
  (below : ∀ isRoot location item m f, Ready s o extra reach m location item →
    Stops (bundle s o depth isRoot location item) m f l' →
    Blamed s o extra reach l' ⟨location, isRoot, item⟩ depth f)
  (ready : Ready s o extra reach l location (.node id))
include below ready

theorem container_blamed (held : l.graph.cell? id = some cell)
    (plain : l'.library.reference? ⟨location, isRoot, .node id⟩ = none)
    (among : ∀ part ∈ parts, part.2 ∈ cell.parts)
    (met : ∀ part ∈ parts, part.2 ∈ l'.library.contents ⟨location, isRoot, .node id⟩)
    (stopped : Stops (copyContainer (bundle s o depth isRoot location) id empty parts) l f l') :
    Blamed s o extra reach l' ⟨location, isRoot, .node id⟩ (depth + 1) f := by
  obtain ⟨part, member, m, housed, later, here⟩ :=
    container_stops (fun start item => keeps_bundle depth isRoot location item) ready.housed stopped
  have inner := ready_later (ready_part ready held (among part member)) housed later
  exact blamed_step (below isRoot location part.2 m f inner here) (.into plain (met part member))

theorem inline_blamed (closed : Closed s o reach) (held : l.graph.cell? id = some (.map entries))
    (found : reference? isRoot entries = some reference)
    (named : l'.library.reference? ⟨location, isRoot, .node id⟩ = some reference)
    (stopped : Stops (inlineTarget s o (bundle s o depth false) reference location) l f l') :
    Blamed s o extra reach l' ⟨location, isRoot, .node id⟩ (depth + 1) f := by
  have any := reference_any found
  rcases inline_stops ready.housed stopped with ⟨nowhere, rfl⟩ | ⟨target, aimed, rest⟩
  · obtain ⟨rfl, remote, none⟩ := aim_stops nowhere
    obtain ⟨root, listed, within⟩ := ready.known id rfl
    exact .address listed ready.inside ⟨id, entries, within, held, any⟩ remote none
  · have near := (ready_aims closed ready held any aimed).1
    rcases rest with seeking | ⟨item, m, m', sought, first, housed, second, copying⟩
    · exact blamed_content near (seek_stops seeking)
    · have names := seek_names ready.housed sought
      have inner := ready_names (ready_later ready housed (grows_trans first second)) near
        (names_later second names)
      -- What the reference names has been found before the failure, and is found after it.
      have onward := (stops_grown (keeps_bundle depth false target.1 item) housed copying).2
      have followed := follow_names named aimed (names_later (grows_trans second onward) names)
      exact blamed_step (below false target.1 item m' f inner copying) (.on followed)

end Depth

-- By induction on the depth. No document is changed until the step that fails, so what is met on the way
-- is also in the last state.
theorem bundle_stops (closed : Closed s o reach) (depth : Nat) : ∀ isRoot location item l f,
    Ready s o extra reach l location item → Stops (bundle s o depth isRoot location item) l f l' →
    Blamed s o extra reach l' ⟨location, isRoot, item⟩ depth f := by
  induction depth with
  | zero =>
      intro isRoot location item l f _ stopped
      cases (stops_throw.mp stopped).1
      exact .depth (.stop _)
  | succ depth ih =>
      intro isRoot location item l f ready stopped
      have grown := (stops_grown (keeps_bundle (depth + 1) isRoot location item) ready.housed stopped).2
      simp only [bundle, stops_get_bind] at stopped
      split at stopped
      next _ id entries held =>
        have same : l'.graph.of? (.node id) = some (.map entries) :=
          (grown.kept location id (ready.known id rfl)).trans held
        have named : l'.library.reference? ⟨location, isRoot, .node id⟩ = reference? isRoot entries := by
          rw [Library.reference?, Graph.entries?, same]
          rfl
        split at stopped
        next reference found =>
          exact inline_blamed ih ready closed held found (named.trans found) stopped
        next plain =>
          refine container_blamed ih ready held (named.trans plain) (fun part member => ?_)
            (fun part member => ?_) stopped
          all_goals obtain ⟨entry, inside, rfl⟩ := List.mem_map.mp member
          · exact List.mem_map_of_mem inside
          · rw [Library.contents, same]
            exact List.mem_map_of_mem inside
      next _ id items held =>
        have same : l'.graph.of? (.node id) = some (.list items) :=
          (grown.kept location id (ready.known id rfl)).trans held
        have plain : l'.library.reference? ⟨location, isRoot, .node id⟩ = none := by
          rw [Library.reference?, Graph.entries?, same]
          rfl
        refine container_blamed ih ready held plain (fun part member => ?_) (fun part member => ?_) stopped
        all_goals obtain ⟨item, inside, rfl⟩ := List.mem_map.mp member
        · exact inside
        · rw [Library.contents, same]
          exact inside
      next => exact (stops_pure stopped).elim

end Copying

section Load

variable {source : DocumentSource} {d : Document} {text : String}

def sourceLocation (o : LoaderOptions) : DocumentSource → String
  | .named text => if Address.isWeb text then text else (o.base.join (Path.ofString text)).toString
  | .inMemory _ | .shared _ => o.inMemory

inductive Reached (s : Surround) (o : LoaderOptions) (source : DocumentSource) (l₀ : Loader) : String → Prop
  | first : Reached s o source l₀ (sourceLocation o source)
  | on {location reference : String} {target : Aim} : Reached s o source l₀ location →
      Met s o source l₀ location reference → aim o reference location = .ok target →
      Reached s o source l₀ target.1

/-- Why loading stops on another fault: a document on the way cannot be come by or read, a reference in it
cannot be joined to its address, or there are too many parts and references inside each other. -/
inductive Escapes (s : Surround) (o : LoaderOptions) (source : DocumentSource) (l₀ l : Loader) :
    Fault → Prop
  | content {g : Graph} {location : String} {f : Fault} : Reached s o source l₀ location →
      Chokes s o g location f → Escapes s o source l₀ l f
  | address {location reference : String} : Reached s o source l₀ location →
      Met s o source l₀ location reference → Address.isWeb location = true →
      Address.join? location (filePart reference) = none → Escapes s o source l₀ l (.misuse .value)
  | depth {location : String} {content : Item} {l₁ : Loader} : o.resolveExternalRefs = true →
      Gives (openDocument s o source) l₀ (location, content) l₁ →
      l.library.Deep o ⟨location, true, content⟩ o.depth → Escapes s o source l₀ l (.misuse .depth)

theorem locate_first (o : LoaderOptions) (text : String) :
    locate o text none = .ok (sourceLocation o (.named text)) := by
  unfold locate sourceLocation
  dsimp only
  split <;> rfl

theorem reached_closed (s : Surround) (o : LoaderOptions) (source : DocumentSource) (l₀ : Loader) :
    Closed s o (Reached s o source l₀) := by
  intro place reached label l item l' read reference location pointer mentions aimed
  exact .on reached ⟨item, l', mentions, .inr ⟨label, l, read⟩⟩ aimed

theorem open_stops (stopped : Stops (openDocument s o source) l f l') :
    IsLoadFault f ∨ Chokes s o l.graph (sourceLocation o source) f := by
  cases source with
  | inMemory v =>
      rcases stops_bind.mp stopped with adding | ⟨_, _, _, last⟩
      · cases adding
      · exact (stops_pure last).elim
  | shared d =>
      rcases stops_bind.mp stopped with adding | ⟨_, _, _, last⟩
      · cases adding
      · exact (stops_pure last).elim
  | named text =>
      rw [openDocument, locate_first] at stopped
      rcases stops_bind.mp stopped with locating | ⟨location, m, located, rest⟩
      · cases (stops_of_except.mp locating).1
      · obtain ⟨same, rfl⟩ := gives_of_except.mp located
        cases same
        rcases stops_bind.mp rest with fetching | ⟨_, _, _, last⟩
        · exact fetch_stops fetching
        · exact (stops_pure last).elim

theorem opened_location (opened : Gives (openDocument s o source) l (location, content) l₁) :
    location = sourceLocation o source := by
  cases source with
  | inMemory v =>
      obtain ⟨_, _, _, last⟩ := gives_bind.mp opened
      cases (gives_pure.mp last).1
      rfl
  | shared d =>
      obtain ⟨_, _, _, last⟩ := gives_bind.mp opened
      cases (gives_pure.mp last).1
      rfl
  | named text =>
      rw [openDocument, locate_first] at opened
      obtain ⟨_, same, rest⟩ := gives_of_except_bind.mp opened
      cases same
      obtain ⟨_, _, _, last⟩ := gives_bind.mp rest
      cases (gives_pure.mp last).1
      rfl

-- What is seen when copying has stopped was there when the documents were read.
theorem blamed_escapes (opened : Gives (openDocument s o source) l₀ (location, content) l₁)
    (resolves : o.resolveExternalRefs = true) (housed : Housed s o [(location, content)] l)
    (grown : Grows [(location, content)] 0 (cleared l₁) l)
    (blamed : Blamed s o [(location, content)] (Reached s o source l₀) l ⟨location, true, content⟩ o.depth f) :
    IsLoadFault f ∨ Escapes s o source l₀ l f := by
  cases blamed with
  | load is => exact .inl is
  | content near chokes => exact .inr (.content near chokes)
  | depth deep => exact .inr (.depth resolves opened deep)
  | @address entry reference held near mentions remote none =>
      -- The reference is in the first document, or in one that has been read since.
      refine .inr (.address near ?_ remote none)
      obtain ⟨place, root⟩ := entry
      rcases List.mem_append.mp held with given | read
      · cases List.mem_singleton.mp given
        have back := mentions_back (fun id within => grown.kept location id
          ⟨content, by simp, within⟩) mentions
        exact ⟨content, l₁, back, .inl opened⟩
      · obtain ⟨label, l₂, m, came, same⟩ := housed.read place root read
        exact ⟨root, m, mentions_back same mentions, .inr ⟨label, l₂, came⟩⟩

theorem load_stops {source : DocumentSource} (used : Used s o l₀)
    (stopped : Stops (loadDocument s o source) l₀ f l) :
    IsLoadFault f ∨ Escapes s o source l₀ l f := by
  rcases stops_bind.mp stopped with opening | ⟨⟨location, content⟩, l₁, opened, _⟩
  · exact (open_stops opening).imp_right (.content .first)
  · rw [load_with_bundle, Stops, load_with_run opened] at stopped
    split at stopped
    next copies =>
      obtain ⟨map, resolves⟩ := Bool.and_eq_true_iff.mp copies
      have near : Reached s o source l₀ location := opened_location opened ▸ .first
      have ready : Ready s o [(location, content)] (Reached s o source l₀) (cleared l₁) location content :=
        opened_ready (housed_used used) opened near fun reference target pointer mentions aimed =>
          .on near ⟨content, l₁, mentions, .inl opened⟩ aimed
      rcases stops_bind.mp stopped with bundling | ⟨_, _, _, last⟩
      · obtain ⟨housed, grown⟩ :=
          stops_grown (keeps_bundle o.depth true location content) ready.housed bundling
        have blamed := bundle_stops (reached_closed s o source l₀) o.depth true location content _ f
          ready bundling
        exact blamed_escapes opened resolves housed grown blamed
      · exact (stops_pure last).elim
    · split at stopped
      · cases stopped
      · cases stopped
        exact .inl ⟨_, _, rfl⟩

end Load

end Loading

end ApiSchema
