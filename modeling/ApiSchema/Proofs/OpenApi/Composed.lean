import ApiSchema.Proofs.OpenApi.Merging

namespace ApiSchema.OpenApi

open Walk

def Requires (d : Document) (n : Nat) (name : String) : Prop :=
  ∃ item ∈ ownRequired d n, Check.text (d.graph.value item) = .ok name

section Events

variable {d : Document} {root : Nat} {stop : Stop} {stops : List Stop} {events : List Event}

theorem demand_event {names : List Item} : .demand names ∈ stop.events d root ↔
    names = if Marked stop.trail then [] else ownRequired d (last root stop.trail) := by
  simp [Stop.events, Stop.own]

theorem declare_event {owner : String} {key : Scalar} {node : Item} :
    .declare owner key node ∈ stop.events d root ↔
      owner = stop.owner ∧ (key, node) ∈ ownDeclared d (last root stop.trail) := by
  simp [Stop.events, Stop.own, eq_comm, and_comm]

theorem demanded_iff {graph : Graph} {v : Value} : v ∈ demanded graph events ↔
    ∃ names, .demand names ∈ events ∧ ∃ item ∈ names, graph.value item = v := by
  constructor
  · intro member
    obtain ⟨event, held, given⟩ := List.mem_flatMap.mp member
    cases event with
    | demand names => exact ⟨names, held, List.mem_map.mp given⟩
    | enter | lost | declare => cases given
  · rintro ⟨names, held, given⟩
    exact List.mem_flatMap.mpr ⟨.demand names, held, List.mem_map.mpr given⟩

theorem demanded_stops (perm : events.Perm (stops.flatMap (Stop.events d root))) {v : Value} :
    v ∈ demanded d.graph events ↔ ∃ stop ∈ stops, ¬ Marked stop.trail ∧
      ∃ item ∈ ownRequired d (last root stop.trail), d.graph.value item = v := by
  simp only [demanded_iff, perm.mem_iff, List.mem_flatMap, demand_event]
  constructor
  · rintro ⟨_, ⟨stop, member, rfl⟩, given⟩
    by_cases marked : Marked stop.trail
    · simp [marked] at given
    · exact ⟨stop, member, marked, by simpa [marked] using given⟩
  · rintro ⟨stop, member, plain, given⟩
    exact ⟨_, ⟨stop, member, rfl⟩, by simpa [plain] using given⟩

theorem problems_own (d : Document) (root : Nat) (stop : Stop) : problems (stop.own d root) = [] := by
  simp [problems, Stop.own, List.filterMap_map]

theorem problems_stops (perm : events.Perm (stops.flatMap (Stop.events d root))) :
    (problems events).Perm ((stops.map fun stop => last root stop.trail).flatMap (lostMembers d)) := by
  refine (perm.filterMap _).trans (.of_eq ?_)
  have each : ∀ stop : Stop, problems (stop.events d root) = lostMembers d (last root stop.trail) := by
    intro stop
    have own := problems_own d root stop
    unfold problems at own ⊢
    simp [Stop.events, List.filterMap_map, own]
  rw [List.filterMap_flatMap, List.flatMap_map]
  exact List.flatMap_congr fun stop _ => each stop

end Events

/-- The building of an object as what happens at the stops of its walk. -/
structure Composed (s : Scope) (convert : Convert) (n : Nat) (owner : String) (c c' : Context)
    (g : Gathered) (front : List Event) (stops : List Stop) : Prop where
  walks : Walks (joins s.document) n [[]] [] (stops.map Stop.trail)
  happens : ∃ c₁, Happens s convert (front ++ Stop.own s.document n ⟨[], owner⟩) {} c g c₁ ∧
    Passes s.trail convert c₁ [] c'
  events : (front ++ Stop.own s.document n ⟨[], owner⟩).Perm (stops.flatMap (Stop.events s.document n))

section Objects

variable {s : Scope} {convert : Convert} {n : Nat} {id name : String} {entries : Entries}
  {c c' : Context} {t : TypeDefinition}

theorem proper_start : Proper {} :=
  ⟨List.nodup_nil, fun _ member => absurd member List.not_mem_nil,
    fun _ member => absurd member List.not_mem_nil⟩

theorem build_composed (map : s.graph.entries? (.node n) = some entries)
    (built : Gives (buildObject s convert id (.node n) entries name) c t c') :
    ∃ g front stops, Composed s convert n name c c' g front stops ∧ ∃ values names further found,
      t.shape = .object ((g.properties.map Prod.snd).map (·.markedBy values)) names further found ∧
      (∀ v ∈ g.required, ∃ x, Check.text v = .ok x) ∧
      ∀ x, x ∈ names ↔ ∃ v ∈ g.required, Check.text v = .ok x := by
  unfold buildObject at built
  obtain ⟨result, c₁, gathered, built⟩ := gives_bind.mp built
  obtain ⟨additional, c₂, further, built⟩ := gives_bind.mp built
  obtain ⟨made, rfl⟩ := gives_of_except.mp built
  obtain ⟨stops, front, walks, happens, perm⟩ := gather_walked map gathered
  have proper := (happens_merges happens proper_start).proper
  have clear : ∀ p ∈ result.1.properties.map Prod.snd, p.required = false := by
    intro p member
    obtain ⟨entry, held, rfl⟩ := List.mem_map.mp member
    exact proper.clear entry held
  obtain ⟨names, further', found, shaped, read, taken⟩ := object_names clear made
  exact ⟨result.1, front, _, ⟨walks, ⟨c₁, happens, additional_passes further⟩, perm⟩, _, names,
    further', found, shaped, read, taken⟩

def madeObject : Except Fault TypeDefinition → Option (List (String × String) × List String)
  | .ok t =>
      match t.shape with
      | .object properties required _ _ =>
          some (properties.map fun p => (p.name, p.type.typeId), required)
      | _ => none
  | .error _ => none

/-- What is required of an object made from a node: the names that a node requires which the walk
enters along a trail without a mark. -/
structure RequiredFrom (d : Document) (n : Nat) (required : List String) : Prop where
  first : ∀ x, x ∈ required ↔
    ∃ trail, First (joins d) n trail ∧ ¬ Marked trail ∧ Requires d (last n trail) x
  sound : ∀ x ∈ required, ∃ m, ReachesPlain (joins d) n m ∧ Requires d m x
  kept : ∀ m x, ReachesPlain (joins d) n m → ¬ ReachesMarked (joins d) n m → Requires d m x →
    x ∈ required

/-- A name is required if a node requires it that is first reached through `allOf` alone; a node
requires its names of the object unless it can also be reached through `anyOf`. -/
theorem composed_required (map : s.graph.entries? (.node n) = some entries)
    (built : Gives (buildObject s convert id (.node n) entries name) c t c') :
    ∃ properties required further found, t.shape = .object properties required further found ∧
      RequiredFrom s.document n required := by
  obtain ⟨g, front, stops, composed, _, names, further, found, shaped, read, taken⟩ :=
    build_composed map built
  obtain ⟨c₁, happens, _⟩ := composed.happens
  have gathered : ∀ v, v ∈ g.required ↔ ∃ stop ∈ stops, ¬ Marked stop.trail ∧
      ∃ item ∈ ownRequired s.document (last n stop.trail), s.graph.value item = v := by
    intro v
    rw [happens_required happens] at read ⊢
    exact (distinct_read read).trans
      ((or_iff_right List.not_mem_nil).trans (demanded_stops composed.events))
  have first : ∀ x, x ∈ names ↔ ∃ trail, First (joins s.document) n trail ∧ ¬ Marked trail ∧
      Requires s.document (last n trail) x := by
    intro x
    simp only [taken, gathered, ← walk_first composed.walks, List.mem_map]
    constructor
    · rintro ⟨_, ⟨stop, member, plain, item, listed, rfl⟩, text⟩
      exact ⟨_, ⟨stop, member, rfl⟩, plain, item, listed, text⟩
    · rintro ⟨_, ⟨stop, member, rfl⟩, plain, item, listed, text⟩
      exact ⟨_, ⟨stop, member, plain, item, listed, rfl⟩, text⟩
  refine ⟨_, names, further, found, shaped, first, fun x member => ?_,
    fun m x plain clear requires => ?_⟩
  · obtain ⟨trail, leads, plain, requires⟩ := (first x).mp member
    exact ⟨_, unmarked_reaches leads.leads plain, requires⟩
  · have reached := (walk_reaches composed.walks).mpr (plain_reaches plain)
    obtain ⟨trail, entered, rfl⟩ := List.mem_map.mp reached
    have leads := (walk_first composed.walks).mp entered
    have unmarked : ¬ Marked trail := fun marked => clear (marked_reaches leads.leads marked)
    exact (first x).mpr ⟨trail, leads, unmarked, requires⟩

def lateDocument : Document where
  graph := ⟨#[
    .map [(.text "components", .node 1)],
    .map [(.text "schemas", .node 2)],
    .map [(.text "R", .node 3), (.text "S", .node 9)],
    .map [(.text "allOf", .node 4)],
    .list [.node 5, .node 8],
    .map [(.text "anyOf", .node 6)],
    .list [.node 7],
    .map [(.text "$ref", .text "#/components/schemas/S")],
    .map [(.text "$ref", .text "#/components/schemas/S")],
    .map [(.text "required", .node 10)],
    .list [.text "a"]]⟩
  root := .node 0

def lateRun : Except Fault TypeDefinition × Context :=
  (buildObject ⟨lateDocument, []⟩ (convertNode lateDocument) "type_0" (.node 3)
    [(.text "allOf", .node 4)] "R").run.run {}

theorem late_required : ∃ t c, lateRun = (.ok t, c) ∧ ∃ properties required further found,
    t.shape = .object properties required further found ∧ RequiredFrom lateDocument 3 required := by
  have made : (madeObject lateRun.1).isSome = true := by decide +kernel
  cases built : lateRun with
  | mk result c =>
      rw [built] at made
      cases result with
      | error f => cases made
      | ok t => exact ⟨t, c, rfl, composed_required rfl built⟩

/-- The name is not required, though a member requires it. -/
theorem late_not_required : madeObject lateRun.1 = some ([], []) ∧
    ReachesPlain (joins lateDocument) 3 9 ∧ Requires lateDocument 9 "a" := by
  have edge : (false, 9) ∈ joins lateDocument 3 := by decide +kernel
  exact ⟨by decide +kernel, .tail .refl edge, .text "a", by decide +kernel, rfl⟩

def ownKeys (d : Document) (n : Nat) : List Scalar := (ownDeclared d n).map Prod.fst

structure PropertiesFrom (s : Scope) (convert : Convert) (n : Nat) (owner : String)
    (properties : List (Scalar × Property)) : Prop where
  distinct : (properties.map Prod.fst).Nodup
  keys : ∀ key, key ∈ properties.map Prod.fst ↔
    ∃ m, Reaches (joins s.document) n m ∧ key ∈ ownKeys s.document m
  declared : ∀ entry ∈ properties, ∃ m owner node, Reaches (joins s.document) n m ∧
    (entry.1, node) ∈ ownDeclared s.document m ∧ Declares s convert owner entry.1 node entry.2
  own : ∀ front key node back, ownDeclared s.document n = front ++ (key, node) :: back →
    key ∉ back.map Prod.fst → ∃ p, (key, p) ∈ properties ∧ Declares s convert owner key node p

/-- The names are those that the keys of all nodes read as; two are alike only where a text and bytes
spell one name. -/
structure NamesFrom (d : Document) (n : Nat) (properties : List (Scalar × Property)) : Prop where
  names : ∀ x, x ∈ properties.map (·.2.name) ↔
    ∃ m, Reaches (joins d) n m ∧ ∃ key ∈ ownKeys d m, Check.text (.scalar key) = .ok x
  distinct : (properties.map (·.2.name)).Nodup ↔ ∀ text bytes,
    .text text ∈ properties.map Prod.fst → .bytes bytes ∈ properties.map Prod.fst →
      Check.textOfBytes bytes ≠ .ok text

theorem declares_flagged {owner : String} {key : Scalar} {node : Item} {p : Property}
    (declares : Declares s convert owner key node p) (required : Bool) :
    Declares s convert owner key node { p with required } :=
  ⟨declares.name, declares.type, declares.constraints, declares.description, declares.deprecated,
    declares.default⟩

variable {g : Gathered} {front : List Event} {stops : List Stop}

theorem composed_reaches (composed : Composed s convert n name c c' g front stops) {m : Nat} :
    m ∈ stops.map (fun stop => last n stop.trail) ↔ Reaches (joins s.document) n m := by
  rw [← walk_reaches composed.walks, List.map_map]
  rfl

theorem composed_declared (composed : Composed s convert n name c c' g front stops) {owner : String}
    {key : Scalar} {node : Item}
    (declared : .declare owner key node ∈ front ++ Stop.own s.document n ⟨[], name⟩) :
    ∃ m, Reaches (joins s.document) n m ∧ (key, node) ∈ ownDeclared s.document m := by
  obtain ⟨stop, member, event⟩ := List.mem_flatMap.mp (composed.events.mem_iff.mp declared)
  exact ⟨_, (composed_reaches composed).mp (List.mem_map_of_mem member), (declare_event.mp event).2⟩

theorem composed_merged (composed : Composed s convert n name c c' g front stops) :
    PropertiesFrom s convert n name g.properties := by
  obtain ⟨c₁, happens, _⟩ := composed.happens
  have merged := happens_merges happens proper_start
  have sound : ∀ entry ∈ g.properties, ∃ owner node,
      .declare owner entry.1 node ∈ front ++ Stop.own s.document n ⟨[], name⟩ ∧
        Declares s convert owner entry.1 node entry.2 := fun entry member =>
    (merged.sound entry member).resolve_left fun start => absurd start.1 List.not_mem_nil
  constructor
  case distinct => exact merged.proper.distinct
  case declared =>
    intro entry member
    obtain ⟨owner, node, event, declares⟩ := sound entry member
    obtain ⟨m, reached, own⟩ := composed_declared composed event
    exact ⟨m, owner, node, reached, own, declares⟩
  case keys =>
    intro key
    constructor
    · intro member
      obtain ⟨entry, held, rfl⟩ := List.mem_map.mp member
      obtain ⟨owner, node, event, _⟩ := sound entry held
      obtain ⟨m, reached, own⟩ := composed_declared composed event
      exact ⟨m, reached, List.mem_map.mpr ⟨_, own, rfl⟩⟩
    · rintro ⟨m, reached, member⟩
      obtain ⟨stop, met, rfl⟩ := List.mem_map.mp ((composed_reaches composed).mpr reached)
      obtain ⟨⟨_, node⟩, own, rfl⟩ := List.mem_map.mp member
      have event := List.mem_flatMap.mpr ⟨stop, met, declare_event.mpr ⟨rfl, own⟩⟩
      exact merged.keys _ (.inr ⟨stop.owner, node, composed.events.mem_iff.mpr event⟩)
  case own =>
    intro before key node after split alone
    -- What the node itself declares comes last, so only a later entry of its own could win.
    let declare (entry : Scalar × Item) : Event := .declare name entry.1 entry.2
    have order : front ++ Stop.own s.document n ⟨[], name⟩ = (front ++ before.map declare) ++
        .declare name key node :: (after.map declare ++ [.demand (ownRequired s.document n)]) := by
      simp [Stop.own, split, Marked, declare]
    rw [order] at happens
    refine happens_last proper_start happens ?_
    rintro ⟨owner, node', member⟩
    refine alone ?_
    obtain later | demand := List.mem_append.mp member
    · obtain ⟨entry, held, same⟩ := List.mem_map.mp later
      cases same
      exact List.mem_map.mpr ⟨entry, held, rfl⟩
    · cases List.mem_singleton.mp demand

theorem properties_flagged {properties : List (Scalar × Property)}
    (made : PropertiesFrom s convert n name properties) (required : Property → Bool) :
    PropertiesFrom s convert n name
      (properties.map fun entry => (entry.1, { entry.2 with required := required entry.2 })) := by
  have same : (properties.map fun entry => (entry.1, { entry.2 with required := required entry.2 })).map
      Prod.fst = properties.map Prod.fst := by
    rw [List.map_map]
    rfl
  constructor
  case distinct => rw [same]; exact made.distinct
  case keys => rw [same]; exact made.keys
  case declared =>
    intro entry member
    obtain ⟨old, held, rfl⟩ := List.mem_map.mp member
    obtain ⟨m, owner, node, reached, own, declares⟩ := made.declared old held
    exact ⟨m, owner, node, reached, own, declares_flagged declares _⟩
  case own =>
    intro front key node back split alone
    obtain ⟨p, held, declares⟩ := made.own front key node back split alone
    exact ⟨_, List.mem_map.mpr ⟨_, held, rfl⟩, declares_flagged declares _⟩

theorem text_of_bytes_injective {a b : List UInt8} {x : String} (first : Check.textOfBytes a = .ok x)
    (second : Check.textOfBytes b = .ok x) : a = b := by
  have bytes : ∀ a : List UInt8, Check.textOfBytes a = .ok x → x.toByteArray = ⟨a.toArray⟩ := by
    intro a read
    unfold Check.textOfBytes at read
    split at read
    next y valid =>
      cases read
      unfold String.fromUTF8? at valid
      split at valid
      · cases valid
        rfl
      · cases valid
    · cases read
  have same := (bytes a first).symm.trans (bytes b second)
  simpa using same

theorem keys_alike {a b : Scalar} {x : String} (first : Check.text (.scalar a) = .ok x)
    (second : Check.text (.scalar b) = .ok x) :
    a = b ∨ ∃ bytes, Check.textOfBytes bytes = .ok x ∧
      (a = .text x ∧ b = .bytes bytes ∨ a = .bytes bytes ∧ b = .text x) := by
  cases a with
  | text =>
      cases first
      cases b with
      | text => cases second; exact .inl rfl
      | bytes bytes => exact .inr ⟨bytes, second, .inl ⟨rfl, rfl⟩⟩
      | _ => cases second
  | bytes bytes =>
      cases b with
      | text => cases second; exact .inr ⟨bytes, first, .inr ⟨rfl, rfl⟩⟩
      | bytes => exact .inl (congrArg Scalar.bytes (text_of_bytes_injective first second))
      | _ => cases second
  | _ => cases first

theorem names_apart {properties : List (Scalar × Property)}
    (distinct : (properties.map Prod.fst).Nodup)
    (named : ∀ entry ∈ properties, Check.text (.scalar entry.1) = .ok entry.2.name) :
    (properties.map (·.2.name)).Nodup ↔ ∀ text bytes,
      .text text ∈ properties.map Prod.fst → .bytes bytes ∈ properties.map Prod.fst →
        Check.textOfBytes bytes ≠ .ok text := by
  rw [List.nodup_map_iff_inj_on distinct.of_map]
  constructor
  · intro alike text bytes first second read
    obtain ⟨one, held, isText⟩ := List.mem_map.mp first
    obtain ⟨two, held', isBytes⟩ := List.mem_map.mp second
    have spelled : one.2.name = two.2.name := by
      have name := named one held
      have name' := named two held'
      rw [isText] at name
      rw [isBytes, Check.text, read] at name'
      cases name
      exact Check.Checked.ok.inj name'
    have equal := congrArg Prod.fst (alike one held two held' spelled)
    rw [isText, isBytes] at equal
    cases equal
  · intro apart one held two held' spelled
    have second := named two held'
    rw [← spelled] at second
    obtain same | ⟨bytes, read, ⟨isText, isBytes⟩ | ⟨isBytes, isText⟩⟩ :=
      keys_alike (named one held) second
    · exact List.inj_on_of_nodup_map distinct held held' same
    · exact absurd read (apart _ bytes (isText ▸ List.mem_map_of_mem held)
        (isBytes ▸ List.mem_map_of_mem held'))
    · exact absurd read (apart _ bytes (isText ▸ List.mem_map_of_mem held')
        (isBytes ▸ List.mem_map_of_mem held))

theorem names_from {properties : List (Scalar × Property)}
    (made : PropertiesFrom s convert n name properties) : NamesFrom s.document n properties := by
  have named : ∀ entry ∈ properties, Check.text (.scalar entry.1) = .ok entry.2.name := by
    intro entry member
    obtain ⟨_, _, _, _, _, declares⟩ := made.declared entry member
    exact declares.name
  refine ⟨fun x => ⟨fun member => ?_, ?_⟩, names_apart made.distinct named⟩
  · obtain ⟨entry, held, rfl⟩ := List.mem_map.mp member
    obtain ⟨m, reached, own⟩ := (made.keys entry.1).mp (List.mem_map_of_mem held)
    exact ⟨m, reached, entry.1, own, named entry held⟩
  · rintro ⟨m, reached, key, own, read⟩
    obtain ⟨entry, held, rfl⟩ := List.mem_map.mp ((made.keys key).mpr ⟨m, reached, own⟩)
    rw [named entry held] at read
    cases read
    exact List.mem_map_of_mem held

/-- Whatever the members of a node declare, its own properties win; and each member of a node on the
way that leads nowhere is noted once, besides what the conversion of other types notes. -/
theorem composed_properties (map : s.graph.entries? (.node n) = some entries)
    (built : Gives (buildObject s convert id (.node n) entries name) c t c') :
    (∃ properties required further found,
      t.shape = .object (properties.map Prod.snd) required further found ∧
        PropertiesFrom s convert n name properties ∧ NamesFrom s.document n properties) ∧
    ∃ (visited : List Nat) (issues : List NodeIssue), visited.Nodup ∧
      (∀ m, m ∈ visited ↔ Reaches (joins s.document) n m) ∧
        issues.Perm (visited.flatMap (lostMembers s.document)) ∧
          Passes s.trail convert c issues c' := by
  obtain ⟨g, front, stops, composed, values, names, further, found, shaped, _⟩ := build_composed map built
  obtain ⟨c₁, happens, rest⟩ := composed.happens
  have made := properties_flagged (composed_merged composed) fun p => values.any (Value.text p.name).same
  have visited : (stops.map fun stop => last n stop.trail).Nodup := by
    have once := (walk_sorted composed.walks).once
    rwa [List.map_map] at once
  have passes := passes_trans (happens_passes happens) rest
  rw [List.append_nil] at passes
  refine ⟨⟨_, names, further, found, ?_, made, names_from made⟩, _, _, visited,
    fun m => composed_reaches composed, problems_stops composed.events, passes⟩
  rw [shaped, List.map_map, List.map_map]
  rfl

def twinDocument : Document where
  graph := ⟨#[
    .map [(.text "components", .node 1)],
    .map [(.text "schemas", .node 2)],
    .map [(.text "Base", .node 3), (.text "Derived", .node 6)],
    .map [(.text "properties", .node 4)],
    .map [(.text "a", .node 5)],
    .map [(.text "type", .text "string")],
    .map [(.text "allOf", .node 7), (.text "properties", .node 9)],
    .list [.node 8],
    .map [(.text "$ref", .text "#/components/schemas/Base")],
    .map [(.bytes [97], .node 10)],
    .map [(.text "type", .text "integer")]]⟩
  root := .node 0

def twinRun : Except Fault TypeDefinition × Context :=
  (buildObject ⟨twinDocument, []⟩ (convertNode twinDocument) "type_2" (.node 6)
    [(.text "allOf", .node 7), (.text "properties", .node 9)] "Derived").run.run {}

theorem twin_properties : ∃ t c, twinRun = (.ok t, c) ∧
    (∃ properties required further found,
      t.shape = .object (properties.map Prod.snd) required further found ∧
        PropertiesFrom ⟨twinDocument, []⟩ (convertNode twinDocument) 6 "Derived" properties ∧
          NamesFrom twinDocument 6 properties) ∧
    ∃ (visited : List Nat) (issues : List NodeIssue), visited.Nodup ∧
      (∀ m, m ∈ visited ↔ Reaches (joins twinDocument) 6 m) ∧
        issues.Perm (visited.flatMap (lostMembers twinDocument)) ∧
          Passes [] (convertNode twinDocument) {} issues c := by
  have made : (madeObject twinRun.1).isSome = true := by decide +kernel
  cases built : twinRun with
  | mk result c =>
      rw [built] at made
      cases result with
      | error f => cases made
      | ok t => exact ⟨t, c, rfl, composed_properties rfl built⟩

/-- The object has two properties of one name: its own does not win over that of the member. -/
theorem twin_names_alike : ownKeys twinDocument 6 = [.bytes [97]] ∧
    ownKeys twinDocument 3 = [.text "a"] ∧ Check.text (.scalar (.bytes [97])) = .ok "a" ∧
      madeObject twinRun.1 = some ([("a", "type_0"), ("a", "type_1")], []) :=
  ⟨by decide +kernel, by decide +kernel, rfl, by decide +kernel⟩

end Objects

end ApiSchema.OpenApi
