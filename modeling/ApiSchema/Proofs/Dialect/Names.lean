import ApiSchema.Frontend.Registry
import ApiSchema.Proofs.Conversion.Notes
import ApiSchema.Proofs.Dialect.Convert
import ApiSchema.Proofs.Dialect.Decode

namespace ApiSchema.Dialect

/-- What a conversion leaves: `ids` are the ids of the types that have been converted. -/
structure Resolved (d : DialectDocument) (includeDeprecated : Bool) (s : Schema) (c : Context)
    (ids : TypeSource → Option String) : Prop where
  order : s.types.map (·.id) = (List.range s.types.length).map typeIdOf
  closed : ∀ site ∈ s.sites, site.ref.typeId ∈ s.types.map (·.id)
  schemes : s.authentication = [keyScheme] ∧
    ∀ e ∈ s.endpoints, ∀ id ∈ e.authentication, id = keyScheme.id
  endpoints : List.Forall₂ (EndpointAt ids) (d.endpoints.filter (·.isKept includeDeprecated)) s.endpoints
  tops : ∀ t ∈ d.types, (ids t).isSome
  definitions : ∀ about properties items variants,
    .definition about properties items variants ∈ d.definitions → ∀ id,
      ids (.definition about properties items variants) = some id →
        ∃ t ∈ s.types, t.id = id ∧ DefinedAs ids about properties items variants t
  others : ∀ t ∈ s.types, (∃ source ∈ d.definitions, ids source = some t.id) ∨
    ∀ base, t.shape.sites base = []
  apart : ∀ a ∈ d.definitions, ∀ b ∈ d.definitions, a.number?.isSome → b.number?.isSome → ∀ id,
    ids a = some id → ids b = some id → a = b
  first : ∀ n source, d.definitions.find? (·.isNamed n) = some source → ids (.name n) = ids source
  keyword : ∀ n kind, d.definitions.find? (·.isNamed n) = none →
    primitiveKinds.lookup (Text.lowerText n) = some kind →
      (∀ id, ids (.name n) = some id →
        { id, name := Text.lowerText n, shape := .primitive kind none } ∈ s.types) ∧
      ∀ m, d.definitions.find? (·.isNamed m) = none → Text.lowerText m = Text.lowerText n →
        ids (.name m) = ids (.name n)
  unknown : ∀ n, d.definitions.find? (·.isNamed n) = none →
    primitiveKinds.lookup (Text.lowerText n) = none → ∀ id, ids (.name n) = some id →
      placeholderType id n (missing n).message ∈ s.types
  once : (c.issues.filterMap reported?).Nodup
  reports : ∀ n, n ∈ c.issues.filterMap reported? ↔ d.definitions.find? (·.isNamed n) = none ∧
    primitiveKinds.lookup (Text.lowerText n) = none ∧ (ids (.name n)).isSome

namespace DialectDocument

variable {d : DialectDocument} {c start : Context} {s : Schema} {includeDeprecated : Bool}

structure Finished (d : DialectDocument) (includeDeprecated : Bool) (s : Schema) (c : Context) :
    Prop where
  slots : c.slots = s.types.map some
  tops : ∀ t ∈ d.types, (d.idOf c t).isSome
  endpoints : List.Forall₂ (fun e m => EndpointAt (d.idOf c) e m ∧ d.Marked c m)
    (d.endpoints.filter (·.isKept includeDeprecated)) s.endpoints
  authentication : s.authentication = [keyScheme]
  errors : s.errors = d.errors.map errorOf

theorem keeps_convert (distinct : d.Apart) (short : d.Short) {depth : Nat} (shallow : d.Shallow depth)
    (options : FrontendOptions) :
    (d.regime fun _ => False).Keeps {} (Dialect.convert d options depth)
      (d.Finished options.includeDeprecated) := by
  have converts := convert_types distinct short shallow
  have types : (d.regime fun _ => False).Keeps {} (d.types.mapM (convertWithin d.named depth))
      fun ids c => List.Forall₂ (fun t id => d.idOf c t = some id) d.types ids :=
    Regime.keeps_each d.types (fun _ _ _ _ later held => slot_later later.1 held)
      fun t c later member => converts c later.1 t (lists_type member)
  unfold Dialect.convert
  extract_lets convert
  refine Regime.keeps_bind types fun ids c later tops => ?_
  refine Regime.keeps_bind (keeps_endpoints distinct short (converts_later converts later.1)
    options.includeDeprecated d.endpoints fun _ => id) fun endpoints c₁ later₁ all => ?_
  intro c₂ sound later₂
  -- No slot was empty at the start, so none is now.
  have full : ∀ k : Nat, c₂.slots[k]? ≠ some none := by
    intro k empty
    cases (later.2 k).mp ((later₁.2 k).mp ((later₂.2 k).mp empty))
  rw [types_run, full_types full]
  have slots := Context.types_listed (full_types full)
  refine ⟨sound, (d.regime fun _ => False).refl c₂, slots, ?_, ?_, rfl, rfl⟩
  · intro t member
    obtain ⟨id, _, held⟩ := forall_left tops member
    exact Option.isSome_iff_exists.mpr ⟨id, slot_later later₂.1 (slot_later later₁.1 held)⟩
  · exact all.imp fun _ _ => kept_later later₂.1

section Resolved

variable (sound : d.Sound c) (finished : d.Finished includeDeprecated s c)
include sound finished

-- The type of a mark, made with the ids that its parts have at the end.
theorem type_made {μ : Mark} {id : String} (noted : d.slot c μ = some id) :
    ∃ t ∈ s.types, t.id = id ∧ d.Made c μ t := by
  obtain ⟨k, t, rfl, member, held⟩ := Context.known_type finished.slots (sound.known μ id noted)
  exact ⟨t, member, sound.ids k t held, sound.made μ k t noted held⟩

theorem type_owner {t : TypeDefinition} (member : t ∈ s.types) :
    ∃ μ, d.slot c μ = some t.id ∧ d.Made c μ t := by
  obtain ⟨k, inside, same⟩ := List.getElem_of_mem member
  have held := (Context.listed_slot finished.slots).mp (same ▸ List.getElem?_eq_getElem inside)
  obtain ⟨μ, noted⟩ := sound.owned k (List.getElem?_eq_some_iff.mp held).1
  exact ⟨μ, (sound.ids k t held).symm ▸ noted, sound.made μ k t noted held⟩

omit sound finished in
theorem shape_site_marked {properties : List (Field × TypeSource)} {items variants : List TypeSource}
    {shape : Shape} (parts : ShapeAt (d.idOf c) properties items variants shape) {base : String}
    {site : Site} (member : site ∈ shape.sites base) : ∃ μ, d.slot c μ = some site.ref.typeId := by
  obtain ⟨made, required, additional, discriminator, rfl, ⟨p, listed, same⟩ | same⟩ |
    ⟨least, most, unique, rfl⟩ | ⟨made, discriminator, mapping, rfl, listed⟩ := shape_site member
  · obtain ⟨entry, _, _, known⟩ := forall_right parts.2 listed
    exact ⟨_, same ▸ known⟩
  · cases parts.1.symm.trans same
  · obtain ⟨source, _, _, known⟩ := parts
    exact ⟨_, known⟩
  · obtain ⟨source, _, known⟩ := forall_right parts listed
    exact ⟨_, known⟩

omit sound finished in
theorem related_right {α β : Type} {related : α → β → Prop} {a : Option α} {b : Option β}
    (held : Option.Rel related a b) {y : β} (same : b = some y) : ∃ x, related x y := by
  cases held with
  | none => cases same
  | some held => exact ⟨_, Option.some.inj same ▸ held⟩

omit sound finished in
theorem endpoint_site_marked {e : DialectEndpoint} {m : Endpoint} (parts : EndpointAt (d.idOf c) e m)
    (marked : d.Marked c m) {base : String} {site : Site} (member : site ∈ m.sites base) :
    ∃ μ, d.slot c μ = some site.ref.typeId := by
  obtain ⟨p, listed, same⟩ | ⟨body, held, same⟩ | ⟨r, listed, place, held⟩ := endpoint_site member
  · exact same ▸ marked p listed
  · obtain ⟨source, known⟩ := related_right parts.body held
    exact ⟨_, same ▸ known⟩
  · obtain ⟨response, _, at_⟩ := forall_right parts.responses listed
    obtain typed | ⟨headers, given, _⟩ := response_site held
    · obtain ⟨source, known⟩ := related_right at_.type typed
      exact ⟨_, known⟩
    · cases at_.headers.symm.trans given

theorem type_origin {t : TypeDefinition} (member : t ∈ s.types) :
    (∃ about properties items variants, .definition about properties items variants ∈ d.definitions ∧
      d.idOf c (.definition about properties items variants) = some t.id ∧
      DefinedAs (d.idOf c) about properties items variants t) ∨ ∀ base, t.shape.sites base = [] := by
  obtain ⟨μ, noted, made⟩ := type_owner sound finished member
  cases μ with
  | keyword s =>
      obtain ⟨kind, _, same⟩ := made
      exact .inr fun base => same ▸ rfl
  | unknown s => exact .inr fun base => made.2 ▸ rfl
  | number n =>
      by_cases somebody : ∃ a ∈ d.definitions, a.number? = some n
      · obtain ⟨a, listed, numbered⟩ := somebody
        cases a with
        | name s => cases numbered
        | definition about properties items variants =>
            cases numbered
            exact .inl ⟨about, properties, items, variants, listed, noted,
              made.1 about properties items variants listed rfl⟩
      · exact .inr (made.2 (by simpa using somebody))

theorem type_site_marked {t : TypeDefinition} (member : t ∈ s.types) {base : String} {site : Site}
    (held : site ∈ t.shape.sites base) : ∃ μ, d.slot c μ = some site.ref.typeId := by
  obtain ⟨about, properties, items, variants, _, _, _, ⟨_, issue, stub⟩ | parts⟩ | nothing :=
    type_origin sound finished member
  · rw [stub] at held
    cases held
  · exact shape_site_marked parts held
  · rw [nothing] at held
    cases held

theorem site_listed {site : Site} (member : site ∈ s.sites) :
    site.ref.typeId ∈ s.types.map (·.id) := by
  have marked : ∃ μ, d.slot c μ = some site.ref.typeId := by
    obtain ⟨t, listed, base, held⟩ | ⟨m, listed, base, held⟩ | ⟨e, listed, typed⟩ := schema_site member
    · exact type_site_marked sound finished listed held
    · obtain ⟨e, _, at_, marked⟩ := forall_right finished.endpoints listed
      exact endpoint_site_marked at_ marked held
    · rw [finished.errors] at listed
      obtain ⟨e', _, rfl⟩ := List.mem_map.mp listed
      cases typed
  obtain ⟨μ, noted⟩ := marked
  obtain ⟨t, listed, same, _⟩ := type_made sound finished noted
  exact List.mem_map.mpr ⟨t, listed, same⟩

omit finished in
theorem definitions_apart (distinct : d.Apart) {a b : TypeSource} (first : a ∈ d.definitions)
    (second : b ∈ d.definitions) (one : a.number?.isSome) (two : b.number?.isSome) {id : String}
    (left : d.idOf c a = some id) (right : d.idOf c b = some id) : a = b := by
  obtain ⟨n, numbered⟩ := Option.isSome_iff_exists.mp one
  obtain ⟨m, numbered'⟩ := Option.isSome_iff_exists.mp two
  have marks : ∀ {x : TypeSource} {k : Nat}, x.number? = some k → d.markOf x = .number k := by
    intro x k given
    cases x with
    | name s => cases given
    | definition about properties items variants =>
        cases given
        rfl
  rw [idOf, marks numbered] at left
  rw [idOf, marks numbered'] at right
  cases sound.apart _ _ id left right
  exact distinct.definitions a first b second n numbered numbered'

theorem reported_names (reported : d.Reported c) (n : String) :
    n ∈ c.issues.filterMap reported? ↔ d.named.lookup n = none ∧
      primitiveKinds.lookup (Text.lowerText n) = none ∧ (d.idOf c (.name n)).isSome := by
  rw [reported.used]
  constructor
  · intro noted
    obtain ⟨id, held⟩ := Option.isSome_iff_exists.mp noted
    obtain ⟨t, _, _, other, _⟩ := type_made sound finished held
    have nothing : d.named.lookup n = none := by
      cases found : d.named.lookup n with
      | none => rfl
      | some first => simp [slot, found] at held
    exact ⟨nothing, other, by rwa [idOf, mark_unknown nothing other]⟩
  · rintro ⟨nothing, other, noted⟩
    rwa [idOf, mark_unknown nothing other] at noted

theorem resolved (distinct : d.Apart) (reported : d.Reported c) :
    Resolved d includeDeprecated s c (d.idOf c) where
  order := Context.listed_ids finished.slots sound.ids
  closed site member := site_listed sound finished member
  schemes := by
    refine ⟨finished.authentication, fun m member id asked => ?_⟩
    obtain ⟨e, _, at_, _⟩ := forall_right finished.endpoints member
    rw [at_.authentication] at asked
    split at asked
    · cases asked
    · exact List.mem_singleton.mp asked
  endpoints := finished.endpoints.imp fun _ _ kept => kept.1
  tops := finished.tops
  definitions about properties items variants listed id noted := by
    obtain ⟨t, member, same, made⟩ := type_made sound finished noted
    exact ⟨t, member, same, made.1 about properties items variants listed rfl⟩
  others t member := by
    obtain ⟨about, properties, items, variants, listed, noted, _⟩ | nothing :=
      type_origin sound finished member
    · exact .inl ⟨_, listed, noted⟩
    · exact .inr nothing
  apart _ one _ two _ _ _ := definitions_apart sound distinct one two ‹_› ‹_›
  first n source found := by
    rw [← first_found] at found
    rw [idOf, mark_first found]
    rfl
  -- A keyword that is no name of the document is the primitive, whichever name it has.
  keyword n kind nothing primitive := by
    rw [← first_found] at nothing
    refine ⟨fun id noted => ?_, fun m nothing' same => ?_⟩
    · rw [idOf, mark_keyword nothing primitive] at noted
      obtain ⟨t, member, rfl, kind', held, same⟩ := type_made sound finished noted
      cases primitive.symm.trans held
      exact same ▸ member
    · rw [← first_found] at nothing'
      rw [idOf, idOf, mark_keyword nothing primitive, mark_keyword nothing' (same ▸ primitive), same]
  unknown n nothing other id noted := by
    rw [← first_found] at nothing
    rw [idOf, mark_unknown nothing other] at noted
    obtain ⟨t, member, rfl, _, same⟩ := type_made sound finished noted
    exact same ▸ member
  once := reported.once
  reports n := by
    rw [← first_found]
    exact reported_names sound finished reported n

end Resolved

theorem empty_slot (μ : Mark) : d.slot {} μ = none := by
  cases μ <;> simp [slot]

theorem empty_sound : d.Sound {} where
  ids _ _ held := by cases held
  known μ id held := by cases (empty_slot μ).symm.trans held
  firsts _ _ _ _ _ := rfl
  apart μ _ id held _ := by cases (empty_slot μ).symm.trans held
  owned _ below := by cases below
  made μ _ _ held _ := by cases (empty_slot μ).symm.trans held

theorem empty_reported : d.Reported {} where
  once := .nil
  used s := by simp [empty_slot]

theorem convert_resolves (distinct : d.Apart) (short : d.Short) {depth : Nat}
    (shallow : d.Shallow depth) (options : FrontendOptions) : ∃ s c,
    (Dialect.convert d options depth).run.run {} = (.ok s, c) ∧
      Resolved d options.includeDeprecated s c (d.idOf c) := by
  obtain ⟨⟨sound, reported⟩, _, outcome⟩ := keeps_convert distinct short shallow options {}
    ⟨empty_sound, empty_reported⟩ ((d.regime _).refl {})
  generalize (Dialect.convert d options depth).run.run {} = reached at sound reported outcome ⊢
  rcases reached with ⟨answer, c⟩
  cases answer with
  | error f => exact outcome.elim
  | ok s => exact ⟨s, c, rfl, resolved sound outcome distinct reported⟩

end DialectDocument

/-- Every valid document is converted, if its fixed values can be printed and its definitions are not
too deep inside each other, and a name has one id wherever it is used. -/
theorem names_resolve (document : Document) (options : FrontendOptions)
    (valid : Frontend.dialect.problems document = .ok []) : ∃ d,
    DialectDocument.ofValue document.value = .ok d ∧
      Frontend.dialect.convert document options = Dialect.convert d options ∧
      ∀ depth, d.Short → d.Shallow depth → ∃ s c ids,
        (Dialect.convert d options depth).run.run {} = (.ok s, c) ∧
          Resolved d options.includeDeprecated s c ids := by
  obtain ⟨written, read⟩ := document_read valid
  have numbered : DialectDocument.ofValue document.value = .ok written.numbered := by
    simp only [DialectDocument.ofValue, read]
    rfl
  refine ⟨_, numbered, by simp only [Frontend.dialect, numbered], fun depth short shallow => ?_⟩
  obtain ⟨s, c, run, resolved⟩ :=
    DialectDocument.convert_resolves (DialectDocument.numbered_apart written) short shallow options
  exact ⟨s, c, _, run, resolved⟩

def treeDocument : Document := .ofValue <| .map [
  (.text "version", .scalar (.text "1")), (.text "baseUrl", .scalar (.text "u")),
  (.text "types", .list [.map [
    (.text "name", .scalar (.text "Tree")), (.text "kind", .scalar (.text "object")),
    (.text "properties", .list [
      .map [(.text "name", .scalar (.text "next")), (.text "type", .scalar (.text "Tree"))],
      .map [(.text "name", .scalar (.text "leaf")), (.text "type", .scalar (.text "Leaf"))],
      .map [(.text "name", .scalar (.text "size")), (.text "type", .scalar (.text "Integer"))],
      .map [(.text "name", .scalar (.text "gone")), (.text "type", .scalar (.text "Gone"))]])]]),
  (.text "endpoints", .list [.map [
    (.text "id", .scalar (.text "old")), (.text "method", .scalar (.text "post")),
    (.text "path", .scalar (.text "/old")), (.text "deprecated", .scalar (.bool true)),
    (.text "requestBody", .map [(.text "schema", .map [
      (.text "name", .scalar (.text "Leaf")), (.text "kind", .scalar (.text "primitive"))])])]])]

def treeOptions : FrontendOptions where
  providerId := "example"
  providerName := "Example"

theorem tree_names_resolve : Frontend.dialect.problems treeDocument = .ok [] ∧ ∃ d s c ids,
    DialectDocument.ofValue treeDocument.value = .ok d ∧
      (Frontend.dialect.convert treeDocument treeOptions).run.run {} = (.ok s, c) ∧
      Resolved d treeOptions.includeDeprecated s c ids ∧
      s.types.map (·.name) = ["Tree", "Leaf", "integer", "Gone"] := by
  have valid : Frontend.dialect.problems treeDocument = .ok [] := rfl
  have found : ((Frontend.dialect.convert treeDocument treeOptions).run.run {}).1.toOption.map
      (fun s => s.types.map (·.name)) = some ["Tree", "Leaf", "integer", "Gone"] := by decide +kernel
  have small : (DialectDocument.ofValue treeDocument.value).toOption.map
      (fun d => decide (d.Short ∧ d.definitions.length < usualDepth)) = some true := by decide +kernel
  obtain ⟨d, read, same, answers⟩ := names_resolve treeDocument treeOptions valid
  rw [read] at small
  obtain ⟨short, few⟩ := of_decide_eq_true (Option.some.inj small)
  obtain ⟨s, c, ids, run, resolved⟩ := answers usualDepth short (DialectDocument.shallow_of_few few)
  rw [← same] at run
  rw [run] at found
  exact ⟨valid, d, s, c, ids, read, run, resolved, Option.some.inj found⟩

def misuseOf {α : Type} : Except Fault α → Option Misuse
  | .error (.misuse misuse) => some misuse
  | _ => none

theorem stops_of_misuse {α : Type} {e : Except Fault α} {misuse : Misuse} (some : misuseOf e = some misuse) :
    e = .error (.misuse misuse) := by
  unfold misuseOf at some
  split at some
  · cases some
    rfl
  · cases some

def longDocument : Document := .ofValue <| .map [
  (.text "version", .scalar (.text "1")), (.text "baseUrl", .scalar (.text "u")),
  (.text "types", .list [.map [
    (.text "name", .scalar (.text "Long")), (.text "kind", .scalar (.text "enum")),
    (.text "values", .list [.map [(.text "value", .int (.ofNat (tenTo digitLimit)))]])]]),
  (.text "endpoints", .list [.map [
    (.text "id", .scalar (.text "get")), (.text "method", .scalar (.text "get")),
    (.text "path", .scalar (.text "/"))]])]

theorem long_enum_stops : Frontend.dialect.problems longDocument = .ok [] ∧
    ∃ c, (Frontend.dialect.convert longDocument treeOptions).run.run {} = (.error (.misuse .value), c) := by
  have valid : (Frontend.dialect.problems longDocument).toOption = some [] := by decide +kernel
  have stopped : misuseOf ((Frontend.dialect.convert longDocument treeOptions).run.run {}).1 = some .value := by
    decide +kernel
  generalize (Frontend.dialect.convert longDocument treeOptions).run.run {} = reached at stopped ⊢
  exact ⟨ok_of_option valid, reached.2, Prod.ext (stops_of_misuse stopped) rfl⟩

end ApiSchema.Dialect
