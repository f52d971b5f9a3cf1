import Mathlib.Data.List.Chain
import ApiSchema.Proofs.Dialect.Marks

namespace ApiSchema.Dialect

/-- The parts of a definition that are converted with it; values and properties decide before the kind
does. -/
def About.followed (about : About) (properties : List (Field × TypeSource))
    (items variants : List TypeSource) : List TypeSource :=
  if !knownKinds.contains about.kind then []
  else if about.kind == "enum" || about.values.isSome then []
  else if about.kind == "object" || about.hasProperties then properties.map (·.2)
  else if about.kind == "array" then items.take 1
  else if about.kind == "union" || about.hasVariants then variants
  else []

def TypeSource.followed : TypeSource → List TypeSource
  | .name _ => []
  | .definition about properties items variants => about.followed properties items variants

namespace DialectDocument

variable {d : DialectDocument} {c c' start : Context} {bad : Fault → Prop} {convert : Convert}
  {asked : TypeSource → Prop}

def meant (d : DialectDocument) : TypeSource → Option TypeSource
  | .name s => d.named.lookup s
  | source => some source

/-- Different definitions of the document, each asked for by a part of the one after it. -/
structure Nested (d : DialectDocument) (chain : List TypeSource) : Prop where
  listed : ∀ a ∈ chain, a ∈ d.definitions
  once : chain.Nodup
  inward : chain.IsChain fun inner outer => ∃ source ∈ outer.followed, d.meant source = some inner

def Shallow (d : DialectDocument) (depth : Nat) : Prop :=
  ∀ chain, d.Nested chain → chain.length < depth

theorem nested_inside {chain : List TypeSource} {inner : TypeSource} (nested : d.Nested chain)
    (listed : inner ∈ d.definitions) (new : inner ∉ chain)
    (wanted : ∀ outer ∈ chain.head?, ∃ source ∈ outer.followed, d.meant source = some inner) :
    d.Nested (inner :: chain) where
  listed := List.forall_mem_cons.mpr ⟨listed, nested.listed⟩
  once := nested.once.cons new
  inward := List.isChain_cons.mpr ⟨wanted, nested.inward⟩

theorem shallow_of_few {depth : Nat} (few : d.definitions.length < depth) : d.Shallow depth :=
  fun _ nested => Nat.lt_of_le_of_lt (List.subperm_of_subset nested.once nested.listed).length_le few

/-- What can be asked for inside a chain: a part of its first definition, or any type outside all. -/
def Asks (d : DialectDocument) (chain : List TypeSource) (source : TypeSource) : Prop :=
  d.Lists source ∧ ∀ outer ∈ chain.head?, source ∈ outer.followed

theorem lists_followed {t source : TypeSource} (listed : d.Lists t) (part : source ∈ t.followed) :
    d.Lists source := by
  cases t with
  | name s => cases part
  | definition about properties items variants =>
      change source ∈ about.followed properties items variants at part
      unfold About.followed at part
      split at part
      · cases part
      split at part
      · cases part
      split at part
      · obtain ⟨entry, member, rfl⟩ := List.mem_map.mp part
        exact lists_property listed member
      split at part
      · exact lists_item listed (List.mem_of_mem_take part)
      split at part
      · exact lists_variant listed part
      · cases part

def Converts (d : DialectDocument) (asked : TypeSource → Prop) (convert : Convert) (start : Context) :
    Prop :=
  ∀ c, start.Lasts c → ∀ source, asked source →
    (d.regime fun _ => False).Keeps c (convert source) fun id c' => d.idOf c' source = some id

theorem converts_later (converts : d.Converts asked convert start) (later : start.Lasts c) :
    d.Converts asked convert c :=
  fun c' further source may => converts c' (Context.lasts_trans later further) source may

theorem keeps_faultless {α : Type} {step : Conversion α} {post : α → Context → Prop}
    (kept : (d.regime fun _ => False).Keeps start step post) : (d.regime bad).Keeps start step post := by
  intro c sound later
  obtain ⟨sound', grown, outcome⟩ := kept c sound later
  refine ⟨sound', grown, ?_⟩
  generalize step.run.run c = reached at outcome ⊢
  rcases reached with ⟨answer, c'⟩
  cases answer with
  | error f => exact outcome.elim
  | ok a => exact outcome

theorem keeps_warn (message : String) :
    (d.regime bad).Keeps start (Conversion.warn message) fun _ _ => True := by
  refine Regime.keeps_modify fun c ⟨sound, reported⟩ _ => ⟨?_, ⟨?_, fun _ => Iff.rfl⟩, trivial⟩
  · exact ⟨sound_same sound rfl rfl rfl rfl, reported.once, reported.used⟩
  · exact ⟨Nat.le_refl _, fun _ _ => id, fun _ _ => id, fun _ _ => id, fun _ _ => id⟩

theorem keeps_record {issue : NodeIssue} (silent : reported? issue = none) :
    (d.regime bad).Keeps start (Conversion.record issue) fun _ _ => True :=
  Regime.keeps_modify fun c ⟨sound, reported⟩ _ =>
    ⟨⟨sound_record sound issue, reported_record reported silent⟩, record_grows c issue, trivial⟩

section Shapes

variable (converts : d.Converts asked convert start)
include converts

theorem keeps_reference {source : TypeSource} (may : asked source) :
    (d.regime bad).Keeps start (refTo convert source) fun ref c => d.idOf c source = some ref.typeId := by
  refine Regime.keeps_bind (keeps_faultless (converts start (Context.lasts_refl start) source may)) ?_
  exact fun id c _ held => Regime.keeps_pure fun c' later => slot_later later.1 held

theorem keeps_properties (properties : List (Field × TypeSource))
    (may : ∀ entry ∈ properties, asked entry.2) :
    (d.regime bad).Keeps start (propertiesFrom convert properties) fun made c =>
      List.Forall₂ (fun entry p => p.name = entry.1.name ∧ d.idOf c entry.2 = some p.type.typeId)
        properties made := by
  induction properties generalizing start with
  | nil => exact Regime.keeps_pure fun _ _ => .nil
  | cons entry rest ih =>
      obtain ⟨field, source⟩ := entry
      have first := converts start (Context.lasts_refl start) source (may (field, source) (by simp))
      refine Regime.keeps_bind (keeps_faultless first) fun id c later held => ?_
      refine Regime.keeps_bind (ih (converts_later converts later.1) fun e member =>
        may e (by simp [member])) fun made c₁ later₁ all => ?_
      refine Regime.keeps_pure fun c₂ later₂ => .cons ⟨rfl, ?_⟩ (all.imp fun _ _ ⟨name, held⟩ => ⟨name, ?_⟩)
      · exact slot_later later₂.1 (slot_later later₁.1 held)
      · exact slot_later later₂.1 held

omit converts in
theorem keeps_primitive (about : About) :
    (d.regime bad).Keeps start (buildPrimitive about) fun shape _ => ∃ kind, shape = .primitive kind none := by
  unfold buildPrimitive
  extract_lets keyword
  cases primitiveKinds.lookup keyword with
  | some kind => exact Regime.keeps_pure fun _ _ => ⟨kind, rfl⟩
  | none =>
      have quiet : reported? (.unknownKind (.text keyword) about.name) = none := rfl
      exact Regime.keeps_bind (keeps_record quiet) fun _ _ _ _ =>
        Regime.keeps_pure fun _ _ => ⟨.string, rfl⟩

omit converts in
theorem enum_printed {values : List EnumValue} (short : ∀ v ∈ values, v.value.toScalar.isShort = true) :
    enumOf values = .ok (.enum values (enumKindOf values)) := by
  rw [enumOf, printed, if_pos (List.all_eq_true.mpr short)]

omit converts in
theorem enum_built (short : d.Short) {about : About} {properties : List (Field × TypeSource)}
    {items variants : List TypeSource} (listed : d.Lists (.definition about properties items variants)) :
    ∃ values kind, buildEnum about = .ok (.enum values kind) := by
  refine ⟨_, _, enum_printed fun v member => ?_⟩
  obtain ⟨w, given, rfl⟩ := List.mem_map.mp member
  exact short _ (fixed_definition (definition_itself listed) given)

theorem keeps_object {properties : List (Field × TypeSource)} (items variants : List TypeSource)
    (may : ∀ source ∈ properties.map (·.2), asked source) (required : List String) :
    (d.regime bad).Keeps start
      (do return .reconciled (← propertiesFrom convert properties) required none none)
      fun shape c => ShapeAt (d.idOf c) properties items variants shape := by
  refine Regime.keeps_bind (keeps_properties converts properties fun entry member =>
    may _ (List.mem_map_of_mem member)) fun made c _ all => Regime.keeps_pure fun c' later => ⟨rfl, ?_⟩
  refine List.forall₂_map_right_iff.mpr (all.imp fun _ _ ⟨name, held⟩ => ⟨name, ?_⟩)
  exact slot_later later.1 held

theorem keeps_union {variants : List TypeSource} (properties : List (Field × TypeSource))
    (items : List TypeSource) (may : ∀ source ∈ variants, asked source) :
    (d.regime bad).Keeps start (do return .union (← variants.mapM (refTo convert)) none none)
      fun shape c => ShapeAt (d.idOf c) properties items variants shape := by
  have each : (d.regime bad).Keeps start (variants.mapM (refTo convert))
      fun made c => List.Forall₂ (fun source ref => d.idOf c source = some ref.typeId) variants made :=
    Regime.keeps_each variants (fun _ _ _ _ later held => slot_later later.1 held)
      fun source c later member => keeps_reference (converts_later converts later.1) (may source member)
  refine Regime.keeps_bind each fun made c _ all => Regime.keeps_pure fun c' later => ?_
  exact all.imp fun _ _ held => slot_later later.1 held

def Troubles (about : About) (items : List TypeSource) (f : Fault) : Prop :=
  ∃ issue, f = .node issue ∧ reported? issue = none ∧ Faulty about items

theorem keeps_shape (short : d.Short) {about : About} {properties : List (Field × TypeSource)}
    {items variants : List TypeSource}
    (listed : d.Lists (.definition about properties items variants))
    (may : ∀ source ∈ about.followed properties items variants, asked source) :
    (d.regime (Troubles about items)).Keeps start
      (buildShape convert about properties items variants) fun shape c =>
        ShapeAt (d.idOf c) properties items variants shape := by
  unfold buildShape
  unfold About.followed at may
  split
  next unknown => exact Regime.keeps_throw ⟨_, rfl, rfl, .inl (by simpa using unknown)⟩
  next known =>
  rw [if_neg known] at may
  split
  · obtain ⟨values, kind, built⟩ := enum_built short listed
    rw [built]
    exact Regime.keeps_pure fun _ _ => trivial
  next open_ =>
  rw [if_neg open_] at may
  split
  next object =>
    rw [if_pos object] at may
    exact keeps_object converts items variants may _
  next other =>
  rw [if_neg other] at may
  split
  next array =>
    rw [if_pos array] at may
    split
    · refine Regime.keeps_bind (keeps_reference converts (may _ (by simp)))
        fun ref c _ held => Regime.keeps_pure fun c' later => ⟨_, _, rfl, slot_later later.1 held⟩
    · exact Regime.keeps_throw ⟨_, rfl, rfl, .inr ⟨by simpa using array, rfl⟩⟩
  next single =>
  rw [if_neg single] at may
  split
  next union =>
    rw [if_pos union] at may
    exact keeps_union converts properties items may
  · exact Regime.keeps_weaken (keeps_primitive about) fun shape c _ ⟨kind, same⟩ => by
      rw [same]
      trivial

end Shapes

section Names

theorem named_first {s : String} {first : TypeSource} (found : d.named.lookup s = some first) :
    first ∈ d.definitions ∧ first.isNamed s = true := by
  rw [named, first_found] at found
  exact ⟨List.mem_of_find?_eq_some found, List.find?_some found⟩

theorem named_definition {s : String} {first : TypeSource} (found : d.named.lookup s = some first) :
    ∃ about properties items variants, first = .definition about properties items variants ∧
      about.name = s := by
  obtain ⟨_, same⟩ := named_first found
  cases first with
  | name s => cases same
  | definition about properties items variants =>
      exact ⟨about, properties, items, variants, rfl, by simpa [TypeSource.isNamed] using same⟩

theorem mark_first {s : String} {first : TypeSource} (found : d.named.lookup s = some first) :
    d.markOf (.name s) = d.markOf first := by
  obtain ⟨about, properties, items, variants, rfl, _⟩ := named_definition found
  simp [markOf, found, TypeSource.number?]

theorem mark_keyword {s : String} (nothing : d.named.lookup s = none) {kind : PrimitiveKind}
    (primitive : primitiveKinds.lookup (Text.lowerText s) = some kind) :
    d.markOf (.name s) = .keyword (Text.lowerText s) := by
  simp [markOf, nothing, primitive]

theorem mark_unknown {s : String} (nothing : d.named.lookup s = none)
    (other : primitiveKinds.lookup (Text.lowerText s) = none) : d.markOf (.name s) = .unknown s := by
  simp [markOf, nothing, other]

theorem keeps_unnamed {s : String} (nothing : d.named.lookup s = none) :
    (d.regime fun _ => False).Keeps start (unnamedId s) fun id c => d.idOf c (.name s) = some id := by
  unfold unnamedId idOf
  extract_lets keyword
  cases primitive : primitiveKinds.lookup keyword with
  | none =>
      rw [mark_unknown nothing primitive]
      exact keeps_unknown nothing primitive
  | some kind =>
      rw [mark_keyword nothing primitive]
      have keyed : d.KeyOf (.keyword keyword) { pointer := some ("primitive:" ++ keyword) } := rfl
      refine keeps_resolve keyed (fun _ same => by cases same) (fun c _ _ => ?_)
        (fun f (impossible : False) => impossible.elim)
      exact Regime.keeps_pure fun c' _ => ⟨rfl, kind, primitive, rfl⟩

end Names

section Definitions

variable (distinct : d.Apart) (short : d.Short) {about : About}
  {properties : List (Field × TypeSource)} {items variants : List TypeSource}
include distinct

theorem key_definition (listed : .definition about properties items variants ∈ d.definitions)
    {reference : Option String} (refers : ∀ r, reference = some r ↔ r = nameReference about.name ∧
      d.named.lookup about.name = some (.definition about properties items variants)) :
    d.KeyOf (.number about.number) { node := some about.number, reference } := by
  refine ⟨rfl, rfl, fun r => ⟨fun same => ?_, ?_⟩⟩
  · obtain ⟨rfl, found⟩ := (refers r).mp same
    exact ⟨about.name, _, found, rfl, rfl⟩
  · rintro ⟨s, first, found, numbered, rfl⟩
    obtain ⟨member, named⟩ := named_first found
    cases distinct.definitions first member _ listed about.number numbered rfl
    have name : about.name = s := by simpa [TypeSource.isNamed] using named
    exact (refers _).mpr ⟨name ▸ rfl, name ▸ found⟩

theorem definition_number (listed : .definition about properties items variants ∈ d.definitions)
    {about' : About} {properties' : List (Field × TypeSource)} {items' variants' : List TypeSource}
    (member : .definition about' properties' items' variants' ∈ d.definitions) :
    about'.number = about.number ↔ TypeSource.definition about' properties' items' variants' =
      .definition about properties items variants := by
  refine ⟨fun same => ?_, fun same => by cases same; rfl⟩
  exact distinct.definitions _ member _ listed about.number (by simp [TypeSource.number?, same]) rfl

theorem made_definition (listed : .definition about properties items variants ∈ d.definitions)
    {t : TypeDefinition} (defined : DefinedAs (d.idOf c) about properties items variants t) :
    d.Made c (.number about.number) t := by
  refine ⟨fun about' properties' items' variants' member same => ?_, fun nobody => absurd rfl (nobody _ listed)⟩
  cases (definition_number distinct listed member).mp same
  exact defined

include short

theorem keeps_definition (listed : d.Lists (.definition about properties items variants))
    (may : ∀ source ∈ about.followed properties items variants, asked source)
    (inner : ∀ c, start.Lasts c → d.slot c (.number about.number) = none → ∀ key,
      d.KeyOf (.number about.number) key → d.Converts asked convert (begun c key)) :
    (d.regime fun _ => False).Keeps start
      (definitionId d.named convert about properties items variants) fun id c =>
        d.idOf c (.definition about properties items variants) = some id := by
  have itself := definition_itself listed
  unfold definitionId
  extract_lets isFirst reference
  have keyed : d.KeyOf (.number about.number) { node := some about.number, reference } := by
    refine key_definition distinct itself fun r => ?_
    cases found : d.named.lookup about.name with
    | none => simp [reference, isFirst, found]
    | some first =>
        obtain ⟨about', properties', items', variants', rfl, _⟩ := named_definition found
        have same := definition_number distinct itself (named_first found).1
        simp only [reference, isFirst, found, Option.some.injEq, ← same]
        by_cases number : about'.number = about.number
        · simp only [number, BEq.rfl, if_true, Option.some.injEq, and_true]
          exact eq_comm
        · simp [number]
  have built (c : Context) (later : (d.regime fun _ => False).grows start c)
      (absent : d.slot c (.number about.number) = none) :
      (d.regime (Troubles about items)).Keeps (begun c { node := some about.number, reference })
        (do
          let shape ← buildShape convert about properties items variants
          return { id := c.allocate.1, name := about.name, description := about.description
                   deprecated := about.deprecated, shape })
        fun t c' => t.id = c.allocate.1 ∧ d.Made c' (.number about.number) t := by
    refine Regime.keeps_bind (keeps_shape (inner c later.1 absent _ keyed) short listed may)
      fun shape c₁ _ held => ?_
    refine Regime.keeps_pure fun c₂ later₂ => ⟨rfl, made_definition distinct itself ⟨rfl, .inr ?_⟩⟩
    exact shape_at_later later₂.1 held
  refine keeps_resolve keyed (fun _ same => by cases same) built ?_
  rintro f ⟨issue, rfl, silent, faulty⟩
  refine ⟨issue, rfl, silent, fun id c' => made_definition distinct itself ?_⟩
  exact ⟨rfl, .inl ⟨faulty, issue, rfl⟩⟩

-- Induction on the levels that are left: a definition that is built has no slot, so it is not one of
-- those around it, which have one.
theorem within_converts {depth : Nat} (shallow : d.Shallow depth) (levels : Nat)
    {chain : List TypeSource} (nested : d.Nested chain) (enough : chain.length + levels = depth)
    (noted : ∀ a ∈ chain, (d.idOf start a).isSome) :
    d.Converts (d.Asks chain) (convertWithin d.named levels) start := by
  induction levels generalizing start chain with
  | zero => exact absurd (shallow chain nested) (by omega)
  | succ levels ih =>
      have definition (c : Context) (later : start.Lasts c) {about : About}
          {properties : List (Field × TypeSource)} {items variants : List TypeSource}
          (member : .definition about properties items variants ∈ d.definitions)
          (wanted : ∀ outer ∈ chain.head?, ∃ source ∈ outer.followed,
            d.meant source = some (.definition about properties items variants)) :
          (d.regime fun _ => False).Keeps c
            (definitionId d.named (convertWithin d.named levels) about properties items variants)
            fun id c => d.idOf c (.definition about properties items variants) = some id := by
        have listed := lists_definition member
        have may (source : TypeSource) (part : source ∈ about.followed properties items variants) :
            d.Asks (.definition about properties items variants :: chain) source :=
          ⟨lists_followed listed part, fun _ last => Option.some.inj last ▸ part⟩
        refine keeps_definition distinct short listed may fun c' further absent key keyed => ?_
        have lasting := Context.lasts_trans later further
        have new : TypeSource.definition about properties items variants ∉ chain := by
          intro around
          obtain ⟨id, held⟩ := Option.isSome_iff_exists.mp (noted _ around)
          cases absent.symm.trans (slot_later lasting held)
        refine ih (nested_inside nested member new wanted) (by simp only [List.length_cons]; omega) ?_
        intro a around
        obtain rfl | older := List.mem_cons.mp around
        · exact Option.isSome_iff_exists.mpr ⟨_, (begun_slot keyed absent _).trans (if_pos rfl)⟩
        · obtain ⟨id, held⟩ := Option.isSome_iff_exists.mp (noted a older)
          exact Option.isSome_iff_exists.mpr
            ⟨id, slot_later (begun_lasts c' key) (slot_later lasting held)⟩
      intro c later source ⟨listed, part⟩
      cases source with
      | definition about properties items variants =>
          exact definition c later (definition_itself listed) fun outer last => ⟨_, part outer last, rfl⟩
      | name s =>
          simp only [convertWithin]
          cases found : d.named.lookup s with
          | none => exact keeps_unnamed found
          | some first =>
              obtain ⟨about, properties, items, variants, rfl, _⟩ := named_definition found
              unfold idOf
              rw [mark_first found]
              exact definition c later (named_first found).1 fun outer last =>
                ⟨.name s, part outer last, found⟩

theorem convert_types {depth : Nat} (shallow : d.Shallow depth) :
    d.Converts d.Lists (convertWithin d.named depth) {} := by
  have none : d.Nested [] := ⟨by simp, List.nodup_nil, .nil⟩
  intro c later source listed
  exact within_converts distinct short shallow depth none (by simp) (by simp) c later source
    ⟨listed, by simp⟩

end Definitions

end DialectDocument

end ApiSchema.Dialect
