import ApiSchema.Proofs.OpenApi.Builders

namespace ApiSchema.OpenApi

open Regime

/-- A node that the object of a node is composed of requires a name that it spells as bytes. -/
def SpelledInBytes (d : Document) (node : Item) (name : String) : Prop :=
  ∃ id ∈ composedNodes d node, ∃ bytes, Demands d id (.scalar (.bytes bytes)) ∧
    Check.textOfBytes bytes = .ok name

structure Built (d : Document) (given : Given) (node : Item) (entries : Entries) (id : String)
    (t : TypeDefinition) : Prop where
  id : t.id = id
  bare : t.metadata = none
  parts : ShapeAt d given node entries t.shape
  flags : t.shape.FlagsAgreeSave (SpelledInBytes d node)

section Shapes

variable {R : Regime Context Fault} {given : Part → String → Context → Prop} {start : Context} {s : Scope}
  {convert : Convert}

theorem additional_of_kept (able : Converts R given start s convert) (entries : Entries)
    (name : String) :
    R.Keeps start (additionalOf s convert entries name) fun additional c =>
      AdditionalAt (given · · c) (fieldOf entries "additionalProperties") additional := by
  unfold additionalOf
  simp only
  split
  · exact keeps_pure fun _ _ _ same => by cases same
  · refine keeps_bind (type_ref_of_kept able _ _ _) fun ref c _ known => ?_
    refine keeps_pure fun c' later ref' same => ?_
    cases same
    exact able.lasting _ _ c c' later known
  · exact keeps_pure fun _ _ _ same => by cases same
  · exact keeps_pure fun _ _ _ same => by cases same

theorem marked_parts {given : Given} {entries : Entries} {properties : List (Scalar × Property)}
    (agree : List.Forall₂ (fun entry p => entry.1 = p.1 ∧ PropertyAt given entry p.2) entries
      properties) (required : List Value) :
    List.Forall₂ (PropertyAt given) entries
      ((properties.map Prod.snd).map (·.markedBy required)) := by
  rw [List.map_map, List.forall₂_map_right_iff]
  exact agree.imp fun entry p same => same.2

theorem build_object_kept (able : Converts R given start s convert) (id : String) (node : Item)
    (entries : Entries) (name : String) :
    R.Keeps start (buildObject s convert id node entries name) fun t c =>
      Built s.document (given · · c) node entries id t := by
  unfold buildObject
  have empty : Agrees s.document (given · · start) ([], []) {} := ⟨.nil, rfl, nofun⟩
  refine keeps_bind (gather_kept _ able node name false _ _ start (R.refl start) empty) ?_
  intro result c later agree
  have able' := converts_later able later
  refine keeps_bind (additional_of_kept able' entries name) fun additional c' later' further => ?_
  have able'' := converts_later able' later'
  refine keeps_weaken (tame_kept able'' object_of_tame) ?_
  intro t c'' later'' made
  obtain ⟨same, bare, names, discriminator, shaped, texts⟩ := object_read made
  refine ⟨same, bare, ?_, ?_⟩
  · rw [shaped]
    refine ⟨marked_parts ?_ _, ?_⟩
    · exact (agrees_later able (R.trans later' later'') agree).properties
    · exact fun ref held => able.lasting _ _ c' c'' later'' (further ref held)
  · rw [shaped]
    refine object_flags texts fun b _ declared spells => ?_
    obtain ⟨n, inside, demands⟩ := agree.required _ declared
    exact ⟨n, inside, b, demands, spells⟩

theorem build_array_kept (able : Converts R given start s convert) (id : String) (node : Item)
    (entries : Entries) (name : String) :
    R.Keeps start (buildArray s convert id entries name) fun t c =>
      Built s.document (given · · c) node entries id t := by
  unfold buildArray
  simp only
  split
  · have stopped : R.Keeps start (throw (.node (.noItems name))) fun (_ : Unit) _ => False :=
      keeps_throw (able.faults _ ⟨name, rfl⟩)
    exact keeps_bind stopped fun _ _ _ impossible => impossible.elim
  · refine keeps_bind (type_ref_of_kept able _ _ _) fun ref c later known => ?_
    have able' := converts_later able later
    refine keeps_weaken (checked_kept able' fun t => array_ok) ?_
    rintro t c' later' ⟨same, bare, least, most, unique, shaped⟩
    refine ⟨same, bare, ?_, ?_⟩
    · rw [shaped]
      exact able.lasting _ _ c c' later' known
    · rw [shaped]
      trivial

theorem variants_from_kept (able : Converts R given start s convert) (name : String) (index : Nat)
    (nodes : List Item) :
    R.Keeps start (variantsFrom s convert name index nodes) fun refs c =>
      List.Forall₂ (fun x (ref : TypeRef) => given (.node x) ref.typeId c) nodes refs := by
  induction nodes generalizing index start with
  | nil => exact keeps_pure fun _ _ => .nil
  | cons node rest ih =>
      unfold variantsFrom
      refine keeps_bind (type_ref_of_kept able _ _ _) fun ref c later known => ?_
      refine keeps_bind (ih (converts_later able later) (index + 1)) fun refs c' later' all => ?_
      refine keeps_pure fun c'' later'' => .cons ?_ ?_
      · exact able.lasting _ _ c c'' (R.trans later' later'') known
      · exact all.imp fun x ref held => able.lasting _ _ c' c'' later'' held

theorem put_name_parts {given : Given} {named : List (String × String)}
    {ids : List (String × String)} (each : List.Forall₂ (MappingAt given) named ids)
    {name target id : String} (known : given (.name (mappingReference target)) id) :
    List.Forall₂ (MappingAt given) (mappingOf.putName named name target)
      (mappingOf.putName ids name id) := by
  induction each with
  | nil => exact .cons ⟨rfl, known⟩ .nil
  | @cons entry held _ _ same rest ih =>
      obtain ⟨key, value⟩ := entry
      obtain ⟨key', value'⟩ := held
      obtain ⟨rfl, held⟩ := same
      simp only [mappingOf.putName]
      split
      · exact .cons ⟨rfl, known⟩ rest
      · exact .cons ⟨rfl, held⟩ ih

theorem mapping_of_kept (able : Converts R given start s convert) (pairs : Entries)
    (named sofar : List (String × String))
    (each : List.Forall₂ (MappingAt (given · · start)) named sofar) :
    R.Keeps start (mappingOf s convert sofar pairs) fun ids c =>
      List.Forall₂ (MappingAt (given · · c)) (mappingNames named pairs) ids := by
  have lasting : ∀ {c c' : Context} {named sofar : List (String × String)}, R.grows c c' →
      List.Forall₂ (MappingAt (given · · c)) named sofar →
      List.Forall₂ (MappingAt (given · · c')) named sofar :=
    fun later each => each.imp fun _ _ held => ⟨held.1, able.lasting _ _ _ _ later held.2⟩
  induction pairs generalizing start named sofar with
  | nil => exact keeps_pure fun c later => lasting later each
  | cons pair rest ih =>
      obtain ⟨key, item⟩ := pair
      unfold mappingOf mappingNames
      cases item.text? with
      | none => exact ih able named sofar each
      | some name =>
          refine tame_step able printed_tame fun _ shown => ?_
          refine keeps_bind (able.names _) fun id c later known => ?_
          rw [printed_text shown]
          exact ih (converts_later able later) _ _ (put_name_parts (lasting later each) known)

theorem build_union_kept (able : Converts R given start s convert) (id : String) (node : Item)
    (entries : Entries) (name : String) :
    R.Keeps start (buildUnion s convert id entries name) fun t c =>
      Built s.document (given · · c) node entries id t := by
  unfold buildUnion
  refine keeps_bind (variants_from_kept able name 0 _) fun variants c₁ later₁ each => ?_
  have able₁ := converts_later able later₁
  refine keeps_bind (discriminator_of_kept able₁ _ _ _) fun fields c₂ later₂ declared => ?_
  have able₂ := converts_later able₁ later₂
  extract_lets property finish
  have finished : ∀ mapping c₃, R.grows c₂ c₃ →
      List.Forall₂ (MappingAt (given · · c₃)) (declaredMapping s.graph entries) mapping →
      R.Keeps c₃ (finish mapping) fun t c => Built s.document (given · · c) node entries id t := by
    intro mapping c₃ later₃ mapped
    refine checked_step (converts_later able₂ later₃) (fun t => plain_type_ok) ?_
    rintro t ⟨same, bare⟩
    refine keeps_pure fun c₄ later₄ => ⟨same, bare, ⟨?_, ?_⟩, trivial⟩
    · have grown := R.trans later₂ (R.trans later₃ later₄)
      exact each.imp fun x ref held => able.lasting _ _ c₁ c₄ grown held
    · have held : List.Forall₂ (MappingAt (given · · c₄)) (declaredMapping s.graph entries) mapping :=
        mapped.imp fun _ _ held => ⟨held.1, able.lasting _ _ c₃ c₄ later₄ held.2⟩
      cases mapping with
      | nil => exact held
      | cons => exact held
  rw [declaredMapping, ← declared] at finished
  cases found : s.graph.entries? (fieldOf fields "mapping") with
  | none =>
      rw [found] at finished
      exact finished [] c₂ (R.refl c₂) .nil
  | some pairs =>
      rw [found] at finished
      refine keeps_bind (mapping_of_kept able₂ pairs [] [] .nil) fun mapping c₃ later₃ mapped => ?_
      exact finished mapping c₃ later₃ mapped

theorem build_enum_kept (able : Converts R given start s convert) (id : String) (node : Item)
    (entries : Entries) (name : String) :
    R.Keeps start (buildEnum s id entries name) fun t c =>
      Built s.document (given · · c) node entries id t := by
  unfold buildEnum
  extract_lets g finish
  have finished (raw : List Item) :
      R.Keeps start (finish raw) fun t c => Built s.document (given · · c) node entries id t := by
    refine tame_step able printed_tame fun values _ => checked_step able (fun t => plain_type_ok) ?_
    rintro t ⟨same, bare⟩
    exact keeps_pure fun _ _ => ⟨same, bare, trivial, trivial⟩
  cases lookup? entries (.text "enum") with
  | none => exact finished _
  | some items => exact tame_step able items_or_none_tame fun raw _ => finished raw

theorem build_primitive_kept (able : Converts R given start s convert) (id : String) (node : Item)
    (entries : Entries) (name : String) :
    R.Keeps start (buildPrimitive s id entries name) fun t c =>
      Built s.document (given · · c) node entries id t := by
  unfold buildPrimitive
  extract_lets g declared finish choose
  have finished : ∀ kind c, R.grows start c →
      R.Keeps c (finish kind) fun t c => Built s.document (given · · c) node entries id t := by
    intro kind c later
    have able' := converts_later able later
    refine keeps_bind (constraints_of_kept able' g entries name) fun limits c' later' _ => ?_
    refine checked_step (converts_later able' later') (fun t => primitive_ok) ?_
    rintro t ⟨same, bare⟩
    exact keeps_pure fun _ _ => ⟨same, bare, trivial, trivial⟩
  have chosen : R.Keeps start (choose ()) fun t c =>
      Built s.document (given · · c) node entries id t := by
    simp only [choose]
    cases declared.text?.bind fun t => primitiveKinds.lookup t with
    | none =>
        refine keeps_bind (note_issue_kept able printed_tame) fun _ c later _ => ?_
        exact finished .string c later
    | some kind => exact finished kind start (R.refl start)
  split
  · have stopped : R.Keeps start (throw (.misuse .kind)) fun (_ : Unit) _ => False :=
      keeps_throw (able.faults _ trivial)
    exact keeps_bind stopped fun _ _ _ impossible => impossible.elim
  · exact chosen

theorem build_kept (able : Converts R given start s convert) (id : String) (node : Item)
    (entries : Entries) (name : String) :
    R.Keeps start (build s convert id node entries name) fun t c =>
      Built s.document (given · · c) node entries id t := by
  unfold build
  simp only
  split
  · exact build_enum_kept able id node entries name
  · split
    · exact build_object_kept able id node entries name
    · split
      · exact build_array_kept able id node entries name
      · split
        · exact build_union_kept able id node entries name
        · exact build_primitive_kept able id node entries name

end Shapes

end ApiSchema.OpenApi
