import ApiSchema.Proofs.OpenApi.Dropped
import ApiSchema.Proofs.OpenApi.Limits
import ApiSchema.Proofs.OpenApi.Matching

namespace ApiSchema.OpenApi

def ignored (name : String) (entry : String × Value) : String :=
  "Ignoring invalid '" ++ entry.1 ++ "' on '" ++ name ++ "': " ++ entry.2.literal

/-- A warning about the keyword of the node. -/
def Noted (d : Document) (n : Nat) (k message : String) : Prop :=
  ∃ entries name, d.graph.entries? (.node n) = some entries ∧
    message = ignored name (k, d.graph.value (fieldOf entries k))

/-- What the node holds under the keyword is refused by its field. -/
def Malformed (d : Document) (n : Nat) (k : String) : Prop :=
  ∀ entries field, d.graph.entries? (.node n) = some entries → (k, field) ∈ keywords →
    (d.graph.value (fieldOf entries k)).isNull = false ∧
      soundConstraint field (d.graph.value (fieldOf entries k)) = false

/-- What the node holds under the keyword can be written out, should its field refuse it. -/
def Told (d : Document) (n : Nat) (k : String) : Prop :=
  ∀ entries field, d.graph.entries? (.node n) = some entries → (k, field) ∈ keywords →
    soundConstraint field (d.graph.value (fieldOf entries k)) = false →
      (d.graph.value (fieldOf entries k)).isShort = true

/-- Two documents to run on, of which one lacks a keyword. Constraints are looked at if it is malformed. -/
structure Sides (d e : Document) (n : Nat) (k : String) (see : Option Constraints → Option Constraints) :
    Prop extends Drops d e n k where
  blind : (∀ a b, see a = see b) ∨ Malformed d n k
  told : Told d n k

def Linked (e : Document) (reference : String) : Prop :=
  ∃ role item, Acts e role item ∧ (.schema, reference) ∈ role.links e.graph item

structure Answered (d e : Document) (n : Nat) (k : String) (see : Option Constraints → Option Constraints)
    (convert convert' : Convert) : Prop where
  nodes : ∀ trail item name reference pointer, Acts e .schema item →
    InStep (Matched see (Noted d n k)) (convert trail (.node item name reference pointer))
      (convert' trail (.node item name reference pointer)) Eq
  names : ∀ trail reference, Linked e reference →
    InStep (Matched see (Noted d n k)) (convert trail (.reference reference))
      (convert' trail (.reference reference)) Eq

section Reads

variable {d e : Document} {n : Nat} {k : String} (drops : Drops d e n k)
variable {role : Role} {item : Item} {entries entries' : Entries}
include drops

theorem map_cases (acts : Acts e role item) :
    (e.graph.entries? item = none ∧ d.graph.entries? item = none) ∨
      ∃ entries entries', e.graph.entries? item = some entries ∧ d.graph.entries? item = some entries' ∧
        Spared d e role entries entries' := by
  have spared := entries_spared drops acts
  generalize e.graph.entries? item = mine at spared ⊢
  generalize d.graph.entries? item = other at spared ⊢
  cases spared with
  | none => exact .inl ⟨rfl, rfl⟩
  | some held => exact .inr ⟨_, _, rfl, rfl, held⟩

-- A field that is data.
theorem plain_alike (spared : Spared d e role entries entries') (name : String)
    (other : name ∉ keywords.map Prod.fst) (listed : (name, .data) ∈ role.fields) :
    d.graph.value (fieldOf entries' name) = e.graph.value (fieldOf entries name) := by
  rw [field_alike drops spared name other, value_alike drops (spared_acts spared listed)]

theorem notes_alike (spared : Spared d e role entries entries')
    (described : ("description", .data) ∈ role.fields) (deprecated : ("deprecated", .data) ∈ role.fields) :
    notes d.graph entries' = notes e.graph entries := by
  simp only [notes, plain_alike drops spared _ (by decide) described,
    plain_alike drops spared _ (by decide) deprecated]

theorem default_alike (spared : Spared d e .schema entries entries') :
    declaredDefault d.graph entries' = declaredDefault e.graph entries := by
  have acts := spared_acts spared (by decide : ("default", .data) ∈ Role.schema.fields)
  unfold declaredDefault
  unfold fieldOf at acts
  rw [lookup_alike drops spared _ (by decide)]
  cases found : lookup? entries (.text "default") with
  | none => rfl
  | some value =>
      rw [found] at acts
      exact congrArg some (value_alike drops acts)

theorem type_alike (spared : Spared d e .schema entries entries') :
    declaredType d.graph entries' = declaredType e.graph entries := by
  have acts := spared_acts spared (by decide : ("type", .data) ∈ Role.schema.fields)
  simp only [declaredType, field_alike drops spared "type" (by decide),
    items_alike drops acts]

omit drops in
-- The declared type is data too.
theorem type_acts (spared : Spared d e .schema entries entries') :
    Acts e .data (declaredType e.graph entries) := by
  have acts := spared_acts spared (by decide : ("type", .data) ∈ Role.schema.fields)
  unfold declaredType
  simp only
  split
  · exact acts
  next types listed =>
    obtain ⟨cell, is, inner⟩ :
        ∃ cell, e.graph.of? (fieldOf entries "type") = some cell ∧ cell.parts = types := by
      unfold Graph.items? at listed
      split at listed
      next is => cases listed; exact ⟨_, is, rfl⟩
      next => cases listed
    split
    next first found =>
      exact acts_each acts is rfl (inner ▸ List.mem_of_find?_eq_some found)
    next => split <;> exact .scalar _ _

theorem admits_alike (acts : Acts e .schema item) : admitsNull d.graph item = admitsNull e.graph item := by
  unfold admitsNull
  obtain ⟨none_, none'⟩ | ⟨entries, entries', map, map', spared⟩ := map_cases drops acts
  · rw [none_, none']
  · have types := spared_acts spared (by decide : ("type", .data) ∈ Role.schema.fields)
    rw [map, map']
    simp only [field_alike drops spared "nullable" (by decide),
      field_alike drops spared "type" (by decide), items_alike drops types]

end Reads

section Limits

variable {d e : Document} {n : Nat} {k : String} {see : Option Constraints → Option Constraints}
variable {entries entries' : Entries}

theorem lookup_dropped (k : String) (entries : Entries) : lookup? (without k entries) (.text k) = none := by
  unfold lookup?
  rw [Option.map_eq_none_iff, List.find?_eq_none]
  intro entry member same
  have other := (List.mem_filter.mp member).2
  simp [same_of_text rfl same] at other

-- Under a keyword both have one value, or it is the keyword that was dropped.
theorem keyword_cases (drops : Drops d e n k) (spared : Spared d e .schema entries entries')
    {keyword : String} (known : keyword ∈ keywords.map Prod.fst) :
    d.graph.value (fieldOf entries' keyword) = e.graph.value (fieldOf entries keyword) ∨
      keyword = k ∧ d.graph.entries? (.node n) = some entries' ∧
        e.graph.value (fieldOf entries keyword) = .null := by
  have listed : (keyword, .data) ∈ Role.schema.fields :=
    (by decide : ∀ keyword ∈ keywords.map Prod.fst, (keyword, Role.data) ∈ Role.schema.fields) keyword known
  have same := value_alike drops (spared_acts spared listed)
  obtain rfl | ⟨less, here⟩ := spared_cases drops spared
  · exact .inl same
  · by_cases dropped : keyword = k
    · subst dropped
      refine .inr ⟨rfl, here, ?_⟩
      rw [less, fieldOf, lookup_dropped]
      rfl
    · refine .inl ?_
      rw [← same, less, fieldOf, fieldOf, lookup_without dropped]

theorem readable_alike (drops : Drops d e n k) (malformed : Malformed d n k)
    (spared : Spared d e .schema entries entries') :
    readable d.graph entries' keywords = readable e.graph entries keywords := by
  refine List.filterMap_congr fun ⟨keyword, field⟩ member => ?_
  obtain same | ⟨rfl, here, gone⟩ := keyword_cases drops spared (List.mem_map_of_mem member)
  · simp only [same]
  · obtain ⟨given, refused⟩ := malformed entries' field here member
    simp [refused, gone, Value.isNull]

-- A warning that one document gives, and the other does not.
theorem in_step_ignored {α β : Type} {name : String} {v : Value} (here : d.graph.entries? (.node n) = some entries')
    (held : d.graph.value (fieldOf entries' k) = v) (short : v.isShort = true) {x : Conversion α}
    {y : Conversion β} {post : α → β → Prop} (next : InStep (Matched see (Noted d n k)) x y post) :
    InStep (Matched see (Noted d n k)) x
      (warnOf (do return "Ignoring invalid '" ++ k ++ "' on '" ++ name ++ "': " ++ (← v.spelled)) >>=
        fun _ => y) post := by
  have said : warnOf (do return "Ignoring invalid '" ++ k ++ "' on '" ++ name ++ "': " ++ (← v.spelled)) =
      Conversion.warn (ignored name (k, v)) := by
    rw [Value.spelled, short]
    rfl
  intro c c' matched
  rw [said, run_bind]
  refine next c _ { matched with warnings := ?_ }
  have more : Padded (Noted d n k) [] [ignored name (k, v)] :=
    .more ⟨entries', name, here, by rw [held]⟩ .nil
  rw [← List.append_nil c.warnings]
  exact padded_append matched.warnings more

theorem keywords_in_step (sides : Sides d e n k see) (spared : Spared d e .schema entries entries')
    (name : String) (words : List (String × String)) (known : words ⊆ keywords) :
    InStep (Matched see (Noted d n k)) (soundKeywords e.graph entries name words)
      (soundKeywords d.graph entries' name words) fun fields fields' =>
        fields = readable e.graph entries words ∧ fields' = readable d.graph entries' words := by
  induction words with
  | nil => exact in_step_pure ⟨rfl, rfl⟩
  | cons word rest ih =>
      obtain ⟨keyword, field⟩ := word
      obtain ⟨first, others⟩ := List.cons_subset.mp known
      have later := ih others
      unfold soundKeywords
      simp only [readable_cons]
      obtain same | ⟨rfl, here, gone⟩ := keyword_cases sides.toDrops spared (List.mem_map_of_mem first)
      · rw [same]
        split
        next null => simpa [null] using later
        next given =>
          split
          next sound =>
            refine in_step_bind later fun fields fields' held => in_step_pure ?_
            simp [given, sound, held.1, held.2]
          next unsound =>
            refine in_step_on (in_step_warn_of _) fun _ => ?_
            simpa [unsound] using later
      -- Under the keyword that was dropped there is nothing to warn of, and what is there may be refused.
      · have absent : (Value.null).isNull = true := rfl
        rw [gone, if_pos absent]
        simp only [absent, Bool.not_true, Bool.false_and, Bool.false_eq_true, if_false, List.nil_append]
        split
        next null => simpa [null] using later
        next given =>
          split
          next sound =>
            rw [← bind_pure (soundKeywords e.graph entries name rest)]
            refine in_step_bind later fun fields fields' held => in_step_pure ?_
            simp [given, sound, held.1, held.2]
          next unsound =>
            have short := sides.told _ _ here first (by simpa using unsound)
            refine in_step_ignored here rfl short ?_
            simpa [unsound] using later

theorem constraints_in_step (sides : Sides d e n k see) (spared : Spared d e .schema entries entries')
    (name : String) :
    InStep (Matched see (Noted d n k)) (constraintsOf e.graph entries name)
      (constraintsOf d.graph entries' name) fun limits limits' => see limits' = see limits := by
  refine in_step_bind (keywords_in_step sides spared name keywords (List.Subset.refl _)) ?_
  rintro _ _ ⟨rfl, rfl⟩
  obtain ⟨limits, made⟩ := limits_made (readable_sound e.graph entries keywords)
  obtain ⟨limits', made'⟩ := limits_made (readable_sound d.graph entries' keywords)
  rw [made, made']
  refine in_step_pure ?_
  -- What can be read differs only where the keyword is sound, and then constraints are not looked at.
  obtain blind | malformed := sides.blind
  · exact blind _ _
  · rw [readable_alike sides.toDrops malformed spared, made] at made'
    exact congrArg see (Except.ok.inj made').symm

end Limits

structure Gathered.Alike (see : Option Constraints → Option Constraints) (a b : Gathered) : Prop where
  properties : b.properties.map (fun p => (p.1, p.2.seen see)) =
    a.properties.map fun p => (p.1, p.2.seen see)
  required : b.required = a.required
  seen : b.seen = a.seen

def GathersAlike (d e : Document) (n : Nat) (k : String) (see : Option Constraints → Option Constraints)
    (gather gather' : Gather) : Prop :=
  ∀ node owner optional (a b : Gathered), Acts e .schema node → a.Alike see b →
    InStep (Matched see (Noted d n k)) (gather node owner optional a) (gather' node owner optional b)
      fun x y => x.1.Alike see y.1 ∧ y.2 = x.2

theorem insert_mapped {α β : Type} (f : α → β) (entries : List (Scalar × α)) (key : Scalar) (value : α) :
    (insertEntry entries key value).map (fun p => (p.1, f p.2)) =
      insertEntry (entries.map fun p => (p.1, f p.2)) key (f value) := by
  induction entries with
  | nil => rfl
  | cons entry rest ih =>
      obtain ⟨k, v⟩ := entry
      cases same : k.same key <;> simp [insertEntry, same, ih]

section Builders

variable {d e : Document} {n : Nat} {k : String} {see : Option Constraints → Option Constraints}
variable {convert convert' : Convert} {trail : List String} {entries entries' : Entries}

theorem discriminator_in_step (drops : Drops d e n k) (spared : Spared d e .schema entries entries')
    (name : String) :
    InStep (Matched see (Noted d n k)) (discriminatorOf e.graph entries name)
      (discriminatorOf d.graph entries' name) (Spared d e .discriminator) := by
  have acts := spared_acts spared (by decide : ("discriminator", .discriminator) ∈ Role.schema.fields)
  unfold discriminatorOf
  rw [field_alike drops spared _ (by decide)]
  obtain ⟨none_, none'⟩ | ⟨fields, fields', map, map', inner⟩ := map_cases drops acts
  · simp only [none_, none', unmapped_alike drops acts rfl none_]
    split
    · exact in_step_on (in_step_warn_of _) fun _ => in_step_pure .nothing
    · exact in_step_pure .nothing
  · simp only [map, map']
    exact in_step_pure inner

theorem enum_in_step (drops : Drops d e n k) (spared : Spared d e .schema entries entries')
    (id name : String) :
    InStep (Matched see (Noted d n k)) (buildEnum ⟨e, trail⟩ id entries name)
      (buildEnum ⟨d, trail⟩ id entries' name) fun t t' => t'.seen see = t.seen see := by
  have literals {items : List Item} (acts : ∀ item ∈ items, Acts e .data item) :
      enumValuesOf d.graph items = enumValuesOf e.graph items := by
    have read : items.filterMap (enumLiteral? d.graph) = items.filterMap (enumLiteral? e.graph) := by
      refine List.filterMap_congr fun item member => ?_
      unfold enumLiteral?
      split <;> simp only [value_alike drops (acts _ member)]
    have short : items.all (fun item => (d.graph.value item).isShort) =
        items.all fun item => (e.graph.value item).isShort := by
      rw [Bool.eq_iff_iff, List.all_eq_true, List.all_eq_true]
      exact forall₂_congr fun item member => by rw [value_alike drops (acts item member)]
    rw [enumValuesOf, read, short, enumValuesOf]
  have listed := spared_acts spared (by decide : ("enum", .data) ∈ Role.schema.fields)
  have const := spared_acts spared (by decide : ("const", .data) ∈ Role.schema.fields)
  unfold buildEnum
  unfold fieldOf at listed
  dsimp only [Scope.graph]
  rw [lookup_alike drops spared _ (by decide), field_alike drops spared _ (by decide),
    notes_alike drops spared (by decide) (by decide)]
  cases found : lookup? entries (.text "enum") with
  | some items =>
      rw [found] at listed
      refine in_step_bind (in_step_of_except (items_or_none_alike drops listed rfl)) fun _ items held => ?_
      obtain ⟨rfl, acts⟩ := held
      rw [literals acts]
      refine in_step_on (in_step_of_except (agreed_same _)) fun values => ?_
      exact in_step_on (in_step_of_except (agreed_same _)) fun t => in_step_pure rfl
  | none =>
      have acts : ∀ item ∈ [fieldOf entries "const"], Acts e .data item :=
        fun item member => List.mem_singleton.mp member ▸ const
      rw [pure_bind, pure_bind, literals acts]
      refine in_step_on (in_step_of_except (agreed_same _)) fun values => ?_
      exact in_step_on (in_step_of_except (agreed_same _)) fun t => in_step_pure rfl

theorem type_ref_in_step (drops : Drops d e n k) (answered : Answered d e n k see convert convert')
    {node : Item} (acts : Acts e .schema node) (name : String) (pointer : Option String) :
    InStep (Matched see (Noted d n k)) (typeRefOf ⟨e, trail⟩ convert node name pointer)
      (typeRefOf ⟨d, trail⟩ convert' node name pointer) Eq := by
  obtain ⟨same, there⟩ := target_alike drops rfl acts
  unfold typeRefOf
  dsimp only [Scope.graph]
  rw [same, admits_alike drops acts, admits_alike drops there]
  exact in_step_on (answered.nodes _ _ _ _ _ acts) fun id => in_step_pure rfl

theorem property_in_step (sides : Sides d e n k see) (answered : Answered d e n k see convert convert')
    (owner : String) (name : Scalar) {node : Item} (acts : Acts e .schema node) :
    InStep (Matched see (Noted d n k)) (propertyOf ⟨e, trail⟩ convert owner name node)
      (propertyOf ⟨d, trail⟩ convert' owner name node) fun p p' => p'.seen see = p.seen see := by
  have spared := entries_spared_or_none sides.toDrops acts
  unfold propertyOf
  dsimp only [Scope.graph]
  refine in_step_on (in_step_of_except (agreed_same _)) fun shownName => ?_
  refine in_step_on (type_ref_in_step sides.toDrops answered acts _ _) fun type => ?_
  refine in_step_bind (constraints_in_step sides spared _) fun limits limits' seen => ?_
  rw [notes_alike sides.toDrops spared (by decide) (by decide), default_alike sides.toDrops spared]
  refine in_step_on (in_step_of_except (agreed_same _)) fun p => in_step_pure ?_
  simp only [Property.seen, seen]

theorem own_properties_in_step (sides : Sides d e n k see) (answered : Answered d e n k see convert convert')
    (owner : String) (own : Entries) (acts : ∀ entry ∈ own, Acts e .schema entry.2) {a b : Gathered}
    (alike : a.Alike see b) :
    InStep (Matched see (Noted d n k)) (ownProperties ⟨e, trail⟩ convert owner a own)
      (ownProperties ⟨d, trail⟩ convert' owner b own) (Gathered.Alike see) := by
  induction own generalizing a b with
  | nil => exact in_step_pure alike
  | cons entry rest ih =>
      obtain ⟨name, node⟩ := entry
      unfold ownProperties
      refine in_step_bind (property_in_step sides answered owner name (acts (name, node) (by simp)))
        fun p p' seen => ?_
      refine ih (fun entry member => acts entry (List.mem_cons_of_mem _ member))
        { alike with properties := ?_ }
      simp only [insert_mapped, alike.properties, seen]

theorem required_alike (drops : Drops d e n k) (names : List Item) (acts : ∀ item ∈ names, Acts e .data item)
    {a b : Gathered} (alike : a.Alike see b) :
    (names.foldl (addRequired e.graph) a).Alike see (names.foldl (addRequired d.graph) b) := by
  induction names generalizing a b with
  | nil => exact alike
  | cons item rest ih =>
      refine ih (fun item member => acts item (List.mem_cons_of_mem _ member)) { alike with required := ?_ }
      simp only [addRequired, alike.required, value_alike drops (acts item (by simp))]

-- Required names are asked for only where they count.
theorem demanded_alike (drops : Drops d e n k) (spared : Spared d e .schema entries entries')
    (optional : Bool) :
    Agreed (fun names names' => names' = names ∧ ∀ item ∈ names, Acts e .data item)
      (demandedNames e.graph entries optional) (demandedNames d.graph entries' optional) := by
  cases optional with
  | true => exact .ok ⟨rfl, by simp⟩
  | false =>
      have acts := spared_acts spared (by decide : ("required", .data) ∈ Role.schema.fields)
      simp only [demandedNames, Bool.false_eq_true, if_false, field_alike drops spared "required" (by decide)]
      exact items_or_none_alike drops acts rfl

theorem member_in_step (drops : Drops d e n k) {gather gather' : Gather}
    (gathers : GathersAlike d e n k see gather gather') (owner composition : String) (optional : Bool)
    {a b : Gathered × Option String} (alike : a.1.Alike see b.1 ∧ b.2 = a.2) {member : Item × Nat}
    (acts : Acts e .schema member.1) :
    InStep (Matched see (Noted d n k)) (gatherMember ⟨e, trail⟩ gather owner composition optional a member)
      (gatherMember ⟨d, trail⟩ gather' owner composition optional b member)
      fun x y => x.1.Alike see y.1 ∧ y.2 = x.2 := by
  obtain ⟨same, there⟩ := target_alike drops rfl acts
  have spared := entries_spared_or_none drops acts
  have named : memberOwner owner composition member.2 ((d.graph.entries? member.1).getD []) =
      memberOwner owner composition member.2 ((e.graph.entries? member.1).getD []) := by
    simp only [memberOwner, lookup_alike drops spared "$ref" (by decide)]
  have label : shown d.graph (((d.graph.entries? member.1).map (fieldOf · "$ref")).getD member.1) =
      shown e.graph (((e.graph.entries? member.1).map (fieldOf · "$ref")).getD member.1) := by
    obtain ⟨none_, none'⟩ | ⟨fields, fields', map, map', inner⟩ := map_cases drops acts
    · rw [none_, none']
      exact congrArg Value.shown (unmapped_alike drops acts rfl none_)
    · rw [map, map']
      exact congrArg Value.shown (plain_alike drops inner _ (by decide) (by decide))
  unfold gatherMember
  dsimp only [Scope.graph, brokenReference]
  rw [same, map_alike drops there, named, label]
  split
  · refine in_step_on (in_step_of_except (agreed_same _)) fun inner => ?_
    refine in_step_bind (gathers _ inner optional a.1 b.1 there alike.1) fun x y held => ?_
    exact in_step_pure ⟨held.1, by rw [alike.2, held.2]⟩
  · exact in_step_on (in_step_note_issue _) fun _ => in_step_pure alike

theorem members_in_step (drops : Drops d e n k) {gather gather' : Gather}
    (gathers : GathersAlike d e n k see gather gather') (owner composition : String) (optional : Bool)
    {a b : Gathered × Option String} (alike : a.1.Alike see b.1 ∧ b.2 = a.2) {members : List Item}
    (acts : ∀ item ∈ members, Acts e .schema item) :
    InStep (Matched see (Noted d n k))
      (members.zipIdx.foldlM (gatherMember ⟨e, trail⟩ gather owner composition optional) a)
      (members.zipIdx.foldlM (gatherMember ⟨d, trail⟩ gather' owner composition optional) b)
      fun x y => x.1.Alike see y.1 ∧ y.2 = x.2 :=
  in_step_fold alike fun _ held _ _ sofar =>
    member_in_step drops gathers owner composition optional sofar (acts _ (List.fst_mem_of_mem_zipIdx held))

theorem fields_in_step (sides : Sides d e n k see) (answered : Answered d e n k see convert convert')
    {gather gather' : Gather} (gathers : GathersAlike d e n k see gather gather')
    (spared : Spared d e .schema entries entries') (owner : String) (optional : Bool) {a b : Gathered}
    (alike : a.Alike see b) :
    InStep (Matched see (Noted d n k)) (gatherFields ⟨e, trail⟩ convert gather entries owner optional a)
      (gatherFields ⟨d, trail⟩ convert' gather' entries' owner optional b)
      fun x y => x.1.Alike see y.1 ∧ y.2 = x.2 := by
  have drops := sides.toDrops
  have all := spared_acts spared (by decide : ("allOf", .members) ∈ Role.schema.fields)
  have any := spared_acts spared (by decide : ("anyOf", .members) ∈ Role.schema.fields)
  have properties := spared_acts spared (by decide : ("properties", .schemas) ∈ Role.schema.fields)
  unfold gatherFields
  dsimp only [Scope.graph]
  rw [field_alike drops spared "allOf" (by decide),
    field_alike drops spared "anyOf" (by decide),
    field_alike drops spared "properties" (by decide)]
  refine in_step_bind (in_step_of_except (items_or_none_alike drops all rfl)) fun _ members held => ?_
  obtain ⟨rfl, acts⟩ := held
  refine in_step_bind (members_in_step (a := (a, none)) (b := (b, none)) drops gathers owner "allOf" optional
    ⟨alike, rfl⟩ acts) fun first first' state => ?_
  refine in_step_bind (in_step_of_except (items_or_none_alike drops any rfl)) fun _ members held => ?_
  obtain ⟨rfl, acts⟩ := held
  refine in_step_bind (members_in_step drops gathers owner "anyOf" true state acts)
    fun second second' state => ?_
  obtain ⟨sofar, found⟩ := second
  obtain ⟨sofar', found'⟩ := second'
  obtain ⟨gathered, rfl⟩ : sofar.Alike see sofar' ∧ found' = found := state
  refine in_step_bind (in_step_of_except (table_alike drops properties rfl)) fun _ own held => ?_
  obtain ⟨rfl, acts⟩ := held
  refine in_step_bind (own_properties_in_step sides answered owner own acts gathered) fun a b gathered => ?_
  refine in_step_bind (in_step_of_except (demanded_alike drops spared optional)) fun _ names held => ?_
  obtain ⟨rfl, acts⟩ := held
  refine in_step_bind (discriminator_in_step drops spared owner) fun fields fields' inner => ?_
  rw [field_alike drops inner _ (by decide)]
  have done := required_alike drops names acts gathered
  split <;> exact in_step_pure ⟨done, rfl⟩

theorem gather_in_step (sides : Sides d e n k see) (answered : Answered d e n k see convert convert')
    (fuel : Nat) :
    GathersAlike d e n k see (gather ⟨e, trail⟩ convert fuel) (gather ⟨d, trail⟩ convert' fuel) := by
  induction fuel with
  | zero => exact fun node owner optional a b acts alike => in_step_pure ⟨alike, rfl⟩
  | succ fuel ih =>
      intro node owner optional a b acts alike
      unfold gather
      cases node with
      | scalar s => exact in_step_pure ⟨alike, rfl⟩
      | node id =>
          dsimp only [Scope.graph]
          obtain ⟨none_, none'⟩ | ⟨fields, fields', map, map', spared⟩ := map_cases sides.toDrops acts
          · rw [none_, none']
            exact in_step_pure ⟨alike, rfl⟩
          · rw [map, map']
            simp only [alike.seen]
            split
            · exact in_step_pure ⟨alike, rfl⟩
            · exact fields_in_step sides answered ih spared owner optional { alike with seen := rfl }

theorem gather_from_next (s : Scope) (convert : Convert) (bottom : Gather) (fuel : Nat) :
    gatherFrom s convert bottom (fuel + 1) = gatherFrom s convert (gatherFrom s convert bottom 1) fuel := by
  induction fuel with
  | zero => rfl
  | succ fuel ih =>
      rw [gatherFrom, ih]
      rfl

-- More levels than nodes change nothing.
theorem gather_deep (s : Scope) (convert : Convert) {fuel : Nat} (deep : s.graph.size < fuel) (node : Item)
    (owner : String) (optional : Bool) :
    gather s convert fuel node owner optional {} =
      gather s convert (s.graph.size + 1) node owner optional {} := by
  have few : unvisited s {} ≤ s.graph.size := by
    have count := List.length_filter_le (fun n => !({} : Gathered).seen.contains n) (List.range s.graph.size)
    rwa [List.length_range] at count
  let bottom : Gather := fun _ _ _ sofar => pure (sofar, none)
  obtain ⟨more, rfl⟩ := Nat.exists_eq_add_of_lt deep
  clear deep
  induction more with
  | zero => rfl
  | succ more ih =>
      have enough : unvisited s {} < s.graph.size + more + 1 := by omega
      change gather s convert (s.graph.size + more + 1 + 1) node owner optional {} = _
      rw [← gather_from_agrees bottom _ (Nat.lt_succ_of_lt enough), gather_from_next,
        gather_from_agrees _ _ enough, ih]

theorem extra_alike (drops : Drops d e n k) {item : Item} (acts : Acts e .extra item) :
    d.graph.entries? item = some [] ↔ e.graph.entries? item = some [] := by
  by_cases here : item = .node n
  · subst here
    obtain ⟨held, is, is'⟩ := drops.lacks.node
    have kept : without k held ≠ [] := fun none_ =>
      drops.confined.kept acts (by simp only [Graph.entries?, Graph.of?, is', none_])
    simp only [Graph.entries?, Graph.of?, is, is', Option.some.injEq]
    exact ⟨fun none_ => absurd (by rw [none_]; rfl) kept, fun none_ => absurd none_ kept⟩
  · rw [entries_of_same (of_elsewhere drops acts here)]

theorem additional_in_step (drops : Drops d e n k) (answered : Answered d e n k see convert convert')
    (spared : Spared d e .schema entries entries') (name : String) :
    InStep (Matched see (Noted d n k)) (additionalOf ⟨e, trail⟩ convert entries name)
      (additionalOf ⟨d, trail⟩ convert' entries' name) Eq := by
  have acts := spared_acts spared (by decide : ("additionalProperties", .schema) ∈ Role.schema.fields)
  have extra := extra_alike drops
    (spared_acts spared (by decide : ("additionalProperties", .extra) ∈ Role.schema.fields))
  unfold additionalOf
  dsimp only [Scope.graph]
  rw [field_alike drops spared _ (by decide)]
  obtain ⟨none_, none'⟩ | ⟨fields, fields', map, map', -⟩ := map_cases drops acts
  · rw [none_, none']
    split <;> first | exact in_step_pure rfl | simp_all
  · rw [map, map'] at extra ⊢
    simp only [Option.some.injEq] at extra
    cases fields with
    | nil =>
        rw [extra.mpr rfl]
        exact in_step_pure rfl
    | cons first rest =>
        cases fields' with
        | nil => cases extra.mp rfl
        | cons first' rest' =>
            exact in_step_on (type_ref_in_step drops answered acts _ _) fun ref => in_step_pure rfl

theorem object_in_step (sides : Sides d e n k see) (answered : Answered d e n k see convert convert')
    (spared : Spared d e .schema entries entries') (id : String) {node : Item} (acts : Acts e .schema node)
    (name : String) :
    InStep (Matched see (Noted d n k)) (buildObject ⟨e, trail⟩ convert id node entries name)
      (buildObject ⟨d, trail⟩ convert' id node entries' name) fun t t' => t'.seen see = t.seen see := by
  have drops := sides.toDrops
  -- Gathering is bounded by the size of the document; a bound that is large enough for both is none.
  let fuel := d.graph.size + e.graph.size + 1
  have gathered : InStep (Matched see (Noted d n k))
      (gather ⟨e, trail⟩ convert (e.graph.size + 1) node name false {})
      (gather ⟨d, trail⟩ convert' (d.graph.size + 1) node name false {})
      fun x y => x.1.Alike see y.1 ∧ y.2 = x.2 := by
    have room : e.graph.size < fuel := by omega
    have room' : d.graph.size < fuel := by omega
    have deep := gather_deep ⟨e, trail⟩ convert room node name false
    have deep' := gather_deep ⟨d, trail⟩ convert' room' node name false
    dsimp only [Scope.graph] at deep deep'
    rw [← deep, ← deep']
    exact gather_in_step sides answered fuel node name false {} {} acts ⟨rfl, rfl, rfl⟩
  unfold buildObject
  dsimp only [Scope.graph]
  refine in_step_bind gathered fun x y held => ?_
  obtain ⟨gathered, found⟩ := x
  obtain ⟨gathered', found'⟩ := y
  obtain ⟨alike, rfl⟩ : gathered.Alike see gathered' ∧ found' = found := held
  refine in_step_on (additional_in_step drops answered spared name) fun additional => ?_
  rw [alike.required, notes_alike drops spared (by decide) (by decide)]
  refine in_step_of_except (object_seen ?_ _ _ _ _)
  have same := congrArg (List.map Prod.snd) alike.properties
  simpa only [List.map_map, Function.comp_def] using same

theorem array_in_step (drops : Drops d e n k) (answered : Answered d e n k see convert convert')
    (spared : Spared d e .schema entries entries') (id name : String) :
    InStep (Matched see (Noted d n k)) (buildArray ⟨e, trail⟩ convert id entries name)
      (buildArray ⟨d, trail⟩ convert' id entries' name) fun t t' => t'.seen see = t.seen see := by
  have acts := spared_acts spared (by decide : ("items", .schema) ∈ Role.schema.fields)
  unfold buildArray
  dsimp only [Scope.graph]
  rw [field_alike drops spared "items" (by decide),
    plain_alike drops spared "minItems" (by decide) (by decide),
    plain_alike drops spared "maxItems" (by decide) (by decide),
    plain_alike drops spared "uniqueItems" (by decide) (by decide),
    notes_alike drops spared (by decide) (by decide)]
  split
  · exact in_step_throw _
  · refine in_step_on (type_ref_in_step drops answered acts _ _) fun ref => ?_
    exact in_step_of_except (agreed_weaken (agreed_same _) fun t t' same => same ▸ rfl)

theorem variants_in_step (drops : Drops d e n k) (answered : Answered d e n k see convert convert')
    (name : String) (index : Nat) (items : List Item) (acts : ∀ item ∈ items, Acts e .schema item) :
    InStep (Matched see (Noted d n k)) (variantsFrom ⟨e, trail⟩ convert name index items)
      (variantsFrom ⟨d, trail⟩ convert' name index items) Eq := by
  induction items generalizing index with
  | nil => exact in_step_pure rfl
  | cons node rest ih =>
      unfold variantsFrom
      refine in_step_on (type_ref_in_step drops answered (acts node (by simp)) _ _) fun ref => ?_
      refine in_step_on (ih _ fun item member => acts item (List.mem_cons_of_mem _ member)) fun refs => ?_
      exact in_step_pure rfl

theorem mapping_in_step (answered : Answered d e n k see convert convert') {item : Item} {pairs : Entries}
    (acts : Acts e .mapping item) (map : e.graph.entries? item = some pairs) (sofar : List (String × String))
    (rest : Entries) (part : rest ⊆ pairs) :
    InStep (Matched see (Noted d n k)) (mappingOf ⟨e, trail⟩ convert sofar rest)
      (mappingOf ⟨d, trail⟩ convert' sofar rest) Eq := by
  induction rest generalizing sofar with
  | nil => exact in_step_pure rfl
  | cons entry rest ih =>
      obtain ⟨key, value⟩ := entry
      obtain ⟨member, others⟩ := List.cons_subset.mp part
      unfold mappingOf
      cases said : value.text? with
      | none => exact ih sofar others
      | some name =>
          have linked : Linked e (mappingReference name) := by
            refine ⟨.mapping, item, acts, ?_⟩
            simp only [Role.links, map, Option.getD_some]
            exact List.mem_filterMap.mpr ⟨_, member, by simp [said]⟩
          refine in_step_on (in_step_of_except (agreed_same _)) fun shownKey => ?_
          exact in_step_on (answered.names _ _ linked) fun id => ih _ others

theorem union_in_step (drops : Drops d e n k) (answered : Answered d e n k see convert convert')
    (spared : Spared d e .schema entries entries') (id name : String) :
    InStep (Matched see (Noted d n k)) (buildUnion ⟨e, trail⟩ convert id entries name)
      (buildUnion ⟨d, trail⟩ convert' id entries' name) fun t t' => t'.seen see = t.seen see := by
  have acts := spared_acts spared (by decide : ("oneOf", .members) ∈ Role.schema.fields)
  have members : ∀ item ∈ (e.graph.items? (fieldOf entries "oneOf")).getD [], Acts e .schema item := by
    intro item member
    unfold Graph.items? at member
    split at member
    next items is => exact acts_each acts is rfl member
    next => cases member
  unfold buildUnion
  dsimp only [Scope.graph]
  rw [field_alike drops spared "oneOf" (by decide), items_alike drops acts,
    notes_alike drops spared (by decide) (by decide)]
  refine in_step_on (variants_in_step drops answered name 0 _ members) fun variants => ?_
  refine in_step_bind (discriminator_in_step drops spared name) fun fields fields' inner => ?_
  have mapping := spared_acts inner (by decide : ("mapping", .mapping) ∈ Role.discriminator.fields)
  rw [field_alike drops inner "mapping" (by decide),
    field_alike drops inner "propertyName" (by decide),
    entries_of_same (of_whole drops mapping rfl)]
  cases map : e.graph.entries? (fieldOf fields "mapping") with
  | none =>
      refine in_step_on (in_step_pure rfl) fun pairs => ?_
      exact in_step_on (in_step_of_except (agreed_same _)) fun t => in_step_pure rfl
  | some pairs =>
      refine in_step_on (mapping_in_step answered mapping map [] pairs (List.Subset.refl _)) fun pairs => ?_
      exact in_step_on (in_step_of_except (agreed_same _)) fun t => in_step_pure rfl

theorem primitive_in_step (sides : Sides d e n k see) (spared : Spared d e .schema entries entries')
    (id name : String) :
    InStep (Matched see (Noted d n k)) (buildPrimitive ⟨e, trail⟩ id entries name)
      (buildPrimitive ⟨d, trail⟩ id entries' name) fun t t' => t'.seen see = t.seen see := by
  have drops := sides.toDrops
  have acts := type_acts spared
  have finish (kind : PrimitiveKind) (described : List (String × Value)) : InStep (Matched see (Noted d n k))
      (do
        let limits ← constraintsOf e.graph entries name
        let t ← ofExcept (checked "PrimitiveType" primitiveType described)
        return { t with shape := .primitive kind limits })
      (do
        let limits ← constraintsOf d.graph entries' name
        let t ← ofExcept (checked "PrimitiveType" primitiveType described)
        return { t with shape := .primitive kind limits })
      fun t t' => t'.seen see = t.seen see := by
    refine in_step_bind (constraints_in_step sides spared name) fun limits limits' seen => ?_
    refine in_step_on (in_step_of_except (agreed_same _)) fun t => in_step_pure ?_
    simp only [TypeDefinition.seen, Shape.seen, seen]
  unfold buildPrimitive
  dsimp only [Scope.graph]
  rw [type_alike drops spared, truthy_alike drops acts rfl, key_alike drops acts, value_alike drops acts,
    notes_alike drops spared (by decide) (by decide)]
  split
  · exact in_step_throw _
  · split
    next kind _ => exact finish kind _
    next => exact in_step_on (in_step_note_issue _) fun _ => finish .string _

-- The builders run in step.
theorem build_in_step (sides : Sides d e n k see) (answered : Answered d e n k see convert convert')
    (spared : Spared d e .schema entries entries') (id : String) {node : Item} (acts : Acts e .schema node)
    (name : String) :
    InStep (Matched see (Noted d n k)) (build ⟨e, trail⟩ convert id node entries name)
      (build ⟨d, trail⟩ convert' id node entries' name) fun t t' => t'.seen see = t.seen see := by
  have drops := sides.toDrops
  unfold build
  dsimp only [Scope.graph]
  simp only [type_alike drops spared, List.any_cons, List.any_nil,
    has_alike drops spared "enum" (by decide),
    has_alike drops spared "const" (by decide),
    has_alike drops spared "properties" (by decide),
    has_alike drops spared "allOf" (by decide),
    has_alike drops spared "anyOf" (by decide),
    has_alike drops spared "items" (by decide),
    has_alike drops spared "oneOf" (by decide)]
  refine in_step_ite (enum_in_step drops spared id name) ?_
  refine in_step_ite (object_in_step sides answered spared id acts name) ?_
  refine in_step_ite (array_in_step drops answered spared id name) ?_
  exact in_step_ite (union_in_step drops answered spared id name) (primitive_in_step sides spared id name)

theorem follow_in_step (drops : Drops d e n k) (answered : Answered d e n k see convert convert')
    {reference : String} (linked : Linked e reference) :
    InStep (Matched see (Noted d n k)) (follow ⟨e, trail⟩ convert reference)
      (follow ⟨d, trail⟩ convert' reference) Eq := by
  obtain ⟨role, item, around, named⟩ := linked
  have same := local_alike drops (drops.confined.apart _ _ _ _ around named)
  unfold follow
  dsimp only [Scope.graph]
  refine in_step_get fun c c' matched => ?_
  rw [matched_lookup matched, same]
  cases c.lookup? { reference := some reference } with
  | some id => exact in_step_pure rfl
  | none =>
      simp only
      split
      · exact in_step_placeholder _ _ _ _
      · split
        · exact in_step_placeholder _ _ _ _
        · cases there : localTarget? e reference with
          | none => exact in_step_placeholder _ _ _ _
          | some node =>
              have acts : Acts e .schema node := .link around named there
              simp only [reference_alike drops acts]
              cases refers : referenceOf? e.graph node with
              | none => exact answered.nodes _ _ _ _ _ acts
              | some next =>
                  have onward : Linked e next := ⟨.schema, node, acts, OpenApi.linked rfl refers⟩
                  refine in_step_on (answered.names _ _ onward) fun id => ?_
                  refine in_step_on (in_step_modify fun c c' matched => ?_) fun _ => in_step_pure rfl
                  exact { matched with references := by rw [matched.references] }

theorem node_in_step (sides : Sides d e n k see) (answered : Answered d e n k see convert convert')
    {item : Item} (acts : Acts e .schema item) (name : String) (reference pointer : Option String) :
    InStep (Matched see (Noted d n k)) (convertStep ⟨e, trail⟩ convert (.node item name reference pointer))
      (convertStep ⟨d, trail⟩ convert' (.node item name reference pointer)) Eq := by
  have drops := sides.toDrops
  unfold convertStep
  dsimp only [Scope.graph]
  obtain ⟨none_, none'⟩ | ⟨entries, entries', map, map', spared⟩ := map_cases drops acts
  · rw [none_, none', kind_alike drops acts]
    exact in_step_placeholder _ _ _ _
  · simp only [map, map', field_alike drops spared "$ref" (by decide)]
    cases refers : (fieldOf entries "$ref").text? with
    | none => exact in_step_resolve fun id => build_in_step sides answered spared id acts name
    | some text =>
        have refers : referenceOf? e.graph item = some text := by
          simp only [referenceOf?, map, Option.bind_some, refers]
        exact follow_in_step drops answered ⟨.schema, item, acts, linked rfl refers⟩

-- Conversions to any depth answer in step.
theorem within_answered (sides : Sides d e n k see) (fuel : Nat) :
    Answered d e n k see (convertWithin e fuel) (convertWithin d fuel) := by
  induction fuel with
  | zero => exact ⟨fun _ _ _ _ _ _ => in_step_throw _, fun _ _ _ => in_step_throw _⟩
  | succ fuel ih =>
      exact ⟨fun trail item name reference pointer acts => node_in_step sides ih acts name reference pointer,
        fun trail reference linked => follow_in_step sides.toDrops ih linked⟩

end Builders

end ApiSchema.OpenApi
