import ApiSchema.Proofs.OpenApi.Composition
import ApiSchema.Proofs.Schema.Objects

namespace ApiSchema.OpenApi

open Walk

section Insert

variable {α : Type} {entries : List (Scalar × α)} {entry : Scalar × α} {key : Scalar} {value : α}
  {name : String}

theorem same_self (read : Check.text (.scalar key) = .ok name) : key.same key = true := by
  cases key with
  | text s => simp
  | bytes b => simp [Scalar.same, Scalar.integer?]
  | null | bool | int | float | date | moment => simp [Check.text] at read

theorem apart_of_text {k : Scalar} (read : Check.text (.scalar key) = .ok name) (differ : k ≠ key) :
    k.same key = false :=
  Bool.eq_false_iff.mpr fun same => differ (same_of_text read same)

theorem inserted_iff (read : Check.text (.scalar key) = .ok name)
    (distinct : (entries.map Prod.fst).Nodup) :
    entry ∈ insertEntry entries key value ↔ entry = (key, value) ∨ entry ∈ entries ∧ entry.1 ≠ key := by
  induction entries with
  | nil => simp [insertEntry]
  | cons first rest ih =>
      obtain ⟨k, v⟩ := first
      obtain ⟨new, others⟩ := List.nodup_cons.mp distinct
      by_cases same : k = key
      · subst same
        have elsewhere : entry ∈ rest → entry.1 ≠ k := fun member equal =>
          new (equal ▸ List.mem_map.mpr ⟨entry, member, rfl⟩)
        simp only [insertEntry, same_self read, if_true, List.mem_cons]
        constructor
        · exact fun either => either.imp_right fun later => ⟨.inr later, elsewhere later⟩
        · rintro (now | ⟨rfl | later, differ⟩)
          · exact .inl now
          · exact absurd rfl differ
          · exact .inr later
      · simp only [insertEntry, apart_of_text read same, Bool.false_eq_true, if_false, List.mem_cons,
          ih others]
        constructor
        · rintro (rfl | now | ⟨later, differ⟩)
          · exact .inr ⟨.inl rfl, same⟩
          · exact .inl now
          · exact .inr ⟨.inr later, differ⟩
        · rintro (now | ⟨rfl | later, differ⟩)
          · exact .inr (.inl now)
          · exact .inl rfl
          · exact .inr (.inr ⟨later, differ⟩)

theorem inserted_nodup (read : Check.text (.scalar key) = .ok name)
    (distinct : (entries.map Prod.fst).Nodup) :
    ((insertEntry entries key value).map Prod.fst).Nodup := by
  induction entries with
  | nil => exact List.nodup_singleton key
  | cons first rest ih =>
      obtain ⟨k, v⟩ := first
      obtain ⟨new, others⟩ := List.nodup_cons.mp distinct
      by_cases same : k = key
      · subst same
        simpa [insertEntry, same_self read] using ⟨by simpa using new, others⟩
      · simp only [insertEntry, apart_of_text read same, Bool.false_eq_true, if_false, List.map_cons]
        refine List.nodup_cons.mpr ⟨fun member => ?_, ih others⟩
        obtain ⟨entry, held, equal⟩ := List.mem_map.mp member
        obtain rfl | ⟨old, _⟩ := (inserted_iff read others).mp held
        · exact same equal.symm
        · exact new (equal ▸ List.mem_map.mpr ⟨entry, old, rfl⟩)

end Insert

section Declarations

open Check Checked

def partsOf (g : Graph) (node : Item) : Entries := (g.entries? node).getD []

structure Declares (s : Scope) (convert : Convert) (owner : String) (key : Scalar) (node : Item)
    (p : Property) : Prop where
  name : Check.text (.scalar key) = .ok p.name
  type : ∃ c id c', Gives (convert s.trail (.node node (ownerFront owner ++ "_" ++ key.display) none
      (some (owner ++ "." ++ key.display)))) c id c' ∧
    p.type = ⟨id, admitsNull s.graph node || admitsNull s.graph (target s.document node)⟩
  constraints : ∃ c c', Gives (constraintsOf s.graph (partsOf s.graph node)
    (owner ++ "." ++ key.display)) c p.constraints c'
  description : nullable text (s.graph.value (fieldOf (partsOf s.graph node) "description")) =
    .ok p.description
  deprecated : nullable flag (s.graph.value (fieldOf (partsOf s.graph node) "deprecated")) =
    .ok p.deprecated
  default : p.default = declaredDefault s.graph (partsOf s.graph node)

theorem property_notes {name : Scalar} {type : TypeRef} {required : Bool} {g : Graph}
    {entries : Entries} : ∀ p, property (.object ([("name", .scalar name), ("type", type.dump),
        ("required", .bool required)] ++ notes g entries)) = .ok p →
      nullable text (g.value (fieldOf entries "description")) = .ok p.description ∧
        nullable flag (g.value (fieldOf entries "deprecated")) = .ok p.deprecated := by
  simp only [property, all_and_then, all_seq, all_map, record_ok]
  intro pairs same _ _ _ _ _ _ description described _ _ deprecated marked _ _
  cases same
  simp [Check.optional, withDefault, Check.field?, notes] at described marked
  exact ⟨described, marked⟩

variable {s : Scope} {convert : Convert}

theorem property_declares {owner : String} {key : Scalar} {node : Item} {p : Property} {c c' : Context}
    (gives : Gives (propertyOf s convert owner key node) c p c') :
    Declares s convert owner key node p ∧ p.required = false := by
  unfold propertyOf at gives
  obtain ⟨shownName, said, gives⟩ := gives_of_except_bind.mp gives
  obtain rfl := printed_text said
  obtain ⟨type, c₁, typed, gives⟩ := gives_bind.mp gives
  obtain ⟨limits, c₂, limited, gives⟩ := gives_bind.mp gives
  obtain ⟨q, passed, gives⟩ := gives_of_except_bind.mp gives
  obtain ⟨rfl, rfl⟩ := gives_pure.mp gives
  obtain ⟨id, _, asked, typed⟩ := gives_bind.mp typed
  obtain ⟨rfl, rfl⟩ := gives_pure.mp typed
  obtain ⟨named, held, clear⟩ := property_ok q (checked_ok passed)
  obtain ⟨described, marked⟩ := property_notes q (checked_ok passed)
  exact ⟨⟨named, ⟨c, id, _, asked, held⟩, ⟨_, _, limited⟩, described, marked, rfl⟩, clear⟩

end Declarations

section Properties

variable {s : Scope} {convert : Convert} {events : List Event} {g g' : Gathered} {c c' : Context}
  {owner : String} {key : Scalar} {node : Item} {p : Property}

structure Proper (g : Gathered) : Prop where
  distinct : (g.properties.map Prod.fst).Nodup
  named : ∀ entry ∈ g.properties, Check.text (.scalar entry.1) = .ok entry.2.name
  clear : ∀ entry ∈ g.properties, entry.2.required = false

def Declared (events : List Event) (key : Scalar) : Prop :=
  ∃ owner node, .declare owner key node ∈ events

theorem insert_proper (proper : Proper g) (made : Gives (propertyOf s convert owner key node) c p c') :
    Proper { g with properties := insertEntry g.properties key p } := by
  obtain ⟨declares, clear⟩ := property_declares made
  have either : ∀ entry ∈ insertEntry g.properties key p, entry = (key, p) ∨ entry ∈ g.properties :=
    fun entry member =>
      ((inserted_iff declares.name proper.distinct).mp member).imp_right And.left
  refine ⟨inserted_nodup declares.name proper.distinct, fun entry member => ?_, fun entry member => ?_⟩
  · obtain rfl | old := either entry member
    · exact declares.name
    · exact proper.named entry old
  · obtain rfl | old := either entry member
    · exact clear
    · exact proper.clear entry old

theorem happens_split {first second : List Event}
    (happens : Happens s convert (first ++ second) g c g' c') :
    ∃ g₁ c₁, Happens s convert first g c g₁ c₁ ∧ Happens s convert second g₁ c₁ g' c' := by
  generalize whole : first ++ second = events at happens
  induction happens generalizing first with
  | nil =>
      obtain ⟨rfl, rfl⟩ := List.append_eq_nil_iff.mp whole
      exact ⟨_, _, .nil, .nil⟩
  | cons occurs later ih =>
      obtain ⟨rfl, rfl⟩ | ⟨rest, rfl, more⟩ := List.append_eq_cons_iff.mp whole
      · exact ⟨_, _, .nil, .cons occurs later⟩
      · obtain ⟨g₁, c₁, before, after⟩ := ih more.symm
        exact ⟨g₁, c₁, .cons occurs before, after⟩
  | warned later ih =>
      obtain ⟨g₁, c₁, before, after⟩ := ih whole
      exact ⟨g₁, c₁, .warned before, after⟩

theorem require_properties (graph : Graph) (names : List Item) (g : Gathered) :
    (names.foldl (addRequired graph) g).properties = g.properties := by
  induction names generalizing g with
  | nil => rfl
  | cons name rest ih => exact ih _

/-- What events make of properties: each is declared by an event, or was there and no event declares its
key; and no key is lost. -/
structure Merges (s : Scope) (convert : Convert) (events : List Event) (g g' : Gathered) : Prop where
  proper : Proper g'
  sound : ∀ entry ∈ g'.properties, entry ∈ g.properties ∧ ¬ Declared events entry.1 ∨
    ∃ owner node, .declare owner entry.1 node ∈ events ∧ Declares s convert owner entry.1 node entry.2
  keys : ∀ key, key ∈ g.properties.map Prod.fst ∨ Declared events key → key ∈ g'.properties.map Prod.fst
  kept : ∀ entry ∈ g.properties, ¬ Declared events entry.1 → entry ∈ g'.properties

theorem declared_append {first second : List Event} :
    Declared (first ++ second) key ↔ Declared first key ∨ Declared second key := by
  simp only [Declared, List.mem_append, exists_or]

theorem merges_same {event : Event} (proper : Proper g) (same : g'.properties = g.properties)
    (other : ∀ owner key node, event ≠ .declare owner key node) : Merges s convert [event] g g' := by
  have none : ∀ key, ¬ Declared [event] key := fun key ⟨owner, node, member⟩ =>
    other owner key node (List.mem_singleton.mp member).symm
  constructor
  case proper => exact ⟨same ▸ proper.distinct, same ▸ proper.named, same ▸ proper.clear⟩
  case sound => exact fun entry member => .inl ⟨same ▸ member, none _⟩
  case keys => exact fun key either => same ▸ either.resolve_right (none key)
  case kept => exact fun entry member _ => same ▸ member

theorem merges_trans {first second : List Event} {g₁ : Gathered} (one : Merges s convert first g g₁)
    (two : Merges s convert second g₁ g') : Merges s convert (first ++ second) g g' := by
  constructor
  case proper => exact two.proper
  case sound =>
    intro entry member
    obtain ⟨before, late⟩ | ⟨owner, node, declared, declares⟩ := two.sound entry member
    · obtain ⟨start, early⟩ | ⟨owner, node, declared, declares⟩ := one.sound entry before
      · exact .inl ⟨start, fun either => (declared_append.mp either).elim early late⟩
      · exact .inr ⟨owner, node, List.mem_append_left _ declared, declares⟩
    · exact .inr ⟨owner, node, List.mem_append_right _ declared, declares⟩
  case keys =>
    intro key either
    rw [declared_append, ← or_assoc] at either
    exact two.keys key (either.imp_left (one.keys key))
  case kept =>
    intro entry member other
    obtain ⟨early, late⟩ := not_or.mp (mt declared_append.mpr other)
    exact two.kept entry (one.kept entry member early) late

theorem occurs_merges {event : Event} (occurs : Occurs s convert event g c g' c') (proper : Proper g) :
    Merges s convert [event] g g' := by
  cases occurs with
  | enter => exact merges_same proper rfl nofun
  | lost => exact merges_same proper rfl nofun
  | demand => exact merges_same proper (require_properties ..) nofun
  | @declare owner key node p _ _ _ made =>
      have declares := (property_declares made).1
      have inserted : ∀ entry, entry ∈ insertEntry g.properties key p ↔
          entry = (key, p) ∨ entry ∈ g.properties ∧ entry.1 ≠ key :=
        fun entry => inserted_iff declares.name proper.distinct
      have only : ∀ key', Declared [.declare owner key node] key' ↔ key' = key := by simp [Declared]
      constructor
      case proper => exact insert_proper proper made
      case sound =>
        intro entry member
        obtain rfl | ⟨old, differ⟩ := (inserted entry).mp member
        · exact .inr ⟨owner, node, List.mem_singleton.mpr rfl, declares⟩
        · exact .inl ⟨old, mt (only _).mp differ⟩
      case keys =>
        intro key' either
        by_cases same : key' = key
        · exact List.mem_map.mpr ⟨(key, p), (inserted _).mpr (.inl rfl), same.symm⟩
        · obtain ⟨entry, old, rfl⟩ := List.mem_map.mp (either.resolve_right (mt (only _).mp same))
          exact List.mem_map.mpr ⟨entry, (inserted entry).mpr (.inr ⟨old, same⟩), rfl⟩
      case kept =>
        exact fun entry member other => (inserted entry).mpr (.inr ⟨member, mt (only _).mpr other⟩)

theorem happens_merges (happens : Happens s convert events g c g' c') (proper : Proper g) :
    Merges s convert events g g' := by
  induction happens with
  | nil =>
      have none : ∀ key, ¬ Declared [] key := fun key ⟨_, _, member⟩ => nomatch member
      exact ⟨proper, fun entry member => .inl ⟨member, none _⟩,
        fun key either => either.resolve_right (none key), fun entry member _ => member⟩
  | cons occurs later ih =>
      have one := occurs_merges occurs proper
      exact merges_trans one (ih one.proper)
  | warned later ih => exact ih proper

-- A declaration holds unless its key is declared again.
theorem happens_last {first second : List Event} (proper : Proper g)
    (happens : Happens s convert (first ++ .declare owner key node :: second) g c g' c')
    (alone : ¬ Declared second key) :
    ∃ p, (key, p) ∈ g'.properties ∧ Declares s convert owner key node p := by
  obtain ⟨g₁, c₁, before, now⟩ := happens_split happens
  rw [← List.singleton_append] at now
  obtain ⟨g₂, c₂, now, after⟩ := happens_split now
  have made := happens_merges now (happens_merges before proper).proper
  have declared : Declared [.declare owner key node] key := ⟨owner, node, List.mem_singleton.mpr rfl⟩
  obtain ⟨⟨_, p⟩, held, rfl⟩ := List.mem_map.mp (made.keys key (.inr declared))
  refine ⟨p, (happens_merges after made.proper).kept _ held alone, ?_⟩
  obtain ⟨_, other⟩ | ⟨owner', node', member, declares⟩ := made.sound _ held
  · exact absurd declared other
  · cases List.mem_singleton.mp member
    exact declares

end Properties

section Required

variable {s : Scope} {convert : Convert} {events : List Event} {g g' : Gathered} {c c' : Context}

def demanded (graph : Graph) (events : List Event) : List Value :=
  events.flatMap fun
    | .demand names => names.map graph.value
    | _ => []

theorem require_values (graph : Graph) (names : List Item) (g : Gathered) :
    (names.foldl (addRequired graph) g).required =
      (names.map graph.value).foldl addDistinct g.required := by
  induction names generalizing g with
  | nil => rfl
  | cons name rest ih => exact ih _

theorem happens_required (happens : Happens s convert events g c g' c') :
    g'.required = (demanded s.graph events).foldl addDistinct g.required := by
  induction happens with
  | nil => rfl
  | warned later ih => exact ih
  | cons occurs later ih =>
      cases occurs with
      | enter | lost | declare => exact ih
      | demand =>
          rw [ih, require_values]
          exact List.foldl_append.symm

end Required

section Problems

/-- From one context to another by nothing but asking for types, warnings, and noting some problems. -/
inductive Passes (trail : List String) (convert : Convert) :
    Context → List NodeIssue → Context → Prop where
  | nil {c : Context} : Passes trail convert c [] c
  | asked {ask : Ask} {id : String} {issues : List NodeIssue} {c c₁ c' : Context}
      (gives : Gives (convert trail ask) c id c₁) (later : Passes trail convert c₁ issues c') :
      Passes trail convert c issues c'
  | warned {message : String} {issues : List NodeIssue} {c c' : Context}
      (later : Passes trail convert (c.warn message) issues c') : Passes trail convert c issues c'
  | noted {issue : NodeIssue} {issues : List NodeIssue} {c c' : Context}
      (later : Passes trail convert (c.record issue) issues c') :
      Passes trail convert c (issue :: issues) c'

variable {s : Scope} {convert : Convert} {c c₁ c' : Context}

theorem passes_trans {trail : List String} {issues others : List NodeIssue}
    (first : Passes trail convert c issues c₁) (second : Passes trail convert c₁ others c') :
    Passes trail convert c (issues ++ others) c' := by
  induction first with
  | nil => exact second
  | asked gives later ih => exact .asked gives (ih second)
  | warned later ih => exact .warned (ih second)
  | noted later ih => exact .noted (ih second)

theorem type_ref_passes {node : Item} {name : String} {pointer : Option String} {ref : TypeRef}
    (gives : Gives (typeRefOf s convert node name pointer) c ref c') :
    Passes s.trail convert c [] c' := by
  obtain ⟨id, _, asked, gives⟩ := gives_bind.mp gives
  obtain ⟨rfl, rfl⟩ := gives_pure.mp gives
  exact .asked asked .nil

theorem sound_keywords_passes {trail : List String} {g : Graph} {entries : Entries} {name : String}
    {words : List (String × String)} {fields : List (String × Value)}
    (gives : Gives (soundKeywords g entries name words) c fields c') :
    Passes trail convert c [] c' := by
  induction words generalizing c fields with
  | nil =>
      obtain ⟨_, rfl⟩ := gives_pure.mp gives
      exact .nil
  | cons word rest ih =>
      obtain ⟨keyword, field⟩ := word
      unfold soundKeywords at gives
      simp only at gives
      split at gives
      · exact ih gives
      · split at gives
        · obtain ⟨others, _, gives, done⟩ := gives_bind.mp gives
          obtain ⟨_, rfl⟩ := gives_pure.mp done
          exact ih gives
        · obtain ⟨_, _, warned, gives⟩ := gives_bind.mp gives
          obtain ⟨_, -, rfl⟩ := warn_of_gives.mp warned
          exact .warned (ih gives)

theorem constraints_passes {trail : List String} {g : Graph} {entries : Entries} {name : String}
    {limits : Option Constraints} (gives : Gives (constraintsOf g entries name) c limits c') :
    Passes trail convert c [] c' := by
  obtain ⟨fields, c₁, read, gives⟩ := gives_bind.mp gives
  rw [(gives_of_except.mp gives).2]
  exact sound_keywords_passes read

theorem property_passes {owner : String} {key : Scalar} {node : Item} {p : Property}
    (gives : Gives (propertyOf s convert owner key node) c p c') : Passes s.trail convert c [] c' := by
  unfold propertyOf at gives
  obtain ⟨shownName, said, gives⟩ := gives_of_except_bind.mp gives
  obtain rfl := printed_text said
  obtain ⟨type, c₁, typed, gives⟩ := gives_bind.mp gives
  obtain ⟨limits, c₂, limited, gives⟩ := gives_bind.mp gives
  obtain ⟨q, _, gives⟩ := gives_of_except_bind.mp gives
  obtain ⟨_, rfl⟩ := gives_pure.mp gives
  exact passes_trans (type_ref_passes typed) (constraints_passes limited)

theorem additional_passes {entries : Entries} {name : String} {additional : Option Additional}
    (gives : Gives (additionalOf s convert entries name) c additional c') :
    Passes s.trail convert c [] c' := by
  unfold additionalOf at gives
  simp only at gives
  split at gives
  next => obtain ⟨_, rfl⟩ := gives_pure.mp gives; exact .nil
  next =>
    obtain ⟨ref, _, typed, gives⟩ := gives_bind.mp gives
    obtain ⟨_, rfl⟩ := gives_pure.mp gives
    exact type_ref_passes typed
  next => obtain ⟨_, rfl⟩ := gives_pure.mp gives; exact .nil
  next => obtain ⟨_, rfl⟩ := gives_pure.mp gives; exact .nil

def problems (events : List Event) : List NodeIssue :=
  events.filterMap fun
    | .lost issue => some issue
    | _ => none

theorem happens_passes {events : List Event} {g g' : Gathered}
    (happens : Happens s convert events g c g' c') :
    Passes s.trail convert c (problems events) c' := by
  induction happens with
  | nil => exact .nil
  | warned later ih => exact .warned ih
  | cons occurs later ih =>
      cases occurs with
      | enter | demand => exact ih
      | lost => exact .noted ih
      | declare made => exact passes_trans (property_passes made) ih

end Problems

end ApiSchema.OpenApi
