import ApiSchema.Proofs.Check.Record
import ApiSchema.Proofs.Control.Keeps
import ApiSchema.Proofs.Schema.Reading
import ApiSchema.Proofs.Target.Independence
import ApiSchema.Proofs.Target.Reasons

namespace ApiSchema

def textAt (v : Value) (name : String) : Option String :=
  match v.get? name with
  | some (.scalar (.text s)) => some s
  | _ => none

def itemsAt (v : Value) (name : String) : List Value :=
  match v.get? name with
  | some (.list items) => items
  | _ => []

def valuesAt (v : Value) (name : String) : List Value :=
  match v.get? name with
  | some (.map entries) => entries.map Prod.snd
  | _ => []

theorem numbered_holds {α : Type} {items : List α} {a : α} (member : a ∈ items) :
    ∃ n, (a, n) ∈ numbered items := by
  obtain ⟨n, below, same⟩ := List.mem_iff_getElem.mp member
  exact ⟨n, List.mem_zipIdx_iff_getElem?.mpr (List.getElem?_eq_some_iff.mpr ⟨below, same⟩)⟩

section Sites

variable {s : Schema}

theorem type_sites {t : TypeDefinition} (listed : t ∈ s.types) :
    ∃ base, ∀ site ∈ t.shape.sites base, site ∈ s.sites := by
  obtain ⟨n, placed⟩ := numbered_holds listed
  refine ⟨indexed "types" n, fun site held => ?_⟩
  exact List.mem_append_left _ (List.mem_append_left _ (List.mem_flatMap.mpr ⟨(t, n), placed, held⟩))

theorem endpoint_sites {e : Endpoint} (listed : e ∈ s.endpoints) :
    ∃ base, ∀ site ∈ e.sites base, site ∈ s.sites := by
  obtain ⟨n, placed⟩ := numbered_holds listed
  refine ⟨indexed "endpoints" n, fun site held => ?_⟩
  exact List.mem_append_left _ (List.mem_append_right _ (List.mem_flatMap.mpr ⟨(e, n), placed, held⟩))

theorem property_site {t : TypeDefinition} (listed : t ∈ s.types) {properties : List Property}
    {required : List String} {additional : Option Additional} {discriminator : Option String}
    (shaped : t.shape = .object properties required additional discriminator) {p : Property}
    (member : p ∈ properties) : ∃ site ∈ s.sites, site.ref = p.type := by
  obtain ⟨base, inside⟩ := type_sites listed
  obtain ⟨n, placed⟩ := numbered_holds member
  refine ⟨⟨indexed (base ++ ".properties") n ++ ".type", p.type⟩, inside _ ?_, rfl⟩
  rw [shaped]
  exact List.mem_append_left _ (List.mem_map.mpr ⟨(p, n), placed, rfl⟩)

theorem parameter_site {e : Endpoint} (listed : e ∈ s.endpoints) {p : Parameter}
    (member : p ∈ e.parameters) : ∃ site ∈ s.sites, site.ref = p.type := by
  obtain ⟨base, inside⟩ := endpoint_sites listed
  obtain ⟨n, placed⟩ := numbered_holds member
  refine ⟨⟨indexed (base ++ ".parameters") n ++ ".type", p.type⟩, inside _ ?_, rfl⟩
  exact List.mem_append_left _ (List.mem_append_left _ (List.mem_map.mpr ⟨(p, n), placed, rfl⟩))

theorem body_site {e : Endpoint} (listed : e ∈ s.endpoints) {body : RequestBody}
    (held : e.requestBody = some body) : ∃ site ∈ s.sites, site.ref = body.type := by
  obtain ⟨base, inside⟩ := endpoint_sites listed
  refine ⟨⟨base ++ ".requestBody.type", body.type⟩, inside _ ?_, rfl⟩
  exact List.mem_append_left _ (List.mem_append_right _ (by simp [held]))

theorem typed_response_site {e : Endpoint} (listed : e ∈ s.endpoints) {r : Response} {ref : TypeRef}
    (member : r ∈ e.responses) (typed : r.type = some ref) : ∃ site ∈ s.sites, site.ref = ref := by
  obtain ⟨base, inside⟩ := endpoint_sites listed
  obtain ⟨n, placed⟩ := numbered_holds member
  refine ⟨⟨indexed (base ++ ".responses") n ++ ".type", ref⟩, inside _ ?_, rfl⟩
  refine List.mem_append_right _ (List.mem_flatMap.mpr ⟨(r, n), placed, ?_⟩)
  exact List.mem_append_left _ (by simp [typed])

end Sites

namespace Catalog

open Mapper

structure Slot where
  name : String
  ref : TypeRef
  usage : Usage

def fieldSlots : Shape → Option (List Slot)
  | .object properties .. => some (properties.map fun p => ⟨p.name, p.type, { required := p.required }⟩)
  | _ => none

def parameterSlots (e : Endpoint) : List Slot :=
  e.parameters.map fun p => ⟨p.name, p.type, { required := p.required }⟩

def statusName : Status → String
  | .code n => decimalText n
  | .text s => s

theorem status_named {status : Status} {name : String} (made : statusText status = .ok name) :
    name = statusName status := by
  cases status with
  | code n => exact printed_text made
  | text s => exact (Except.ok.inj made).symm

def responseSlot? (r : Response) : Option Slot :=
  r.type.map fun ref => ⟨statusName r.status, ref, {}⟩

def responseSlots (e : Endpoint) : List Slot := e.responses.flatMap fun r => (responseSlot? r).toList

def bodySlot? (e : Endpoint) : Option Slot :=
  e.requestBody.map fun body => ⟨"requestBody", body.type, { required := body.required }⟩

def Sited (m : Mapper) (slot : Slot) : Prop := ∃ site ∈ m.schema.sites, site.ref = slot.ref

def entryName (entry : Value) : Option (String × String) :=
  match textAt entry "id", textAt entry "typeName" with
  | some id, some name => some (id, name)
  | _, _ => none

section Tables

variable {α : Type}

theorem put_object (done : List (String × Value)) (entry : String × Value) :
    insertEntry (done.map fun (k, v) => (Scalar.text k, v)) (.text entry.1) entry.2 =
      (Check.putNamed done entry).map fun (k, v) => (Scalar.text k, v) := by
  induction done with
  | nil => rfl
  | cons first rest ih =>
      by_cases same : first.1 = entry.1
      · simp [insertEntry, Check.putNamed, same]
      · simpa [insertEntry, Check.putNamed, same] using ih

theorem merged_object (entries : List (String × Value)) :
    merged entries = .object (entries.foldl Check.putNamed []) := by
  have each (done : List (String × Value)) :
      entries.foldl (fun done (k, v) => insertEntry done (.text k) v)
          (done.map fun (k, v) => (Scalar.text k, v)) =
        (entries.foldl Check.putNamed done).map fun (k, v) => (Scalar.text k, v) := by
    induction entries generalizing done with
    | nil => rfl
    | cons entry rest ih =>
        rw [List.foldl_cons, List.foldl_cons, ← ih, ← put_object]
  exact congrArg Value.map (each [])

theorem put_add (done : List (String × α)) (entry : String × α) :
    (Check.putNamed done entry).map Prod.fst = addName (done.map Prod.fst) entry.1 := by
  rw [put_names, addName]
  by_cases listed : entry.1 ∈ done.map Prod.fst
  · rw [if_pos listed, if_pos (List.contains_iff_mem.mpr listed)]
  · rw [if_neg listed, if_neg (by simpa using listed)]

theorem merged_names (done entries : List (String × α)) :
    (entries.foldl Check.putNamed done).map Prod.fst =
      (entries.map Prod.fst).foldl addName (done.map Prod.fst) := by
  induction entries generalizing done with
  | nil => rfl
  | cons entry rest ih => rw [List.foldl_cons, ih, put_add, List.map_cons, List.foldl_cons]

theorem put_member (done : List (String × α)) (entry : String × α) :
    entry ∈ Check.putNamed done entry := by
  induction done with
  | nil => simp [Check.putNamed]
  | cons first rest ih =>
      unfold Check.putNamed
      split
      · simp
      · simp [ih]

theorem put_other {done : List (String × α)} {entry kept : String × α} (held : kept ∈ done)
    (other : kept.1 ≠ entry.1) : kept ∈ Check.putNamed done entry := by
  induction done with
  | nil => cases held
  | cons first rest ih =>
      unfold Check.putNamed
      obtain rfl | later := List.mem_cons.mp held
      · rw [if_neg (by simpa using other)]
        simp
      · split
        · simp [later]
        · simp [ih later]

theorem put_old {done : List (String × α)} {entry kept : String × α}
    (held : kept ∈ Check.putNamed done entry) : kept = entry ∨ kept ∈ done := by
  induction done with
  | nil => exact .inl (List.mem_singleton.mp held)
  | cons first rest ih =>
      unfold Check.putNamed at held
      split at held
      · obtain new | old := List.mem_cons.mp held
        · exact .inl new
        · exact .inr (by simp [old])
      · obtain same | later := List.mem_cons.mp held
        · exact .inr (by simp [same])
        · exact (ih later).imp_right fun old => by simp [old]

theorem merged_old {done entries : List (String × α)} {kept : String × α}
    (held : kept ∈ entries.foldl Check.putNamed done) : kept ∈ done ∨ kept ∈ entries := by
  induction entries generalizing done with
  | nil => exact .inl held
  | cons entry rest ih =>
      obtain before | later := ih held
      · exact (put_old before).symm.imp_right fun new => by simp [new]
      · exact .inr (by simp [later])

theorem merged_kept {done entries : List (String × α)} {kept : String × α} (held : kept ∈ done)
    (last : kept.1 ∉ entries.map Prod.fst) : kept ∈ entries.foldl Check.putNamed done := by
  induction entries generalizing done with
  | nil => exact held
  | cons entry rest ih =>
      simp only [List.map_cons, List.mem_cons, not_or] at last
      exact ih (put_other held last.1) last.2

theorem forall_split {β γ : Type} {related : β → γ → Prop} {before after : List β} {x : β} {ys : List γ}
    (each : List.Forall₂ related (before ++ x :: after) ys) :
    ∃ first y rest, ys = first ++ y :: rest ∧ related x y ∧ List.Forall₂ related after rest := by
  induction before generalizing ys with
  | nil =>
      obtain ⟨y, rest, held, others, rfl⟩ := List.forall₂_cons_left_iff.mp each
      exact ⟨[], y, rest, rfl, held, others⟩
  | cons b before ih =>
      obtain ⟨z, zs, _, others, rfl⟩ := List.forall₂_cons_left_iff.mp each
      obtain ⟨first, y, rest, rfl, found⟩ := ih others
      exact ⟨z :: first, y, rest, rfl, found⟩

theorem merged_member {v part : Value} {name : String} {entries : List (String × Value)}
    (held : v.get? name = some (merged entries)) (member : part ∈ valuesAt v name) :
    ∃ entry ∈ entries, entry.2 = part := by
  rw [merged_object] at held
  simp only [valuesAt, held, Value.object, List.map_map] at member
  obtain ⟨entry, listed, same⟩ := List.mem_map.mp member
  obtain none | given := merged_old listed
  · cases none
  · exact ⟨entry, given, same⟩

end Tables

/-- What the mapping of an item comes to, for every naming of all types that knows the names given
so far. -/
def Answers (m : Mapper) (names : Names) (slot : Slot) (mapped : Mapped) : Prop :=
  ∀ naming, names.Agrees naming →
    m.rendered naming m.depth [] slot.ref slot.usage = .ok mapped

def Entered (m : Mapper) (names : Names) (slot : Slot) (entry : String × Value) : Prop :=
  ∃ mapped, Answers m names slot mapped ∧ entry = (slot.name, describe mapped)

def AllEntered (m : Mapper) (names : Names) : List Slot → List (String × Value) → Prop :=
  List.Forall₂ (Entered m names)

def Tabled (m : Mapper) (names : Names) (slots : List Slot) (table : Value) : Prop :=
  ∃ entries, AllEntered m names slots entries ∧ table = merged entries

structure TypeWritten (m : Mapper) (names : Names) (t : TypeDefinition) (entry : Value) : Prop where
  named : ∃ name, names.name? t.id = some name ∧ entryName entry = some (t.id, name)
  fields : Option.Rel (Tabled m names) (fieldSlots t.shape) (entry.get? "fields")

structure EndpointWritten (m : Mapper) (names : Names) (e : Endpoint) (entry : Value) : Prop where
  operation : textAt entry "operationId" = some e.operationId
  method : textAt entry "method" = some e.method.name
  path : textAt entry "path" = some e.path
  parameters : ∃ table, entry.get? "parameters" = some table ∧ Tabled m names (parameterSlots e) table
  responses : ∃ table, entry.get? "responses" = some table ∧ Tabled m names (responseSlots e) table
  body : Option.Rel (fun slot part => ∃ mapped, Answers m names slot mapped ∧ part = describe mapped)
    (bodySlot? e) (entry.get? "requestBody")

section Growth

variable {m : Mapper} {names later : Names} (grown : names.Within later)
include grown

theorem answers_within {slot : Slot} {mapped : Mapped} (answers : Answers m names slot mapped) :
    Answers m later slot mapped :=
  fun naming agrees => answers naming (Names.agrees_within grown agrees)

theorem entered_within {slot : Slot} {entry : String × Value} (entered : Entered m names slot entry) :
    Entered m later slot entry :=
  entered.imp fun _ ⟨answers, same⟩ => ⟨answers_within grown answers, same⟩

theorem all_entered_within {slots : List Slot} {entries : List (String × Value)}
    (entered : AllEntered m names slots entries) : AllEntered m later slots entries :=
  entered.imp fun _ _ => entered_within grown

theorem tabled_within {slots : List Slot} {table : Value} (tabled : Tabled m names slots table) :
    Tabled m later slots table :=
  tabled.imp fun _ ⟨entered, same⟩ => ⟨all_entered_within grown entered, same⟩

theorem type_within {t : TypeDefinition} {entry : Value} (written : TypeWritten m names t entry) :
    TypeWritten m later t entry where
  named := written.named.imp fun _ ⟨held, read⟩ => ⟨Names.within_name grown held, read⟩
  fields := option_rel_imp written.fields fun _ _ => tabled_within grown

theorem endpoint_within {e : Endpoint} {entry : Value} (written : EndpointWritten m names e entry) :
    EndpointWritten m later e entry :=
  { written with
    parameters := written.parameters.imp fun _ ⟨held, tabled⟩ => ⟨held, tabled_within grown tabled⟩
    responses := written.responses.imp fun _ ⟨held, tabled⟩ => ⟨held, tabled_within grown tabled⟩
    body := option_rel_imp written.body fun _ _ ⟨mapped, answers, same⟩ =>
      ⟨mapped, answers_within grown answers, same⟩ }

end Growth

section Writing

variable {m : Mapper} {bad : Fault → Prop} {start : Progress}

structure Allows (m : Mapper) (bad : Fault → Prop) : Prop where
  mappings : ∀ site ∈ m.schema.sites, ∀ naming usage,
    FailsOnly bad (m.rendered naming m.depth [] site.ref usage)
  statuses : ∀ e ∈ m.schema.endpoints, ∀ r ∈ e.responses, FailsOnly bad (statusText r.status)

variable (allows : Allows m bad)
include allows

theorem keeps_answer (slot : Slot) (sited : Sited m slot) :
    (m.inside [] bad).Keeps start (m.mapType slot.ref slot.usage) fun mapped p =>
      Answers m p.names slot mapped := by
  obtain ⟨site, listed, at_slot⟩ := sited
  obtain ⟨name, ref, usage⟩ := slot
  cases at_slot
  intro p ⟨outside, reasoned⟩ later
  have kept : (m.inside [] fun _ => True).Keeps p
      (m.mapReference m.depth site.ref usage) fun _ _ => True :=
    reference_reasoned _ _ _ fun _ member => by cases member
  obtain ⟨sound, grown, _⟩ := kept p ⟨outside, reasoned⟩ (Names.within_refl p.names)
  obtain ⟨_, _, same⟩ := reference_follows m.depth [] site.ref usage p outside
  refine ⟨sound, grown, ?_⟩
  change Regime.outcome _ _ ((m.mapReference m.depth site.ref usage).run.run p)
  generalize (m.mapReference m.depth site.ref usage).run.run p = reached at same ⊢
  rcases reached with ⟨answer, q⟩
  cases answer with
  | error f => exact allows.mappings site listed _ usage f (same _ (naming_of q.names)).symm
  | ok mapped => exact fun naming agrees => (same naming agrees).symm

theorem keeps_slot {slot : Slot} (sited : Sited m slot) :
    (m.inside [] bad).Keeps start
      (do return (slot.name, describe (← m.mapType slot.ref slot.usage)))
      fun entry p => Entered m p.names slot entry :=
  Regime.keeps_bind (keeps_answer allows slot sited) fun mapped _ _ answers =>
    Regime.keeps_pure fun _ grown => ⟨mapped, answers_within grown answers, rfl⟩

-- One entry for each of the items, made by one step each.
theorem keeps_slots {α : Type} (slot : α → Slot) (items : List α)
    (sited : ∀ a ∈ items, Sited m (slot a)) :
    (m.inside [] bad).Keeps start
      (items.mapM fun a => do return ((slot a).name, describe (← m.mapType (slot a).ref (slot a).usage)))
      fun entries p => AllEntered m p.names (items.map slot) entries := by
  refine Regime.keeps_weaken (Regime.keeps_each items ?_ fun a c _ member =>
    keeps_slot allows (sited a member)) fun entries c _ all => List.forall₂_map_left_iff.mpr all
  exact fun _ _ _ _ grown entered => entered_within grown entered

theorem keeps_fields {t : TypeDefinition} (listed : t ∈ m.schema.types) :
    (m.inside [] bad).Keeps start (typeParts m t.shape) fun parts p =>
      Option.Rel (Tabled m p.names) (fieldSlots t.shape) ((Value.map parts).get? "fields") := by
  unfold typeParts
  cases shaped : t.shape with
  | object properties required additional discriminator =>
      refine Regime.keeps_bind (keeps_slots allows
        (fun p : Property => ⟨p.name, p.type, { required := p.required }⟩) properties
        fun p member => property_site listed shaped member) fun entries c _ entered => ?_
      exact Regime.keeps_pure fun c' grown => .some ⟨entries, all_entered_within grown entered, rfl⟩
  | primitive => exact Regime.keeps_pure fun _ _ => .none
  | array => exact Regime.keeps_pure fun _ _ => .none
  | «enum» => exact Regime.keeps_pure fun _ _ => .none
  | union => exact Regime.keeps_pure fun _ _ => .none

theorem keeps_entry {t : TypeDefinition} (listed : t ∈ m.schema.types) (shown : isListed t = true) :
    (m.inside [] bad).Keeps start (typeEntry m t) fun v p => TypeWritten m p.names t v := by
  have defined : t.id ∈ m.schema.types.map (·.id) := List.mem_map.mpr ⟨t, listed, rfl⟩
  have why : ∃ d ∈ m.schema.types, d.id = t.id ∧ m.Nameable d := ⟨t, listed, rfl, .inr (.inl shown)⟩
  refine Regime.keeps_bind (keeps_name (defined_never defined) why) fun name c _ named => ?_
  refine Regime.keeps_bind (keeps_fields allows listed) fun parts c' later fields => ?_
  refine Regime.keeps_pure fun c'' later' => ⟨⟨name, ?_, rfl⟩, ?_⟩
  · exact Names.within_name (Names.within_trans later later') named
  · exact option_rel_imp fields fun _ _ => tabled_within later'

theorem keeps_parameters {e : Endpoint} (listed : e ∈ m.schema.endpoints) :
    (m.inside [] bad).Keeps start (e.parameters.mapM (parameterEntry m)) fun entries p =>
      AllEntered m p.names (parameterSlots e) entries :=
  keeps_slots allows (fun p : Parameter => ⟨p.name, p.type, { required := p.required }⟩) e.parameters
    fun _ member => parameter_site listed member

theorem keeps_responses {e : Endpoint} (listed : e ∈ m.schema.endpoints) :
    (m.inside [] bad).Keeps start (e.responses.mapM (responseEntry m)) fun groups p =>
      AllEntered m p.names (responseSlots e) groups.flatten := by
  have each : (m.inside [] bad).Keeps start (e.responses.mapM (responseEntry m)) fun groups p =>
      List.Forall₂ (fun r group => AllEntered m p.names (responseSlot? r).toList group)
        e.responses groups := by
    refine Regime.keeps_each e.responses (fun _ _ _ _ grown entered =>
      all_entered_within grown entered) fun r start _ member => ?_
    unfold responseEntry responseSlot?
    cases typed : r.type with
    | none => exact Regime.keeps_pure fun _ _ => .nil
    | some ref =>
        have named : (m.inside [] bad).Keeps start (ofExcept (statusText r.status))
            fun name _ => name = statusName r.status :=
          Regime.keeps_of_except (allows.statuses e listed r member) fun _ _ _ => status_named
        refine Regime.keeps_bind named fun name c₁ _ same => ?_
        subst same
        refine Regime.keeps_bind (keeps_answer allows ⟨statusName r.status, ref, {}⟩
          (typed_response_site listed member typed)) fun mapped c _ answers => ?_
        exact Regime.keeps_pure fun c' grown =>
          .cons ⟨mapped, answers_within grown answers, rfl⟩ .nil
  refine Regime.keeps_weaken each fun groups c _ all => ?_
  exact List.rel_flatten (List.forall₂_map_left_iff.mpr all)

theorem keeps_endpoint {e : Endpoint} (listed : e ∈ m.schema.endpoints) :
    (m.inside [] bad).Keeps start (endpointEntry m e) fun v p => EndpointWritten m p.names e v := by
  refine Regime.keeps_bind (keeps_parameters allows listed) fun parameters c _ entered => ?_
  refine Regime.keeps_bind (keeps_responses allows listed) fun responses c₁ later₁ entered₁ => ?_
  have last (body : List (Scalar × Value)) (c₂ : Progress) (later₂ : c₁.names.Within c₂.names)
      (told : Option.Rel (fun slot part => ∃ mapped, Answers m c₂.names slot mapped ∧
        part = describe mapped) (bodySlot? e) (lookup? body (.text "requestBody"))) :
      (m.inside [] bad).Keeps c₂ (pure (.map (field "operationId" (.text e.operationId) ++
        field "method" (.text e.method.name) ++ field "path" (.text e.path) ++
        field "parameters" (merged parameters) ++ field "responses" (merged responses.flatten) ++
        body))) fun v p => EndpointWritten m p.names e v := by
    refine Regime.keeps_pure fun c₃ later₃ => endpoint_within later₃ ?_
    have later := Names.within_trans later₁ later₂
    exact ⟨rfl, rfl, rfl, ⟨_, rfl, _, all_entered_within later entered, rfl⟩,
      ⟨_, rfl, _, all_entered_within later₂ entered₁, rfl⟩, told⟩
  cases held : e.requestBody with
  | none => exact last [] c₁ (Names.within_refl c₁.names) (by simp only [bodySlot?, held]; exact .none)
  | some body =>
      refine Regime.keeps_bind (keeps_answer allows ⟨"requestBody", body.type, _⟩
        (body_site listed held)) fun mapped c₂ later₂ answers => last _ c₂ later₂ ?_
      simp only [bodySlot?, held]
      exact .some ⟨mapped, answers, rfl⟩

structure ContentWritten (m : Mapper) (names : Names) (v : Value) : Prop where
  types : List.Forall₂ (TypeWritten m names) (m.schema.types.filter isListed) (itemsAt v "types")
  endpoints : List.Forall₂ (EndpointWritten m names) m.schema.endpoints (itemsAt v "endpoints")

theorem keeps_written (options : OutputOptions) :
    (m.inside [] bad).Keeps start (content m options) fun v p => ContentWritten m p.names v := by
  have types : (m.inside [] bad).Keeps start ((m.schema.types.filter isListed).mapM (typeEntry m))
      fun entries p => List.Forall₂ (TypeWritten m p.names) (m.schema.types.filter isListed) entries := by
    refine Regime.keeps_each _ (fun _ _ _ _ grown => type_within grown) fun t p _ member => ?_
    obtain ⟨listed, shown⟩ := List.mem_filter.mp member
    exact keeps_entry allows listed shown
  have endpoints (start : Progress) : (m.inside [] bad).Keeps start
      (m.schema.endpoints.mapM (endpointEntry m)) fun entries p =>
        List.Forall₂ (EndpointWritten m p.names) m.schema.endpoints entries :=
    Regime.keeps_each _ (fun _ _ _ _ grown => endpoint_within grown) fun e p _ member =>
      keeps_endpoint allows member
  refine Regime.keeps_bind types fun types c _ all => ?_
  refine Regime.keeps_bind (endpoints c) fun endpoints c' later all' => ?_
  refine Regime.keeps_pure fun c'' later' => ⟨?_, ?_⟩
  · exact all.imp fun _ _ => type_within (Names.within_trans later later')
  · exact all'.imp fun _ _ => endpoint_within later'

end Writing

-- Nothing is asked of the faults where the catalog is known to be written.
theorem content_written (s : Schema) (language : Language) (custom : List (String × String))
    (options : OutputOptions) {v : Value} {later : Mapper}
    (ran : (make s language custom).run (content (make s language custom) options) = (.ok v, later)) :
    ∃ p, later = { make s language custom with toProgress := p } ∧ p.within = [] ∧
      (make s language custom).Reasoned p.names ∧ ContentWritten (make s language custom) p.names v := by
  let m := make s language custom
  have allows : Allows m fun _ => True := ⟨fun _ _ _ _ _ _ => trivial, fun _ _ _ _ _ _ => trivial⟩
  have sound : (m.inside [] fun _ => True).holds m.toProgress := ⟨rfl, made_reasoned s language custom⟩
  obtain ⟨⟨outside, reasoned⟩, _, outcome⟩ :=
    keeps_written allows options m.toProgress sound (Names.within_refl m.names)
  generalize same : (content m options).run.run m.toProgress = reached at outside reasoned outcome
  rcases reached with ⟨answer, p⟩
  have whole : m.run (content m options) = (answer, { m with toProgress := p }) := by
    simp only [Mapper.run]
    rw [show (content m options).run m.toProgress = (answer, p) from same]
  obtain ⟨rfl, rfl⟩ := Prod.mk.inj (whole.symm.trans ran)
  exact ⟨p, rfl, outside, reasoned, outcome⟩

theorem file_text {m later : Mapper} {options : OutputOptions} {v : Value}
    (ran : m.run (content m options) = (.ok v, later)) :
    file m options = (jsonText v).map (⟨"types." ++ m.language.name ++ ".json", ·, false⟩) := by
  simp only [file, ran]
  change (jsonText v >>= _) = _
  cases jsonText v <;> rfl

theorem text_made (m : Mapper) (options : OutputOptions)
    (made : ((m.run (content m options)).1 >>= jsonText).toOption.isSome = true) :
    ∃ v later text, m.run (content m options) = (.ok v, later) ∧ jsonText v = .ok text := by
  generalize m.run (content m options) = reached at made
  rcases reached with ⟨_ | v, later⟩
  · cases made
  · cases spelled : jsonText v with
    | error f =>
        change (jsonText v).toOption.isSome = true at made
        simp [spelled, Except.toOption] at made
    | ok text => exact ⟨v, later, text, rfl, spelled⟩

/-- Why the catalog of a schema whose references are all defined may be missing. -/
inductive Blocked (m : Mapper) : Fault → Prop
  | depth {site : Site} : site ∈ m.schema.sites → m.Descends [] site.ref m.depth →
      Blocked m (.misuse .depth)
  | value {d : TypeDefinition} : d ∈ m.schema.types → m.Unprintable d → Blocked m (.misuse .value)
  | status {e : Endpoint} {r : Response} {n : Int} : e ∈ m.schema.endpoints → r ∈ e.responses →
      r.status = .code n → isShort n = false → Blocked m (.misuse .value)

theorem allows_blocked {m : Mapper}
    (closed : ∀ site ∈ m.schema.sites, site.ref.typeId ∈ m.schema.types.map (·.id)) :
    Allows m (Blocked m) where
  mappings := fun site listed _ usage =>
    closed_ends closed (fun _ => .value) (.depth listed) usage (closed site listed)
  statuses := by
    intro e there r member
    cases coded : r.status with
    | text s => exact fails_ok s
    | code n => exact fails_printed fun long => .status there member coded long

theorem content_stops (s : Schema) (language : Language) (custom : List (String × String))
    (options : OutputOptions) (closed : ∀ site ∈ s.sites, site.ref.typeId ∈ s.types.map (·.id)) :
    let m := make s language custom
    FailsOnly (Blocked m) (m.run (content m options)).1 := by
  intro m
  have sound : (m.inside [] (Blocked m)).holds m.toProgress := ⟨rfl, made_reasoned s language custom⟩
  obtain ⟨-, -, outcome⟩ := keeps_written (allows_blocked (m := m) closed) options m.toProgress sound
    (Names.within_refl m.names)
  change FailsOnly _ ((content m options).run.run m.toProgress).1
  generalize (content m options).run.run m.toProgress = reached at outcome ⊢
  rcases reached with ⟨answer, p⟩
  cases answer with
  | ok v => exact fails_ok v
  | error f =>
      intro g failed
      cases failed
      exact outcome

section Told

def Says (m : Mapper) (slot : Slot) (part : Value) : Prop :=
  ∃ mapped, (m.run (m.mapType slot.ref slot.usage)).1 = .ok mapped ∧ part = describe mapped

/-- A table has one entry for each name, and it is the last item with the name that is told of. It tells
of every item exactly if their names are different. -/
structure Covers (m : Mapper) (slots : List Slot) (table : List (String × Value)) : Prop where
  names : table.map Prod.fst = (slots.map (·.name)).foldl addName []
  last : ∀ before slot after, slots = before ++ slot :: after → slot.name ∉ after.map (·.name) →
    ∃ part, Says m slot part ∧ (slot.name, part) ∈ table
  whole : List.Forall₂ (fun slot entry => entry.1 = slot.name ∧ Says m slot entry.2) slots table ↔
    (slots.map (·.name)).Nodup

structure TypeTold (m : Mapper) (t : TypeDefinition) (entry : Value) : Prop where
  named : ∃ name, m.names.name? t.id = some name ∧ entryName entry = some (t.id, name)
  fields : Option.Rel (fun slots part => ∃ table, part = .object table ∧ Covers m slots table)
    (fieldSlots t.shape) (entry.get? "fields")

structure EndpointTold (m : Mapper) (e : Endpoint) (entry : Value) : Prop where
  operation : textAt entry "operationId" = some e.operationId
  method : textAt entry "method" = some e.method.name
  path : textAt entry "path" = some e.path
  parameters : ∃ table, entry.get? "parameters" = some (.object table) ∧
    Covers m (parameterSlots e) table
  responses : ∃ table, entry.get? "responses" = some (.object table) ∧
    Covers m (responseSlots e) table
  body : Option.Rel (Says m) (bodySlot? e) (entry.get? "requestBody")

variable {m : Mapper} {p : Progress}

-- The names that are given later do not change what is written with those given so far.
theorem answers_said (outside : p.within = []) {slot : Slot} {mapped : Mapped}
    (answers : Answers m p.names slot mapped) :
    Says { m with toProgress := p } slot (describe mapped) := by
  let left : Mapper := { m with toProgress := p }
  let last := ((left.mapType slot.ref slot.usage).run.run p).2.names
  obtain ⟨_, given, same⟩ := reference_follows (m := left) m.depth [] slot.ref slot.usage p
    outside
  have answered : (left.run (left.mapType slot.ref slot.usage)).1 =
      left.rendered _ m.depth [] slot.ref slot.usage := same _ (naming_of last)
  rw [rendered_bound (n := left) (m := m) rfl rfl rfl,
    answers _ (Names.agrees_within (naming_within given) (naming_of last))] at answered
  exact ⟨mapped, answered, rfl⟩

theorem tabled_covers (outside : p.within = []) {slots : List Slot} {part : Value}
    (tabled : Tabled m p.names slots part) :
    ∃ table, part = .object table ∧ Covers { m with toProgress := p } slots table := by
  obtain ⟨entries, entered, rfl⟩ := tabled
  have told : List.Forall₂ (fun slot entry =>
      entry.1 = slot.name ∧ Says { m with toProgress := p } slot entry.2) slots entries :=
    entered.imp fun slot entry ⟨mapped, answers, same⟩ => by
      rw [same]
      exact ⟨rfl, answers_said outside answers⟩
  have named {slots : List Slot} {entries : List (String × Value)} (told : List.Forall₂ (fun slot entry =>
      entry.1 = slot.name ∧ Says { m with toProgress := p } slot entry.2) slots entries) :
      entries.map Prod.fst = slots.map (·.name) := by
    induction told with
    | nil => rfl
    | cons held _ ih => rw [List.map_cons, List.map_cons, ih, held.1]
  refine ⟨_, merged_object entries, ?_, ?_, ?_, ?_⟩
  · rw [merged_names, named told]
    rfl
  · intro before slot after split last
    obtain ⟨first, entry, rest, rfl, ⟨name, said⟩, others⟩ := forall_split (split ▸ told)
    rw [← named others, ← name] at last
    rw [List.foldl_append, List.foldl_cons]
    exact ⟨entry.2, said, name ▸ merged_kept (put_member _ entry) last⟩
  · intro all
    rw [← named all]
    exact merged_distinct (by simp) entries
  · intro distinct
    rw [← named told] at distinct
    rwa [merged_same (by simpa using distinct), List.nil_append]

/-- The catalog of a schema whose references are all defined is missing only where a mapping is too deep
or a number too long. It tells of every listed type and of every endpoint in order, and its tables tell
of all parameters, responses and fields that share their names with no later ones. -/
theorem catalog_tells (s : Schema) (language : Language) (custom : List (String × String))
    (options : OutputOptions) (closed : ∀ site ∈ s.sites, site.ref.typeId ∈ s.types.map (·.id)) :
    let m := make s language custom
    FailsOnly (Blocked m) (m.run (content m options)).1 ∧
      ∀ v later, m.run (content m options) = (.ok v, later) →
        file m options = (jsonText v).map (⟨"types." ++ language.name ++ ".json", ·, false⟩) ∧
        List.Forall₂ (TypeTold later) (s.types.filter isListed) (itemsAt v "types") ∧
        List.Forall₂ (EndpointTold later) s.endpoints (itemsAt v "endpoints") := by
  intro m
  refine ⟨content_stops s language custom options closed, fun v later ran => ?_⟩
  obtain ⟨p, rfl, outside, _, written⟩ := content_written s language custom options ran
  refine ⟨file_text ran, written.types.imp ?_, written.endpoints.imp ?_⟩
  · exact fun t entry held =>
      ⟨held.named, option_rel_imp held.fields fun _ _ => tabled_covers outside⟩
  · intro e entry held
    obtain ⟨parameters, there, tabled⟩ := held.parameters
    obtain ⟨responses, there', tabled'⟩ := held.responses
    obtain ⟨table, rfl, covers⟩ := tabled_covers outside tabled
    obtain ⟨table', rfl, covers'⟩ := tabled_covers outside tabled'
    refine ⟨held.operation, held.method, held.path, ⟨table, there, covers⟩, ⟨table', there', covers'⟩, ?_⟩
    exact option_rel_imp held.body fun _ _ ⟨mapped, answers, same⟩ =>
      same ▸ answers_said outside answers

def reading (parameters : List Parameter) : Schema where
  metadata := sampleMetadata
  types :=
    [{ id := "type_0", name := "string", shape := .primitive .string none },
      { id := "type_1", name := "integer", shape := .primitive .integer none }]
  endpoints :=
    [{ id := "read", operationId := "read", path := "/notes/{id}", method := .get, parameters,
       responses := [{ status := .code 200, type := some ⟨"type_0", false⟩ },
         { status := .text "default" }] }]

def noteId : Parameter := { name := "id", location := .path, type := ⟨"type_0", false⟩, required := true }
def page : Parameter := { name := "page", location := .query, type := ⟨"type_1", false⟩ }

theorem reading_tells :
    let s := reading [noteId, page]
    let m := make s .python []
    let options : OutputOptions := { outputDir := ".", packageName := "sdk" }
    (∀ site ∈ s.sites, site.ref.typeId ∈ s.types.map (·.id)) ∧
      (s.endpoints.map fun e => ((parameterSlots e).map (·.name), (responseSlots e).map (·.name))) =
        [(["id", "page"], ["200"])] ∧
      ∃ v later text, m.run (content m options) = (.ok v, later) ∧ jsonText v = .ok text ∧
        file m options = .ok ⟨"types.python.json", text, false⟩ ∧
        List.Forall₂ (TypeTold later) (s.types.filter isListed) (itemsAt v "types") ∧
        List.Forall₂ (EndpointTold later) s.endpoints (itemsAt v "endpoints") := by
  intro s m options
  have closed : ∀ site ∈ s.sites, site.ref.typeId ∈ s.types.map (·.id) := by decide +kernel
  obtain ⟨v, later, text, ran, spelled⟩ := text_made m options (by decide +kernel)
  obtain ⟨filed, types, endpoints⟩ := (catalog_tells s .python [] options closed).2 v later ran
  rw [spelled] at filed
  exact ⟨closed, by decide +kernel, v, later, text, ran, spelled, filed, types, endpoints⟩

/-- A parameter of the path and one of the query with its name: only the second is told of. -/
theorem reading_loses :
    let s := reading [noteId, { page with name := "id" }]
    let m := make s .python []
    let outcome := m.run (content m { outputDir := ".", packageName := "sdk" })
    (∀ site ∈ s.sites, site.ref.typeId ∈ s.types.map (·.id)) ∧
      outcome.1.toOption.map (fun v => (itemsAt v "endpoints").map fun entry =>
        (valuesAt entry "parameters").map (textAt · "expression")) = some [[some "Optional[int]"]] := by
  decide +kernel

end Told

end Catalog

end ApiSchema
