import ApiSchema.Proofs.OpenApi.Following
import ApiSchema.Proofs.OpenApi.Operations

namespace ApiSchema.OpenApi

open Regime

def componentsOf (d : Document) : Entries :=
  (d.graph.entries? (fieldOf ((d.graph.entries? d.root).getD []) "components")).getD []

def schemasOf (d : Document) : Entries :=
  (d.graph.entries? (fieldOf (componentsOf d) "schemas")).getD []

def pathsOf (d : Document) : Entries :=
  (d.graph.entries? (fieldOf ((d.graph.entries? d.root).getD []) "paths")).getD []

def ComponentsFit (d : Document) (leads : String → Nat → Prop) : Prop :=
  ∀ key node name, (key, node) ∈ schemasOf d → componentName key = .ok name →
    Fits d leads (some (componentReference name)) node

structure Converted (d : Document) (leads : String → Nat → Prop) (s : Schema) (c : Context) :
    Prop where
  types : c.slots = s.types.map some
  endpoints : List.Forall₂ (EndpointAt d (Standing d leads · · c) (s.authentication.map (·.id)))
    (operationsOf d (pathsOf d)) s.endpoints
  errors : ∀ e ∈ s.errors, ErrorAt (Standing d leads · · c) e

theorem empty_entries {g : Graph} {item : Item} (empty : g.truthy item = false) :
    (g.entries? item).getD [] = [] := by
  cases item with
  | scalar a => rfl
  | node id =>
      simp only [Graph.truthy, Graph.entries?, Graph.of?] at empty ⊢
      cases found : g.cell? id with
      | none => rfl
      | some cell =>
          rw [found] at empty
          cases cell with
          | map entries =>
              cases entries with
              | nil => rfl
              | cons => cases empty
          | list | set | pair => rfl

theorem entries_or_none_ok {g : Graph} {item : Item} {entries : Entries}
    (read : entriesOrNone g item = .ok entries) : (g.entries? item).getD [] = entries := by
  unfold entriesOrNone entriesOf at read
  split at read
  · split at read
    next found =>
      cases read
      rw [found]
      rfl
    · cases read
  next empty =>
    cases read
    exact empty_entries (by simpa using empty)

theorem component_name_tame {key : Scalar} : Tame (componentName key) := by
  unfold componentName
  split
  all_goals first | exact tame_ok _ | exact tame_misuse _

theorem flows_tame {g : Graph} {item : Item} : Tame (flowsOf g item) :=
  tame_bind entries_tame fun _ => tame_each _ fun _ => checked_tame

theorem metadata_tame {g : Graph} {root : Entries} {options : FrontendOptions} :
    Tame (metadataOf g root options) := by
  refine tame_bind entries_tame fun _ => tame_bind (tame_bind items_or_none_tame fun _ => tame_ok _) ?_
  intro servers
  extract_lets about extra
  exact tame_bind printed_tame fun _ => tame_ok _

theorem http_scheme_tame {g : Graph} {entries : Entries} : Tame (httpSchemeOf g entries) := by
  unfold httpSchemeOf
  split
  · exact tame_map _ printed_tame
  · exact tame_ok _

theorem types_tame {c : Context} : Tame c.types := by
  unfold Context.types
  split
  · exact tame_ok _
  · intro f failed
    cases failed
    trivial

theorem insert_error_member (e other : ErrorDefinition) (errors : List ErrorDefinition) :
    other ∈ insertError e errors ↔ other = e ∨ other ∈ errors := by
  induction errors with
  | nil => simp [insertError]
  | cons first rest ih =>
      unfold insertError
      split
      · simp
      · simp only [List.mem_cons, ih]
        constructor
        · rintro (same | same | member)
          · exact .inr (.inl same)
          · exact .inl same
          · exact .inr (.inr member)
        · rintro (same | same | member)
          · exact .inr (.inl same)
          · exact .inl same
          · exact .inr (.inr member)

theorem sorted_errors_member (errors : List ErrorDefinition) (e : ErrorDefinition) :
    e ∈ errors.foldr insertError [] ↔ e ∈ errors := by
  induction errors with
  | nil => rfl
  | cons first rest ih => rw [List.foldr_cons, insert_error_member, ih, List.mem_cons]

section Security

variable {R : Regime Context Fault} {given : Part → String → Context → Prop} {start : Context}
  {d : Document} {convert : Convert}

theorem scheme_of_kept (able : Converts R given start ⟨d, []⟩ convert) (id : Scalar) (entries : Entries) :
    R.Keeps start (schemeOf ⟨d, []⟩ id entries) fun _ _ => True := by
  unfold schemeOf
  extract_lets g kind
  refine tame_step able http_scheme_tame fun httpScheme _ => ?_
  split
  · exact keeps_map (checked_kept able fun _ _ => trivial)
  split
  · exact keeps_map (checked_kept able fun _ _ => trivial)
  split
  · exact keeps_map (checked_kept able fun _ _ => trivial)
  split
  · refine tame_step able flows_tame fun flows _ => ?_
    exact checked_step able (fun _ _ => trivial) fun _ (_ : True) => keeps_pure fun _ _ => trivial
  · refine keeps_bind (note_issue_kept able printed_tame) fun _ _ _ _ => ?_
    exact keeps_pure fun _ _ => trivial

theorem schemes_from_kept (able : Converts R given start ⟨d, []⟩ convert) (entries : Entries) :
    R.Keeps start (schemesFrom ⟨d, []⟩ entries) fun _ _ => True := by
  induction entries generalizing start with
  | nil => exact keeps_pure fun _ _ => trivial
  | cons entry rest ih =>
      obtain ⟨id, node⟩ := entry
      unfold schemesFrom
      have able' : Converts R given start (Surroundings.mk ⟨d, []⟩ convert []).scope convert := able
      refine keeps_bind (component_kept able' d node "security scheme") fun found c later _ => ?_
      extract_lets finish
      have finished : ∀ scheme c', R.grows c c' →
          R.Keeps c' (finish scheme) fun _ _ => True := by
        intro scheme c' later'
        refine keeps_bind (ih (converts_later able (R.trans later later'))) fun _ _ _ _ => ?_
        exact keeps_pure fun _ _ => trivial
      cases found with
      | none => exact finished none c (R.refl c)
      | some entries =>
          refine keeps_bind (scheme_of_kept (converts_later able later) id entries) ?_
          exact fun scheme c' later' _ => finished scheme c' later'

end Security

section Convert

variable {d : Document} {leads : String → Nat → Prop} {start : Context}

theorem ready_empty (start : Context) {reference : Option String} : Ready d leads [] reference start :=
  fun _ _ impossible => by cases impossible

theorem convert_components_kept (answers : Answers d leads (convertNode d)) (entries : Entries)
    (fit : ∀ key node name, (key, node) ∈ entries → componentName key = .ok name →
      Fits d leads (some (componentReference name)) node) :
    (tracing d leads).Keeps start (convertComponents (convertNode d) entries) fun _ _ => True := by
  induction entries generalizing start with
  | nil => exact keeps_pure fun _ _ => trivial
  | cons entry rest ih =>
      obtain ⟨key, node⟩ := entry
      unfold convertComponents
      have able := answers_converts answers (ready_empty start)
      refine tame_step able component_name_tame fun name same => ?_
      have fits : Fits d leads (some (componentReference name)) node :=
        fit key node name (by simp) same
      refine keeps_bind (answers [] (.node node name (some (componentReference name)) none) start fits
        (ready_empty start)) fun _ _ _ _ => ?_
      exact ih fun key node name member => fit key node name (by simp [member])

-- The types are read off the very state that is left.
theorem types_kept {α : Type} {finish : List TypeDefinition → α} {post : α → Context → Prop}
    (listed : ∀ c types, Later leads start c → c.slots = types.map some → post (finish types) c) :
    (tracing d leads).Keeps start (do
      let c ← get
      let types ← ofExcept c.types
      return finish types) post := by
  intro c traced later
  rw [types_run]
  cases read : c.types with
  | ok types =>
      exact ⟨traced, later_refl c, listed c types later (Context.types_listed read)⟩
  | error f => exact ⟨traced, later_refl c, types_tame f read⟩

theorem convert_kept (start : Context) (follows : Follows d leads) (fit : ComponentsFit d leads)
    (options : FrontendOptions) :
    (tracing d leads).Keeps start (convert d options) (Converted d leads) := by
  have answers := convert_node_answers follows
  unfold convert
  extract_lets g root
  have able := answers_converts answers (ready_empty start)
  refine tame_step able entries_or_none_tame fun components read₁ => ?_
  refine tame_step able entries_or_none_tame fun schemas read₂ => ?_
  have listed : schemas = schemasOf d := by
    have inner : componentsOf d = components := entries_or_none_ok read₁
    have outer : (g.entries? (fieldOf components "schemas")).getD [] = schemas :=
      entries_or_none_ok read₂
    rw [← outer, ← inner]
    rfl
  refine keeps_bind (convert_components_kept answers schemas fun key node name member =>
    fit key node name (listed ▸ member)) fun _ c₁ later₁ _ => ?_
  have able₁ := converts_later able later₁
  refine tame_step able₁ entries_or_none_tame fun schemes _ => ?_
  refine keeps_bind (schemes_from_kept able₁ schemes) fun authentication c₂ later₂ _ => ?_
  extract_lets surroundings
  have able₂ : Converts (tracing d leads) (Standing d leads) c₂ surroundings.scope
    surroundings.convert := converts_later able₁ later₂
  refine tame_step able₂ entries_or_none_tame fun paths read => ?_
  refine keeps_bind (endpoints_from_kept able₂ [] paths fun _ impossible => by cases impossible) ?_
  rintro ⟨endpoints, errors⟩ c₃ later₃ ⟨each, sound⟩
  have able₃ := converts_later able₂ later₃
  refine tame_step able₃ metadata_tame fun metadata _ => ?_
  have same : pathsOf d = paths := entries_or_none_ok read
  refine types_kept fun c types later full => ⟨full, ?_, fun e member => ?_⟩
  · rw [same]
    exact each.imp (endpoint_later able₃ later)
  · exact error_later able₃ later sound e ((sorted_errors_member errors e).mp member)

end Convert

section Sites

variable {d : Document} {given : Given}

end Sites

section Closed

variable {d : Document} {options : FrontendOptions} {s : Schema} {c : Context}

theorem empty_traced {leads : String → Nat → Prop} : Traced d leads {} where
  filled _ _ impossible := by cases impossible
  references _ _ impossible := by cases impossible
  identities _ _ impossible := by cases impossible
  pointers _ _ impossible := by cases impossible

theorem convert_traced {leads : String → Nat → Prop} (follows : Follows d leads)
    (fit : ComponentsFit d leads) (converted : (convert d options).run.run {} = (.ok s, c)) :
    Traced d leads c ∧ Converted d leads s c := by
  have kept := convert_kept {} follows fit options {} empty_traced (later_refl {})
  rw [converted] at kept
  exact ⟨kept.1, kept.2.2⟩

/-- Leads from no reference to no node: what holds for it holds whatever the references are. -/
def leadsNowhere (_ : String) (_ : Nat) : Prop := False

theorem nowhere_follows : Follows d leadsNowhere :=
  ⟨fun _ _ => False.elim, fun _ _ _ => False.elim⟩

theorem nowhere_fits : ComponentsFit d leadsNowhere := by
  intro key node name _ _
  exact ⟨fun _ _ _ => False.elim, fun _ _ _ _ => False.elim, fun _ _ _ _ => False.elim⟩

theorem listed_ids {leads : String → Nat → Prop} (traced : Traced d leads c)
    (full : c.slots = s.types.map some) :
    s.types.map (·.id) = (List.range s.types.length).map typeIdOf :=
  Context.listed_ids full fun k t held => (traced.filled k t held).1

theorem known_listed {leads : String → Nat → Prop} (traced : Traced d leads c)
    (full : c.slots = s.types.map some) {id : String} (known : c.Known id) :
    id ∈ s.types.map (·.id) := by
  obtain ⟨k, t, rfl, member, slot⟩ := Context.known_type full known
  exact List.mem_map.mpr ⟨t, member, (traced.filled k t slot).1⟩

end Closed

def aliasDocument : Document where
  graph := ⟨#[
    .map [(.text "info", .node 1), (.text "components", .node 2)],
    .map [(.text "version", .text "1")],
    .map [(.text "schemas", .node 3)],
    .map [(.text "User", .node 4), (.text "Alias", .node 5), (.text "Node", .node 6)],
    .map [(.text "properties", .node 7), (.text "required", .node 8)],
    .map [(.text "$ref", .text "#/components/schemas/Node")],
    .map [(.text "properties", .node 9)],
    .map [(.text "a", .node 10), (.text "gone", .node 11)],
    .list [.text "a"],
    .map [(.text "next", .node 10)],
    .map [(.text "$ref", .text "#/components/schemas/Alias")],
    .map [(.text "$ref", .text "elsewhere")]]⟩
  root := .node 0

def plainOptions : FrontendOptions where
  providerId := "example"
  providerName := "Example"

end ApiSchema.OpenApi
