import ApiSchema.Proofs.Target.Requests
import ApiSchema.Proofs.Target.Totality

namespace ApiSchema

inductive Request where
  | name (id : String)
  | type (ref : TypeRef) (usage : Usage)
  | property (p : Property)

namespace Mapper

def ask (m : Mapper) : Request → Mapper
  | .name id => (m.run (m.typeName id)).2
  | .type ref usage => (m.run (m.mapType ref usage)).2
  | .property p => (m.run (m.mapProperty p)).2

def after (m : Mapper) (history : List Request) : Mapper := history.foldl ask m

variable {s : Schema} {m : Mapper} {names later : Names} {α : Type}

theorem run_names {step : Mapping α} {value : (String → String) → Except Fault α}
    (follows : m.Follows m.within step value) : Naming m.schema m.names (m.run step).2.names :=
  (follows m.toProgress rfl).2.1

theorem ask_names (m : Mapper) (r : Request) : Naming m.schema m.names (m.ask r).names := by
  cases r with
  | name id => exact run_names (follows_name id)
  | type ref usage => exact run_names (reference_follows _ m.within ref usage)
  | property p => exact run_names (reference_follows _ m.within p.type { required := p.required })

theorem ask_bound (m : Mapper) (r : Request) :
    (m.ask r).schema = m.schema ∧ (m.ask r).language = m.language ∧ (m.ask r).custom = m.custom ∧
      (m.ask r).depth = m.depth := by
  cases r <;> exact ⟨rfl, rfl, rfl, rfl⟩

theorem after_bound (m : Mapper) (history : List Request) :
    (m.after history).schema = m.schema ∧ (m.after history).language = m.language ∧
      (m.after history).custom = m.custom ∧ (m.after history).depth = m.depth := by
  induction history generalizing m with
  | nil => exact ⟨rfl, rfl, rfl, rfl⟩
  | cons r rest ih =>
      obtain ⟨schema, language, custom, depth⟩ := ask_bound m r
      obtain ⟨schema', language', custom', depth'⟩ := ih (m.ask r)
      exact ⟨schema'.trans schema, language'.trans language, custom'.trans custom, depth'.trans depth⟩

theorem after_names (m : Mapper) (history : List Request) :
    Naming m.schema m.names (m.after history).names := by
  induction history generalizing m with
  | nil => exact .none
  | cons r rest ih =>
      have further := ih (m.ask r)
      rw [(ask_bound m r).1] at further
      exact naming_trans (ask_names m r) further

theorem ask_within (m : Mapper) (r : Request) : (m.ask r).within = m.within := by
  cases r with
  | name id => exact (name_ends m id).within
  | type ref usage => exact (type_ends m ref usage).within
  | property p => exact (type_ends m p.type { required := p.required }).within

theorem after_within (m : Mapper) (history : List Request) : (m.after history).within = m.within := by
  induction history generalizing m with
  | nil => rfl
  | cons r rest ih => exact (ih (m.ask r)).trans (ask_within m r)

section Construction

variable {language : Language} {custom : List (String × String)}

theorem fold_names (ts : List TypeDefinition) (listed : ∀ t ∈ ts, t ∈ s.types) (names : Names) :
    Naming s names (ts.foldl (fun names t =>
      (names.assign t.id (wantedName ((s.definition? t.id).getD t))).2) names) ∧
    ∀ t ∈ ts, ∃ name, (ts.foldl (fun names t =>
      (names.assign t.id (wantedName ((s.definition? t.id).getD t))).2) names).name? t.id = some name := by
  induction ts generalizing names with
  | nil => exact ⟨.none, fun _ member => by cases member⟩
  | cons t rest ih =>
      have defined : t.id ∈ s.types.map (·.id) := List.mem_map.mpr ⟨t, listed t (by simp), rfl⟩
      cases found : s.definition? t.id with
      | none => exact absurd defined (definition_missing found)
      | some d =>
          simp only [List.foldl_cons, found, Option.getD_some]
          obtain ⟨given, each⟩ := ih (fun t member => listed t (by simp [member]))
            (names.assign t.id (wantedName d)).2
          refine ⟨naming_trans (.more .none found) given, fun t' member => ?_⟩
          obtain rfl | member := List.mem_cons.mp member
          · exact ⟨_, Names.within_name (naming_within given) (Names.assign_name _ _ _)⟩
          · exact each t' member

theorem make_names (s : Schema) (language : Language) (custom : List (String × String)) :
    Naming s ⟨language.capabilities.reserved, []⟩ (make s language custom).names :=
  (fold_names _ (fun _ member => (List.mem_filter.mp member).1) _).1

theorem nominal_named (custom : List (String × String)) {t : TypeDefinition} (listed : t ∈ s.types)
    (nominal : isNominal language.capabilities t = true) :
    ∃ name, (make s language custom).names.name? t.id = some name :=
  (fold_names _ (fun _ member => (List.mem_filter.mp member).1) _).2 t
    (List.mem_filter.mpr ⟨listed, nominal⟩)

theorem made_names (s : Schema) (language : Language) (custom : List (String × String))
    (history : List Request) : Naming s ⟨language.capabilities.reserved, []⟩
      ((make s language custom).after history).names :=
  naming_trans (make_names s language custom) (after_names (make s language custom) history)

end Construction

theorem naming_apart (given : Naming s names later) (apart : names.Apart) : later.Apart := by
  induction given with
  | none => exact apart
  | more _ _ ih => exact Names.apart_assign ih _ _

theorem naming_unreserved (given : Naming s names later) (clear : Names.Clear names.reserved)
    (free : names.Unreserved) : later.Unreserved := by
  induction given with
  | none => exact free
  | more before _ ih =>
      exact Names.assign_unreserved (by rw [(naming_within before).reserved]; exact clear) ih _ _

theorem reserved_clear (language : Language) : Names.Clear language.capabilities.reserved := by
  cases language <;> exact Names.clear_of_ends (by decide) (by decide)

/-- In every run, whatever was asked before and whether or not it had an answer: two types never
share a name, no name is reserved by the language, and a name once given stays. A type that has a
name from the start keeps it, and all that this name depends on are the types and the language. The
search for a free name ends at the first one that is free. -/
theorem names_of_run (s : Schema) (language : Language) (custom : List (String × String))
    (history : List Request) :
    let made := make s language custom
    let m := made.after history
    (∀ a b name, m.names.name? a = some name → m.names.name? b = some name → a = b) ∧
      (∀ a name, m.names.name? a = some name → name ∉ language.capabilities.reserved) ∧
      (∀ more a name, m.names.name? a = some name → (m.after more).names.name? a = some name) ∧
      (∀ t ∈ s.types, isNominal language.capabilities t = true → ∃ name,
        made.names.name? t.id = some name ∧ m.names.name? t.id = some name ∧
          ∀ s' custom', s'.types = s.types →
            (make s' language custom').names.name? t.id = some name) ∧
      ∀ (names : Names) wanted, names.IsLeast wanted (names.free wanted) := by
  intro made m
  have given := made_names s language custom history
  have apart : m.names.Apart := naming_apart given ⟨List.nodup_nil, List.nodup_nil⟩
  have free : m.names.Unreserved :=
    naming_unreserved given (reserved_clear language) fun _ member => by cases member
  refine ⟨fun a b name => Names.apart_names apart, fun a name held => ?_, fun more a name held => ?_,
    fun t listed nominal => ?_, Names.free_is_least⟩
  · have reserved : m.names.reserved = language.capabilities.reserved := (naming_within given).reserved
    rw [← reserved]
    exact free _ (Names.lookup_member held)
  · exact Names.within_name (naming_within (after_names m more)) held
  · obtain ⟨name, held⟩ := nominal_named custom listed nominal
    refine ⟨name, held, ?_, fun s' custom' same => ?_⟩
    · exact Names.within_name (naming_within (after_names made history)) held
    · rw [← held]
      simp only [make, Schema.definition?, same]

theorem wanted_identifier (d : TypeDefinition) : Text.IsIdentifier (wantedName d).toList := by
  simpa [wantedName] using Text.type_name_identifier d.name.toList

theorem naming_formed (given : Naming s names later) (formed : names.Formed) : later.Formed := by
  induction given with
  | none => exact formed
  | @more later id d _ _ ih => exact (Names.assign_formed ih (wanted_identifier d) id).2

/-- The type name of any text is an identifier and is its own type name. It stays an identifier with what
is put behind it when it is reserved or taken, in every registry; so in a run of requests for type names
all names are identifiers, and so are those of every mapper. -/
theorem type_names_identifiers :
    (∀ text, Text.IsIdentifier (Text.typeName text) ∧
      Text.typeName (Text.typeName text) = Text.typeName text) ∧
    (∀ (names : Names) id text, names.name? id = none →
      Text.IsIdentifier (names.assign id (String.ofList (Text.typeName text))).1.toList) ∧
    (∀ reserved (requests : List (String × List Char)), ∀ name ∈ (Names.fresh reserved).handed
      (requests.map fun request => (request.1, String.ofList (Text.typeName request.2))),
      Text.IsIdentifier name.toList) ∧
    ∀ s language custom history id name,
      ((make s language custom).after history).names.name? id = some name →
        Text.IsIdentifier name.toList := by
  have wished (text : List Char) : Text.IsIdentifier (String.ofList (Text.typeName text)).toList := by
    simpa using Text.type_name_identifier text
  refine ⟨fun text => ⟨Text.type_name_identifier text, Text.type_name_again text⟩,
    fun names id text new => Names.assigned_identifier new (wished text),
    fun reserved requests => ?_, fun s language custom history id name held => ?_⟩
  · refine Names.handed_identifiers (Names.fresh_formed reserved) fun request asked => ?_
    obtain ⟨one, _, rfl⟩ := List.mem_map.mp asked
    exact wished one.2
  · have formed := naming_formed (made_names s language custom history)
      (Names.fresh_formed language.capabilities.reserved)
    exact formed _ (Names.lookup_member held)

/-- A name that starts with a digit, asked for by two types where it is reserved. -/
theorem digits_identifiers :
    (Names.fresh ["_2fa"]).handed [("a", "_2fa"), ("b", "_2fa")] = ["_2faModel", "_2faModel2"] ∧
      Text.IsIdentifier "_2faModel2".toList ∧ Text.typeName "2fa".toList = "_2fa".toList := by
  obtain ⟨-, -, runs, -⟩ := type_names_identifiers
  have asked : String.ofList (Text.typeName "2fa".toList) = "_2fa" := by decide
  have both := runs ["_2fa"] [("a", "2fa".toList), ("b", "2fa".toList)]
  simp only [List.map_cons, List.map_nil, asked] at both
  exact ⟨by decide, both _ (by decide), by decide⟩

end Mapper

end ApiSchema
