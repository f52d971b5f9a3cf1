import ApiSchema.Proofs.Schema.Fields
import ApiSchema.Proofs.Check.Moment
import ApiSchema.Proofs.Json.Reading
import ApiSchema.Schema.Dump

namespace ApiSchema

open Check Checked

section Lookup

variable {α : Type} {name key : String}

@[simp] theorem lookup_append (first second : List (Scalar × α)) (key : Scalar) :
    lookup? (first ++ second) key = (lookup? first key).or (lookup? second key) := by
  induction first with
  | nil => simp
  | cons entry rest ih =>
      obtain ⟨k, v⟩ := entry
      rw [List.cons_append, lookup_cons, lookup_cons, ih]
      split <;> simp

@[simp] theorem lookup_field (v : Value) :
    lookup? (field name v) (.text key) = if name = key then some v else none := by
  simp [field]

@[simp] theorem lookup_optional_field (write : α → Value) (o : Option α) :
    lookup? (field? name write o) (.text key) = if name = key then o.map write else none := by
  cases o <;> simp [field?]

@[simp] theorem field_cons (pairs : List (Scalar × Value)) (names : List String) :
    Check.field? pairs (name :: names) =
      ((lookup? pairs (.text name)).map (name, ·)).or (Check.field? pairs names) := by
  cases found : lookup? pairs (.text name) <;> simp [Check.field?, found]

@[simp] theorem field_nil (pairs : List (Scalar × Value)) : Check.field? pairs [] = none := rfl

end Lookup

section Reads

variable {α β : Type}

def Reads (check : Check α) (write : α → Value) : Prop :=
  ∀ a, check (write a) = .ok a ∧ write a ≠ .null

theorem nullable_written {check : Check α} {v : Value} {a : α} (read : check v = .ok a)
    (something : v ≠ .null) : nullable check v = .ok (some a) := by
  rw [nullable]
  · rw [read]
    rfl
  · exact something

def given (check : Check α) : Option (String × Value) → Checked (Option α)
  | some (name, v) => (nullable check v).within (.name name)
  | none => .ok none

@[simp] theorem optional_given {pairs : List (Scalar × Value)} {names : List String} {check : Check α} :
    Check.optional pairs names check = given check (Check.field? pairs names) := by
  unfold Check.optional withDefault given
  split <;> simp_all

@[simp] theorem given_none {check : Check α} : given check none = .ok none := rfl

theorem given_read {check : Check α} {write : α → Value} {name : String} {o : Option α}
    (reads : ∀ a ∈ o, check (write a) = .ok a ∧ write a ≠ .null) :
    given check (o.map (Prod.mk name ∘ write)) = .ok o := by
  cases o with
  | none => rfl
  | some a =>
      obtain ⟨read, something⟩ := reads a rfl
      simp [given, nullable_written read something]

@[simp] theorem given_written {check : Check α} {write : α → Value} (reads : Reads check write)
    {name : String} {o : Option α} : given check (o.map (Prod.mk name ∘ write)) = .ok o :=
  given_read fun a _ => reads a

@[simp] theorem record_map (title : String) (pairs : List (Scalar × Value)) :
    record title (.map pairs) = .ok pairs := rfl

@[simp] theorem text_read (s : String) : text (.text s) = .ok s := rfl
@[simp] theorem integer_read (n : Int) : integer (.int n) = .ok n := rfl
@[simp] theorem flag_read (b : Bool) : flag (.bool b) = .ok b := rfl

@[simp] theorem text_reads : Reads text .text := fun _ => ⟨rfl, by simp⟩
@[simp] theorem integer_reads : Reads integer .int := fun _ => ⟨rfl, by simp⟩
@[simp] theorem number_reads : Reads number .float := fun _ => ⟨rfl, by simp⟩
@[simp] theorem flag_reads : Reads flag .bool := fun _ => ⟨rfl, by simp⟩

theorem each_read {check : Check α} {write : α → Value} (items : List α)
    (read : ∀ a ∈ items, check (write a) = .ok a) (position : Nat) :
    eachFrom check position (items.map write) = .ok items := by
  induction items generalizing position with
  | nil => rfl
  | cons a rest ih =>
      have later := ih (fun b member => read b (by simp [member])) (position + 1)
      rw [List.map_cons, eachFrom, read a (by simp), later]
      rfl

theorem tuple_read {check : Check α} {write : α → Value} (items : List α)
    (read : ∀ a ∈ items, check (write a) = .ok a) :
    tuple check (.list (items.map write)) = .ok items := by
  simp [tuple, sequence?, each_read items read 0]

@[simp] theorem tuple_reads {check : Check α} {write : α → Value} (reads : Reads check write) :
    Reads (tuple check) fun items => .list (items.map write) :=
  fun items => ⟨tuple_read items fun a _ => (reads a).1, by simp⟩

end Reads

section Unions

variable {α : Type} {v : Value} {a : α}

-- The member whose own kind the value is reads it, whatever the others make of it.
theorem union_own (before : List (Member α)) {after : List (Member α)} {m : Member α} (passed : m.check v = .ok a)
    (own : m.fit v = .own) (others : ∀ o ∈ before, o.fit v ≠ .own) :
    union (before ++ m :: after) v = .ok a := by
  have earlier : (readings before v).find? (·.1 = .own) = none := by
    rw [List.find?_eq_none]
    intro reading member
    obtain ⟨o, listed, read⟩ := List.mem_filterMap.mp member
    obtain ⟨b, _, rfl⟩ := Option.map_eq_some_iff.mp read
    simpa using others o listed
  have found : (readings (before ++ m :: after) v).find? (·.1 = .own) = some (.own, a) := by
    have split : readings (before ++ m :: after) v =
        readings before v ++ readings (m :: after) v := List.filterMap_append
    rw [split, readings_passed passed, own, List.find?_append, earlier]
    simp
  rw [union]
  simp only [found]

end Unions

@[simp] theorem literal_reads : Reads literal Literal.toValue := by
  intro l
  cases l with
  | text s => exact ⟨union_own [] rfl rfl (by simp), by simp [Literal.toValue, Literal.toScalar]⟩
  | int n =>
      refine ⟨union_own [_] rfl rfl ?_, by simp [Literal.toValue, Literal.toScalar]⟩
      intro o member
      cases List.mem_singleton.mp member
      simp [Literal.toValue, Literal.toScalar, fitText]
  | float x =>
      refine ⟨union_own [_, _] rfl rfl ?_, by simp [Literal.toValue, Literal.toScalar]⟩
      intro o member
      simp only [List.mem_cons, List.not_mem_nil, or_false] at member
      rcases member with rfl | rfl <;>
        simp [Literal.toValue, Literal.toScalar, fitText, fitInteger]

@[simp] theorem bound_reads : Reads bound Bound.toValue := by
  intro b
  cases b with
  | flag b => exact ⟨union_own [] rfl rfl (by simp), by simp [Bound.toValue]⟩
  | number x =>
      refine ⟨union_own [_] rfl rfl ?_, by simp [Bound.toValue]⟩
      intro o member
      cases List.mem_singleton.mp member
      simp [Bound.toValue, fitFlag]

@[simp] theorem status_reads : Reads status Status.toValue := by
  intro s
  cases s with
  | code n => exact ⟨union_own [] rfl rfl (by simp), by simp [Status.toValue]⟩
  | text s =>
      refine ⟨union_own [_] rfl rfl ?_, by simp [Status.toValue]⟩
      intro o member
      cases List.mem_singleton.mp member
      simp [Status.toValue, fitInteger]

@[simp] theorem constraints_reads : Reads constraints Constraints.dump := by
  intro c
  refine ⟨?_, by simp [Constraints.dump]⟩
  simp [constraints, Constraints.dump]

@[simp] theorem type_ref_reads : Reads typeRef TypeRef.dump :=
  fun r => ⟨type_ref_dump r, by simp [TypeRef.dump]⟩

@[simp] theorem additional_reads : Reads additional Additional.dump :=
  fun a => ⟨additional_dump a, by cases a <;> simp [Additional.dump, TypeRef.dump]⟩

@[simp] theorem enum_value_reads : Reads enumValue EnumValue.dump := by
  intro v
  refine ⟨?_, by simp [EnumValue.dump]⟩
  simp [enumValue, EnumValue.dump, Check.required, (literal_reads v.value).1]

@[simp] theorem request_body_reads : Reads requestBody RequestBody.dump := by
  intro b
  refine ⟨?_, by simp [RequestBody.dump]⟩
  simp [requestBody, RequestBody.dump, Check.required, withDefault, type_ref_dump]

@[simp] theorem header_reads : Reads header Header.dump := by
  intro h
  refine ⟨?_, by simp [Header.dump]⟩
  simp [header, Header.dump, Check.required, withDefault, type_ref_dump]

@[simp] theorem response_reads : Reads response Response.dump := by
  intro r
  refine ⟨?_, by simp [Response.dump]⟩
  simp [response, Response.dump, Check.required, (status_reads r.status).1]

@[simp] theorem rate_limit_reads : Reads rateLimit RateLimit.dump := by
  intro r
  refine ⟨?_, by simp [RateLimit.dump]⟩
  simp [rateLimit, RateLimit.dump, Check.required]

theorem entries_read {α : Type} {check : Check α} {write : α → Value} (fields : List (String × α))
    (read : ∀ a, check (write a) = .ok a) :
    entries check (fields.map fun (k, v) => (.text k, write v)) = .ok fields := by
  induction fields with
  | nil => rfl
  | cons field rest ih =>
      obtain ⟨k, v⟩ := field
      simp [entries, read, ih]

section Maps

variable {α : Type} {sofar entries : List (String × α)}

theorem put_fresh {entry : String × α} (fresh : entry.1 ∉ sofar.map Prod.fst) :
    putNamed sofar entry = sofar ++ [entry] := by
  induction sofar with
  | nil => rfl
  | cons first rest ih =>
      simp only [List.map_cons, List.mem_cons, not_or] at fresh
      have other : (first.1 == entry.1) = false := beq_false_of_ne (Ne.symm fresh.1)
      simp [putNamed, other, ih fresh.2]

theorem put_names (sofar : List (String × α)) (entry : String × α) :
    (putNamed sofar entry).map Prod.fst =
      if entry.1 ∈ sofar.map Prod.fst then sofar.map Prod.fst else sofar.map Prod.fst ++ [entry.1] := by
  induction sofar with
  | nil => rfl
  | cons first rest ih =>
      by_cases same : first.1 = entry.1
      · simp [putNamed, same]
      · have other : entry.1 ≠ first.1 := Ne.symm same
        by_cases later : entry.1 ∈ rest.map Prod.fst
        · rw [if_pos later] at ih
          simp [putNamed, same, ih, later]
        · rw [if_neg later] at ih
          simp [putNamed, same, other, ih, later]

theorem put_distinct (distinct : (sofar.map Prod.fst).Nodup) (entry : String × α) :
    ((putNamed sofar entry).map Prod.fst).Nodup := by
  rw [put_names]
  by_cases listed : entry.1 ∈ sofar.map Prod.fst
  · rwa [if_pos listed]
  · rw [if_neg listed]
    exact List.nodup_append.mpr ⟨distinct, by simp, fun a member b last => by
      cases List.mem_singleton.mp last
      exact fun same => listed (same ▸ member)⟩

theorem merged_distinct (distinct : (sofar.map Prod.fst).Nodup) (entries : List (String × α)) :
    ((entries.foldl putNamed sofar).map Prod.fst).Nodup := by
  induction entries generalizing sofar with
  | nil => exact distinct
  | cons entry rest ih => exact ih (put_distinct distinct entry)

theorem merged_same (distinct : ((sofar ++ entries).map Prod.fst).Nodup) :
    entries.foldl putNamed sofar = sofar ++ entries := by
  induction entries generalizing sofar with
  | nil => simp
  | cons entry rest ih =>
      have fresh : entry.1 ∉ sofar.map Prod.fst := by
        rw [List.map_append, List.nodup_append] at distinct
        exact fun member => distinct.2.2 _ member entry.1 (by simp) rfl
      rw [List.foldl_cons, put_fresh fresh, ih (by simpa using distinct)]
      simp

end Maps

theorem map_read {α : Type} {check : Check α} {write : α → Value} {fields : List (String × α)}
    (distinct : (fields.map Prod.fst).Nodup) (read : ∀ a, check (write a) = .ok a) :
    Check.map check (.map (fields.map fun (k, v) => (.text k, write v))) = .ok fields := by
  rw [Check.map, entries_read fields read, map_method_value, merged_same (by simpa using distinct)]
  rfl

theorem given_text_map {name : String} {o : Option (List (String × String))}
    (distinct : ∀ entries ∈ o, (entries.map Prod.fst).Nodup) :
    given (Check.map text) (o.map (Prod.mk name ∘ textMap)) = .ok o :=
  given_read fun entries held => ⟨map_read (distinct entries held) fun _ => rfl, by simp [textMap]⟩

theorem given_free_form {name : String} {o : Option Fields} (distinct : ∀ fields ∈ o, (fields.map Prod.fst).Nodup) :
    given freeForm (o.map (Prod.mk name ∘ fieldsValue)) = .ok o :=
  given_read fun fields held => ⟨map_read (distinct fields held) fun _ => rfl, by simp [fieldsValue]⟩

@[simp] theorem flow_kind_read (k : FlowKind) : flowKind (.text k.name) = .ok k := by
  cases k <;> rfl

theorem flow_read {f : Flow} (distinct : ∀ entries ∈ f.scopes, (entries.map Prod.fst).Nodup) :
    flow f.dump = .ok f := by
  simp [flow, Flow.dump, Check.required, given_text_map distinct]

@[simp] theorem error_reads : Reads errorDefinition ErrorDefinition.dump := by
  intro e
  refine ⟨?_, by simp [ErrorDefinition.dump]⟩
  simp [errorDefinition, ErrorDefinition.dump, Check.required]

theorem key_location_read {l : Location} (held : l ≠ .path) : keyLocation (.text l.name) = .ok l := by
  cases l <;> first | rfl | exact absurd rfl held

theorem auth_scheme_read {s : AuthScheme}
    (held : ∀ location name, s.kind = .apiKey location name → location ≠ .path)
    (distinct : ∀ flows, s.kind = .oauth2 flows → ∀ f ∈ flows, ∀ entries ∈ f.scopes,
      (entries.map Prod.fst).Nodup) :
    authScheme s.dump = .ok s := by
  obtain ⟨id, kind, description⟩ := s
  cases kind with
  | apiKey location name =>
      have placed := key_location_read (held location name rfl)
      simp [authScheme, AuthScheme.dump, AuthKind.dump, AuthKind.name, byTag, apiKeyScheme,
        Check.required, withDefault, constant, placed]
  | bearer scheme format =>
      simp [authScheme, AuthScheme.dump, AuthKind.dump, AuthKind.name, byTag, bearerScheme,
        Check.required, withDefault, constant]
  | oauth2 flows =>
      have listed : tuple flow (.list (flows.map Flow.dump)) = .ok flows :=
        tuple_read flows fun f member => flow_read (distinct flows rfl f member)
      simp [authScheme, AuthScheme.dump, AuthKind.dump, AuthKind.name, byTag, oauth2Scheme,
        Check.required, withDefault, constant, listed]
  | basic =>
      simp [authScheme, AuthScheme.dump, AuthKind.dump, AuthKind.name, byTag, basicScheme,
        Check.required, withDefault, constant]

end ApiSchema
