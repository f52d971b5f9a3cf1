import ApiSchema.Proofs.OpenApi.Schemas
import ApiSchema.Proofs.Schema.Validation
import ApiSchema.Proofs.Text.Splitting
import Mathlib.Tactic.TFAE

namespace ApiSchema

def Text.foldedPath (path : String) : List Char :=
  path.toList.map fun c => if c == '/' || c == '\x7b' || c == '\x7d' then '_' else c

namespace OpenApi

section Names

variable {m n : Method}

theorem method_free (m : Method) : '_' ∉ m.name.toList ∧ '_' ∉ (Text.lowerText m.name).toList := by
  cases m <;> decide +kernel

theorem method_of_name (same : m.name = n.name) : m = n := by
  revert same
  cases m <;> cases n <;> decide +kernel

theorem method_of_lower (same : Text.lowerText m.name = Text.lowerText n.name) : m = n := by
  revert same
  cases m <;> cases n <;> decide +kernel

-- The parts of a text around the first underscore.
theorem joined_apart {a b path other : String} (free : '_' ∉ a.toList) (free' : '_' ∉ b.toList)
    (same : a ++ "_" ++ path = b ++ "_" ++ other) : a = b ∧ path = other := by
  have spelled := congrArg String.toList same
  simp only [String.toList_append, List.append_assoc] at spelled
  obtain ⟨fronts, rests⟩ := Text.front_apart free free' spelled
  exact ⟨String.toList_inj.mp fronts, String.toList_inj.mp rests⟩

theorem operation_name_iff (path other : String) :
    Text.operationName m.name path = Text.operationName n.name other ↔
      m = n ∧ Text.foldedPath path = Text.foldedPath other := by
  constructor
  · intro same
    obtain ⟨methods, paths⟩ := joined_apart (method_free m).2 (method_free n).2 same
    exact ⟨method_of_lower methods, String.ofList_injective paths⟩
  · rintro ⟨rfl, paths⟩
    exact congrArg (fun folded => Text.lowerText m.name ++ "_" ++ String.ofList folded) paths

end Names

def Operation.ownName? (g : Graph) (o : Operation) : Option String :=
  let declared := fieldOf o.fields "operationId"
  if g.truthy declared then
    match Check.text (g.value declared) with
    | .ok name => some name
    | .bad _ => none
  else none

def Operation.madeName (o : Operation) : String := Text.operationName o.method.name o.path.display

def Operation.Confused (g : Graph) (o other : Operation) : Prop :=
  match o.ownName? g, other.ownName? g with
  | some name, some name' => name = name'
  | some name, none => name = other.madeName
  | none, some name' => o.madeName = name'
  | none, none => o.method = other.method ∧
      Text.foldedPath o.path.display = Text.foldedPath other.path.display

theorem confused_iff {g : Graph} {o other : Operation} :
    (o.ownName? g).getD o.madeName = (other.ownName? g).getD other.madeName ↔ o.Confused g other := by
  unfold Operation.Confused
  cases o.ownName? g with
  | none =>
      cases other.ownName? g with
      | none => exact operation_name_iff _ _
      | some name' => rfl
  | some name =>
      cases other.ownName? g with
      | none => rfl
      | some name' => rfl

/-- What the endpoint of an operation is known by. -/
structure Identified (g : Graph) (o : Operation) (e : Endpoint) : Prop where
  id : e.id = o.method.name ++ "_" ++ o.path.display
  operation : e.operationId = (o.ownName? g).getD o.madeName
  method : e.method = o.method
  path : Check.text (.scalar o.path) = .ok e.path

section Endpoints

variable {w : Surroundings} {c c' : Context}

theorem operation_id_named {g : Graph} {o : Operation} {item : Item} {name : String}
    (found : operationIdOf g o.method o.path o.fields = .ok item)
    (read : Check.text (g.value item) = .ok name) : name = (o.ownName? g).getD o.madeName := by
  unfold operationIdOf at found
  by_cases declares : g.truthy (fieldOf o.fields "operationId") = true
  · rw [if_pos declares] at found
    cases found
    simp only [Operation.ownName?, if_pos declares, read, Option.getD_some]
  · rw [if_neg declares] at found
    simp only [Operation.ownName?, if_neg declares, Option.getD_none]
    unfold Operation.madeName
    cases path : o.path with
    | text p =>
        rw [path] at found
        cases found
        cases read
        rfl
    | _ =>
        rw [path] at found
        cases found

theorem endpoint_identified (o : Operation) {errors errors' : List ErrorDefinition} {e : Endpoint}
    (gave : Gives (endpointOf w o.path o.method o.fields o.shared errors) c (e, errors') c') :
    Identified w.graph o e := by
  unfold endpointOf at gave
  obtain ⟨item, found, gave⟩ := gives_of_except_bind.mp gave
  obtain ⟨outer, -, gave⟩ := gives_of_except_bind.mp gave
  obtain ⟨inner, -, gave⟩ := gives_of_except_bind.mp gave
  obtain ⟨merged, c₁, -, gave⟩ := gives_bind.mp gave
  obtain ⟨parameters, c₂, -, gave⟩ := gives_bind.mp gave
  obtain ⟨body, c₃, -, gave⟩ := gives_bind.mp gave
  obtain ⟨answers, -, gave⟩ := gives_of_except_bind.mp gave
  obtain ⟨⟨responses, errors⟩, c₄, -, gave⟩ := gives_bind.mp gave
  obtain ⟨asked, -, gave⟩ := gives_of_except_bind.mp gave
  obtain ⟨ids, -, gave⟩ := gives_of_except_bind.mp gave
  obtain ⟨shownPath, said, gave⟩ := gives_of_except_bind.mp gave
  obtain ⟨streaming, -, gave⟩ := gives_of_except_bind.mp gave
  obtain ⟨tags, -, gave⟩ := gives_of_except_bind.mp gave
  obtain ⟨made, checks, gave⟩ := gives_of_except_bind.mp gave
  obtain ⟨same, -⟩ := gives_pure.mp gave
  cases same
  obtain rfl := printed_text said
  obtain ⟨path, method⟩ := endpoint_ok made (checked_ok checks)
  obtain ⟨id, name⟩ := endpoint_named made (checked_ok checks)
  exact ⟨(Check.Checked.ok.inj id).symm, operation_id_named found name, method, path⟩

theorem operations_identified (path : Scalar) (shared : Item) {entries : Entries}
    {errors errors' : List ErrorDefinition} {endpoints : List Endpoint}
    (gave : Gives (operationsFrom w path shared errors entries) c (endpoints, errors') c') :
    List.Forall₂ (Identified w.graph) (operationsIn w.graph path shared entries) endpoints := by
  induction entries generalizing errors errors' endpoints c c' with
  | nil =>
      obtain ⟨same, -⟩ := gives_pure.mp gave
      cases same
      exact .nil
  | cons entry rest ih =>
      obtain ⟨name, node⟩ := entry
      unfold operationsFrom at gave
      unfold operationsIn
      obtain ⟨found, read, gave⟩ := gives_of_except_bind.mp gave
      rw [read]
      cases found with
      | none => exact ih gave
      | some method =>
          cases held : w.graph.entries? node with
          | none =>
              rw [held] at gave
              exact ih gave
          | some fields =>
              rw [held] at gave
              obtain ⟨⟨e, errors₁⟩, c₁, first, gave⟩ := gives_bind.mp gave
              obtain ⟨⟨more, errors₂⟩, c₂, others, gave⟩ := gives_bind.mp gave
              obtain ⟨same, -⟩ := gives_pure.mp gave
              cases same
              exact .cons (endpoint_identified ⟨path, method, shared, fields⟩ first) (ih others)

theorem endpoints_identified {paths : Entries} {errors errors' : List ErrorDefinition}
    {endpoints : List Endpoint}
    (gave : Gives (endpointsFrom w errors paths) c (endpoints, errors') c') :
    List.Forall₂ (Identified w.graph) (operationsOf w.scope.document paths) endpoints := by
  induction paths generalizing errors errors' endpoints c c' with
  | nil =>
      obtain ⟨same, -⟩ := gives_pure.mp gave
      cases same
      exact .nil
  | cons entry rest ih =>
      obtain ⟨path, node⟩ := entry
      unfold endpointsFrom Surroundings.graph Scope.graph at gave
      unfold operationsOf
      cases held : w.scope.document.graph.entries? (target w.scope.document node) with
      | none =>
          rw [held] at gave
          exact ih gave
      | some entries =>
          rw [held] at gave
          obtain ⟨⟨first, errors₁⟩, c₁, begun, gave⟩ := gives_bind.mp gave
          obtain ⟨⟨more, errors₂⟩, c₂, others, gave⟩ := gives_bind.mp gave
          obtain ⟨same, -⟩ := gives_pure.mp gave
          cases same
          exact List.rel_append (operations_identified path _ begun) (ih others)

theorem converted_identified {d : Document} {options : FrontendOptions} {s : Schema}
    (converted : Gives (convert d options) c s c') :
    List.Forall₂ (Identified d.graph) (operationsOf d (pathsOf d)) s.endpoints := by
  unfold convert at converted
  obtain ⟨components, -, gave⟩ := gives_of_except_bind.mp converted
  obtain ⟨schemas, -, gave⟩ := gives_of_except_bind.mp gave
  obtain ⟨_, c₁, -, gave⟩ := gives_bind.mp gave
  obtain ⟨schemes, -, gave⟩ := gives_of_except_bind.mp gave
  obtain ⟨authentication, c₂, -, gave⟩ := gives_bind.mp gave
  obtain ⟨paths, read, gave⟩ := gives_of_except_bind.mp gave
  obtain ⟨⟨endpoints, errors⟩, c₃, made, gave⟩ := gives_bind.mp gave
  obtain ⟨metadata, -, gave⟩ := gives_of_except_bind.mp gave
  obtain ⟨types, -, gave⟩ := gives_of_except_bind.mp (gives_get_bind.mp gave)
  obtain ⟨same, -⟩ := gives_pure.mp gave
  cases same
  have listed : pathsOf d = paths := entries_or_none_ok read
  rw [listed]
  exact endpoints_identified made

end Endpoints

def methodsNamed (entries : Entries) : List Method :=
  entries.filterMap fun entry => (methodNamed? entry.1).toOption.join

/-- A document in which every path is a text and stands once, and no item of a path has one method
twice. -/
structure Separate (d : Document) : Prop where
  paths : (pathsOf d).Pairwise fun a b => a.1.same b.1 = false
  texts : ∀ entry ∈ pathsOf d, ∀ bytes, entry.1 ≠ .bytes bytes
  methods : ∀ entry ∈ pathsOf d,
    (methodsNamed ((d.graph.entries? (target d entry.2)).getD [])).Nodup

section Apart

variable {d : Document}

theorem operation_in {g : Graph} {path : Scalar} {shared : Item} {entries : Entries} {o : Operation}
    (member : o ∈ operationsIn g path shared entries) :
    o.path = path ∧ o.method ∈ methodsNamed entries := by
  induction entries with
  | nil => cases member
  | cons entry rest ih =>
      obtain ⟨name, node⟩ := entry
      have later (held : o ∈ operationsIn g path shared rest) :
          o.path = path ∧ o.method ∈ methodsNamed ((name, node) :: rest) := by
        obtain ⟨same, named⟩ := ih held
        obtain ⟨entry, there, read⟩ := List.mem_filterMap.mp named
        exact ⟨same, List.mem_filterMap.mpr ⟨entry, List.mem_cons_of_mem _ there, read⟩⟩
      unfold operationsIn at member
      split at member
      next method fields read _ =>
        obtain rfl | held := List.mem_cons.mp member
        · exact ⟨rfl, List.mem_filterMap.mpr ⟨_, List.mem_cons_self, by rw [read]; rfl⟩⟩
        · exact later held
      next => exact later member

theorem operation_of {paths : Entries} {o : Operation} (member : o ∈ operationsOf d paths) :
    ∃ entry ∈ paths, o.path = entry.1 := by
  induction paths with
  | nil => cases member
  | cons entry rest ih =>
      obtain ⟨path, node⟩ := entry
      have later (held : o ∈ operationsOf d rest) : ∃ entry ∈ (path, node) :: rest, o.path = entry.1 :=
        (ih held).imp fun _ ⟨there, same⟩ => ⟨List.mem_cons_of_mem _ there, same⟩
      unfold operationsOf at member
      split at member
      · obtain first | held := List.mem_append.mp member
        · exact ⟨_, List.mem_cons_self, (operation_in first).1⟩
        · exact later held
      · exact later member

theorem methods_apart {g : Graph} {path : Scalar} {shared : Item} {entries : Entries}
    (apart : (methodsNamed entries).Nodup) :
    (operationsIn g path shared entries).Pairwise fun o other => o.method ≠ other.method := by
  induction entries with
  | nil => exact .nil
  | cons entry rest ih =>
      obtain ⟨name, node⟩ := entry
      have others : (methodsNamed rest).Nodup :=
        apart.sublist ((List.sublist_cons_self _ _).filterMap _)
      unfold operationsIn
      split
      next method fields read _ =>
        rw [methodsNamed, List.filterMap_cons, read] at apart
        refine List.pairwise_cons.mpr ⟨fun other member same => ?_, ih others⟩
        have named := (operation_in member).2
        rw [← same] at named
        exact (List.nodup_cons.mp apart).1 named
      next => exact ih others

theorem operations_apart {paths : Entries} (once : paths.Pairwise fun a b => a.1.same b.1 = false)
    (methods : ∀ entry ∈ paths, (methodsNamed ((d.graph.entries? (target d entry.2)).getD [])).Nodup) :
    (operationsOf d paths).Pairwise fun o other =>
      o.path.same other.path = false ∨ o.method ≠ other.method := by
  induction paths with
  | nil => exact .nil
  | cons entry rest ih =>
      obtain ⟨path, node⟩ := entry
      obtain ⟨first, others⟩ := List.pairwise_cons.mp once
      have later := ih others fun entry there => methods entry (List.mem_cons_of_mem _ there)
      have own := methods _ List.mem_cons_self
      unfold operationsOf
      cases held : d.graph.entries? (target d node) with
      | none => exact later
      | some entries =>
          rw [held] at own
          refine List.pairwise_append.mpr ⟨?_, later, fun o member other member' => ?_⟩
          · exact (methods_apart own).imp .inr
          · obtain ⟨entry, there, same⟩ := operation_of member'
            rw [(operation_in member).1, same]
            exact .inl (first entry there)

end Apart

section Distinguished

variable {d : Document} {options : FrontendOptions} {s : Schema} {c : Context}

structure Spelled (g : Graph) (o : Operation) (e : Endpoint) : Prop extends Identified g o e where
  text : o.path = .text e.path

theorem converted_spelled (separate : Separate d)
    (converted : (convert d options).run.run {} = (.ok s, c)) :
    List.Forall₂ (Spelled d.graph) (operationsOf d (pathsOf d)) s.endpoints := by
  have each := converted_identified converted
  have textual : ∀ o ∈ operationsOf d (pathsOf d), ∀ bytes, o.path ≠ .bytes bytes := by
    intro o member bytes same
    obtain ⟨entry, there, path⟩ := operation_of member
    exact separate.texts entry there bytes (path ▸ same)
  generalize operationsOf d (pathsOf d) = operations at each textual
  generalize s.endpoints = endpoints at each
  induction each with
  | nil => exact .nil
  | @cons o e rest endpoints held _ ih =>
      refine .cons ⟨held, ?_⟩ (ih fun o member => textual o (by simp [member]))
      have read := held.path
      cases same : o.path with
      | text p =>
          rw [same] at read
          cases read
          rfl
      | bytes b => exact absurd same (textual o (by simp) b)
      | _ => rw [same] at read; cases read

theorem spelled_apart {g : Graph} {o o' : Operation} {e e' : Endpoint} (held : Spelled g o e)
    (held' : Spelled g o' e') (apart : o.path.same o'.path = false ∨ o.method ≠ o'.method) :
    (e.method, e.path) ≠ (e'.method, e'.path) := by
  rintro same
  obtain ⟨methods, paths⟩ := Prod.mk.inj same
  obtain differ | differ := apart
  · rw [held.text, held'.text, paths] at differ
    simp at differ
  · exact differ (held.method ▸ held'.method ▸ methods)

theorem routes_distinct (separate : Separate d)
    (converted : (convert d options).run.run {} = (.ok s, c)) :
    (s.endpoints.map fun e => (e.method, e.path)).Nodup :=
  List.pairwise_map.mpr (pairwise_right (converted_spelled separate converted)
    (fun _ _ _ _ => spelled_apart) (operations_apart separate.paths separate.methods))

theorem ids_distinct (separate : Separate d)
    (converted : (convert d options).run.run {} = (.ok s, c)) : (s.endpoints.map (·.id)).Nodup := by
  refine List.pairwise_map.mpr (pairwise_right (converted_spelled separate converted) ?_
    (operations_apart separate.paths separate.methods))
  intro o o' e e' held held' apart same
  rw [held.id, held'.id, held.text, held'.text] at same
  obtain ⟨methods, paths⟩ := joined_apart (method_free o.method).1 (method_free o'.method).1 same
  refine spelled_apart held held' apart (Prod.ext ?_ paths)
  rw [held.method, held'.method]
  exact method_of_name methods

theorem names_distinct_iff (converted : (convert d options).run.run {} = (.ok s, c)) :
    (operationsOf d (pathsOf d)).Pairwise (fun o other => ¬ o.Confused d.graph other) ↔
      (s.endpoints.map (·.operationId)).Nodup := by
  have each := converted_identified converted
  rw [List.Nodup, List.pairwise_map]
  constructor
  · refine pairwise_right each fun o o' e e' held held' apart same => apart ?_
    rw [← confused_iff, ← held.operation, ← held'.operation]
    exact same
  · refine pairwise_right each.flip fun e e' o o' held held' apart confused => apart ?_
    rw [held.operation, held'.operation]
    exact confused_iff.mpr confused

end Distinguished

end OpenApi

namespace Schema

variable {s : Schema}

theorem endpoint_found {e : Endpoint} (distinct : (s.endpoints.map (·.operationId)).Nodup)
    (listed : e ∈ s.endpoints) : s.endpoint? e.operationId = some e := by
  cases found : s.endpoint? e.operationId with
  | none => exact absurd (List.find?_eq_none.mp found e listed) (by simp)
  | some other =>
      have member := List.mem_of_find?_eq_some found
      have same : other.operationId = e.operationId := by simpa using List.find?_some found
      rw [List.inj_on_of_nodup_map distinct member listed same]

end Schema

namespace OpenApi

/-- The endpoints of a converted document have different ids. They have different operation ids, and
validation does not complain, and each is found by its own, exactly if no two operations go by one
name. -/
theorem operations_distinguished {d : Document} {options : FrontendOptions} {s : Schema} {c : Context}
    (separate : Separate d) (converted : (convert d options).run.run {} = (.ok s, c)) :
    (s.endpoints.map (·.id)).Nodup ∧
      [(operationsOf d (pathsOf d)).Pairwise fun o other => ¬ o.Confused d.graph other,
        (s.endpoints.map (·.operationId)).Nodup,
        s.duplicateEndpoints = [],
        ∀ e ∈ s.endpoints, s.endpoint? e.operationId = some e].TFAE := by
  have ids := ids_distinct separate converted
  refine ⟨ids, ?_⟩
  tfae_have 1 ↔ 2 := names_distinct_iff converted
  tfae_have 2 → 3 := fun distinct =>
    (Schema.duplicates_empty s).mpr ⟨distinct, routes_distinct separate converted⟩
  tfae_have 3 → 2 := fun none => ((Schema.duplicates_empty s).mp none).1
  tfae_have 2 → 4 := fun distinct e listed => Schema.endpoint_found distinct listed
  tfae_have 4 → 2 := by
    -- One name finds one endpoint, and endpoints at two places have different ids.
    intro found
    refine Schema.nodup_map_iff.mpr fun n e there o before same => ?_
    have first := found o (List.mem_of_mem_take before)
    rw [same, found e (List.mem_of_getElem? there)] at first
    cases first
    exact Schema.nodup_map_iff.mp ids n e there e before rfl
  tfae_finish

def routed (paths : List (String × List (String × Value))) : Document :=
  .ofValue (.object [("info", .object [("version", .text "1")]),
    ("paths", .object (paths.map fun (path, item) => (path, .object item)))])

def plain : Value := .map []

def notebook (own : String) : Document :=
  routed [("/notes", [("get", plain), ("POST", plain)]), ("/notes/\x7bid\x7d", [("get", plain)]),
    ("/users", [("get", .object [("operationId", .text own)])])]

theorem notebook_distinguished : ∃ s c, (convert (notebook "users") plainOptions).run.run {} = (.ok s, c) ∧
    s.endpoints.map (·.operationId) = ["get__notes", "post__notes", "get__notes__id_", "users"] ∧
    (s.endpoints.map (·.id)).Nodup ∧ s.duplicateEndpoints = [] ∧
    ∀ e ∈ s.endpoints, s.endpoint? e.operationId = some e := by
  have found : ((convert (notebook "users") plainOptions).run.run {}).1.toOption.map
      (fun s => s.endpoints.map (·.operationId)) =
        some ["get__notes", "post__notes", "get__notes__id_", "users"] := by decide +kernel
  have separate : Separate (notebook "users") := by
    have listed : (pathsOf (notebook "users")).map Prod.fst =
        [.text "/notes", .text "/notes/\x7bid\x7d", .text "/users"] := by decide +kernel
    refine ⟨by decide +kernel, fun entry member bytes same => ?_, by decide +kernel⟩
    have there := List.mem_map_of_mem (f := Prod.fst) member
    rw [listed, same] at there
    simp at there
  cases converted : (convert (notebook "users") plainOptions).run.run {} with
  | mk result c =>
      rw [converted] at found
      cases result with
      | error f => cases found
      | ok s =>
          have names : s.endpoints.map (·.operationId) = _ := Option.some.inj found
          obtain ⟨ids, same⟩ := operations_distinguished separate converted
          have apart : (s.endpoints.map (·.operationId)).Nodup := by rw [names]; decide
          exact ⟨s, c, rfl, names, ids, (same.out 1 2).mp apart, (same.out 1 3).mp apart⟩

/-- Two paths that fold into one, and a name that is made for another operation. The names that are
declared are different, and so are the methods of each path. -/
theorem notebook_confused :
    let folds := routed [("/a/b", [("get", plain)]), ("/a_b", [("get", plain)])]
    let shares := notebook "get__notes"
    (∀ d ∈ [folds, shares], ((operationsOf d (pathsOf d)).filterMap (·.ownName? d.graph)).Nodup ∧
      ∀ entry ∈ pathsOf d, (methodsNamed ((d.graph.entries? (target d entry.2)).getD [])).Nodup) ∧
      [folds, shares].map (fun d => ((convert d plainOptions).run.run {}).1.toOption.map fun s =>
        (s.endpoints.map (·.operationId), s.duplicateEndpoints.length)) =
        [some (["get__a_b", "get__a_b"], 1),
          some (["get__notes", "post__notes", "get__notes__id_", "get__notes"], 1)] := by
  decide +kernel

end OpenApi

end ApiSchema
