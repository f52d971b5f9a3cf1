import ApiSchema.OpenApi.Header
import ApiSchema.Proofs.OpenApi.DroppedPaths

namespace ApiSchema.OpenApi

section Security

variable {d e : Document} {n : Nat} {k : String} {see : Option Constraints → Option Constraints}
variable {entries entries' : Entries} {item : Item}

theorem each_same {α β ε : Type} {f g : α → Except ε β} {xs : List α} (same : ∀ x ∈ xs, f x = g x) :
    xs.mapM f = xs.mapM g := by
  induction xs with
  | nil => rfl
  | cons x rest ih =>
      rw [List.mapM_cons, List.mapM_cons, same x (by simp),
        ih fun y member => same y (List.mem_cons_of_mem x member)]

theorem flows_alike (drops : Drops d e n k) (acts : Acts e .data item) :
    flowsOf d.graph item = flowsOf e.graph item := by
  unfold flowsOf entriesOf
  rw [entries_of_same (of_whole drops acts rfl)]
  cases map : e.graph.entries? item with
  | none => rfl
  | some flows =>
      have inner {entry : Scalar × Item} (member : entry ∈ flows) : Acts e .data entry.2 := by
        obtain ⟨id, rfl, held⟩ := entries_cell map
        exact acts_each acts held rfl (List.mem_map_of_mem member)
      refine (congrArg (List.mapM _) (List.filterMap_congr fun ⟨name, node⟩ member => ?_)).trans
        (each_same fun ⟨kind, fields⟩ member => ?_)
      · obtain ⟨⟨name, node⟩, listed, found⟩ := List.mem_filterMap.mp member
        have map : e.graph.entries? node = some fields := by
          simp only at found
          split at found
          next map => cases found; exact map
          next => cases found
        simp only [value_alike drops (data_field (inner listed) map _)]
      · simp only [entries_of_same (of_whole drops (inner member) rfl)]

theorem scheme_in_step (drops : Drops d e n k) (id : Scalar) (spared : Spared d e .scheme entries entries') :
    InStep (Matched see (Noted d n k)) (schemeOf ⟨e, []⟩ id entries) (schemeOf ⟨d, []⟩ id entries') Eq := by
  have kind := spared_acts spared (by decide : ("type", .data) ∈ Role.scheme.fields)
  have flows := spared_acts spared (by decide : ("flows", .data) ∈ Role.scheme.fields)
  have named : d.graph.value ((lookup? entries' (.text "name")).getD (.scalar id)) =
      e.graph.value ((lookup? entries (.text "name")).getD (.scalar id)) := by
    have acts := spared_acts spared (by decide : ("name", .data) ∈ Role.scheme.fields)
    unfold fieldOf at acts
    rw [lookup_alike drops spared _ (by decide)]
    cases found : lookup? entries (.text "name") with
    | none => rfl
    | some value =>
        rw [found] at acts
        exact value_alike drops acts
  have spelled : httpSchemeOf d.graph entries' = httpSchemeOf e.graph entries := by
    have acts := spared_acts spared (by decide : ("scheme", .data) ∈ Role.scheme.fields)
    unfold fieldOf at acts
    unfold httpSchemeOf
    rw [lookup_alike drops spared _ (by decide)]
    cases found : lookup? entries (.text "scheme") with
    | none => rfl
    | some value =>
        rw [found] at acts
        exact congrArg (Text.lowerText <$> ·) (shown_alike drops acts)
  have label (kind : Item) (acts : Acts e .data kind) (httpScheme : String) :
      schemeLabel d.graph kind httpScheme = schemeLabel e.graph kind httpScheme := by
    simp only [schemeLabel, value_alike drops acts]
  unfold schemeOf
  dsimp only [Scope.graph]
  simp only [named, spelled, field_alike drops spared "type" (by decide),
    field_alike drops spared "in" (by decide),
    field_alike drops spared "flows" (by decide),
    plain_alike drops spared "description" (by decide) (by decide),
    plain_alike drops spared "bearerFormat" (by decide) (by decide),
    label _ kind, truthy_alike drops flows rfl, flows_alike drops flows]
  refine in_step_on (in_step_of_except (agreed_same _)) fun httpScheme => ?_
  refine in_step_ite (in_step_mapped _ (in_step_of_except (agreed_same _))) ?_
  refine in_step_ite (in_step_mapped _ (in_step_of_except (agreed_same _))) ?_
  refine in_step_ite (in_step_mapped _ (in_step_of_except (agreed_same _))) ?_
  refine in_step_ite ?_ (in_step_on (in_step_note_issue _) fun _ => in_step_pure rfl)
  refine in_step_on (in_step_of_except (agreed_same _)) fun flows => ?_
  exact in_step_on (in_step_of_except (agreed_same _)) fun scheme => in_step_pure rfl

theorem schemes_in_step (drops : Drops d e n k) (listed : Entries)
    (acts : ∀ entry ∈ listed, Acts e .scheme entry.2) :
    InStep (Matched see (Noted d n k)) (schemesFrom ⟨e, []⟩ listed) (schemesFrom ⟨d, []⟩ listed) Eq := by
  induction listed with
  | nil => exact in_step_pure rfl
  | cons entry rest ih =>
      obtain ⟨id, node⟩ := entry
      have later := ih fun entry member => acts entry (List.mem_cons_of_mem _ member)
      unfold schemesFrom
      have here := acts (id, node) (by simp)
      refine in_step_bind (component_in_step drops rfl (by decide) here "security scheme")
        fun found found' held => ?_
      cases held with
      | none => exact in_step_on (in_step_pure rfl) fun _ => in_step_on later fun more => in_step_pure rfl
      | some spared =>
          refine in_step_on (scheme_in_step drops id spared) fun scheme => ?_
          exact in_step_on later fun more => in_step_pure rfl

end Security

section Documents

variable {d e : Document} {n : Nat} {k : String} {see : Option Constraints → Option Constraints}
variable {convert convert' : Convert}

theorem components_in_step (answered : Answered d e n k see convert convert') (listed : Entries)
    (acts : ∀ entry ∈ listed, Acts e .schema entry.2) :
    InStep (Matched see (Noted d n k)) (convertComponents convert listed) (convertComponents convert' listed)
      Eq := by
  induction listed with
  | nil => exact in_step_pure rfl
  | cons entry rest ih =>
      obtain ⟨key, node⟩ := entry
      unfold convertComponents
      refine in_step_on (in_step_of_except (agreed_same _)) fun name => ?_
      refine in_step_on (answered.nodes _ _ _ _ _ (acts (key, node) (by simp))) fun _ => ?_
      exact ih fun entry member => acts entry (List.mem_cons_of_mem _ member)

theorem servers_alike (drops : Drops d e n k) {entries entries' : Entries}
    (spared : Spared d e .document entries entries') :
    Agreed Eq (serversOf e.graph entries) (serversOf d.graph entries') := by
  have acts := spared_acts spared (by decide : ("servers", .data) ∈ Role.document.fields)
  unfold serversOf
  rw [field_alike drops spared _ (by decide)]
  refine agreed_bind (items_or_none_alike drops acts rfl) fun _ servers held => ?_
  obtain ⟨rfl, each⟩ := held
  refine .ok (List.filterMap_congr fun server member => ?_).symm
  rw [entries_of_same (of_whole drops (each server member) rfl)]
  cases map : e.graph.entries? server with
  | none => rfl
  | some fields =>
      have url := data_field (each server member) map "url"
      simp only [Option.bind_some, truthy_alike drops url rfl, value_alike drops url]

theorem metadata_alike (drops : Drops d e n k) (options : FrontendOptions) {entries entries' : Entries}
    (spared : Spared d e .document entries entries') :
    Agreed Eq (metadataOf e.graph entries options) (metadataOf d.graph entries' options) := by
  have acts := spared_acts spared (by decide : ("info", .info) ∈ Role.document.fields)
  unfold metadataOf entriesOf
  rw [field_alike drops spared _ (by decide)]
  obtain ⟨none_, none'⟩ | ⟨info, info', map, map', inner⟩ := map_cases drops acts
  · rw [none_, none']
    exact .error _
  · have about : ["title", "description", "termsOfService", "contact", "license"].map (fun name =>
          (name, d.graph.value (fieldOf info' name))) =
        ["title", "description", "termsOfService", "contact", "license"].map fun name =>
          (name, e.graph.value (fieldOf info name)) := by
      refine List.map_congr_left fun name listed => ?_
      have apart : ∀ name ∈ ["title", "description", "termsOfService", "contact", "license"],
        name ∉ keywords.map Prod.fst ∧ (name, Role.data) ∈ Role.info.fields := by decide
      rw [plain_alike drops inner name (apart name listed).1 (apart name listed).2]
    have version := spared_acts inner (by decide : ("version", .data) ∈ Role.info.fields)
    rw [map, map']
    change Agreed Eq (serversOf _ _ >>= _) (serversOf _ _ >>= _)
    refine agreed_bind (servers_alike drops spared) fun servers _ same => same ▸ ?_
    rw [about, field_alike drops inner _ (by decide), shown_alike drops version]
    exact agreed_same _

theorem convert_in_step (drops : Drops d e n k) (answered : Answered d e n k see convert convert')
    (options : FrontendOptions) :
    InStep (Matched see (Noted d n k)) (convertBy convert e options) (convertBy convert' d options)
      fun s s' => s'.seen see = s.seen see := by
  have root := entries_spared_or_none drops .root
  have components := spared_acts root (by decide : ("components", .components) ∈ Role.document.fields)
  have paths := spared_acts root (by decide : ("paths", .paths) ∈ Role.document.fields)
  unfold convertBy
  dsimp only
  rw [drops.lacks.root, field_alike drops root "components" (by decide),
    field_alike drops root "paths" (by decide)]
  refine in_step_bind (in_step_of_except (record_alike drops components)) fun parts parts' spared => ?_
  have schemas := spared_acts spared (by decide : ("schemas", .schemas) ∈ Role.components.fields)
  have schemes := spared_acts spared (by decide : ("securitySchemes", .schemes) ∈ Role.components.fields)
  rw [field_alike drops spared "schemas" (by decide),
    field_alike drops spared "securitySchemes" (by decide)]
  refine in_step_bind (in_step_of_except (table_alike drops schemas rfl)) fun _ listed held => ?_
  obtain ⟨rfl, each⟩ := held
  refine in_step_on (components_in_step answered listed each) fun _ => ?_
  refine in_step_bind (in_step_of_except (table_alike drops schemes rfl)) fun _ listed held => ?_
  obtain ⟨rfl, each⟩ := held
  refine in_step_on (schemes_in_step drops listed each) fun authentication => ?_
  refine in_step_bind (in_step_of_except (table_alike drops paths rfl)) fun _ listed held => ?_
  obtain ⟨rfl, each⟩ := held
  refine in_step_on (endpoints_in_step drops answered [] listed each) fun found => ?_
  refine in_step_on (in_step_of_except (metadata_alike drops options root)) fun metadata => ?_
  refine in_step_get fun c c' matched => ?_
  refine in_step_bind (in_step_of_except (matched_types matched)) fun types types' same => in_step_pure ?_
  simp only [Schema.seen, same]

end Documents

section Header

open Check

variable {d e : Document} {n : Nat} {k : String}

theorem mapped_lookup {α β : Type} (f : α → β) (entries : List (Scalar × α)) (key : Scalar) :
    lookup? (entries.map fun entry => (entry.1, f entry.2)) key = (lookup? entries key).map f := by
  induction entries with
  | nil => rfl
  | cons entry rest ih =>
      obtain ⟨k, v⟩ := entry
      rw [List.map_cons, lookup_cons, lookup_cons, ih]
      split <;> rfl

theorem required_same {α : Type} {pairs pairs' : List (Scalar × Value)} {name : String} {check : Check α}
    (alike : (lookup? pairs' (.text name)).map check = (lookup? pairs (.text name)).map check) :
    required pairs' [name] check = required pairs [name] check := by
  unfold required Check.field?
  cases held : lookup? pairs (.text name) <;> cases held' : lookup? pairs' (.text name) <;> simp_all

-- Values down to containers that are not looked into.
theorem shallow_alike {g g' : Graph} {item : Item} (same : g'.of? item = g.of? item) (path : List Nat) :
    g'.valueWithin 1 path item = g.valueWithin 1 path item := by
  cases item with
  | scalar s => rfl
  | node id => exact value_of_parts same fun cell _ part _ => by cases part <;> rfl

theorem info_alike (drops : Drops d e n k) {item : Item} (acts : Acts e .info item) (path : List Nat) :
    info (d.graph.valueWithin 1 path item) = info (e.graph.valueWithin 1 path item) := by
  by_cases here : item = .node n
  · subst here
    obtain ⟨held, is, is'⟩ := drops.lacks.node
    have same (name : String) (other : name ∉ keywords.map Prod.fst) :
        lookup? (held.map fun entry => (entry.1, d.graph.valueWithin 0 (n :: path) entry.2)) (.text name) =
          lookup? ((without k held).map fun entry => (entry.1, e.graph.valueWithin 0 (n :: path) entry.2))
            (.text name) := by
      rw [mapped_lookup, mapped_lookup, lookup_without fun is : name = k => other (is ▸ drops.keyword)]
      exact congrArg (Option.map · _) (funext fun part => by cases part <;> rfl)
    simp only [Graph.valueWithin, is, is']
    split
    · rfl
    · simp only [info, record, Checked.and_then_value, Check.optional, withDefault, required, Check.field?,
        List.findSome?_cons, List.findSome?_nil, same "title" (by decide), same "version" (by decide)]
  · rw [shallow_alike (of_elsewhere drops acts here)]

theorem header_alike (drops : Drops d e n k) :
    headerErrors (d.upTo headerDepth) = headerErrors (e.upTo headerDepth) := by
  unfold Document.upTo headerDepth
  rw [drops.lacks.root]
  obtain ⟨none_, -⟩ | ⟨entries, entries', map, map', spared⟩ := map_cases drops .root
  · rw [unmapped_within drops .root rfl none_]
  · obtain ⟨id, is, held⟩ := entries_cell map
    obtain ⟨_, is', held'⟩ := entries_cell map'
    cases is.symm.trans is'
    have fields {α : Type} (name : String) (check : Value → α) (other : name ∉ keywords.map Prod.fst)
        (alike : check (d.graph.valueWithin 1 [id] (fieldOf entries name)) =
          check (e.graph.valueWithin 1 [id] (fieldOf entries name))) :
        (lookup? (entries'.map fun entry => (entry.1, d.graph.valueWithin 1 [id] entry.2)) (.text name)).map check =
          (lookup? (entries.map fun entry => (entry.1, e.graph.valueWithin 1 [id] entry.2)) (.text name)).map
            check := by
      rw [mapped_lookup, mapped_lookup, lookup_alike drops spared name other]
      unfold fieldOf at alike
      cases found : lookup? entries (.text name) with
      | none => rfl
      | some item =>
          rw [found] at alike
          exact congrArg some alike
    have data := spared_acts spared (by decide : ("openapi", .data) ∈ Role.document.fields)
    have about := spared_acts spared (by decide : ("info", .info) ∈ Role.document.fields)
    have paths := spared_acts spared (by decide : ("paths", .paths) ∈ Role.document.fields)
    have swagger : (lookup? (entries'.map fun entry => (entry.1, d.graph.valueWithin 1 [id] entry.2))
          (.text "swagger")).isSome =
        (lookup? (entries.map fun entry => (entry.1, e.graph.valueWithin 1 [id] entry.2))
          (.text "swagger")).isSome := by
      rw [mapped_lookup, mapped_lookup, lookup_alike drops spared _ (by decide), Option.isSome_map,
        Option.isSome_map]
    rw [is]
    simp only [Graph.valueWithin, held, held', List.contains_nil, Bool.false_eq_true, if_false, headerErrors,
      Value.holds, swagger, header, record, Checked.and_then_value,
      required_same (fields "openapi" supportedVersion (by decide)
        (congrArg supportedVersion (shallow_alike (of_whole drops data rfl) [id]))),
      required_same (fields "info" info (by decide) (info_alike drops about [id])),
      required_same (fields "paths" (Check.map anything) (by decide)
        (congrArg (Check.map anything) (shallow_alike (of_whole drops paths rfl) [id])))]

end Header

end ApiSchema.OpenApi
