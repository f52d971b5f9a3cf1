import ApiSchema.Proofs.Dialect.Types

namespace ApiSchema.Dialect

structure ParameterAt (ids : TypeSource → Option String) (p : DialectParameter) (made : Parameter) :
    Prop where
  name : made.name = p.name
  type : p.enum.getD [] = [] → ids (.name p.type) = some made.type.typeId

structure ResponseAt (ids : TypeSource → Option String) (r : DialectResponse) (made : Response) :
    Prop where
  status : made.status = r.status
  type : Option.Rel (fun source ref => ids source = some ref.typeId) r.type made.type
  headers : made.headers = none

structure EndpointAt (ids : TypeSource → Option String) (e : DialectEndpoint) (made : Endpoint) :
    Prop where
  id : made.id = e.id
  parameters : List.Forall₂ (ParameterAt ids) e.parameters made.parameters
  body : Option.Rel (fun body b => ids body.type = some b.type.typeId) e.requestBody made.requestBody
  responses : List.Forall₂ (ResponseAt ids) e.responses made.responses
  authentication : made.authentication = if e.requiresAuth = some false then [] else [keyScheme.id]

def DialectEndpoint.isKept (includeDeprecated : Bool) (e : DialectEndpoint) : Bool :=
  !(e.deprecated = some true && !includeDeprecated) &&
    (Method.all.find? (·.name == Text.upperText e.method)).isSome

namespace DialectDocument

variable {d : DialectDocument} {c c' start : Context} {convert : Convert}

theorem endpoint_at_later (later : c.Lasts c') {e : DialectEndpoint} {made : Endpoint}
    (held : EndpointAt (d.idOf c) e made) : EndpointAt (d.idOf c') e made where
  id := held.id
  parameters := held.parameters.imp fun _ _ p => ⟨p.name, fun plain => slot_later later (p.type plain)⟩
  body := option_rel_imp held.body fun _ _ => slot_later later
  responses := held.responses.imp fun _ _ r =>
    ⟨r.status, option_rel_imp r.type fun _ _ => slot_later later, r.headers⟩
  authentication := held.authentication

def Marked (d : DialectDocument) (c : Context) (made : Endpoint) : Prop :=
  ∀ p ∈ made.parameters, ∃ μ, d.slot c μ = some p.type.typeId

theorem kept_later (later : c.Lasts c') {e : DialectEndpoint} {m : Endpoint}
    (held : EndpointAt (d.idOf c) e m ∧ d.Marked c m) : EndpointAt (d.idOf c') e m ∧ d.Marked c' m := by
  refine ⟨endpoint_at_later later held.1, fun p member => ?_⟩
  obtain ⟨μ, marked⟩ := held.2 p member
  exact ⟨μ, slot_later later marked⟩

section Endpoints

variable (distinct : d.Apart) (short : d.Short) (converts : d.Converts d.Lists convert start)
include distinct short converts

theorem keeps_parameter {e : DialectEndpoint} (there : e ∈ d.endpoints) {p : DialectParameter}
    (member : p ∈ e.parameters) :
    (d.regime fun _ => False).Keeps start (parameterType convert e.id p) fun id c =>
      (p.enum.getD [] = [] → d.idOf c (.name p.type) = some id) ∧ ∃ μ, d.slot c μ = some id := by
  have plain : (d.regime fun _ => False).Keeps start (convert (.name p.type)) fun id c =>
      (p.enum.getD [] = [] → d.idOf c (.name p.type) = some id) ∧ ∃ μ, d.slot c μ = some id :=
    Regime.keeps_weaken (converts start (Context.lasts_refl start) _ (lists_name p.type))
      fun id c _ held => ⟨fun _ => held, _, held⟩
  unfold parameterType
  split
  · exact plain
  · exact plain
  next literals filled listed =>
    have keyed : d.KeyOf (.number p.number) { node := some p.number } := by
      refine ⟨rfl, rfl, fun r => ⟨fun same => (by cases same), ?_⟩⟩
      rintro ⟨s, first, found, numbered, _⟩
      exact absurd numbered (distinct.parameters e there p member first (named_first found).1)
    have made (c : Context) (id : String) : d.Made c (.number p.number)
        { id, name := e.id ++ "_" ++ p.name,
          shape := .enum (literals.map (enumValueOf · none))
            (enumKindOf (literals.map (enumValueOf · none))) } := by
      refine ⟨fun about properties items variants listed same => ?_, fun _ _ => rfl⟩
      exact absurd (congrArg some same) (distinct.parameters e there p member _ listed)
    have few : ∀ v ∈ literals.map (enumValueOf · none), v.value.toScalar.isShort = true := by
      intro v fixed
      obtain ⟨l, given, rfl⟩ := List.mem_map.mp fixed
      exact short l (fixed_parameter there member (listed ▸ given))
    refine Regime.keeps_bind (Regime.keeps_of_except (fun f failed => ?_) fun shape _ _ same => same) ?_
    · rw [enum_printed few] at failed
      cases failed
    intro shape c later same
    rw [enum_printed few] at same
    cases same
    refine Regime.keeps_weaken (keeps_resolve keyed (fun _ same => by cases same)
      (fun c _ _ => Regime.keeps_pure fun c' _ => ⟨rfl, made c' _⟩)
      (fun f (impossible : False) => impossible.elim)) fun id c _ held => ⟨fun plain => ?_, _, held⟩
    simp only [listed, Option.getD_some] at plain
    exact absurd plain filled

theorem keeps_parameters {e : DialectEndpoint} (there : e ∈ d.endpoints)
    (parameters : List DialectParameter) (members : ∀ p ∈ parameters, p ∈ e.parameters) :
    (d.regime fun _ => False).Keeps start (parametersFrom convert e.id parameters) fun made c =>
      List.Forall₂ (ParameterAt (d.idOf c)) parameters made ∧
        ∀ p ∈ made, ∃ μ, d.slot c μ = some p.type.typeId := by
  induction parameters generalizing start with
  | nil => exact Regime.keeps_pure fun _ _ => ⟨.nil, fun _ none => by cases none⟩
  | cons p rest ih =>
      refine Regime.keeps_bind (keeps_parameter distinct short converts there (members p (by simp)))
        fun id c later ⟨held, μ, marked⟩ => ?_
      refine Regime.keeps_bind (ih (converts_later converts later.1) fun q member =>
        members q (by simp [member])) fun made c₁ later₁ ⟨all, known⟩ => ?_
      refine Regime.keeps_pure fun c₂ later₂ => ⟨.cons ⟨rfl, fun plain => ?_⟩ ?_, fun q member => ?_⟩
      · exact slot_later later₂.1 (slot_later later₁.1 (held plain))
      · exact all.imp fun _ _ q => ⟨q.name, fun plain => slot_later later₂.1 (q.type plain)⟩
      · obtain rfl | later := List.mem_cons.mp member
        · exact ⟨μ, slot_later later₂.1 (slot_later later₁.1 marked)⟩
        · obtain ⟨ν, marked⟩ := known q later
          exact ⟨ν, slot_later later₂.1 marked⟩

omit distinct short in
theorem keeps_response {r : DialectResponse} (listed : ∀ source, r.type = some source → d.Lists source) :
    (d.regime fun _ => False).Keeps start (responseOf convert r) fun made c =>
      ResponseAt (d.idOf c) r made := by
  unfold responseOf
  extract_lets contentType finish
  have last (type : Option TypeRef) (c : Context)
      (held : Option.Rel (fun source (ref : TypeRef) => d.idOf c source = some ref.typeId) r.type type) :
      (d.regime fun _ => False).Keeps c (finish type) fun made c => ResponseAt (d.idOf c) r made :=
    Regime.keeps_pure fun c' later =>
      ⟨rfl, option_rel_imp held fun _ _ => slot_later later.1, rfl⟩
  cases typed : r.type with
  | none => exact last none start (typed ▸ .none)
  | some source =>
      refine Regime.keeps_bind (Regime.keeps_map (Regime.keeps_weaken
        (keeps_reference converts (listed source typed)) fun ref c _ held => ?_)) fun type c _ held =>
          last type c held
      exact typed ▸ .some held

theorem keeps_endpoint {e : DialectEndpoint} (there : e ∈ d.endpoints) :
    (d.regime fun _ => False).Keeps start (endpointOf convert e) fun made c =>
      made.isSome = (Method.all.find? (·.name == Text.upperText e.method)).isSome ∧
        ∀ m, made = some m → EndpointAt (d.idOf c) e m ∧ d.Marked c m := by
  unfold endpointOf
  extract_lets upper
  cases found : Method.all.find? (·.name == upper) with
  | none =>
      exact Regime.keeps_bind (keeps_warn _) fun _ _ _ _ =>
        Regime.keeps_pure fun _ _ => ⟨rfl, fun _ none => by cases none⟩
  | some method =>
      refine Regime.keeps_bind (keeps_parameters distinct short converts there e.parameters fun _ => id)
        fun parameters c₁ later₁ ⟨all₁, known⟩ => ?_
      extract_lets finish
      -- The same is left to do for an endpoint with a body and for one without.
      have last (body : Option RequestBody) (c₂ : Context) (later₂ : c₁.Lasts c₂)
          (held : Option.Rel (fun body b => d.idOf c₂ body.type = some b.type.typeId) e.requestBody body) :
          (d.regime fun _ => False).Keeps c₂ (finish body) fun made c =>
            made.isSome = (some method).isSome ∧
              ∀ m, made = some m → EndpointAt (d.idOf c) e m ∧ d.Marked c m := by
        have converts₂ := converts_later (converts_later converts later₁.1) later₂
        have each : (d.regime fun _ => False).Keeps c₂ (e.responses.mapM (responseOf convert))
            fun made c => List.Forall₂ (ResponseAt (d.idOf c)) e.responses made := by
          refine Regime.keeps_each e.responses (fun _ _ _ _ later r =>
            ⟨r.status, option_rel_imp r.type fun _ _ => slot_later later.1, r.headers⟩) ?_
          intro r c later member
          exact keeps_response (converts_later converts₂ later.1) fun source typed =>
            lists_response there member typed
        refine Regime.keeps_bind each fun responses c₃ later₃ all₃ => Regime.keeps_pure fun c₄ later₄ => ?_
        have later := Context.lasts_trans later₃.1 later₄.1
        have last := Context.lasts_trans later₂ later
        refine ⟨rfl, fun m same => ?_⟩
        cases same
        refine ⟨⟨rfl, ?_, option_rel_imp held fun _ _ => slot_later later, ?_, rfl⟩, fun p member => ?_⟩
        · exact all₁.imp fun _ _ p => ⟨p.name, fun plain => slot_later last (p.type plain)⟩
        · exact all₃.imp fun _ _ r =>
            ⟨r.status, option_rel_imp r.type fun _ _ => slot_later later₄.1, r.headers⟩
        · obtain ⟨μ, marked⟩ := known p member
          exact ⟨μ, slot_later last marked⟩
      cases has : e.requestBody with
      | none => exact last none c₁ (Context.lasts_refl c₁) (has ▸ .none)
      | some body =>
          refine Regime.keeps_bind (keeps_reference (converts_later converts later₁.1)
            (lists_body there has)) fun type c₂ later₂ held => ?_
          exact last _ c₂ later₂.1 (has ▸ .some held)

theorem keeps_endpoints (includeDeprecated : Bool) (endpoints : List DialectEndpoint)
    (members : ∀ e ∈ endpoints, e ∈ d.endpoints) :
    (d.regime fun _ => False).Keeps start (endpointsFrom convert includeDeprecated endpoints)
      fun made c => List.Forall₂ (fun e m => EndpointAt (d.idOf c) e m ∧ d.Marked c m)
        (endpoints.filter (·.isKept includeDeprecated)) made := by
  induction endpoints generalizing start with
  | nil => exact Regime.keeps_pure fun _ _ => .nil
  | cons e rest ih =>
      have others : ∀ e ∈ rest, e ∈ d.endpoints := fun e member => members e (by simp [member])
      by_cases skipped : (e.deprecated = some true && !includeDeprecated) = true
      · have out : e.isKept includeDeprecated = false := by simp [DialectEndpoint.isKept, skipped]
        simp only [endpointsFrom, skipped, if_true, List.filter_cons, out, Bool.false_eq_true, if_false]
        exact ih converts others
      · simp only [endpointsFrom, skipped, Bool.false_eq_true, if_false]
        refine Regime.keeps_bind (keeps_endpoint distinct short converts (members e (by simp)))
          fun made c later ⟨known, held⟩ => ?_
        refine Regime.keeps_bind (ih (converts_later converts later.1) others)
          fun more c₁ later₁ all => Regime.keeps_pure fun c₂ later₂ => ?_
        have kept : e.isKept includeDeprecated = made.isSome := by
          simp [DialectEndpoint.isKept, skipped, known]
        have further : List.Forall₂ (fun e m => EndpointAt (d.idOf c₂) e m ∧ d.Marked c₂ m)
            (rest.filter (·.isKept includeDeprecated)) more :=
          all.imp fun _ _ => kept_later later₂.1
        cases made with
        | none =>
            simp only [List.filter_cons, kept, Option.isSome_none, Bool.false_eq_true, if_false]
            exact further
        | some m =>
            simp only [List.filter_cons, kept, Option.isSome_some, if_true]
            exact .cons (kept_later (Context.lasts_trans later₁.1 later₂.1) (held m rfl)) further

end Endpoints

end DialectDocument

end ApiSchema.Dialect
