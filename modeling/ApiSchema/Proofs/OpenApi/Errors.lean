import ApiSchema.Proofs.OpenApi.Composed
import ApiSchema.Proofs.OpenApi.Naming
import ApiSchema.Proofs.Schema.Reading

namespace ApiSchema

namespace OpenApi

def phraseOf (code : Int) : String := (phrase? code).getD ("HTTP " ++ decimalText code)

def messageOf (phrase : String) : Option String → String
  | some description => if description.isEmpty then phrase else description
  | none => phrase

def errorOf (code : Int) (r : Response) : ErrorDefinition where
  code := String.ofList (Text.snakeCase (phraseOf code).toList)
  statusCode := code
  message := messageOf (phraseOf code) r.description
  name := some (phraseOf code)
  type := r.type
  retryable := some (isRetryable code)

/-- Errors that stand for responses: one for each code, made of the first response with the code. -/
structure Mirrors (responses : List Response) (errors : List ErrorDefinition) : Prop where
  distinct : (errors.map (·.statusCode)).Nodup
  codes : ∀ code, (∃ e ∈ errors, e.statusCode = code) ↔
    400 ≤ code ∧ ∃ r ∈ responses, r.status = .code code
  first : ∀ e ∈ errors, ∃ r, responses.find? (·.status = .code e.statusCode) = some r ∧
    e = errorOf e.statusCode r

section Responses

open Check Checked

variable {w : Surroundings} {c c' : Context} {errors errors' : List ErrorDefinition}
  {responses : List Response}

theorem response_ok {code : Status} {description content : Value} :
    ∀ r, response (.object [("status_code", code.toValue), ("description", description),
      ("content_type", content)]) = .ok r →
        r.status = code ∧ nullable text description = .ok r.description := by
  simp only [response, all_and_then, all_seq, all_map, record_ok]
  intro pairs same status' statusRead type' _ description' described
  cases same
  simp [Check.required, Check.optional, withDefault, Check.field?, (status_reads code).1] at statusRead described
  intros
  exact ⟨statusRead.symm, described⟩

theorem error_ok {phrase : String} {code : Int} {message : Value} {retryable : Bool} :
    ∀ e, errorDefinition (.object [("code", .text (String.ofList (Text.snakeCase phrase.toList))),
      ("status_code", .int code), ("message", message), ("name", .text phrase),
      ("retryable", .bool retryable)]) = .ok e →
        ∃ said, text message = .ok said ∧ e = {
          code := String.ofList (Text.snakeCase phrase.toList), statusCode := code, message := said
          name := some phrase, retryable := some retryable } := by
  simp only [errorDefinition, all_and_then, all_seq, all_map, record_ok]
  intro pairs same code' codeRead status' statusRead message' messageRead name' nameRead
    description' descriptionRead type' typeRead retryable' retryableRead
  cases same
  simp [Check.required, Check.optional, withDefault, Check.field?, text, integer, nullable, flag]
    at codeRead statusRead messageRead nameRead descriptionRead typeRead retryableRead
  subst codeRead statusRead nameRead descriptionRead typeRead retryableRead
  exact ⟨message', messageRead, rfl⟩

theorem text_of_bytes_empty {bytes : List UInt8} (read : textOfBytes bytes = .ok "") : bytes = [] :=
  text_of_bytes_injective read (by rfl)

theorem text_truthy {g : Graph} {item : Item} {said : String} (read : text (g.value item) = .ok said) :
    g.truthy item = !said.isEmpty := by
  cases item with
  | node id =>
      simp only [Graph.value, Graph.valueWithin] at read
      split at read
      · cases read
      next cell _ => cases cell <;> cases read
  | scalar s =>
      simp only [Graph.value, Graph.valueWithin] at read
      cases s with
      | text t =>
          cases read
          rfl
      | bytes b =>
          have ends : b = [] ↔ said = "" :=
            ⟨fun none => by subst none; cases read; rfl, fun none => text_of_bytes_empty (none ▸ read)⟩
          change (!b.isEmpty) = _
          rw [Bool.eq_iff_iff]
          simpa using not_congr ends
      | _ => cases read

-- The message of an error and the description of its response are read from one part of the document.
theorem message_described {g : Graph} {item : Item} {phrase said : String} {described : Option String}
    (read : text (if g.truthy item then g.value item else .text phrase) = .ok said)
    (kept : nullable text (g.value item) = .ok described) :
    said = messageOf phrase described := by
  unfold nullable at kept
  split at kept
  next null =>
    cases kept
    rw [null] at read
    split at read
    · cases read
    · cases read
      rfl
  next =>
    cases taken : text (g.value item) with
    | bad => rw [taken] at kept; cases kept
    | ok description =>
        rw [taken] at kept
        cases kept
        rw [text_truthy taken] at read
        cases empty : description.isEmpty with
        | true =>
            simp only [empty, Bool.not_true, Bool.false_eq_true, if_false] at read
            cases read
            simp [messageOf, empty]
        | false =>
            simp only [empty, Bool.not_false, if_true, taken] at read
            cases read
            simp [messageOf, empty]

-- A code is noted once, with what the response at hand says of it.
theorem error_registered {g : Graph} {code : Int} {entries : Entries} {r : Response}
    (registered : registerError g errors code entries r.type = .ok errors')
    (described : nullable text (g.value (fieldOf entries "description")) = .ok r.description) :
    errors' = if errors.any (·.statusCode == code) then errors else errors ++ [errorOf code r] := by
  unfold registerError at registered
  split at registered
  next known =>
    cases registered
    rw [if_pos known]
  next new =>
    rw [if_neg new]
    simp only at registered
    cases made : checked "ErrorDefinition" errorDefinition _ with
    | error f => rw [made] at registered; cases registered
    | ok e =>
        rw [made] at registered
        cases registered
        obtain ⟨said, read, rfl⟩ := error_ok e (checked_ok made)
        have message := message_described read described
        rw [message]
        rfl

theorem mirrors_nothing : Mirrors [] [] where
  distinct := .nil
  codes code := by simp
  first e member := by cases member

theorem mirrors_more {r : Response} (mirrors : Mirrors responses errors)
    (plain : ∀ code, r.status = .code code → code < 400) : Mirrors (responses ++ [r]) errors where
  distinct := mirrors.distinct
  codes code := by
    rw [mirrors.codes code]
    refine and_congr_right fun high => ?_
    have other : r.status ≠ .code code := fun same => absurd (plain code same) (by omega)
    simp [other]
  first e member := by
    obtain ⟨first, found, same⟩ := mirrors.first e member
    exact ⟨first, by rw [List.find?_append, found]; rfl, same⟩

theorem mirrors_error {r : Response} {code : Int} (mirrors : Mirrors responses errors)
    (status : r.status = .code code) (high : 400 ≤ code) : Mirrors (responses ++ [r])
      (if errors.any (·.statusCode == code) then errors else errors ++ [errorOf code r]) := by
  have known : errors.any (·.statusCode == code) = true ↔ ∃ e ∈ errors, e.statusCode = code := by simp
  have kept (e : ErrorDefinition) (member : e ∈ errors) :
      ∃ first, (responses ++ [r]).find? (·.status = .code e.statusCode) = some first ∧
        e = errorOf e.statusCode first := by
    obtain ⟨first, found, same⟩ := mirrors.first e member
    exact ⟨first, by rw [List.find?_append, found]; rfl, same⟩
  -- A code that has its error keeps it; a new one is put last.
  split
  next old =>
    refine ⟨mirrors.distinct, fun other => ?_, kept⟩
    by_cases same : other = code
    · subst same
      simp [known.mp old, high, status]
    · have differs : r.status ≠ .code other := fun again => same (by
        rw [status] at again
        exact (Status.code.inj again).symm)
      rw [mirrors.codes other]
      simp [differs]
  next new =>
    have absent : ¬ ∃ e ∈ errors, e.statusCode = code := fun held => new (known.mpr held)
    have missing : responses.find? (·.status = .code code) = none := by
      refine List.find?_eq_none.mpr fun other member same => absent ((mirrors.codes code).mpr ⟨high, ?_⟩)
      exact ⟨other, member, by simpa using same⟩
    refine ⟨?_, fun other => ?_, fun e member => ?_⟩
    · rw [List.map_append, List.nodup_append]
      refine ⟨mirrors.distinct, by simp, fun a listed b last same => absent ?_⟩
      obtain ⟨e, member, rfl⟩ := List.mem_map.mp listed
      have ended : b = code := by simpa [errorOf] using last
      exact ⟨e, member, same.trans ended⟩
    · by_cases same : other = code
      · subst same
        simp [errorOf, high, status]
      · have differs : r.status ≠ .code other := fun again => same (by
          rw [status] at again
          exact (Status.code.inj again).symm)
        have earlier := mirrors.codes other
        simp only [List.mem_append, List.mem_singleton, or_and_right, exists_or, exists_eq_left, differs,
          or_false, ← earlier]
        simp [errorOf, Ne.symm same]
    · obtain old | last := List.mem_append.mp member
      · exact kept e old
      · have new : e = errorOf code r := List.mem_singleton.mp last
        subst new
        refine ⟨r, ?_, rfl⟩
        change (responses ++ [r]).find? (·.status = .code code) = some r
        rw [List.find?_append, missing]
        simp [status]

theorem error_code {status : Status} {code : Int} :
    errorCode? status = some code ↔ status = .code code ∧ 400 ≤ code := by
  cases status with
  | text => simp [errorCode?]
  | code n =>
      simp only [errorCode?, Option.ite_none_right_eq_some, Option.some.injEq, Status.code.injEq]
      exact ⟨fun ⟨high, same⟩ => ⟨same, same ▸ high⟩, fun ⟨same, high⟩ => ⟨same ▸ high, same⟩⟩

theorem known_mirrored {response : Entries} {type : Option TypeRef} {code : Status} {made : Response}
    (known : knownErrors w.graph errors code response type = .ok errors') (mirrors : Mirrors responses errors)
    (status : made.status = code) (typed : made.type = type)
    (described : nullable text (w.graph.value (fieldOf response "description")) = .ok made.description) :
    Mirrors (responses ++ [made]) errors' := by
  unfold knownErrors at known
  cases coded : errorCode? code with
  | none =>
      rw [coded] at known
      cases known
      refine mirrors_more mirrors fun n same => ?_
      by_contra high
      have some := error_code.mpr ⟨status.symm.trans same, by omega⟩
      rw [coded] at some
      cases some
  | some n =>
      rw [coded] at known
      obtain ⟨rfl, high⟩ := error_code.mp coded
      change registerError w.graph errors n response type = _ at known
      rw [← typed] at known
      rw [error_registered known described]
      exact mirrors_error mirrors status high

theorem typed_mirrored {operation : Except Fault String} {status : String} {entries : Entries}
    {media : Option (Scalar × Item)} {type : Option TypeRef} {r : Option Response}
    (gave : Gives (typedResponse w operation status entries media errors type) c (r, errors') c')
    (mirrors : Mirrors responses errors) : Mirrors (responses ++ r.toList) errors' := by
  obtain ⟨declared, -, gave⟩ := gives_of_except_bind.mp gave
  obtain ⟨headers, c₁, -, gave⟩ := gives_bind.mp gave
  obtain ⟨code, -, gave⟩ := gives_of_except_bind.mp gave
  obtain ⟨errors₁, known, gave⟩ := gives_of_except_bind.mp gave
  obtain ⟨made, checks, gave⟩ := gives_of_except_bind.mp gave
  obtain ⟨same, -⟩ := gives_pure.mp gave
  cases same
  obtain ⟨status, described⟩ := response_ok made (checked_ok checks)
  exact known_mirrored known mirrors status rfl described

theorem response_mirrored {operation : Except Fault String} {status : String} {raw : Item}
    {r : Option Response} (gave : Gives (responseOf w operation status raw errors) c (r, errors') c')
    (mirrors : Mirrors responses errors) : Mirrors (responses ++ r.toList) errors' := by
  unfold responseOf at gave
  obtain ⟨found, c₁, -, gave⟩ := gives_bind.mp gave
  cases found with
  | none =>
      obtain ⟨same, -⟩ := gives_pure.mp gave
      cases same
      simpa using mirrors
  | some entries =>
      obtain ⟨media, -, gave⟩ := gives_of_except_bind.mp gave
      obtain ⟨schema, -, gave⟩ := gives_of_except_bind.mp gave
      obtain ⟨type, c₂, -, gave⟩ := gives_bind.mp gave
      exact typed_mirrored gave mirrors

theorem responses_mirrored {operation : Except Fault String} {answers : Entries} {more : List Response}
    (gave : Gives (responsesFrom w operation errors answers) c (more, errors') c')
    (mirrors : Mirrors responses errors) : Mirrors (responses ++ more) errors' := by
  induction answers generalizing c c' errors responses more with
  | nil =>
      obtain ⟨same, -⟩ := gives_pure.mp gave
      cases same
      simpa using mirrors
  | cons entry rest ih =>
      unfold responsesFrom at gave
      obtain ⟨status, -, gave⟩ := gives_of_except_bind.mp gave
      obtain ⟨⟨first, errors₁⟩, c₁, one, gave⟩ := gives_bind.mp gave
      obtain ⟨⟨others, errors₂⟩, c₂, all, gave⟩ := gives_bind.mp gave
      obtain ⟨same, -⟩ := gives_pure.mp gave
      cases same
      rw [← List.append_assoc]
      exact ih all (response_mirrored one mirrors)

theorem endpoint_mirrored {path : Scalar} {m : Method} {operation : Entries} {shared : Item}
    {e : Endpoint} (gave : Gives (endpointOf w path m operation shared errors) c (e, errors') c')
    (mirrors : Mirrors responses errors) : Mirrors (responses ++ e.responses) errors' := by
  unfold endpointOf at gave
  obtain ⟨item, -, gave⟩ := gives_of_except_bind.mp gave
  obtain ⟨outer, -, gave⟩ := gives_of_except_bind.mp gave
  obtain ⟨inner, -, gave⟩ := gives_of_except_bind.mp gave
  obtain ⟨merged, c₁, -, gave⟩ := gives_bind.mp gave
  obtain ⟨parameters, c₂, -, gave⟩ := gives_bind.mp gave
  obtain ⟨body, c₃, -, gave⟩ := gives_bind.mp gave
  obtain ⟨answers, -, gave⟩ := gives_of_except_bind.mp gave
  obtain ⟨⟨more, errors₁⟩, c₄, answered, gave⟩ := gives_bind.mp gave
  -- What comes after the responses leaves them and the errors as they are.
  obtain ⟨asked, -, gave⟩ := gives_of_except_bind.mp gave
  obtain ⟨ids, -, gave⟩ := gives_of_except_bind.mp gave
  obtain ⟨shownPath, -, gave⟩ := gives_of_except_bind.mp gave
  obtain ⟨streaming, -, gave⟩ := gives_of_except_bind.mp gave
  obtain ⟨tags, -, gave⟩ := gives_of_except_bind.mp gave
  obtain ⟨made, -, gave⟩ := gives_of_except_bind.mp gave
  obtain ⟨same, -⟩ := gives_pure.mp gave
  cases same
  exact responses_mirrored answered mirrors

def responsesOf (endpoints : List Endpoint) : List Response := endpoints.flatMap (·.responses)

theorem operations_mirrored {path : Scalar} {shared : Item} {entries : Entries} {more : List Endpoint}
    (gave : Gives (operationsFrom w path shared errors entries) c (more, errors') c')
    (mirrors : Mirrors responses errors) : Mirrors (responses ++ responsesOf more) errors' := by
  induction entries generalizing c c' errors responses more with
  | nil =>
      obtain ⟨same, -⟩ := gives_pure.mp gave
      cases same
      simpa [responsesOf] using mirrors
  | cons entry rest ih =>
      obtain ⟨name, node⟩ := entry
      unfold operationsFrom at gave
      obtain ⟨found, -, gave⟩ := gives_of_except_bind.mp gave
      split at gave
      · obtain ⟨⟨e, errors₁⟩, c₁, one, gave⟩ := gives_bind.mp gave
        obtain ⟨⟨others, errors₂⟩, c₂, all, gave⟩ := gives_bind.mp gave
        obtain ⟨same, -⟩ := gives_pure.mp gave
        cases same
        have mirrored := ih all (endpoint_mirrored one mirrors)
        rwa [List.append_assoc] at mirrored
      · exact ih gave mirrors

theorem endpoints_mirrored {paths : Entries} {more : List Endpoint}
    (gave : Gives (endpointsFrom w errors paths) c (more, errors') c')
    (mirrors : Mirrors responses errors) : Mirrors (responses ++ responsesOf more) errors' := by
  induction paths generalizing c c' errors responses more with
  | nil =>
      obtain ⟨same, -⟩ := gives_pure.mp gave
      cases same
      simpa [responsesOf] using mirrors
  | cons entry rest ih =>
      unfold endpointsFrom at gave
      split at gave
      · exact ih gave mirrors
      · obtain ⟨⟨endpoints, errors₁⟩, c₁, one, gave⟩ := gives_bind.mp gave
        obtain ⟨⟨others, errors₂⟩, c₂, all, gave⟩ := gives_bind.mp gave
        obtain ⟨same, -⟩ := gives_pure.mp gave
        cases same
        have mirrored := ih all (operations_mirrored one mirrors)
        rw [List.append_assoc] at mirrored
        rwa [responsesOf, List.flatMap_append]

theorem insert_among (e : ErrorDefinition) (errors : List ErrorDefinition) :
    (insertError e errors).Perm (e :: errors) := by
  induction errors with
  | nil => exact .refl _
  | cons first rest ih =>
      rw [insertError]
      split
      · exact .refl _
      · exact (ih.cons first).trans (.swap e first rest)

theorem insert_ascending {e : ErrorDefinition}
    (ascending : errors.Pairwise fun a b => a.statusCode < b.statusCode)
    (new : ∀ other ∈ errors, other.statusCode ≠ e.statusCode) :
    (insertError e errors).Pairwise fun a b => a.statusCode < b.statusCode := by
  induction errors with
  | nil => simp [insertError]
  | cons first rest ih =>
      obtain ⟨before, others⟩ := List.pairwise_cons.mp ascending
      rw [insertError]
      split
      next less =>
        refine List.pairwise_cons.mpr ⟨fun other member => ?_, ascending⟩
        obtain rfl | later := List.mem_cons.mp member
        · exact less
        · exact less.trans (before other later)
      next more =>
        have differs := new first (by simp)
        refine List.pairwise_cons.mpr ⟨fun other member => ?_, ih others fun b later => new b (by simp [later])⟩
        obtain rfl | later := List.mem_cons.mp ((insert_among e rest).mem_iff.mp member)
        · omega
        · exact before other later

theorem sorted_among (errors : List ErrorDefinition) : (errors.foldr insertError []).Perm errors := by
  induction errors with
  | nil => exact .refl _
  | cons first rest ih => exact (insert_among first _).trans (ih.cons first)

theorem sorted_ascending (distinct : (errors.map (·.statusCode)).Nodup) :
    (errors.foldr insertError []).Pairwise fun a b => a.statusCode < b.statusCode := by
  induction errors with
  | nil => exact .nil
  | cons first rest ih =>
      obtain ⟨new, others⟩ := List.nodup_cons.mp distinct
      refine insert_ascending (ih others) fun other member same => new ?_
      exact List.mem_map.mpr ⟨other, (sorted_among rest).mem_iff.mp member, same⟩

end Responses

section Converted

variable {d : Document} {options : FrontendOptions} {s : Schema} {c : Context}

theorem converted_mirrored (converted : Gives (convert d options) {} s c) :
    ∃ errors, Mirrors (responsesOf s.endpoints) errors ∧ s.errors = errors.foldr insertError [] := by
  unfold convert at converted
  obtain ⟨components, -, gave⟩ := gives_of_except_bind.mp converted
  obtain ⟨schemas, -, gave⟩ := gives_of_except_bind.mp gave
  obtain ⟨_, c₁, -, gave⟩ := gives_bind.mp gave
  obtain ⟨schemes, -, gave⟩ := gives_of_except_bind.mp gave
  obtain ⟨authentication, c₂, -, gave⟩ := gives_bind.mp gave
  obtain ⟨paths, -, gave⟩ := gives_of_except_bind.mp gave
  obtain ⟨⟨endpoints, errors⟩, c₃, made, gave⟩ := gives_bind.mp gave
  obtain ⟨metadata, -, gave⟩ := gives_of_except_bind.mp gave
  obtain ⟨types, -, gave⟩ := gives_of_except_bind.mp (gives_get_bind.mp gave)
  obtain ⟨same, -⟩ := gives_pure.mp gave
  cases same
  exact ⟨errors, endpoints_mirrored made mirrors_nothing, rfl⟩

/-- The errors of a converted document stand by ascending codes. There is one for each code of at least
400 that a response of an endpoint has, and it is the error of the first response with the code. -/
theorem errors_mirror (converted : (convert d options).run.run {} = (.ok s, c)) :
    s.errors.Pairwise (fun a b => a.statusCode < b.statusCode) ∧
      (∀ code, (∃ error ∈ s.errors, error.statusCode = code) ↔
        400 ≤ code ∧ ∃ e ∈ s.endpoints, ∃ r ∈ e.responses, r.status = .code code) ∧
      ∀ error ∈ s.errors, ∃ r,
        (responsesOf s.endpoints).find? (·.status = .code error.statusCode) = some r ∧
          error = errorOf error.statusCode r := by
  obtain ⟨errors, mirrors, same⟩ := converted_mirrored converted
  have among := sorted_among errors
  rw [same]
  refine ⟨sorted_ascending mirrors.distinct, fun code => ?_, fun error member => ?_⟩
  · have responses : (∃ r ∈ responsesOf s.endpoints, r.status = .code code) ↔
        ∃ e ∈ s.endpoints, ∃ r ∈ e.responses, r.status = .code code := by
      simp only [responsesOf, List.mem_flatMap]
      exact ⟨fun ⟨r, ⟨e, there, kept⟩, status⟩ => ⟨e, there, r, kept, status⟩,
        fun ⟨e, there, r, kept, status⟩ => ⟨r, ⟨e, there, kept⟩, status⟩⟩
    rw [← responses, ← mirrors.codes code]
    simp only [among.mem_iff]
  · exact mirrors.first error (among.mem_iff.mp member)

def shop : Document :=
  let answers (listed : List (String × String)) : Value := .object [("responses",
    .object (listed.map fun (status, said) => (status, .object [("description", .text said)])))]
  routed [("/items", [("get", answers [("200", "all"), ("500", ""), ("404", "no items")])]),
    ("/item", [("get", answers [("404", "no item"), ("4XX", "wrong"), ("0409", "taken")])])]

theorem shop_errors : ∃ s c, (convert shop plainOptions).run.run {} = (.ok s, c) ∧
    s.errors.map (fun e => (e.statusCode, e.message)) =
      [(404, "no items"), (409, "taken"), (500, "Internal Server Error")] ∧
    ∀ error ∈ s.errors, ∃ r,
      (responsesOf s.endpoints).find? (·.status = .code error.statusCode) = some r ∧
        error = errorOf error.statusCode r := by
  have found : ((convert shop plainOptions).run.run {}).1.toOption.map
      (fun s => s.errors.map fun e => (e.statusCode, e.message)) =
        some [(404, "no items"), (409, "taken"), (500, "Internal Server Error")] := by decide +kernel
  cases converted : (convert shop plainOptions).run.run {} with
  | mk result c =>
      rw [converted] at found
      cases result with
      | error f => cases found
      | ok s => exact ⟨s, c, rfl, Option.some.inj found, (errors_mirror converted).2.2⟩

end Converted

end OpenApi

end ApiSchema
