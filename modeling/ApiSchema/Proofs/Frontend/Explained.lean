import ApiSchema.Proofs.Dialect.Names
import ApiSchema.Proofs.Frontend.RoundTrip
import ApiSchema.Proofs.Source.Failures

/-!
Outcomes that explain themselves.

A parse succeeds exactly if nothing speaks against it, and an outcome without success says why. A fault
can end a parse while it loads, checks or converts. None of them is silent: a problem with a node that
ends a parse is an error, and a document is invalid for a reason.
-/

namespace ApiSchema

def Fault.Speaks : Fault → Prop
  | .node issue => issue.severity = .error
  | .invalid _ problems => problems ≠ []
  | _ => True

def Outcome.lines (r : Outcome) : Severity → List String
  | .error => r.errors
  | .warning => r.warnings

/-- Everything that an outcome says of itself is so, and strictness changes nothing but the success. -/
structure Explained (f : Frontend) (options : FrontendOptions) (surround : Surround)
    (source : DocumentSource) (r : Outcome) : Prop where
  success : r.success = true ↔
    r.schema.isSome = true ∧ r.errors = [] ∧ (options.strict = false ∨ r.warnings = [])
  reason : r.success = false → r.errors ≠ [] ∨ options.strict = true ∧ r.warnings ≠ []
  noted : r.schema.isSome = true → ∀ fault ∈ r.issues, ∃ issue, fault = .node issue
  told : ∀ issue, .node issue ∈ r.issues → issue.message ∈ r.lines issue.severity
  strict : ∀ strict, ∃ success,
    f.parse { options with strict } surround source = { r with success }

namespace Frontend

variable {f : Frontend} {options : FrontendOptions} {result : Except Fault Schema} {notes : Context}

section Outcomes

theorem errors_of_fault {fault : Fault} (speaks : fault.Speaks) :
    (outcomeOf options (.error fault) notes).errors ≠ [] := by
  cases fault with
  | node issue =>
      have level : issue.severity = .error := speaks
      simp [outcomeOf, Context.record, level, Context.error]
  | invalid name problems => exact speaks
  | load name cause => simp [outcomeOf]
  | _ => simp [outcomeOf]

theorem success_iff (speaks : ∀ fault, result = .error fault → fault.Speaks) :
    (outcomeOf options result notes).success = true ↔
      (outcomeOf options result notes).schema.isSome = true ∧ (outcomeOf options result notes).errors = [] ∧
        (options.strict = false ∨ (outcomeOf options result notes).warnings = []) := by
  cases result with
  | ok s =>
      simp only [outcomeOf, Option.isSome_some, true_and, Bool.and_eq_true, List.isEmpty_iff,
        Bool.not_eq_true', Bool.and_eq_false_iff, Bool.not_eq_false']
  | error fault =>
      have spoken : (outcomeOf options (.error fault) notes).errors ≠ [] :=
        errors_of_fault (speaks fault rfl)
      have failed : (outcomeOf options (.error fault) notes).success = false := by
        cases fault <;> rfl
      simp [failed, spoken]

theorem failure_reason (speaks : ∀ fault, result = .error fault → fault.Speaks)
    (failed : (outcomeOf options result notes).success = false) :
    (outcomeOf options result notes).errors ≠ [] ∨
      options.strict = true ∧ (outcomeOf options result notes).warnings ≠ [] := by
  cases result with
  | error fault => exact .inl (errors_of_fault (speaks fault rfl))
  | ok s =>
      rcases Bool.and_eq_false_iff.mp failed with noisy | strict
      · exact .inl (by simpa [outcomeOf] using noisy)
      · exact .inr (by simpa [outcomeOf] using strict)

theorem lines_of {r : Outcome} (told : notes.Told) (errors : ∀ text ∈ notes.errors, text ∈ r.errors)
    (warnings : r.warnings = notes.warnings) {issue : NodeIssue} (member : issue ∈ notes.issues) :
    issue.message ∈ r.lines issue.severity := by
  have read := told issue member
  cases level : issue.severity with
  | error => exact errors _ (by simpa [Context.lines, level] using read)
  | warning => simpa [Context.lines, Outcome.lines, level, warnings] using read

theorem issues_told (told : notes.Told) {issue : NodeIssue}
    (member : .node issue ∈ (outcomeOf options result notes).issues) :
    issue.message ∈ (outcomeOf options result notes).lines issue.severity := by
  have noted {notes : Context} (member : .node issue ∈ notes.issues.map Fault.node) :
      issue ∈ notes.issues := by simpa using member
  cases result with
  | ok s => exact lines_of told (fun _ there => there) rfl (noted member)
  | error fault =>
      cases fault with
      | node last => exact lines_of (Context.told_record told last) (fun _ there => there) rfl (noted member)
      | invalid name problems => cases List.mem_singleton.mp member
      | load name cause => cases List.mem_singleton.mp member
      | _ =>
          -- The fault that ended the parse comes after what was noted before.
          rcases List.mem_append.mp member with old | new
          · exact lines_of told (fun _ there => List.mem_append_left _ there) rfl (noted old)
          · cases List.mem_singleton.mp new

theorem issues_noted (present : (outcomeOf options result notes).schema.isSome = true) :
    ∀ fault ∈ (outcomeOf options result notes).issues, ∃ issue, fault = .node issue := by
  cases result with
  | ok s =>
      intro fault member
      obtain ⟨issue, _, rfl⟩ := List.mem_map.mp member
      exact ⟨issue, rfl⟩
  | error fault => cases fault <;> cases present

theorem outcome_strict (strict : Bool) : ∃ success, outcomeOf { options with strict } result notes =
    { outcomeOf options result notes with success } := by
  cases result with
  | ok s => exact ⟨_, rfl⟩
  | error fault => cases fault <;> exact ⟨_, rfl⟩

end Outcomes

/-- A frontend whose conversions tell what they record, end on no silent fault, and do not know whether the
parse is strict. -/
structure Speaks (f : Frontend) : Prop where
  problems : ∀ d fault, f.problems d = .error fault → fault.Speaks
  told : ∀ d options, ((f.convert d options).run.run {}).2.Told
  faults : ∀ d options fault, ((f.convert d options).run.run {}).1 = .error fault → fault.Speaks
  strict : ∀ d options strict, f.convert d { options with strict } = f.convert d options

section Parses

variable {name : String} {loaded : Except Fault Document}

theorem run_cases (f : Frontend) (options : FrontendOptions) (name : String)
    (loaded : Except Fault Document) : (f.run options name loaded).run.run {} =
      match loaded with
      | .error fault => (.error fault, {})
      | .ok d =>
        match f.problems d with
        | .error fault => (.error fault, {})
        | .ok [] => (f.convert d options).run.run {}
        | .ok problems => (.error (.invalid name problems), {}) := by
  unfold run
  rw [run_bind]
  cases loaded with
  | error fault => rfl
  | ok d =>
      -- What is left of the run, as it stands once the document is there.
      change ((ofExcept (f.problems d) >>= _ : Conversion Schema).run.run {}) = _
      rw [run_bind]
      dsimp only
      rcases f.problems d with fault | _ | ⟨first, rest⟩ <;> rfl

theorem run_speaks (speaks : f.Speaks) (arrived : ∀ fault, loaded = .error fault → fault.Speaks) :
    ((f.run options name loaded).run.run {}).2.Told ∧
      ∀ fault, ((f.run options name loaded).run.run {}).1 = .error fault → fault.Speaks := by
  -- Nothing has been noted yet when a parse stops before the conversion.
  have stopped {fault : Fault} (loud : fault.Speaks) :
      ({} : Context).Told ∧ ∀ other, (.error fault : Except Fault Schema) = .error other → other.Speaks :=
    ⟨fun _ impossible => (by cases impossible), fun other same => by cases same; exact loud⟩
  rw [run_cases]
  cases loaded with
  | error fault => exact stopped (arrived fault rfl)
  | ok d =>
      cases found : f.problems d with
      | error fault =>
          simp only [found]
          exact stopped (speaks.problems d fault found)
      | ok problems =>
          simp only [found]
          cases problems with
          | nil => exact ⟨speaks.told d options, speaks.faults d options⟩
          | cons first rest => exact stopped (by simp [Fault.Speaks])

theorem run_strict (speaks : f.Speaks) (strict : Bool) :
    f.run { options with strict } name loaded = f.run options name loaded := by
  unfold run
  simp only [speaks.strict]

theorem escapes_speak {surround : Surround} {o : LoaderOptions} {source : DocumentSource} {l l' : Loader}
    {fault : Fault} (escapes : Loading.Escapes surround o source l l' fault) : fault.Speaks := by
  cases escapes with
  | content _ chokes => cases chokes <;> trivial
  | address => trivial
  | depth => trivial

theorem load_speaks {surround : Surround} {o : LoaderOptions} {source : DocumentSource} {fault : Fault}
    (failed : ((loadDocument surround o source).run.run {}).1 = .error fault) : fault.Speaks := by
  have stopped : Stops (loadDocument surround o source) {} fault
      ((loadDocument surround o source).run.run {}).2 := Prod.ext failed rfl
  rcases Loading.load_stops .new stopped with ⟨label, cause, rfl⟩ | escapes
  · trivial
  · exact escapes_speak escapes

theorem explained_of (speaks : f.Speaks) (options : FrontendOptions) (surround : Surround)
    (source : DocumentSource) : Explained f options surround source (f.parse options surround source) := by
  let loaded (options : FrontendOptions) :=
    ((loadDocument surround (loaderOptions options ⟨"/", surround.files.current⟩) source).run.run {}).1
  have parsed (options : FrontendOptions) : f.parse options surround source = outcomeOf options
      ((f.run options source.describe (loaded options)).run.run {}).1
      ((f.run options source.describe (loaded options)).run.run {}).2 := rfl
  have arrived (fault : Fault) (failed : loaded options = .error fault) : fault.Speaks := load_speaks failed
  obtain ⟨told, loud⟩ := run_speaks speaks arrived
  rw [parsed]
  exact {
    success := success_iff loud
    reason := failure_reason loud
    noted := issues_noted
    told := fun _ => issues_told told
    strict := fun strict => by
      -- The loader is not told of strictness either.
      rw [parsed, show loaded { options with strict } = loaded options from rfl, run_strict speaks]
      exact outcome_strict strict }

end Parses

theorem header_misuse {v : Value} {fault : Fault} (failed : OpenApi.headerErrors v = .error fault) :
    fault = .misuse .kind := by
  unfold OpenApi.headerErrors at failed
  cases held : v.holds "swagger" with
  | error other =>
      rw [held] at failed
      cases failed
      unfold Value.holds at held
      split at held <;> cases held
      rfl
  | ok old =>
      rw [held] at failed
      cases old with
      | true => cases failed
      | false => cases checked : OpenApi.header v <;> rw [checked] at failed <;> cases failed

theorem open_api_speaks : openApi.Speaks where
  problems _ _ failed := by
    cases header_misuse failed
    trivial
  told d options := (OpenApi.convert_fills d options {} (filling_empty _ _) trivial).1.2
  faults d options fault failed := by
    have kept := OpenApi.convert_kept (d := d) {} OpenApi.nowhere_follows OpenApi.nowhere_fits options {}
      OpenApi.empty_traced (OpenApi.later_refl {})
    have failed : ((OpenApi.convert d options).run.run {}).1 = .error fault := failed
    generalize (OpenApi.convert d options).run.run {} = reached at kept failed
    obtain ⟨answer, c⟩ := reached
    subst failed
    have ordinary : OpenApi.Ordinary fault := kept.2.2
    cases fault with
    | node issue =>
        -- The one problem with a node that ends a conversion is an array without items.
        obtain ⟨name, rfl⟩ := ordinary
        rfl
    | invalid name problems => exact ordinary.elim
    | _ => trivial
  strict _ _ _ := rfl

theorem internal_speaks {fault : Fault} (internal : fault.IsInternal) : fault.Speaks := by
  cases fault <;> trivial

theorem dialect_speaks : dialect.Speaks where
  problems _ _ failed := by
    cases Dialect.document_misuse failed
    trivial
  told d options := by
    simp only [dialect]
    cases Dialect.DialectDocument.ofValue d.value with
    | error rejection => exact fun _ impossible => by cases impossible
    | ok read => exact (Dialect.convert_fills read options {} (filling_empty _ _) trivial).1.2
  faults d options fault failed := by
    simp only [dialect] at failed
    cases read : Dialect.DialectDocument.ofValue d.value with
    | error rejection =>
        rw [read] at failed
        cases failed
        trivial
    | ok document =>
        rw [read] at failed
        have kept := (Dialect.convert_fills document options {} (filling_empty _ _) trivial).2.2
        simp only at failed
        generalize (Dialect.convert document options).run.run {} = reached at kept failed
        obtain ⟨answer, c⟩ := reached
        subst failed
        exact internal_speaks kept
  strict _ _ _ := rfl

/-- Both frontends explain the outcome of every parse: of any source, wherever it lies and however it is to
be read. -/
theorem parses_explained (options : FrontendOptions) (surround : Surround) (source : DocumentSource) :
    Explained openApi options surround source (openApi.parse options surround source) ∧
      Explained dialect options surround source (dialect.parse options surround source) :=
  ⟨explained_of open_api_speaks options surround source, explained_of dialect_speaks options surround source⟩

end Frontend

end ApiSchema
