import ApiSchema.Proofs.Control.Keeps
import ApiSchema.Proofs.Conversion.Resolver

namespace ApiSchema

variable {c c' : Context} {id name : String}

namespace Context

def notes (c : Context) : List NodeIssue × List String × List String := (c.issues, c.errors, c.warnings)

def lines (c : Context) : Severity → List String
  | .error => c.errors
  | .warning => c.warnings

def Told (c : Context) : Prop := ∀ issue ∈ c.issues, issue.message ∈ c.lines issue.severity

theorem told_of (same : c'.notes = c.notes) (told : c.Told) : c'.Told := by
  obtain ⟨issues, errors, warnings⟩ : c'.issues = c.issues ∧ c'.errors = c.errors ∧
      c'.warnings = c.warnings := by simpa [notes] using same
  intro issue member
  rw [issues] at member
  have read := told issue member
  cases level : issue.severity <;> simpa [lines, level, errors, warnings] using read

theorem told_warn (told : c.Told) (message : String) : (c.warn message).Told := by
  intro issue member
  have read := told issue member
  cases level : issue.severity with
  | error => simpa [lines, level, warn] using read
  | warning => exact List.mem_append_left _ (by simpa [lines, level] using read)

theorem told_error (told : c.Told) (message : String) : (c.error message).Told := by
  intro issue member
  have read := told issue member
  cases level : issue.severity with
  | error => exact List.mem_append_left _ (by simpa [lines, level] using read)
  | warning => simpa [lines, level, error] using read

theorem told_record (told : c.Told) (issue : NodeIssue) : (c.record issue).Told := by
  unfold record
  intro other member
  cases level : issue.severity with
  | error =>
      have either : other ∈ c.issues ∨ other = issue := by simpa [level, error] using member
      rcases either with old | rfl
      · exact told_error told issue.message other old
      · simp [lines, level, error]
  | warning =>
      have either : other ∈ c.issues ∨ other = issue := by simpa [level, warn] using member
      rcases either with old | rfl
      · exact told_warn told issue.message other old
      · simp [lines, level, warn]

end Context

theorem remember_notes (c : Context) (id : String) (key : Key) : (c.remember id key).notes = c.notes := by
  obtain ⟨node, reference, pointer⟩ := key
  cases node <;> cases pointer <;> rfl

theorem fill_notes {t : TypeDefinition} (filled : c.fill id t = .ok c') : c'.notes = c.notes := by
  obtain ⟨position, _, rfl⟩ := Context.fill_place filled
  rfl

theorem leave_told (told : c.Told) (id name : String) (built : Except Fault TypeDefinition) :
    (c.leave id name built).2.Told :=
  Context.leave_keeps (fun _ issue told => Context.told_record told issue)
    (fun _ _ _ _ filled => Context.told_of (fill_notes filled)) told

theorem types_run {α : Type} (finish : List TypeDefinition → α) (c : Context) :
    (do
      let c ← get
      let types ← ofExcept c.types
      return finish types : Conversion α).run.run c = (c.types.map finish, c) := by
  rw [run_bind]
  change (ofExcept c.types >>= fun types => pure (finish types) : Conversion α).run.run c = _
  cases c.types <;> rfl

namespace Regime

structure Quiet (R : Regime Context Fault) : Prop where
  warn : ∀ c message, R.holds c → R.holds (c.warn message) ∧ R.grows c (c.warn message)
  record : ∀ c issue, R.holds c → R.holds (c.record issue) ∧ R.grows c (c.record issue)

variable {R : Regime Context Fault} {start : Context}

theorem keeps_warn (quiet : R.Quiet) (message : String) :
    R.Keeps start (Conversion.warn message) fun _ _ => True := by
  intro c sound _
  obtain ⟨sound', grown⟩ := quiet.warn c message sound
  exact ⟨sound', grown, trivial⟩

theorem keeps_record (quiet : R.Quiet) (issue : NodeIssue) :
    R.Keeps start (Conversion.record issue) fun _ _ => True := by
  intro c sound _
  obtain ⟨sound', grown⟩ := quiet.record c issue sound
  exact ⟨sound', grown, trivial⟩

end Regime

end ApiSchema
