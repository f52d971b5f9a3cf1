import ApiSchema.Dialect.Decode
import ApiSchema.Proofs.Check.Issues

namespace ApiSchema.Dialect

open Check

section Explains

theorem open_record_explained {α : Type} (title : String) (v : Value)
    {fields : List (Scalar × Value) → Checked α} (each : ∀ r, (fields r).Explained) :
    (openRecord title v fields).Explained := by
  refine Checked.and_then_explained ?_ fun r _ => Checked.seq_explained (by simp [each r]) (by simp)
  unfold record
  split <;> simp

theorem value_explains : Explains dialectValue := by
  intro v
  refine open_record_explained _ v fun r => ?_
  repeat' refine Checked.seq_explained ?_ ?_
  all_goals simp

@[simp] theorem source_explains (definition : Check TypeSource) : Explains (sourceBy definition) :=
  union_explains fun v => by simp [text_explains v]

theorem property_explains (definition : Check TypeSource) : Explains (propertyBy definition) := by
  intro v
  refine open_record_explained _ v fun r => ?_
  repeat' refine Checked.seq_explained ?_ ?_
  all_goals simp

theorem definition_explains (depth : Nat) : Explains (definitionWithin depth) := by
  intro v
  unfold definitionWithin
  split
  · simp
  · simp
  · refine open_record_explained _ _ fun r => ?_
    repeat' refine Checked.seq_explained ?_ ?_
    all_goals simp [property_explains, value_explains]

theorem parameter_explains : Explains dialectParameter := by
  intro v
  refine open_record_explained _ v fun r => ?_
  have location : Explains parameterLocation := fun v => by
    simp [parameterLocation, constant_explains _ v]
  repeat' refine Checked.seq_explained ?_ ?_
  all_goals simp [location]

theorem body_explains : Explains dialectBody := by
  intro v
  refine open_record_explained _ v fun r => ?_
  repeat' refine Checked.seq_explained ?_ ?_
  all_goals simp [source]

theorem response_explains : Explains dialectResponse := by
  intro v
  refine open_record_explained _ v fun r => ?_
  have status : Explains dialectStatus := union_explains fun v => by simp [integer_explains v]
  repeat' refine Checked.seq_explained ?_ ?_
  all_goals simp [status, source]

theorem endpoint_explains : Explains dialectEndpoint := by
  intro v
  refine open_record_explained _ v fun r => ?_
  repeat' refine Checked.seq_explained ?_ ?_
  all_goals simp [parameter_explains, body_explains, response_explains]

theorem error_explains : Explains dialectError := by
  intro v
  refine open_record_explained _ v fun r => ?_
  repeat' refine Checked.seq_explained ?_ ?_
  all_goals simp

theorem document_explains : Explains document := by
  intro v
  refine open_record_explained _ v fun r => ?_
  have version : Explains version := fun v => by
    unfold Dialect.version
    repeat' split
    all_goals simp
  repeat' refine Checked.seq_explained ?_ ?_
  all_goals simp [version, endpoint_explains, definition, definition_explains, error_explains]

end Explains

theorem document_read {v : Value} (valid : documentErrors v = .ok []) : ∃ d, document v = .ok d := by
  have explained := document_explains v
  unfold documentErrors at valid
  split at valid
  case h_2 => cases valid
  repeat' split at valid
  iterate 3 cases valid
  next d read => exact ⟨d, read⟩
  next issues refused =>
    rw [refused] at explained
    exact absurd (congrArg Checked.bad (List.map_eq_nil_iff.mp (Except.ok.inj valid))) explained

theorem document_misuse {v : Value} {fault : Fault} (failed : documentErrors v = .error fault) :
    fault = .misuse .part := by
  unfold documentErrors at failed
  split at failed
  · repeat' split at failed
    all_goals cases failed
  · cases failed
    rfl

end ApiSchema.Dialect
