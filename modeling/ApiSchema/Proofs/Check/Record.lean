import ApiSchema.Check.Record
import ApiSchema.Fault

namespace ApiSchema

namespace Check

namespace Checked

variable {α β : Type}

@[simp] theorem map_value {f : α → β} {a : α} : f <$> (Checked.ok a) = .ok (f a) := rfl

@[simp] theorem map_method_value {f : α → β} {a : α} : (Checked.ok a).map f = .ok (f a) := rfl

@[simp] theorem seq_value {f : α → β} {a : α} : Checked.ok f <*> Checked.ok a = .ok (f a) := rfl

@[simp] theorem and_then_value {next : α → Checked β} {a : α} :
    (Checked.ok a).andThen next = next a := rfl

@[simp] theorem within_value {step : Step} {a : α} : (Checked.ok a).within step = .ok a := rfl

-- The other way round: what a check that passed has read. Written for every answer at once, so
-- that the parts of a record unfold into one implication after the other.
theorem all_map {f : α → β} {x : Checked α} {P : β → Prop} :
    (∀ b, f <$> x = .ok b → P b) ↔ ∀ a, x = .ok a → P (f a) := by
  change (∀ b, Checked.map f x = .ok b → P b) ↔ _
  cases x <;> simp [Checked.map]

theorem all_map_method {f : α → β} {x : Checked α} {P : β → Prop} :
    (∀ b, x.map f = .ok b → P b) ↔ ∀ a, x = .ok a → P (f a) := all_map

theorem all_seq {f : Checked (α → β)} {x : Checked α} {P : β → Prop} :
    (∀ b, f <*> x = .ok b → P b) ↔ ∀ g, f = .ok g → ∀ a, x = .ok a → P (g a) := by
  change (∀ b, Checked.seq f (fun _ => x) = .ok b → P b) ↔ _
  cases f <;> cases x <;> simp [Checked.seq]

theorem all_and_then {c : Checked α} {next : α → Checked β} {P : β → Prop} :
    (∀ b, c.andThen next = .ok b → P b) ↔ ∀ a, c = .ok a → ∀ b, next a = .ok b → P b := by
  cases c <;> simp [Checked.andThen]

@[simp] theorem within_ok {c : Checked α} {step : Step} {a : α} :
    c.within step = .ok a ↔ c = .ok a := by
  cases c <;> simp [Checked.within]

@[simp] theorem fail_not_ok {cause : Cause} {a : α} : (Checked.fail cause : Checked α) ≠ .ok a := by
  simp [Checked.fail]

end Checked

@[simp] theorem readings_nil {α : Type} (v : Value) : readings ([] : List (Member α)) v = [] := rfl

theorem readings_passed {α : Type} {m : Member α} {rest : List (Member α)} {v : Value} {a : α}
    (passed : m.check v = .ok a) : readings (m :: rest) v = (m.fit v, a) :: readings rest v := by
  simp [readings, passed, Checked.toOption]

theorem readings_failed {α : Type} {m : Member α} {rest : List (Member α)} {v : Value}
    {issues : List Issue} (failed : m.check v = .bad issues) :
    readings (m :: rest) v = readings rest v := by
  simp [readings, failed, Checked.toOption]

section Fields

variable {α : Type} {check : Check α} {P : α → Prop} {pairs : List (Scalar × Value)} {names : List String}

theorem required_ok (each : ∀ v a, check v = .ok a → P a) : ∀ a, required pairs names check = .ok a → P a := by
  intro a read
  unfold required at read
  split at read
  · exact each _ a (Checked.within_ok.mp read)
  · exact absurd (Checked.within_ok.mp read) Checked.fail_not_ok

theorem with_default_ok {default : α} (held : P default) (each : ∀ v a, check v = .ok a → P a) :
    ∀ a, withDefault pairs names default check = .ok a → P a := by
  intro a read
  unfold withDefault at read
  split at read
  · exact each _ a (Checked.within_ok.mp read)
  · cases read
    exact held

theorem nullable_ok (each : ∀ v a, check v = .ok a → P a) (v : Value) :
    ∀ o, nullable check v = .ok o → ∀ a ∈ o, P a := by
  unfold nullable
  split
  · intro o read a held
    cases read
    cases held
  · rw [Checked.all_map]
    intro a read b same
    cases same
    exact each _ a read

theorem optional_ok (each : ∀ v a, check v = .ok a → P a) :
    ∀ o, Check.optional pairs names check = .ok o → ∀ a ∈ o, P a :=
  with_default_ok (P := fun o => ∀ a ∈ o, P a) (by simp) (nullable_ok each)

end Fields

@[simp] theorem record_ok {title : String} {v : Value} {pairs : List (Scalar × Value)} :
    record title v = .ok pairs ↔ v = .map pairs := by
  cases v <;> simp [record]

end Check

@[simp] theorem same_text (a b : String) : (Scalar.text a).same (.text b) = decide (a = b) := by
  change (Scalar.text a == Scalar.text b) = _
  by_cases same : a = b <;> simp [same]

theorem same_of_text {key other : Scalar} {name : String}
    (read : Check.text (.scalar other) = .ok name) (same : key.same other = true) : key = other := by
  cases other with
  | text s => cases key <;> simp_all [Scalar.same, Scalar.integer?]
  | bytes b => cases key <;> simp_all [Scalar.same, Scalar.integer?]
  | null | bool | int | float | date | moment => simp [Check.text] at read

theorem lookup_cons {α : Type} (k key : Scalar) (v : α) (rest : List (Scalar × α)) :
    lookup? ((k, v) :: rest) key = if k.same key then some v else lookup? rest key := by
  cases same : k.same key <;> simp [lookup?, same]

@[simp] theorem lookup_nil {α : Type} (key : Scalar) : lookup? ([] : List (Scalar × α)) key = none := rfl

@[simp] theorem lookup_text {α : Type} (name key : String) (v : α) (rest : List (Scalar × α)) :
    lookup? ((.text name, v) :: rest) (.text key) =
      if name = key then some v else lookup? rest (.text key) := by
  simp [lookup_cons]

theorem inserted_entry {α : Type} {entries : List (Scalar × α)} {key : Scalar} {value : α} {entry : Scalar × α}
    (member : entry ∈ insertEntry entries key value) :
    entry.2 = value ∨ ∃ old ∈ entries, entry.2 = old.2 := by
  induction entries with
  | nil => exact .inl (by cases List.mem_singleton.mp member; rfl)
  | cons first rest ih =>
      obtain ⟨k, v⟩ := first
      rw [insertEntry] at member
      split at member
      · obtain rfl | later := List.mem_cons.mp member
        · exact .inl rfl
        · exact .inr ⟨entry, List.mem_cons_of_mem _ later, rfl⟩
      · obtain rfl | later := List.mem_cons.mp member
        · exact .inr ⟨(k, v), by simp, rfl⟩
        · obtain now | ⟨old, held, same⟩ := ih later
          · exact .inl now
          · exact .inr ⟨old, List.mem_cons_of_mem _ held, same⟩

theorem checked_ok {α : Type} {title : String} {c : Check.Checked α} {a : α}
    (passed : (c.orReject title).mapError Fault.rejected = .ok a) : c = .ok a := by
  cases c with
  | ok b => cases passed; rfl
  | bad issues => cases passed

end ApiSchema
