import ApiSchema.OpenApi.Types
import ApiSchema.Proofs.Check.Record
import ApiSchema.Proofs.Control.Keeps

namespace ApiSchema.Check

variable {α β : Type}

def Checked.Passes (c : Checked α) : Prop := ∃ a, c = .ok a

namespace Checked

@[simp] theorem map_passes {f : α → β} {c : Checked α} : (f <$> c).Passes ↔ c.Passes := by
  change (c.map f).Passes ↔ _
  cases c <;> simp [Passes, Checked.map]

@[simp] theorem seq_passes {f : Checked (α → β)} {c : Checked α} :
    (f <*> c).Passes ↔ f.Passes ∧ c.Passes := by
  change (f.seq fun _ => c).Passes ↔ _
  cases f <;> cases c <;> simp [Passes, Checked.seq]

@[simp] theorem within_passes {c : Checked α} {step : Step} : (c.within step).Passes ↔ c.Passes := by
  cases c <;> simp [Passes, Checked.within]

end Checked

theorem field_listed {fields : List (String × Value)} {names : List String} {name : String} {v : Value}
    (found : field? (fields.map fun (k, v) => (.text k, v)) names = some (name, v)) :
    name ∈ names ∧ (name, v) ∈ fields := by
  obtain ⟨other, listed, found⟩ := List.exists_of_findSome?_eq_some found
  obtain ⟨w, under, same⟩ := Option.map_eq_some_iff.mp found
  cases same
  refine ⟨listed, ?_⟩
  obtain ⟨entry, held, rfl⟩ := Option.map_eq_some_iff.mp under
  obtain ⟨⟨key, w⟩, member, rfl⟩ := List.mem_map.mp (List.mem_of_find?_eq_some held)
  have same : key = name := by simpa using List.find?_some held
  exact same ▸ member

theorem field_alone {names : List String} {name : String} (listed : name ∈ names) (v : Value) :
    field? [(.text name, v)] names = some (name, v) := by
  induction names with
  | nil => cases listed
  | cons first rest ih =>
      by_cases same : name = first
      · simp [field?, same]
      · have later : name ∈ rest := (List.mem_cons.mp listed).resolve_left same
        simpa [field?, same] using ih later

-- A field that is taken on its own is taken among others.
theorem optional_among {fields : List (String × Value)} {names : List String} {check : Check α}
    (alone : ∀ entry ∈ fields, (optional [(.text entry.1, entry.2)] names check).Passes) :
    (optional (fields.map fun (k, v) => (.text k, v)) names check).Passes := by
  unfold optional withDefault
  cases found : field? (fields.map fun (k, v) => (Scalar.text k, v)) names with
  | none => exact ⟨none, rfl⟩
  | some entry =>
      obtain ⟨name, v⟩ := entry
      obtain ⟨listed, member⟩ := field_listed found
      have taken := alone (name, v) member
      unfold optional withDefault at taken
      rwa [field_alone listed] at taken

end ApiSchema.Check

namespace ApiSchema.OpenApi

open Check

theorem sound_passes {field : String} {v : Value} :
    soundConstraint field v = true ↔ (constraints (.object [(field, v)])).Passes := by
  unfold soundConstraint
  cases constraints (.object [(field, v)]) <;> simp [Checked.Passes]

theorem sound_together {fields : List (String × Value)}
    (sound : ∀ entry ∈ fields, soundConstraint entry.1 entry.2 = true) :
    (constraints (.object fields)).Passes := by
  have alone := fun entry member => sound_passes.mp (sound entry member)
  simp only [constraints, Value.object, record, Checked.and_then_value, Checked.map_passes,
    Checked.seq_passes, List.map_cons, List.map_nil] at alone ⊢
  refine ⟨⟨⟨⟨⟨⟨⟨⟨⟨?_, ?_⟩, ?_⟩, ?_⟩, ?_⟩, ?_⟩, ?_⟩, ?_⟩, ?_⟩, ?_⟩
  all_goals
    refine optional_among fun entry member => ?_
    have taken := alone entry member
    tauto

section Keywords

variable (g : Graph) (entries : Entries)

def readable (words : List (String × String)) : List (String × Value) :=
  words.filterMap fun (keyword, field) =>
    let v := g.value (fieldOf entries keyword)
    if !v.isNull && soundConstraint field v then some (field, v) else none

variable {g entries}

theorem readable_cons (keyword field : String) (rest : List (String × String)) :
    readable g entries ((keyword, field) :: rest) =
      (let v := g.value (fieldOf entries keyword)
        if !v.isNull && soundConstraint field v then [(field, v)] else []) ++
          readable g entries rest := by
  simp only [readable, List.filterMap_cons]
  split
  next skipped =>
    rw [if_neg (fun taken => by simp [taken] at skipped)]
    rfl
  next entry found =>
    split at found
    next taken =>
      cases found
      rw [if_pos taken]
      rfl
    next => cases found

theorem readable_sound (g : Graph) (entries : Entries) (words : List (String × String)) :
    ∀ entry ∈ readable g entries words, soundConstraint entry.1 entry.2 = true := by
  intro entry member
  obtain ⟨⟨keyword, field⟩, -, read⟩ := List.mem_filterMap.mp member
  obtain ⟨taken, rfl⟩ : _ ∧ _ := by simpa using read
  exact taken.2

end Keywords

-- Sound keywords make up constraints.
theorem limits_made {fields : List (String × Value)}
    (sound : ∀ entry ∈ fields, soundConstraint entry.1 entry.2 = true) : ∃ limits, limitsOf fields = .ok limits := by
  obtain ⟨limits, passed⟩ := sound_together sound
  have made : checked "PrimitiveConstraints" constraints fields = .ok limits := by
    rw [checked, passed]
    rfl
  unfold limitsOf
  split
  · exact ⟨none, rfl⟩
  · exact ⟨some limits, congrArg (Except.map some) made⟩

end ApiSchema.OpenApi
