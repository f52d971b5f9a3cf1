import ApiSchema.Proofs.Schema.Closed
import ApiSchema.Proofs.Schema.Fields
import Mathlib.Data.List.Forall2

namespace ApiSchema

open Check Checked

section Distinct

variable {values start : List Value} {v w : Value} {name : String}

theorem value_same_text (read : Check.text w = .ok name) (same : v.same w = true) : v = w := by
  cases w with
  | scalar b =>
      cases v with
      | scalar a => exact congrArg Value.scalar (same_of_text read (by simpa [Value.same] using same))
      | _ => simp [Value.same] at same
  | _ => simp [Check.text] at read

theorem distinct_fold (values start : List Value) :
    (∀ w ∈ values.foldl addDistinct start, w ∈ start ∨ w ∈ values) ∧
    (∀ w ∈ start, w ∈ values.foldl addDistinct start) ∧
    ∀ v ∈ values, ∃ w ∈ values.foldl addDistinct start, w = v ∨ v.same w = true := by
  induction values generalizing start with
  | nil => exact ⟨fun _ => .inl, fun _ => id, nofun⟩
  | cons v rest ih =>
      obtain ⟨sound, kept, covered⟩ := ih (addDistinct start v)
      have one : ∀ w, w ∈ addDistinct start v → w ∈ start ∨ w = v := by
        intro w member
        unfold addDistinct at member
        split at member
        · exact .inl member
        · simpa using member
      have more : ∀ w ∈ start, w ∈ addDistinct start v := by
        intro w member
        unfold addDistinct
        split
        · exact member
        · exact List.mem_append_left _ member
      have now : ∃ w ∈ addDistinct start v, w = v ∨ v.same w = true := by
        unfold addDistinct
        split
        next known =>
          obtain ⟨w, member, same⟩ := List.any_eq_true.mp known
          exact ⟨w, member, .inr same⟩
        · exact ⟨v, by simp, .inl rfl⟩
      refine ⟨fun w member => ?_, fun w member => kept w (more w member), fun u member => ?_⟩
      · obtain before | later := sound w member
        · exact (one w before).imp_right fun same => by simp [same]
        · exact .inr (List.mem_cons_of_mem _ later)
      · obtain rfl | later := List.mem_cons.mp member
        · obtain ⟨w, held, same⟩ := now
          exact ⟨w, kept w held, same⟩
        · exact covered u later

-- Values that are read as texts are kept as they are.
theorem distinct_read (read : ∀ w ∈ values.foldl addDistinct start, ∃ name, Check.text w = .ok name) :
    v ∈ values.foldl addDistinct start ↔ v ∈ start ∨ v ∈ values := by
  obtain ⟨sound, kept, covered⟩ := distinct_fold values start
  refine ⟨sound v, fun either => either.elim (kept v) fun given => ?_⟩
  obtain ⟨w, member, rfl | same⟩ := covered v given
  · exact member
  · obtain ⟨name, text⟩ := read w member
    rwa [value_same_text text same]

theorem text_same (same : (Value.text name).same w = true) : w = .text name := by
  cases w with
  | scalar b => cases b <;> simp_all [Value.same, Scalar.same, Scalar.integer?]
  | _ => simp [Value.same] at same

-- A text is read from itself, or from bytes that spell it.
theorem text_origin (read : Check.text v = .ok name) :
    v = .text name ∨ ∃ b, v = .scalar (.bytes b) ∧ textOfBytes b = .ok name := by
  unfold Check.text at read
  split at read
  · cases read
    exact .inl rfl
  · exact .inr ⟨_, rfl, read⟩
  · cases read

theorem each_from_read {α : Type} {check : Check α} {values : List Value} {read : List α}
    (position : Nat) (passed : eachFrom check position values = .ok read) :
    List.Forall₂ (fun v a => check v = .ok a) values read := by
  induction values generalizing position read with
  | nil =>
      cases passed
      exact .nil
  | cons v rest ih =>
      revert read
      simp only [eachFrom, all_seq, all_map, within_ok]
      exact fun a one as others => .cons one (ih (position + 1) others)

theorem texts_read {names : List String}
    (texts : List.Forall₂ (fun v name => Check.text v = .ok name) values names) :
    (∀ v ∈ values, ∃ name, Check.text v = .ok name) ∧
      ∀ name, name ∈ names ↔ ∃ v ∈ values, Check.text v = .ok name := by
  induction texts with
  | nil => simp
  | @cons v first values names read rest ih =>
      refine ⟨List.forall_mem_cons.mpr ⟨⟨first, read⟩, ih.1⟩, fun name => ?_⟩
      rw [List.mem_cons, ih.2, List.exists_mem_cons_iff, read]
      simp [eq_comm]

end Distinct

namespace OpenApi

-- The names that an object takes from the values declared required: it reads every one of them.
theorem object_names {id name : String} {properties : List Property} {required : List Value}
    {additional : Option Additional} {discriminator : Option String} {g : Graph} {entries : Entries}
    {t : TypeDefinition} (clear : ∀ p ∈ properties, p.required = false)
    (made : objectOf (.text id) (.text name) properties required
      (([("additional_properties", optionalValue Additional.dump additional),
        ("discriminator", optionalValue .text discriminator)] ++ notes g entries).map
          fun (k, v) => (.text k, v)) = .ok t) :
    ∃ names further found, t.shape = .object
        (properties.map (·.markedBy (requiredValues properties required))) names further found ∧
      (∀ v ∈ required, ∃ name, Check.text v = .ok name) ∧
      ∀ name, name ∈ names ↔ ∃ v ∈ required, Check.text v = .ok name := by
  have unmarked : properties.filter (·.required) = [] :=
    List.filter_eq_nil_iff.mpr fun p member => by simp [clear p member]
  obtain ⟨_, _, names, found, shaped, texts⟩ := object_read made
  obtain ⟨each, taken⟩ := texts_read (each_from_read 0 texts)
  have kept : ∀ v, v ∈ requiredValues properties required ↔ v ∈ required := fun v => by
    rw [requiredValues, unmarked, List.map_nil, List.append_nil] at each ⊢
    simp [distinct_read each]
  refine ⟨names, additional, found, shaped, fun v given => each v ((kept v).mpr given), fun name => ?_⟩
  rw [taken]
  simp only [kept]

theorem required_values {properties : List Property} {required : List Value} {v : Value}
    (held : v ∈ requiredValues properties required) :
    v ∈ required ∨ ∃ p ∈ properties, v = .text p.name := by
  obtain impossible | given := (distinct_fold _ _).1 v held
  · cases impossible
  · obtain declared | marked := List.mem_append.mp given
    · exact .inl declared
    · obtain ⟨p, listed, rfl⟩ := List.mem_map.mp marked
      exact .inr ⟨p, (List.mem_filter.mp listed).1, rfl⟩

-- The flags are set by the values, the names are what is read from them.
theorem object_flags {properties : List Property} {required : List Value} {names : List String}
    {additional : Option Additional} {discriminator : Option String} {odd : String → Prop}
    (texts : tuple text (.list (requiredValues properties required)) = .ok names)
    (spelled : ∀ b name, .scalar (.bytes b) ∈ required → textOfBytes b = .ok name → odd name) :
    (Shape.object (properties.map (·.markedBy (requiredValues properties required))) names additional
      discriminator).FlagsAgreeSave odd := by
  obtain ⟨_, taken⟩ := texts_read (each_from_read 0 texts)
  intro p member
  obtain ⟨q, _, rfl⟩ := List.mem_map.mp member
  simp only [Property.markedBy, List.any_eq_true, taken]
  constructor
  · rintro ⟨v, held, same⟩
    exact ⟨v, held, (text_same same) ▸ rfl⟩
  · rintro ⟨v, held, read⟩
    obtain rfl | ⟨b, rfl, spells⟩ := text_origin read
    · exact .inl ⟨_, held, by simp [Value.same, Scalar.same, Scalar.integer?]⟩
    · obtain declared | ⟨_, _, impossible⟩ := required_values held
      · exact .inr (spelled b q.name declared spells)
      · cases impossible

end OpenApi

end ApiSchema
