import ApiSchema.Schema.References
import Mathlib.Data.List.Sigma
import Mathlib.Data.Prod.Basic

namespace ApiSchema

variable {α β γ : Type}

def Tells (told : List β) (holds : α → Prop) (say : α → β) : Prop :=
  ∃ all : List α, all.Nodup ∧ (∀ a, a ∈ all ↔ holds a) ∧ told = all.map say

section Tells

variable {told told' : List β} {holds holds' : α → Prop} {say : α → β}

theorem tells_nothing (never : ∀ a, ¬ holds a) : Tells [] holds say :=
  ⟨[], .nil, fun a => by simp [never a], rfl⟩

theorem tells_empty (tells : Tells told holds say) : told = [] ↔ ∀ a, ¬ holds a := by
  obtain ⟨all, -, members, rfl⟩ := tells
  rw [List.map_eq_nil_iff, List.eq_nil_iff_forall_not_mem]
  exact forall_congr' fun a => not_congr (members a)

theorem tells_one {b : β} (a : α) (said : b = say a) : Tells [b] (fun c => c = a) say :=
  ⟨[a], List.nodup_singleton a, fun _ => List.mem_singleton, by rw [said]; rfl⟩

theorem tells_append (one : Tells told holds say) (two : Tells told' holds' say)
    (apart : ∀ a, holds a → ¬ holds' a) :
    Tells (told ++ told') (fun a => holds a ∨ holds' a) say := by
  obtain ⟨all, nodup, members, rfl⟩ := one
  obtain ⟨all', nodup', members', rfl⟩ := two
  refine ⟨all ++ all', ?_, fun a => ?_, List.map_append.symm⟩
  · apply List.Nodup.append nodup nodup'
    intro a first second
    exact apart a ((members a).mp first) ((members' a).mp second)
  · rw [List.mem_append, members, members']

-- The same, said of other things that stand for the first ones.
theorem tells_of {say' : γ → β} {also : γ → Prop} (tells : Tells told holds say) (stand : α → γ)
    (same : ∀ a, holds a → say a = say' (stand a))
    (apart : ∀ a b, holds a → holds b → stand a = stand b → a = b)
    (onto : ∀ c, also c ↔ ∃ a, holds a ∧ stand a = c) : Tells told also say' := by
  obtain ⟨all, nodup, members, rfl⟩ := tells
  refine ⟨all.map stand, ?_, fun c => ?_, ?_⟩
  · apply List.Nodup.map_on _ nodup
    intro a first b second
    exact apart a b ((members a).mp first) ((members b).mp second)
  · simp only [List.mem_map, members, onto]
  · rw [List.map_map]
    exact List.map_congr_left fun a member => same a ((members a).mp member)

theorem tells_imp (tells : Tells told holds say) (same : ∀ a, holds' a ↔ holds a) :
    Tells told holds' say := by
  apply tells_of tells id (fun _ _ => rfl) (fun _ _ _ _ => id)
  intro a
  simp [same]

theorem tells_map (tells : Tells told holds say) (more : β → γ) :
    Tells (told.map more) holds (more ∘ say) := by
  obtain ⟨all, nodup, members, rfl⟩ := tells
  exact ⟨all, nodup, members, List.map_map⟩

theorem tells_filter (tells : Tells told holds say) (keep : β → Bool) :
    Tells (told.filter keep) (fun a => holds a ∧ keep (say a) = true) say := by
  obtain ⟨all, nodup, members, rfl⟩ := tells
  refine ⟨all.filter (keep ∘ say), nodup.filter _, fun a => ?_, List.filter_map⟩
  simp [members]

-- Of some things there is more to tell, of the others nothing.
theorem tells_some {pick : β → Option γ} (tells : Tells told holds say) (keep : β → Bool) (more : β → γ)
    (picks : ∀ b, pick b = if keep b then some (more b) else none) :
    Tells (told.filterMap pick) (fun a => holds a ∧ keep (say a) = true) (more ∘ say) := by
  have same : told.filterMap pick = (told.filter keep).map more := by
    rw [funext picks, ← List.filterMap_eq_map, List.filterMap_filter]
    rfl
  rw [same]
  exact tells_map (tells_filter tells keep) more

theorem tells_unless (tells : Tells told holds say) (drop : β → Bool) (more : β → γ) :
    Tells (told.filterMap fun b => if drop b then none else some (more b))
      (fun a => holds a ∧ drop (say a) = false) (more ∘ say) := by
  apply tells_imp (tells_some tells (fun b => !drop b) more fun b => ?_)
  · intro a
    rw [Bool.not_eq_true']
  · cases drop b <;> rfl

end Tells

section Numbered

variable {items : List α}

theorem numbered_at {entry : α × Nat} : entry ∈ numbered items ↔ items[entry.2]? = some entry.1 :=
  List.mem_zipIdx_iff_getElem?

theorem tells_numbered (items : List α) (say : α × Nat → β) :
    Tells ((numbered items).map say) (fun entry => items[entry.2]? = some entry.1) say :=
  ⟨numbered items, List.Nodup.of_map Prod.snd (List.nodup_zipIdx_map_snd items),
    fun _ => numbered_at, rfl⟩

-- What is told of each item, one after the other.
theorem tells_each {told : α × Nat → List β} {holds : α × Nat → γ → Prop} {say : α × Nat → γ → β}
    (each : ∀ entry, Tells (told entry) (holds entry) (say entry)) :
    Tells ((numbered items).flatMap told)
      (fun (c : (α × Nat) × γ) => items[c.1.2]? = some c.1.1 ∧ holds c.1 c.2) (fun c => say c.1 c.2) := by
  choose all nodup members same using each
  refine ⟨(numbered items).flatMap fun entry => (all entry).map (Prod.mk entry), ?_, fun (entry, c) => ?_, ?_⟩
  · have distinct : (numbered items).Nodup := List.Nodup.of_map Prod.snd (List.nodup_zipIdx_map_snd items)
    refine List.nodup_flatMap.mpr ⟨fun entry _ => (nodup entry).map (Prod.mk_right_injective entry), ?_⟩
    refine distinct.imp fun {one two} different => ?_
    intro pair first second
    obtain ⟨_, -, rfl⟩ := List.mem_map.mp first
    obtain ⟨_, -, other⟩ := List.mem_map.mp second
    exact different (congrArg Prod.fst other).symm
  · simp only [List.mem_flatMap, List.mem_map, Prod.mk.injEq]
    constructor
    · rintro ⟨_, listed, d, member, rfl, rfl⟩
      exact ⟨numbered_at.mp listed, (members _ d).mp member⟩
    · rintro ⟨listed, held⟩
      exact ⟨entry, numbered_at.mpr listed, c, (members entry c).mpr held, rfl, rfl⟩
  · rw [List.map_flatMap]
    apply List.flatMap_congr
    intro entry _
    rw [same entry, List.map_map]
    rfl

end Numbered

end ApiSchema
