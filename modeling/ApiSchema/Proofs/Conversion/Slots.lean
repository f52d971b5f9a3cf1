import ApiSchema.Conversion.Resolver
import ApiSchema.Proofs.Number.Digits

namespace ApiSchema

theorem slot_number (n : Nat) : slotNumber? (typeIdOf n) = some (n : Int) := by
  have spelled : (typeIdOf n).toList = "type_".toList ++ Nat.toDigits 10 n := by
    simp [typeIdOf]
  simp only [slotNumber?, spelled]
  rw [if_pos (by simp), List.drop_left]
  exact integer_of_digits n

theorem type_id_injective {m n : Nat} (same : typeIdOf m = typeIdOf n) : m = n := by
  have numbers := congrArg slotNumber? same
  rw [slot_number, slot_number] at numbers
  exact Int.ofNat.inj (Option.some.inj numbers)

theorem note_lookup {α : Type} [BEq α] [LawfulBEq α] (entries : List (α × String)) (key other : α)
    (id : String) : (noteFirst entries key id).lookup other =
      (entries.lookup other).or (if other == key then some id else none) := by
  unfold noteFirst
  split
  next noted =>
    by_cases same : other = key
    · subst same
      obtain ⟨old, found⟩ := Option.isSome_iff_exists.mp noted
      rw [found]
      rfl
    · simp [same]
  next fresh =>
    rw [List.lookup_append]
    congr 1
    simp only [List.lookup_cons, List.lookup_nil]
    split <;> simp_all

namespace Context

def Known (c : Context) (id : String) : Prop := ∃ n, n < c.typeCount ∧ id = typeIdOf n

theorem known_later {c c' : Context} (more : c.typeCount ≤ c'.typeCount) {id : String}
    (known : c.Known id) : c'.Known id := by
  obtain ⟨n, below, same⟩ := known
  exact ⟨n, Nat.lt_of_lt_of_le below more, same⟩

theorem slot_of_id (c : Context) {n : Nat} (below : n < c.typeCount) :
    c.slot (typeIdOf n) = .ok (n, c.slots[n]?.join) := by
  have position : slotPosition? c.typeCount n = some n := by
    have front : ¬ ((n : Int) < 0) := by omega
    have inside : (n : Int) < (c.typeCount : Int) := by omega
    simp [slotPosition?, front, inside]
  simp only [slot, slot_number, position]

theorem fill_cases {c c' : Context} {n : Nat} {t : TypeDefinition} (below : n < c.typeCount)
    (filled : c.fill (typeIdOf n) t = .ok c') :
    c.slots[n]? = some none ∧ t.id = typeIdOf n ∧
      c' = { c with slots := c.slots.set n (some t) } := by
  rw [fill, slot_of_id c below] at filled
  have there : c.slots[n]? = some c.slots[n] := List.getElem?_eq_getElem below
  rw [there, Option.join_some] at filled
  cases empty : c.slots[n] with
  | some old => rw [empty] at filled; cases filled
  | none =>
      rw [empty] at filled there
      by_cases same : t.id = typeIdOf n
      · simp only [same, if_true] at filled
        cases filled
        exact ⟨there, same, rfl⟩
      · simp only [same, if_false] at filled
        cases filled

theorem slot_free {c : Context} {id : String} {position : Nat} (read : c.slot id = .ok (position, none)) :
    c.slots[position]?.join = none := by
  unfold slot at read
  split at read
  · cases read
  · split at read
    · cases read
    · injection read with same
      injection same with here free
      rw [← here]
      exact free

theorem fill_place {c c' : Context} {id : String} {t : TypeDefinition} (filled : c.fill id t = .ok c') :
    ∃ position, c.slots[position]?.join = none ∧
      c' = { c with slots := c.slots.set position (some t) } := by
  unfold fill at filled
  split at filled
  · cases filled
  · cases filled
  next position read =>
    split at filled
    · cases filled
      exact ⟨position, slot_free read, rfl⟩
    · cases filled

theorem fill_empty {c : Context} {n : Nat} {t : TypeDefinition} (empty : c.slots[n]? = some none)
    (same : t.id = typeIdOf n) :
    c.fill (typeIdOf n) t = .ok { c with slots := c.slots.set n (some t) } := by
  have below : n < c.typeCount := (List.getElem?_eq_some_iff.mp empty).1
  rw [fill, slot_of_id c below, empty, Option.join_some]
  simp [same]

theorem full_slots {slots : List (Option TypeDefinition)} (full : ∀ s ∈ slots, s.isSome) :
    slots = (slots.filterMap id).map some := by
  induction slots with
  | nil => rfl
  | cons s rest ih =>
      obtain ⟨t, same⟩ := Option.isSome_iff_exists.mp (full s (by simp))
      subst same
      have tail := ih fun s member => full s (by simp [member])
      rw [List.filterMap_cons_some (f := id) (a := some t) rfl, List.map_cons, ← tail]

theorem pending_empty {c : Context} {n : Nat} (empty : c.slots[n]? = some none) :
    typeIdOf n ∈ c.pending :=
  List.mem_filterMap.mpr ⟨(none, n), List.mem_zipIdx_iff_getElem?.mpr empty, rfl⟩

theorem types_listed {c : Context} {ts : List TypeDefinition} (listed : c.types = .ok ts) :
    c.slots = ts.map some := by
  rw [types] at listed
  cases left : c.pending with
  | cons id more => rw [left] at listed; cases listed
  | nil =>
      rw [left] at listed
      cases listed
      refine full_slots fun s member => ?_
      obtain ⟨n, same⟩ := List.getElem?_of_mem member
      cases s with
      | some t => rfl
      | none =>
          have pended := pending_empty same
          rw [left] at pended
          cases pended

section Listed

variable {c : Context} {types : List TypeDefinition} (full : c.slots = types.map some)
include full

theorem listed_slot {k : Nat} {t : TypeDefinition} :
    types[k]? = some t ↔ c.slots[k]? = some (some t) := by
  rw [full, List.getElem?_map, Option.map_eq_some_iff]
  simp

theorem listed_ids (ids : ∀ (k : Nat) (t : TypeDefinition), c.slots[k]? = some (some t) →
    t.id = typeIdOf k) : types.map (·.id) = (List.range types.length).map typeIdOf := by
  refine List.ext_getElem (by simp) fun k below _ => ?_
  have inside : k < types.length := by simpa using below
  have slot := (listed_slot full).mp (List.getElem?_eq_getElem inside)
  simpa using ids k _ slot

theorem known_type {id : String} (known : c.Known id) :
    ∃ (k : Nat) (t : TypeDefinition), id = typeIdOf k ∧ t ∈ types ∧ c.slots[k]? = some (some t) := by
  obtain ⟨k, below, rfl⟩ := known
  have inside : k < types.length := by simpa [typeCount, full] using below
  have slot := (listed_slot full).mp (List.getElem?_eq_getElem inside)
  exact ⟨k, types[k], rfl, List.getElem_mem inside, slot⟩

end Listed

end Context

end ApiSchema
