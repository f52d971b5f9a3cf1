import ApiSchema.Proofs.Number.Digits
import ApiSchema.Target.Names
import Mathlib.Data.List.Perm.Subperm
import Mathlib.Data.List.Nodup

namespace ApiSchema.Names

variable {names : Names} {id other base name wanted : String}

theorem taken_iff : names.isTaken name = true ↔ ∃ id, (id, name) ∈ names.given := by
  simp [isTaken, List.any_eq_true]

theorem numbered_injective {m n : Nat} (same : base ++ toString m = base ++ toString n) : m = n := by
  have digits : Nat.toDigits 10 m = Nat.toDigits 10 n := by
    have spelled := congrArg String.toList same
    simpa using spelled
  rw [← natural_of_digits m, digits, natural_of_digits]

-- The search stops at the first free number, or after `fuel` numbers that are all taken.
theorem numbered_least (names : Names) (base : String) (n fuel : Nat) :
    ∃ k, n ≤ k ∧ k ≤ n + fuel ∧ names.numbered base n fuel = base ++ toString k ∧
      (∀ j, n ≤ j → j < k → names.isTaken (base ++ toString j) = true) ∧
      (k < n + fuel → names.isTaken (base ++ toString k) = false) := by
  induction fuel generalizing n with
  | zero => exact ⟨n, by omega, by omega, rfl, fun j _ _ => by omega, fun _ => by omega⟩
  | succ fuel ih =>
      by_cases taken : names.isTaken (base ++ toString n) = true
      · obtain ⟨k, least, most, same, before, after⟩ := ih (n + 1)
        refine ⟨k, by omega, by omega, ?_, fun j from_ below => ?_, fun below => after (by omega)⟩
        · simp only [numbered, if_pos taken, same]
        · by_cases first : j = n
          · exact first ▸ taken
          · exact before j (by omega) below
      · refine ⟨n, by omega, by omega, ?_, fun j _ _ => by omega, fun _ => by simpa using taken⟩
        simp only [numbered, if_neg taken]

-- One more numbers than there are names cannot all be taken.
theorem number_free (names : Names) (base : String) (n : Nat) :
    ∃ j, n ≤ j ∧ j ≤ n + names.given.length ∧ names.isTaken (base ++ toString j) = false := by
  by_contra none
  have all : ∀ j, n ≤ j → j ≤ n + names.given.length →
      names.isTaken (base ++ toString j) = true := by
    intro j least most
    by_contra free
    exact none ⟨j, least, most, by simpa using free⟩
  have distinct : ((List.range' n (names.given.length + 1)).map fun j => base ++ toString j).Nodup :=
    List.Nodup.map (fun _ _ same => numbered_injective same) List.nodup_range'
  have inside : ((List.range' n (names.given.length + 1)).map fun j => base ++ toString j) ⊆
      names.given.map Prod.snd := by
    intro x member
    obtain ⟨j, within, rfl⟩ := List.mem_map.mp member
    obtain ⟨least, most⟩ := List.mem_range'_1.mp within
    obtain ⟨id, held⟩ := taken_iff.mp (all j least (by omega))
    exact List.mem_map.mpr ⟨(id, _), held, rfl⟩
  have short := (List.subperm_of_subset distinct inside).length_le
  simp only [List.length_map, List.length_range'] at short
  omega

/-- What the search for a free name finds: the base, or the base with the least free number. -/
def IsLeast (names : Names) (base name : String) : Prop :=
  names.isTaken name = false ∧
    (name = base ∨ names.isTaken base = true ∧ ∃ k, 2 ≤ k ∧ name = base ++ toString k ∧
      ∀ j, 2 ≤ j → j < k → names.isTaken (base ++ toString j) = true)

theorem free_is_least (names : Names) (base : String) : names.IsLeast base (names.free base) := by
  by_cases taken : names.isTaken base = true
  · obtain ⟨k, least, most, same, before, after⟩ := numbered_least names base 2 names.given.length
    have stopped : names.isTaken (base ++ toString k) = false := by
      by_cases last : k < 2 + names.given.length
      · exact after last
      · obtain ⟨j, least', most', free⟩ := number_free names base 2
        by_cases earlier : j < k
        · rw [before j least' earlier] at free
          cases free
        · have last' : j = k := by omega
          exact last' ▸ free
    simp only [free, if_pos taken, same]
    exact ⟨stopped, .inr ⟨taken, k, least, rfl, before⟩⟩
  · simp only [free, if_neg taken]
    exact ⟨by simpa using taken, .inl rfl⟩

theorem assign_known (known : names.name? id = some name) : names.assign id wanted = (name, names) := by
  rw [assign, known]

theorem assign_new (new : names.name? id = none) : names.assign id wanted =
    (names.free (names.unreserved wanted),
      { names with given := names.given ++ [(id, names.free (names.unreserved wanted))] }) := by
  rw [assign, new]

structure Within (names later : Names) : Prop where
  reserved : later.reserved = names.reserved
  given : names.given <+: later.given

theorem within_refl (names : Names) : names.Within names := ⟨rfl, List.prefix_rfl⟩

theorem within_trans {first second third : Names} (one : first.Within second)
    (two : second.Within third) : first.Within third :=
  ⟨two.reserved.trans one.reserved, one.given.trans two.given⟩

theorem within_name {later : Names} (grown : names.Within later) (known : names.name? id = some name) :
    later.name? id = some name := by
  obtain ⟨more, same⟩ := grown.given
  simp only [name?] at known ⊢
  rw [← same, List.lookup_append, known]
  rfl

theorem assign_within (names : Names) (id wanted : String) :
    names.Within (names.assign id wanted).2 := by
  cases known : names.name? id with
  | some name =>
      rw [assign_known known]
      exact within_refl names
  | none =>
      rw [assign_new known]
      exact ⟨rfl, List.prefix_append _ _⟩

theorem assign_name (names : Names) (id wanted : String) :
    (names.assign id wanted).2.name? id = some (names.assign id wanted).1 := by
  cases known : names.name? id with
  | some name =>
      rw [assign_known known]
      exact known
  | none =>
      rw [assign_new known]
      simp only [name?] at known ⊢
      rw [List.lookup_append, known]
      simp

structure Apart (names : Names) : Prop where
  ids : (names.given.map Prod.fst).Nodup
  names : (names.given.map Prod.snd).Nodup

theorem lookup_member {entries : List (String × String)} (found : entries.lookup id = some name) :
    (id, name) ∈ entries := by
  obtain ⟨front, back, same, _⟩ := List.lookup_eq_some_iff.mp found
  simp [same]

theorem apart_assign (apart : names.Apart) (id wanted : String) :
    (names.assign id wanted).2.Apart := by
  cases known : names.name? id with
  | some name =>
      rw [assign_known known]
      exact apart
  | none =>
      rw [assign_new known]
      have unlisted : id ∉ names.given.map Prod.fst := by
        intro listed
        obtain ⟨⟨_, name⟩, member, rfl⟩ := List.mem_map.mp listed
        have absent := List.lookup_eq_none_iff.mp known _ member
        simp at absent
      have fresh : names.free (names.unreserved wanted) ∉ names.given.map Prod.snd := by
        intro listed
        obtain ⟨⟨other, name⟩, member, same⟩ := List.mem_map.mp listed
        have taken := taken_iff.mpr ⟨other, member⟩
        have free := (free_is_least names (names.unreserved wanted)).1
        rw [← same, taken] at free
        cases free
      constructor
      · simpa [List.nodup_append, apart.ids] using fun a b member same => unlisted (by
          subst same
          exact List.mem_map.mpr ⟨_, member, rfl⟩)
      · simpa [List.nodup_append, apart.names] using fun a b member same => fresh (by
          subst same
          exact List.mem_map.mpr ⟨_, member, rfl⟩)

def Unreserved (names : Names) : Prop := ∀ entry ∈ names.given, entry.2 ∉ names.reserved

/-- No reserved name is another one with `Model` at its end, or a name that is free with a number. -/
structure Clear (reserved : List String) : Prop where
  model : ∀ r ∈ reserved, r ++ "Model" ∉ reserved
  number : ∀ base ∉ reserved, ∀ n, 2 ≤ n → base ++ toString (n : Nat) ∉ reserved

theorem clear_of_ends {reserved : List String} (model : ∀ r ∈ reserved, r ++ "Model" ∉ reserved)
    (ends : ∀ r ∈ reserved, r.toList.getLast?.any Char.isDigit = false) : Clear reserved := by
  refine ⟨model, fun base _ n _ listed => ?_⟩
  cases last : (Nat.toDigits 10 n).getLast? with
  | none => exact Nat.toDigits_ne_nil (List.getLast?_eq_none_iff.mp last)
  | some c =>
      have digit : c.isDigit := decimal_digit (List.mem_of_getLast? last)
      have plain := ends _ listed
      simp [List.getLast?_append, last, digit] at plain

theorem unreserved_listed (listed : wanted ∈ names.reserved) :
    names.unreserved wanted = wanted ++ "Model" :=
  if_pos (by simpa using listed)

theorem unreserved_free (free : wanted ∉ names.reserved) : names.unreserved wanted = wanted :=
  if_neg (by simpa using free)

theorem unreserved_clear (clear : Clear names.reserved) (wanted : String) :
    names.unreserved wanted ∉ names.reserved := by
  by_cases listed : wanted ∈ names.reserved
  · rw [unreserved_listed listed]
    exact clear.model wanted listed
  · rwa [unreserved_free listed]

theorem assign_unreserved (clear : Clear names.reserved) (free : names.Unreserved)
    (id wanted : String) : (names.assign id wanted).2.Unreserved := by
  cases known : names.name? id with
  | some name =>
      rw [assign_known known]
      exact free
  | none =>
      rw [assign_new known]
      intro entry member
      obtain member | new := List.mem_append.mp member
      · exact free entry member
      · rw [List.mem_singleton.mp new]
        obtain same | ⟨_, k, least, same, _⟩ := (free_is_least names (names.unreserved wanted)).2
        · rw [same]
          exact unreserved_clear clear wanted
        · rw [same]
          exact clear.number _ (unreserved_clear clear wanted) k least

theorem apart_names (apart : names.Apart) (one : names.name? id = some name)
    (two : names.name? other = some name) : id = other := by
  have same := List.inj_on_of_nodup_map apart.names (lookup_member one) (lookup_member two) rfl
  exact congrArg Prod.fst same

end ApiSchema.Names
