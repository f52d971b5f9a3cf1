import ApiSchema.Proofs.Target.Names
import ApiSchema.Proofs.Text.Spelling

namespace ApiSchema.Names

variable {names : Names} {requests : List (String × String)} {reserved : List String}
variable {id base name wanted : String}

def handed (names : Names) : List (String × String) → List String
  | [] => []
  | (id, wanted) :: requests =>
    (names.assign id wanted).1 :: handed (names.assign id wanted).2 requests

def served (names : Names) (requests : List (String × String)) : Names :=
  requests.foldl (fun known request => (known.assign request.1 request.2).2) names

theorem served_cons (names : Names) (id wanted : String) (requests : List (String × String)) :
    names.served ((id, wanted) :: requests) = (names.assign id wanted).2.served requests := rfl

-- What one request keeps, a run of them keeps.
theorem served_keeps {P : Names → Prop} (start : P names)
    (step : ∀ known id wanted, P known → P (known.assign id wanted).2) : P (names.served requests) :=
  List.foldlRecOn requests _ start fun known holds request _ => step known request.1 request.2 holds

theorem served_within (names : Names) (requests : List (String × String)) :
    names.Within (names.served requests) :=
  served_keeps (within_refl names) fun known id wanted grown =>
    within_trans grown (assign_within known id wanted)

theorem served_apart (apart : names.Apart) : (names.served requests).Apart :=
  served_keeps apart fun _ id wanted apart => apart_assign apart id wanted

theorem served_unreserved (clear : Clear names.reserved) (free : names.Unreserved) :
    (names.served requests).Unreserved := by
  have kept : (names.served requests).reserved = names.reserved ∧ (names.served requests).Unreserved :=
    served_keeps (P := fun known => known.reserved = names.reserved ∧ known.Unreserved) ⟨rfl, free⟩ (by
      intro known id wanted ⟨same, free⟩
      have unchanged := (assign_within known id wanted).reserved
      exact ⟨unchanged.trans same, assign_unreserved (same ▸ clear) free id wanted⟩)
  exact kept.2

theorem handed_known (names : Names) (requests : List (String × String)) :
    ∀ one ∈ requests.zip (names.handed requests),
      (names.served requests).name? one.1.1 = some one.2 := by
  induction requests generalizing names with
  | nil => exact fun _ member => absurd member (by simp)
  | cons request requests ih =>
      obtain ⟨id, wanted⟩ := request
      intro one member
      rw [served_cons]
      obtain rfl | later := List.mem_cons.mp member
      · exact within_name (served_within _ requests) (assign_name names id wanted)
      · exact ih _ one later

theorem handed_member (names : Names) (requests : List (String × String)) :
    ∀ name ∈ names.handed requests, ∃ id, (id, name) ∈ (names.served requests).given := by
  induction requests generalizing names with
  | nil => exact fun _ member => absurd member (by simp [handed])
  | cons request requests ih =>
      obtain ⟨id, wanted⟩ := request
      intro name member
      rw [served_cons]
      obtain rfl | later := List.mem_cons.mp member
      · have known := within_name (served_within _ requests) (assign_name names id wanted)
        exact ⟨id, lookup_member known⟩
      · exact ih _ name later

theorem given_member (new : (id, name) ∈ (names.served requests).given) :
    (id, name) ∈ names.given ∨ name ∈ names.handed requests := by
  induction requests generalizing names with
  | nil => exact .inl new
  | cons request requests ih =>
      obtain ⟨other, wanted⟩ := request
      rw [served_cons] at new
      obtain before | later := ih new
      · cases known : names.name? other with
        | some held =>
            rw [assign_known known] at before
            exact .inl before
        | none =>
            simp only [handed]
            rw [assign_new known] at before ⊢
            obtain old | new := List.mem_append.mp before
            · exact .inl old
            · cases List.mem_singleton.mp new
              exact .inr (List.mem_cons_self ..)
      · exact .inr (List.mem_cons_of_mem _ later)

theorem handed_once (apart : names.Apart) :
    ∀ one ∈ requests.zip (names.handed requests), ∀ two ∈ requests.zip (names.handed requests),
      one.1.1 = two.1.1 ↔ one.2 = two.2 := by
  intro one first two second
  have known := handed_known names requests one first
  have known' := handed_known names requests two second
  constructor
  · intro same
    rw [same] at known
    exact Option.some.inj (known.symm.trans known')
  · intro same
    rw [same] at known
    exact apart_names (served_apart apart) known known'

inductive Made (names : Names) (requests : List (String × String)) (name : String) : Prop
  | before (taken : names.isTaken name = true)
  | wanted (request : String × String) (asked : request ∈ requests)
      (same : name = names.unreserved request.2)
  | counted (base : String) (taken : (names.served requests).isTaken base = true) (n : Nat)
      (least : 2 ≤ n) (same : name = base ++ toString n)

theorem taken_within {later : Names} (grown : names.Within later) (taken : names.isTaken name = true) :
    later.isTaken name = true := by
  obtain ⟨id, held⟩ := taken_iff.mp taken
  exact taken_iff.mpr ⟨id, grown.given.subset held⟩

theorem assign_made (taken : (names.assign id wanted).2.isTaken name = true) :
    names.isTaken name = true ∨ name = names.unreserved wanted ∨
      ∃ n, names.isTaken (names.unreserved wanted) = true ∧ 2 ≤ n ∧
        name = names.unreserved wanted ++ toString n := by
  cases known : names.name? id with
  | some held =>
      rw [assign_known known] at taken
      exact .inl taken
  | none =>
      rw [assign_new known] at taken
      obtain ⟨other, member⟩ := taken_iff.mp taken
      obtain old | new := List.mem_append.mp member
      · exact .inl (taken_iff.mpr ⟨other, old⟩)
      · cases List.mem_singleton.mp new
        obtain same | ⟨busy, n, least, same, -⟩ := (free_is_least names (names.unreserved wanted)).2
        · exact .inr (.inl same)
        · exact .inr (.inr ⟨n, busy, least, same⟩)

theorem served_made (taken : (names.served requests).isTaken name = true) :
    names.Made requests name := by
  induction requests generalizing names with
  | nil => exact .before taken
  | cons request requests ih =>
      obtain ⟨id, wanted⟩ := request
      rw [served_cons] at taken
      have grown := assign_within names id wanted
      cases ih taken with
      | before earlier =>
          obtain old | same | ⟨n, busy, least, same⟩ := assign_made earlier
          · exact .before old
          · exact .wanted (id, wanted) (List.mem_cons_self ..) same
          · exact .counted _ (taken_within (served_within names _) busy) n least same
      | wanted request asked same =>
          refine .wanted request (List.mem_cons_of_mem _ asked) ?_
          rw [same, unreserved, unreserved, grown.reserved]
      | counted base busy n least same => exact .counted base busy n least same

def fresh (reserved : List String) : Names := { reserved }

theorem fresh_apart (reserved : List String) : (fresh reserved).Apart := ⟨List.nodup_nil, List.nodup_nil⟩

theorem handed_made (member : name ∈ (fresh reserved).handed requests) (listed : name ∈ reserved) :
    (∃ request ∈ requests, request.2 ∈ reserved ∧ name = request.2 ++ "Model") ∨
      ∃ base ∈ (fresh reserved).handed requests, ∃ n, 2 ≤ n ∧ name = base ++ toString n := by
  obtain ⟨id, held⟩ := handed_member _ _ name member
  cases served_made (taken_iff.mpr ⟨id, held⟩) with
  | before taken => exact absurd (taken_iff.mp taken) (by simp [fresh])
  | wanted request asked same =>
      by_cases kept : request.2 ∈ (fresh reserved).reserved
      · exact .inl ⟨request, asked, kept, same.trans (unreserved_listed kept)⟩
      · rw [unreserved_free kept] at same
        exact absurd (same ▸ listed) kept
  | counted base taken n least same =>
      obtain ⟨other, given⟩ := taken_iff.mp taken
      obtain before | handed := given_member given
      · cases before
      · exact .inr ⟨base, handed, n, least, same⟩

section Identifiers

theorem unreserved_identifier (formed : Text.IsIdentifier wanted.toList) :
    Text.IsIdentifier (names.unreserved wanted).toList := by
  unfold unreserved
  split
  · have letters : "Model".toList.all Text.isLetterOrDigit = true := by decide
    rw [String.toList_append]
    exact formed.append (List.all_eq_true.mp letters)
  · exact formed

-- A type that has no name yet is given an identifier if it asks for one, whatever is taken.
theorem assigned_identifier (new : names.name? id = none) (formed : Text.IsIdentifier wanted.toList) :
    Text.IsIdentifier (names.assign id wanted).1.toList := by
  have base : Text.IsIdentifier (names.unreserved wanted).toList := unreserved_identifier formed
  rw [assign_new new]
  obtain same | ⟨_, k, _, same, _⟩ := (free_is_least names (names.unreserved wanted)).2
  · rwa [same]
  · rw [same, String.toList_append]
    refine base.append fun c member => ?_
    have digit : c.isDigit = true := decimal_digit (by simpa using member)
    simp [Text.isLetterOrDigit, digit]

def Formed (names : Names) : Prop := ∀ entry ∈ names.given, Text.IsIdentifier entry.2.toList

theorem assign_formed (formed : names.Formed) (wished : Text.IsIdentifier wanted.toList) (id : String) :
    Text.IsIdentifier (names.assign id wanted).1.toList ∧ (names.assign id wanted).2.Formed := by
  cases known : names.name? id with
  | some name =>
      rw [assign_known known]
      exact ⟨formed _ (lookup_member known), formed⟩
  | none =>
      have given := assigned_identifier known wished
      refine ⟨given, fun entry member => ?_⟩
      rw [assign_new known] at given member
      obtain old | new := List.mem_append.mp member
      · exact formed entry old
      · exact List.mem_singleton.mp new ▸ given

theorem handed_identifiers (formed : names.Formed)
    (each : ∀ request ∈ requests, Text.IsIdentifier request.2.toList) :
    ∀ name ∈ names.handed requests, Text.IsIdentifier name.toList := by
  induction requests generalizing names with
  | nil => exact fun _ member => by cases member
  | cons request requests ih =>
      obtain ⟨id, wanted⟩ := request
      obtain ⟨given, onward⟩ := assign_formed formed (each (id, wanted) (by simp)) id
      intro name member
      obtain rfl | later := List.mem_cons.mp member
      · exact given
      · exact ih onward (fun request asked => each request (by simp [asked])) name later

theorem fresh_formed (reserved : List String) : (fresh reserved).Formed :=
  fun _ none => absurd none List.not_mem_nil

end Identifiers

def copy (base : String) (i : Nat) : String := if i = 0 then base else base ++ toString (i + 1)

theorem number_longer (base : String) (n : Nat) : base ++ toString n ≠ base := by
  intro same
  have spelled := congrArg String.toList same
  simp at spelled

theorem copy_of_number {n : Nat} (least : 2 ≤ n) : copy base (n - 1) = base ++ toString n := by
  rw [copy, if_neg (by omega), Nat.sub_add_cancel (by omega)]

def copies (reserved : List String) (base : String) (n : Nat) : Names where
  reserved := reserved
  given := (List.range n).map fun i => (toString i, copy base i)

theorem copies_taken {n : Nat} :
    (copies reserved base n).isTaken name = true ↔ ∃ i < n, copy base i = name := by
  rw [taken_iff]
  simp [copies]

theorem copies_free (reserved : List String) (base : String) (n : Nat) :
    (copies reserved base n).free base = copy base n := by
  obtain ⟨free, same | ⟨busy, k, least, same, before⟩⟩ := free_is_least (copies reserved base n) base
  · rw [same] at free ⊢
    have first : n = 0 := by
      by_contra some
      have taken : (copies reserved base n).isTaken base = true := copies_taken.mpr ⟨0, by omega, rfl⟩
      rw [free] at taken
      cases taken
    rw [first, copy, if_pos rfl]
  · rw [same] at free ⊢
    obtain ⟨i, below, -⟩ := copies_taken.mp busy
    have beyond : n ≤ k - 1 := by
      by_contra within
      have taken : (copies reserved base n).isTaken (base ++ toString k) = true :=
        copies_taken.mpr ⟨k - 1, by omega, copy_of_number least⟩
      rw [free] at taken
      cases taken
    -- A number after the next one is not the least, since the next one is free.
    have next : ¬ n + 1 < k := by
      intro later
      obtain ⟨j, earlier, same⟩ := copies_taken.mp (before (n + 1) (by omega) later)
      rw [copy] at same
      split at same
      · exact number_longer base (n + 1) same.symm
      · have number := numbered_injective same
        omega
    rw [copy, if_neg (by omega), show n + 1 = k by omega]

theorem copies_next (free : base ∉ reserved) (n : Nat) :
    (copies reserved base n).assign (toString n) base =
      (copy base n, copies reserved base (n + 1)) := by
  have wanted : (copies reserved base n).unreserved base = base := unreserved_free free
  have unknown : (copies reserved base n).name? (toString n) = none := by
    refine List.lookup_eq_none_iff.mpr fun entry member => ?_
    obtain ⟨i, below, rfl⟩ := List.mem_map.mp member
    have apart : toString n ≠ toString i := fun same => by
      have equal := numbered_injective (show "" ++ toString n = "" ++ toString i by rw [same])
      have under := List.mem_range.mp below
      omega
    simpa using apart
  rw [assign_new unknown, wanted, copies_free]
  simp [copies, List.range_succ]

theorem copies_handed (free : base ∉ reserved) (n more : Nat) :
    (copies reserved base n).handed ((List.range' n more).map fun i => (toString i, base)) =
      (List.range' n more).map (copy base) := by
  induction more generalizing n with
  | zero => rfl
  | succ more ih =>
      simp only [List.range'_succ, List.map_cons, handed, copies_next free, ih]

theorem clear_of_handed
    (clean : ∀ requests, ∀ name ∈ (fresh reserved).handed requests, name ∉ reserved) :
    Clear reserved where
  model r listed := by
    have only : (fresh reserved).handed [("", r)] = [r ++ "Model"] := by
      have wanted : (fresh reserved).unreserved r = r ++ "Model" := unreserved_listed listed
      simp only [handed, assign_new (show (fresh reserved).name? "" = none from rfl), wanted]
      rfl
    exact clean [("", r)] _ (only ▸ List.mem_singleton_self _)
  number base free n least := by
    have all := copies_handed free 0 n
    refine clean _ _ (all ▸ List.mem_map.mpr ⟨n - 1, ?_, copy_of_number least⟩)
    exact List.mem_range'_1.mpr ⟨by omega, by omega⟩

/-- A type gets one name and shares it with no other. A reserved name is given out only as what `Model`
or a number makes of another, and never exactly if those make no reserved name. -/
theorem requests_unreserved_iff (reserved : List String) :
    (∀ requests : List (String × String), ∀ one ∈ requests.zip ((fresh reserved).handed requests),
      ∀ two ∈ requests.zip ((fresh reserved).handed requests), one.1.1 = two.1.1 ↔ one.2 = two.2) ∧
    (∀ requests, ∀ name ∈ (fresh reserved).handed requests, name ∈ reserved →
      (∃ request ∈ requests, request.2 ∈ reserved ∧ name = request.2 ++ "Model") ∨
      ∃ base ∈ (fresh reserved).handed requests, ∃ n, 2 ≤ n ∧ name = base ++ toString n) ∧
    ((∀ requests, ∀ name ∈ (fresh reserved).handed requests, name ∉ reserved) ↔ Clear reserved) := by
  refine ⟨fun _ => handed_once (fresh_apart reserved), fun _ _ => handed_made, clear_of_handed, ?_⟩
  intro clear requests name member
  obtain ⟨id, held⟩ := handed_member _ _ name member
  have free : (fresh reserved).Unreserved := fun _ none => absurd none List.not_mem_nil
  have kept : ((fresh reserved).served requests).reserved = reserved := (served_within _ _).reserved
  exact kept ▸ served_unreserved clear free _ held

theorem string_never_handed :
    (fresh ["String"]).handed [("t1", "String"), ("t2", "StringModel"), ("t1", "Other")] =
      ["StringModel", "StringModel2", "StringModel"] ∧
    ∀ requests, "String" ∉ (fresh ["String"]).handed requests := by
  refine ⟨by decide, fun requests member => ?_⟩
  have clear : Clear ["String"] := clear_of_ends (by decide) (by decide)
  exact (requests_unreserved_iff ["String"]).2.2.mpr clear requests _ member (List.mem_singleton_self _)

/-- A registry gives out a name that it was told to keep free. -/
theorem reserved_handed :
    ¬ ∀ (reserved : List String) (requests : List (String × String)),
      ∀ name ∈ (fresh reserved).handed requests, name ∉ reserved := by
  intro never
  exact never ["A", "AModel"] [("t", "A")] "AModel" (by decide) (by decide)

end ApiSchema.Names
