import ApiSchema.Text.Table
import Mathlib.Data.List.Basic

namespace ApiSchema.Text

theorem split_none {mark : Char} {text : List Char} (absent : mark ∉ text) :
    splitOn mark text = [text] := by
  induction text with
  | nil => rfl
  | cons c rest ih =>
      have other : (c == mark) = false := by
        simpa using fun same : c = mark => absent (by simp [same])
      unfold splitOn
      rw [ih fun member => absent (by simp [member])]
      simp [other]

theorem split_some (mark : Char) (text : List Char) :
    ∃ first more, splitOn mark text = first :: more := by
  cases text with
  | nil => exact ⟨[], [], rfl⟩
  | cons c rest =>
      unfold splitOn
      split
      · split
        · exact ⟨_, _, rfl⟩
        · exact ⟨_, _, rfl⟩
      · exact ⟨_, _, rfl⟩

theorem split_front {mark : Char} {piece rest : List Char} (absent : mark ∉ piece) :
    splitOn mark (piece ++ mark :: rest) = piece :: splitOn mark rest := by
  induction piece with
  | nil =>
      obtain ⟨first, more, tail⟩ := split_some mark rest
      simp [splitOn, tail]
  | cons c piece ih =>
      have other : (c == mark) = false := by
        simpa using fun same : c = mark => absent (by simp [same])
      rw [List.cons_append, splitOn, ih fun member => absent (by simp [member])]
      simp [other]

theorem front_apart {mark : Char} {front other rest rest' : List Char} (free : mark ∉ front)
    (free' : mark ∉ other) (same : front ++ mark :: rest = other ++ mark :: rest') :
    front = other ∧ rest = rest' := by
  have pieces := congrArg (splitOn mark) same
  rw [split_front free, split_front free'] at pieces
  obtain ⟨rfl, -⟩ := List.cons.inj pieces
  exact ⟨rfl, (List.cons.inj (List.append_cancel_left same)).2⟩

theorem split_pieces {mark : Char} {text piece : List Char} (member : piece ∈ splitOn mark text) :
    mark ∉ piece := by
  induction text generalizing piece with
  | nil =>
      cases List.mem_singleton.mp member
      exact nofun
  | cons c rest ih =>
      obtain ⟨first, more, tail⟩ := split_some mark rest
      rw [tail] at ih
      simp only [splitOn, tail] at member
      by_cases same : c == mark
      · rw [if_pos same] at member
        obtain rfl | later := List.mem_cons.mp member
        · exact nofun
        · exact ih later
      · rw [if_neg same] at member
        obtain rfl | later := List.mem_cons.mp member
        · have apart : mark ≠ c := fun is => same (by simp [is])
          have front : mark ∉ first := ih (by simp)
          simpa [apart] using front
        · exact ih (List.mem_cons_of_mem _ later)

theorem split_joined {mark : Char} (first : List Char) (pieces : List (List Char))
    (absent : ∀ piece ∈ first :: pieces, mark ∉ piece) :
    splitOn mark (List.intercalate [mark] (first :: pieces)) = first :: pieces := by
  induction pieces generalizing first with
  | nil => simpa [List.intercalate] using split_none (absent first (by simp))
  | cons next rest ih =>
      have joined : List.intercalate [mark] (first :: next :: rest) =
          first ++ mark :: List.intercalate [mark] (next :: rest) := by
        simp [List.intercalate, List.intersperse]
      rw [joined, split_front (absent first (by simp)),
        ih next fun piece member => absent piece (List.mem_cons_of_mem _ member)]

theorem joined_split (mark : Char) (text : List Char) :
    List.intercalate [mark] (splitOn mark text) = text := by
  induction text with
  | nil => rfl
  | cons c rest ih =>
      obtain ⟨first, more, tail⟩ := split_some mark rest
      rw [tail] at ih
      simp only [splitOn, tail]
      by_cases same : c == mark
      · rw [if_pos same, List.intercalate_cons_cons, ih, beq_iff_eq.mp same]
        rfl
      · rw [if_neg same]
        cases more with
        | nil => simpa [List.intercalate] using ih
        | cons next more =>
            rw [List.intercalate_cons_cons] at ih ⊢
            simpa using ih

end ApiSchema.Text
