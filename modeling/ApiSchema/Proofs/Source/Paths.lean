import ApiSchema.Proofs.Text.Splitting
import ApiSchema.Source.Files
import Mathlib.Data.List.Infix

namespace ApiSchema

namespace Path

structure Plain (p : Path) : Prop where
  root : p.root ∈ ["", "/", "//"]
  names : ∀ name ∈ p.names, '/' ∉ name.toList ∧ name ≠ "" ∧ name ≠ "."

theorem of_string_plain (text : String) : (ofString text).Plain := by
  refine ⟨?_, fun name member => ?_⟩
  · simp only [ofString]
    split <;> simp
  · simp only [ofString, List.mem_map, List.mem_filter] at member
    obtain ⟨piece, ⟨inside, kept⟩, rfl⟩ := member
    have apart := Text.split_pieces inside
    simp only [Bool.and_eq_true, Bool.not_eq_true', List.isEmpty_eq_false_iff, bne_iff_ne] at kept
    refine ⟨by simpa using apart, fun empty => kept.1 ?_, fun point => kept.2 ?_⟩
    · simpa using congrArg String.toList empty
    · simpa using congrArg String.toList point

theorem join_plain {p q : Path} (plain : p.Plain) (other : q.Plain) : (p.join q).Plain := by
  unfold join
  split
  · exact other
  · refine ⟨plain.root, fun name member => ?_⟩
    exact (List.mem_append.mp member).elim (plain.names name) (other.names name)

theorem parent_plain {p : Path} (plain : p.Plain) : p.parent.Plain :=
  ⟨plain.root, fun name member => plain.names name (List.dropLast_subset _ member)⟩

theorem toString_chars (p : Path) (some : ¬ (p.root.isEmpty && p.names.isEmpty) = true) :
    p.toString.toList = p.root.toList ++ List.intercalate ['/'] (p.names.map String.toList) := by
  unfold toString
  rw [if_neg some, String.toList_append, String.toList_intercalate]
  rfl

section Spelling

variable {names : List String} (plain : ∀ name ∈ names, '/' ∉ name.toList ∧ name ≠ "" ∧ name ≠ ".")
include plain

theorem spelled_front : (List.intercalate ['/'] (names.map String.toList)).takeWhile (· == '/') = [] := by
  cases names with
  | nil => rfl
  | cons name rest =>
      obtain ⟨apart, some, _⟩ := plain name (by simp)
      obtain ⟨c, more, spelled⟩ := List.exists_cons_of_ne_nil fun none => some (String.ext none)
      have other : (c == '/') = false := by
        simpa using fun same : c = '/' => apart (by simp [spelled, same])
      cases rest with
      | nil => simp [List.intercalate, spelled, other]
      | cons next rest => simp [List.intercalate, spelled, other]

theorem spelled_names :
    ((Text.splitOn '/' (List.intercalate ['/'] (names.map String.toList))).filter
      fun name => !name.isEmpty && name != ['.']).map String.ofList = names := by
  cases names with
  | nil => rfl
  | cons first rest =>
      have absent : ∀ piece ∈ first.toList :: rest.map String.toList, '/' ∉ piece := by
        intro piece member
        obtain ⟨name, inside, rfl⟩ := List.mem_map.mp (List.map_cons ▸ member)
        exact (plain name inside).1
      have kept : ∀ piece ∈ (first :: rest).map String.toList,
          (!piece.isEmpty && piece != ['.']) = true := by
        intro piece member
        obtain ⟨name, inside, rfl⟩ := List.mem_map.mp member
        obtain ⟨_, some, other⟩ := plain name inside
        have apart : name.toList ≠ ['.'] := fun same => other (String.ext same)
        simpa [apart] using some
      rw [List.map_cons, Text.split_joined _ _ absent, ← List.map_cons, List.filter_eq_self.mpr kept,
        List.map_map]
      simp

end Spelling

theorem of_string_to_string {p : Path} (plain : p.Plain) : ofString p.toString = p := by
  obtain ⟨root, names⟩ := p
  have roots := plain.root
  have inside := plain.names
  by_cases none : (root.isEmpty && names.isEmpty) = true
  · obtain ⟨noRoot, noNames⟩ := Bool.and_eq_true_iff.mp none
    cases List.isEmpty_iff.mp noNames
    cases String.isEmpty_iff.mp noRoot
    decide
  · have spelled := toString_chars ⟨root, names⟩ none
    have front := spelled_front inside
    have back := spelled_names inside
    simp only [List.mem_cons, List.not_mem_nil, or_false] at roots
    have slashed : ∀ text, Text.splitOn '/' ('/' :: text) = [] :: Text.splitOn '/' text := by
      intro text
      have first : Text.splitOn '/' ([] ++ '/' :: text) = [] :: Text.splitOn '/' text :=
        Text.split_front List.not_mem_nil
      exact first
    unfold ofString
    simp only [spelled]
    obtain rfl | rfl | rfl := roots
    · simp only [String.toList_empty, List.nil_append, front, back]
      rfl
    · have one : "/".toList = ['/'] := rfl
      simp only [one, List.cons_append, List.nil_append, List.takeWhile_cons, front, slashed]
      simpa using back
    · have two : "//".toList = ['/', '/'] := rfl
      simp only [two, List.cons_append, List.nil_append, List.takeWhile_cons, front, slashed]
      simpa using back

end Path

namespace FileTree

variable {t : FileTree} {start last : Place}

theorem walk_append {front back : List String} (walked : t.walk start (front ++ back) = .ok last) :
    ∃ middle, t.walk start front = .ok middle ∧ t.walk middle back = .ok last := by
  induction front generalizing start with
  | nil => exact ⟨start, rfl, walked⟩
  | cons name rest ih =>
      rw [List.cons_append, walk] at walked
      rw [walk]
      by_cases inside : t.isDirectoryAt start = true
      · by_cases up : (name == "..") = true
        · simp only [inside, up, if_true] at walked ⊢
          exact ih walked
        · simp only [inside, up, if_true, Bool.false_eq_true, if_false] at walked ⊢
          exact ih walked
      · simp only [inside, Bool.false_eq_true, if_false] at walked
        split at walked
        all_goals cases walked

theorem walk_down {names : List String} (down : ".." ∉ names) (walked : t.walk start names = .ok last) :
    last = start ++ names := by
  induction names generalizing start with
  | nil =>
      cases walked
      simp
  | cons name rest ih =>
      have other : (name == "..") = false := by
        simpa using fun same : name = ".." => down (by simp [same])
      rw [walk, other] at walked
      split at walked
      · simpa using ih (fun member => down (List.mem_cons_of_mem _ member)) walked
      · split at walked
        all_goals cases walked

theorem file_listed {place : Place} (file : (t.fileAt place).isSome) :
    ∃ held, (place, held) ∈ t.files := by
  obtain ⟨held, found⟩ := Option.isSome_iff_exists.mp file
  obtain ⟨before, after, split, _⟩ := List.lookup_eq_some_iff.mp found
  exact ⟨held, by simp [split]⟩

theorem read_place {p : Path} {bytes : ByteArray} (read : t.read p = .ok bytes) :
    ∃ place file, t.place p = .ok place ∧ t.fileAt place = some file ∧ file.content = bytes := by
  unfold FileTree.read at read
  cases there : t.place p with
  | error denial =>
      rw [there] at read
      cases read
  | ok place =>
      rw [there] at read
      change (if t.isDirectoryAt place then _ else _) = _ at read
      split at read
      · cases read
      · split at read
        next file held =>
          cases read
          exact ⟨place, file, rfl, held, rfl⟩
        · cases read

end FileTree

namespace Path

structure Spread (first p : Path) : Prop where
  root : p.root = first.root
  names : ∃ front back, front <+: first.names ∧ ".." ∉ back ∧ p.names = front ++ back

theorem spread_self (first : Path) : Spread first first :=
  ⟨rfl, first.names, [], List.prefix_refl _, by simp, by simp⟩

theorem spread_beside {first p q : Path} (spread : Spread first p) (relative : q.isAbsolute = false)
    (down : ".." ∉ q.names) : Spread first (p.parent.join q) := by
  obtain ⟨front, back, starts, below, names⟩ := spread.names
  have same : p.parent.join q = ⟨p.root, p.names.dropLast ++ q.names⟩ := by
    simp [Path.join, Path.parent, relative]
  rw [same, names]
  refine ⟨spread.root, ?_⟩
  by_cases empty : back = []
  · refine ⟨front.dropLast, q.names, (List.dropLast_prefix front).trans starts, down, ?_⟩
    rw [empty, List.append_nil]
  · refine ⟨front, back.dropLast ++ q.names, starts, fun member => ?_, ?_⟩
    · rcases List.mem_append.mp member with early | late
      · exact below (List.dropLast_subset _ early)
      · exact down late
    · rw [List.dropLast_append_of_ne_nil empty, List.append_assoc]

def spellings (t : FileTree) (first : Path) : List Path :=
  t.files.flatMap fun file => first.names.inits.flatMap fun front =>
    file.1.tails.map fun back => ⟨first.root, front ++ back⟩

theorem spread_spelled {t : FileTree} {first p : Path} {place : Place} (spread : Spread first p)
    (there : t.place p = .ok place) (file : (t.fileAt place).isSome) : p ∈ spellings t first := by
  obtain ⟨front, back, starts, down, names⟩ := spread.names
  rw [FileTree.place, names] at there
  obtain ⟨middle, _, below⟩ := FileTree.walk_append there
  have ends : place = middle ++ back := FileTree.walk_down down below
  have spelled : p = ⟨first.root, front ++ back⟩ := by rw [← names, ← spread.root]
  obtain ⟨held, listed⟩ := FileTree.file_listed file
  simp only [spellings, List.mem_flatMap, List.mem_map, List.mem_inits, List.mem_tails]
  exact ⟨(place, held), listed, front, starts, back, ⟨middle, ends.symm⟩, spelled.symm⟩

end Path

end ApiSchema
