import ApiSchema.Main
import ApiSchema.Proofs.Source.Paths

namespace ApiSchema

namespace FileTree

open Command (placeFrom)

variable {t t' t'' : FileTree} {path : Path} {place start : Place} {n : Nat}

def next (place : Place) (name : String) : Place :=
  if name == ".." then place.dropLast else place ++ [name]

def reach (current : Place) (path : Path) (n : Nat) : Place :=
  placeFrom current ⟨path.root, path.names.take n⟩

def front (path : Path) (n : Nat) : Path := ⟨path.root, path.names.take n⟩

def Open (t : FileTree) (path : Path) (n : Nat) : Prop :=
  ∀ k < n, t.isDirectoryAt (reach t.current path k) = true

structure Sound (t : FileTree) : Prop where
  current : t.isDirectoryAt t.current = true
  apart : ∀ place, t.isDirectoryAt place = true → t.fileAt place = none
  parents : ∀ place, t.isDirectoryAt place = true → t.isDirectoryAt place.dropLast = true

/-- Files are written at some places at most, and directories made at others. -/
structure Touches (written made : Place → Prop) (t t' : FileTree) : Prop where
  current : t'.current = t.current
  refuses : t'.refuses = t.refuses
  files : ∀ place, ¬ written place → t'.fileAt place = t.fileAt place
  kept : ∀ place, t.isDirectoryAt place = true → t'.isDirectoryAt place = true
  directories : ∀ place, t'.isDirectoryAt place = true → t.isDirectoryAt place = true ∨ made place
  sound : t.Sound → t'.Sound

section Touches

variable {written made written' made' : Place → Prop}

end Touches

def Made (path : Path) (n : Nat) (t : FileTree) : Except (Denial × Path) FileTree → Prop
  | .ok t' => Touches (fun _ => False) (fun place => ∃ k ≤ n, place = reach t.current path k) t t' ∧
      t'.Open path (n + 1)
  | .error _ => ∃ k ≤ n, (t.fileAt (reach t.current path k)).isSome = true

def Passes (current : Place) (path : Path) (place : Place) : Prop :=
  ∃ k ≤ path.names.length, place = reach current path k

instance (current : Place) (path : Path) (place : Place) : Decidable (Passes current path place) :=
  inferInstanceAs (Decidable (∃ k ≤ path.names.length, place = reach current path k))

section Others

variable {written made : Place → Prop} {t₁ : FileTree}

end Others

end FileTree

end ApiSchema
