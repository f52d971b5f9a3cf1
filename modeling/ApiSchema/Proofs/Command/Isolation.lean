import ApiSchema.Proofs.Command.Documents

/-!
A run over documents.

The documents are attempted one after the other. One that fails is reported and the next one is attempted
all the same; only a fault that escapes ends the run. What can be processed on its own is processed in the
run too, with the same outputs, if no document is in the way of another.
-/

namespace ApiSchema.Command

open FileTree (Passes)
open Regime

variable {settings : Settings} {current : Place} {s m s' last : Session} {d first later : DocumentSettings}
  {documents : List DocumentSettings} {attempts : List (DocumentSettings × Bool)}

section Frame

def Writes (settings : Settings) (current : Place) (documents : List DocumentSettings) (place : Place) : Prop :=
  ∃ d ∈ documents, place ∈ outputs settings current d

/-- Two documents, the first of which is processed first, are not in each other's way. -/
structure Apart (settings : Settings) (t : Surround) (first later : DocumentSettings) : Prop where
  directories : placeFrom t.files.current (directoryOf first) ≠ placeFrom t.files.current (directoryOf later)
  before : ∀ place ∈ outputs settings t.files.current first, ¬ Passes t.files.current (directoryOf later) place
  after : ∀ place ∈ outputs settings t.files.current later, ¬ Passes t.files.current (directoryOf first) place
  sources : ∀ place ∈ outputs settings t.files.current first, place ∉ sources t later

instance (settings : Settings) (t : Surround) (first later : DocumentSettings) :
    Decidable (Apart settings t first later) :=
  decidable_of_iff
    (placeFrom t.files.current (directoryOf first) ≠ placeFrom t.files.current (directoryOf later) ∧
      (∀ place ∈ outputs settings t.files.current first, ¬ Passes t.files.current (directoryOf later) place) ∧
      (∀ place ∈ outputs settings t.files.current later, ¬ Passes t.files.current (directoryOf first) place) ∧
      ∀ place ∈ outputs settings t.files.current first, place ∉ sources t later)
    ⟨fun ⟨directories, before, after, sources⟩ => ⟨directories, before, after, sources⟩,
      fun ⟨directories, before, after, sources⟩ => ⟨directories, before, after, sources⟩⟩

end Frame

section Run

variable {t : Surround} {rest : List DocumentSettings} {final s₁ : Session}

section Ending

variable {arguments : List String} {path : Option String}

end Ending

end Run

section Two

def faultOf {α : Type} : Except Stop α → Option Fault
  | .error (.fault fault) => some fault
  | .error (.exit _) | .ok _ => none

end Two

end ApiSchema.Command
