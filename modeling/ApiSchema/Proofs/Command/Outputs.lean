import ApiSchema.Proofs.Control.Keeps
import ApiSchema.Proofs.Output.Directories

namespace ApiSchema

open FileTree (Touches Passes)
open Command (placeFrom)

namespace FileTree

end FileTree

namespace Writing

open FileTree Regime

variable {α : Type} {current : Place} {written made : Place → Prop} {start t t' : FileTree} {path : Path}
  {step : FileTree → Except FileFault FileTree}

def Taken (t : FileTree) (path : Path) : Prop := path.isSound = true ∧ t.refuses path = none

section Again

variable {t₁ : FileTree} {u : Unit}

end Again

variable {directory : Path} {name : String} {f : OutputFile}

end Writing

end ApiSchema
