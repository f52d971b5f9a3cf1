import ApiSchema.Source.Files
import ApiSchema.Target.Catalog

namespace ApiSchema

abbrev Writing := ExceptT Fault (StateM FileTree)

namespace Writing

def sound (path : Path) : Writing Unit :=
  if path.isSound then return () else throw (.misuse .value)

def change (path : Path) (step : FileTree → Except FileFault FileTree) : Writing Unit := fun t =>
  match t.refuses path with
  | some wording => (.error (.file (.refused wording path.toString)), t)
  | none =>
    match step t with
    | .ok t => (.ok (), t)
    | .error fault => (.error (.file fault), t)

def makeDirectories (path : Path) : Writing Unit := do
  sound path
  change path (·.makeDirectories path)

/-- Writes a text. A file is opened first, so it is left empty if the text cannot be written. -/
def writeText (path : Path) (content : String) : Writing Unit := do
  sound path
  let bytes := if Text.isEncodable content then content.toUTF8 else .empty
  change path fun t => (t.write path bytes).mapError (·.at path.toString)
  if !Text.isEncodable content then throw (.misuse .encoding)

def outputFault (path : Path) : Fault → Fault
  | .file fault => .output path.toString (some (.file fault))
  | other => other

def writeFile (path : Path) (f : OutputFile) : Writing Unit := do
  makeDirectories path.parent
  writeText path f.content
  if f.executable then modify (·.makeExecutable path)

def writeFiles (directory : Path) : List OutputFile → Writing (List String)
  | [] => return []
  | f :: rest => do
    let path := directory.join (Path.ofString f.path)
    ExceptT.adapt (outputFault path) (writeFile path f)
    return path.toString :: (← writeFiles directory rest)

end Writing

end ApiSchema
