import ApiSchema.Command.Run
import Std.Time.DateTime.Timestamp

namespace ApiSchema.Command

def placeOf (path : String) : Place := (Path.ofString path).names

def textOfPlace (place : Place) : String := "/" ++ "/".intercalate place

/-- Adds what is in a directory to a tree. Links are not followed. -/
partial def gather (t : FileTree) (place : Place) (entries : Array IO.FS.DirEntry) : IO FileTree := do
  let mut t := { t with directories := t.directories ++ [place] }
  for entry in entries do
    let below := place ++ [entry.fileName]
    match (← entry.path.symlinkMetadata).type with
    | .dir => t ← gather t below (← entry.path.readDir)
    | .file =>
      let content ← IO.FS.readBinFile entry.path
      t := { t with files := t.files ++ [(below, { content })] }
    | _ => pure ()
  return t

def takeDirectory (t : FileTree) (place : Place) : IO FileTree := do
  let around := (List.range place.length).map fun n => place.take n
  gather { t with directories := t.directories ++ around } place (← directoryEntries place)
where
  directoryEntries (place : Place) : IO (Array IO.FS.DirEntry) := do
    let path ← IO.FS.realPath (textOfPlace place)
    path.readDir

def placeFrom (directory : Place) (path : Path) : Place :=
  path.names.foldl (fun place name => if name == ".." then place.dropLast else place ++ [name])
    (if path.isAbsolute then [] else directory)

def takeIn (arguments : List String) : IO FileTree := do
  let current := placeOf (← IO.currentDir).toString
  let start ← takeDirectory { files := [], directories := [], current } current
  arguments.foldlM (fun t argument => do
    let place := placeFrom current (Path.ofString argument)
    let found : IO Bool := return (← (← IO.FS.realPath (textOfPlace place)).metadata).type == .file
    let isFile ← try found catch _ => pure false
    if isFile && (t.fileAt place).isNone then takeDirectory t place.dropLast else return t) start

def everyone : IO.FileRight :=
  let reader : IO.AccessRight := { read := true, execution := true }
  { user := { reader with write := true }, group := reader, other := reader }

def putBack (old new : FileTree) : IO Unit := do
  for place in new.directories do
    if !old.directories.contains place then IO.FS.createDirAll (textOfPlace place)
  for (place, file) in new.files do
    let isOld := (old.fileAt place).any fun f =>
      f.content.data == file.content.data && f.executable == file.executable
    if !isOld then
      IO.FS.writeBinFile (textOfPlace place) file.content
      if file.executable then IO.setAccessRights (textOfPlace place) everyone

def environment : IO Environment := do
  let names := Settings.names.map fun name => (Settings.variableStart ++ name).map Char.toUpper
  let found ← names.mapM fun name => do
    let value ← IO.getEnv name
    return value.map fun text => (name, text)
  return found.filterMap id

def currentMoment : IO Moment := do
  let nanos := (← Std.Time.Timestamp.now).toNanosecondsSinceUnixEpoch.val
  return .ofSeconds (nanos / 1000000000) (nanos / 1000 % 1000000).toNat (some 0)

end ApiSchema.Command

open ApiSchema Command in
def main (arguments : List String) : IO UInt32 := do
  let files ← takeIn arguments
  let s : Session := { surround := { files }, environment := ← environment, now := ← currentMoment }
  let ending := execute s arguments
  putBack files ending.files
  for line in ending.printed do IO.println line
  if let some fault := ending.fault then IO.eprintln fault.message
  return UInt32.ofNat ending.exitCode
