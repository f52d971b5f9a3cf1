import ApiSchema.Fault
import ApiSchema.Source.Path

/-!
A tree of files and directories.

A place is the list of names from the top. A path is followed name by name, so a name below a
file, or a step up from a directory that is not there, leads nowhere.
-/

namespace ApiSchema

abbrev Place := List String

structure File where
  content : ByteArray
  executable : Bool := false

structure FileTree where
  files : List (Place × File)
  directories : List Place
  current : Place
  refuses : Path → Option String := fun _ => none

namespace FileTree

def fileAt (t : FileTree) (place : Place) : Option File := t.files.lookup place

def isDirectoryAt (t : FileTree) (place : Place) : Bool :=
  place.isEmpty || t.directories.contains place

def walk (t : FileTree) (place : Place) : List String → Except Denial Place
  | [] => .ok place
  | name :: rest =>
    if t.isDirectoryAt place then
      if name == ".." then t.walk place.dropLast rest else t.walk (place ++ [name]) rest
    else if (t.fileAt place).isSome then .error .notDirectory
    else .error .absent

/-- The place that a path names. Nothing need be there, but the directory around it is. -/
def place (t : FileTree) (path : Path) : Except Denial Place :=
  t.walk (if path.isAbsolute then [] else t.current) path.names

def isDirectory (t : FileTree) (path : Path) : Bool :=
  match t.place path with
  | .ok place => t.isDirectoryAt place
  | .error _ => false

def exists? (t : FileTree) (path : Path) : Bool :=
  match t.place path with
  | .ok place => t.isDirectoryAt place || (t.fileAt place).isSome
  | .error _ => false

def read (t : FileTree) (path : Path) : Except Denial ByteArray := do
  let place ← t.place path
  if t.isDirectoryAt place then .error .isDirectory
  else match t.fileAt place with
    | some file => .ok file.content
    | none => .error .absent

def setFile (t : FileTree) (place : Place) (file : File) : FileTree :=
  { t with files := t.files.filter (·.1 != place) ++ [(place, file)] }

def write (t : FileTree) (path : Path) (content : ByteArray) : Except Denial FileTree := do
  let place ← t.place path
  if t.isDirectoryAt place then .error .isDirectory
  else
    let old := t.fileAt place
    if old.isNone && !t.isDirectoryAt place.dropLast then .error .absent
    else .ok (t.setFile place ⟨content, (old.map (·.executable)).getD false⟩)

def makeExecutable (t : FileTree) (path : Path) : FileTree :=
  match t.place path with
  | .ok place =>
    match t.fileAt place with
    | some file => t.setFile place { file with executable := true }
    | none => t
  | .error _ => t

def makeDirectory (t : FileTree) (path : Path) : Except Denial FileTree := do
  let place ← t.place path
  if t.isDirectoryAt place || (t.fileAt place).isSome then .error .exists
  else if !t.isDirectoryAt place.dropLast then
    .error (if (t.fileAt place.dropLast).isSome then .notDirectory else .absent)
  else .ok { t with directories := t.directories ++ [place] }

/-- Makes a directory and those around it. One that is there already is left as it is; a file in
its place is refused. -/
def makeDirectories (t : FileTree) (path : Path) : Except FileFault FileTree :=
  match path with
  | ⟨root, names⟩ => (go t root names names.length).mapError fun (denial, path) =>
      denial.at path.toString
where
  settle (t : FileTree) (path : Path) (denial : Denial) : Except (Denial × Path) FileTree :=
    if t.isDirectory path then .ok t else .error (denial, path)
  go (t : FileTree) (root : String) (names : List String) : Nat → Except (Denial × Path) FileTree
    | 0 =>
      match t.makeDirectory ⟨root, []⟩ with
      | .ok t => .ok t
      | .error denial => settle t ⟨root, []⟩ denial
    | count + 1 =>
      let path : Path := ⟨root, names.take (count + 1)⟩
      match t.makeDirectory path with
      | .ok t => .ok t
      | .error .absent => do
        let t ← go t root names count
        match t.makeDirectory path with
        | .ok t => .ok t
        | .error denial => settle t path denial
      | .error denial => settle t path denial

end FileTree

def unifyBreaks : List Char → List Char
  | '\r' :: '\n' :: rest => '\n' :: unifyBreaks rest
  | '\r' :: rest => '\n' :: unifyBreaks rest
  | c :: rest => c :: unifyBreaks rest
  | [] => []

def textOf (bytes : ByteArray) : Except Fault String :=
  match String.fromUTF8? bytes with
  | some text => .ok (String.ofList (unifyBreaks text.toList))
  | none => .error (.misuse .encoding)

end ApiSchema
