import ApiSchema.Text.Table

/-!
Paths of files, as text: a root and names.

Empty names and single points are left out, and a pair of points is kept, since where it leads
depends on what is there. Joining takes the second path alone when that is absolute.
-/

namespace ApiSchema

structure Path where
  /-- The slashes in front: none, one, or exactly two. -/
  root : String
  names : List String
deriving DecidableEq

namespace Path

def ofString (text : String) : Path :=
  let chars := text.toList
  let root := match (chars.takeWhile (· == '/')).length with
    | 0 => ""
    | 2 => "//"
    | _ => "/"
  let names := (Text.splitOn '/' chars).filter fun name => !name.isEmpty && name != ['.']
  ⟨root, names.map String.ofList⟩

def toString (p : Path) : String :=
  if p.root.isEmpty && p.names.isEmpty then "." else p.root ++ "/".intercalate p.names

def isAbsolute (p : Path) : Bool := !p.root.isEmpty

def join (base path : Path) : Path :=
  if path.isAbsolute then path else { base with names := base.names ++ path.names }

def parent (p : Path) : Path := { p with names := p.names.dropLast }

def child (p : Path) (name : String) : Path := { p with names := p.names ++ [name] }

def suffix (p : Path) : String :=
  let name := (p.names.getLast?.getD "").toList
  let back := name.reverse.takeWhile (· != '.')
  if back.isEmpty || name.length ≤ back.length + 1 then ""
  else String.ofList ('.' :: back.reverse)

/-- Whether the system takes a path: no name holds the character zero or a surrogate alone, save
those that stand for a byte. -/
def isSound (p : Path) : Bool :=
  p.names.all fun name => name.toList.all fun c =>
    c != '\x00' && (!Text.isSurrogate c || (0xdc80 ≤ Text.codeOf c && Text.codeOf c < 0xdd00))

end Path

end ApiSchema
