import ApiSchema.Toml.Text
import ApiSchema.Value.Basic

namespace ApiSchema.Toml

abbrev Key := List String

abbrev Table := List (Scalar × Value)

inductive Closure where
  | frozen
  | declared
deriving DecidableEq

structure Mark where
  key : Key
  closure : Closure
  reachesBelow : Bool
deriving DecidableEq

def isMarked (marks : List Mark) (key : Key) (closure : Closure) : Bool :=
  !key.isEmpty && marks.any fun m =>
    m.closure = closure &&
      (m.key == key || (m.reachesBelow && m.key.length < key.length && m.key.isPrefixOf key))

def unmark (marks : List Mark) (key : Key) : List Mark := marks.filter fun m => !key.isPrefixOf m.key

/-- Changes the table that a key leads to. Tables on the way are made; in an array of tables the
last one is meant, where `throughArrays` allows it. -/
def changeAt (throughArrays : Bool) (change : Table → Step Table) : Key → Table → Step Table
  | [], t => change t
  | name :: rest, t =>
    match lookup? t (.text name) with
    | none => do return t ++ [(.text name, .map (← changeAt throughArrays change rest []))]
    | some (.map inner) => do
      return insertEntry t (.text name) (.map (← changeAt throughArrays change rest inner))
    | some (.list items) =>
      match throughArrays, items.getLast? with
      | true, some (.map inner) => do
        let changed ← changeAt throughArrays change rest inner
        return insertEntry t (.text name) (.list (items.dropLast ++ [.map changed]))
      | _, _ => malformed
    | some _ => malformed

def setNew (name : String) (v : Value) (t : Table) : Step Table :=
  if (lookup? t (.text name)).isSome then malformed else .ok (t ++ [(.text name, v)])

def appendTable (name : String) (t : Table) : Step Table :=
  match lookup? t (.text name) with
  | none => .ok (t ++ [(.text name, .list [.map []])])
  | some (.list items) => .ok (insertEntry t (.text name) (.list (items ++ [.map []])))
  | some _ => malformed

def isCollection : Value → Bool
  | .map _ | .list _ => true
  | _ => false

end ApiSchema.Toml
