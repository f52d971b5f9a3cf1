/-!
Names for types, each given once.

A type keeps the name it was given first. A wanted name that the language reserves gets `Model`
at its end, and one that another type has gets a number.
-/

namespace ApiSchema

structure Names where
  reserved : List String := []
  given : List (String × String) := []

namespace Names

def name? (names : Names) (id : String) : Option String := names.given.lookup id

def contains (names : Names) (id : String) : Bool := (names.name? id).isSome

def isTaken (names : Names) (name : String) : Bool := names.given.any (·.2 == name)

def numbered (names : Names) (base : String) (n : Nat) : Nat → String
  | 0 => base ++ toString n
  | fuel + 1 =>
    let candidate := base ++ toString n
    if names.isTaken candidate then numbered names base (n + 1) fuel else candidate

def free (names : Names) (base : String) : String :=
  if names.isTaken base then names.numbered base 2 names.given.length else base

def unreserved (names : Names) (wanted : String) : String :=
  if names.reserved.contains wanted then wanted ++ "Model" else wanted

def assign (names : Names) (id wanted : String) : String × Names :=
  match names.name? id with
  | some name => (name, names)
  | none =>
    let name := names.free (names.unreserved wanted)
    (name, { names with given := names.given ++ [(id, name)] })

end Names

end ApiSchema
