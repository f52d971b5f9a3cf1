import ApiSchema.Target.Language
import ApiSchema.Text.Table

namespace ApiSchema

structure ParseArguments where
  source : String
  provider : String
  name : Option String
  output : Option String
  noResolve : Bool
  strict : Bool

inductive Command where
  | parse (arguments : ParseArguments)
  | generate (settings : Option String)
  | types (source : String) (language : Language) (provider : String)
  | providers
  | version

namespace Command

structure OptionSpec where
  long : String
  letter : Option Char := none
  takesValue : Bool := true

structure Parsed where
  options : List (String × String) := []
  rest : List String := []

def Parsed.option (p : Parsed) (name : String) (value : String) : Parsed :=
  { p with options := (name, value) :: p.options }

/-- Letters behind one dash; the value of an option is what follows it there, or the next
argument. -/
def readLetters (specs : List OptionSpec) (p : Parsed) :
    List Char → List String → Option (Parsed × List String)
  | [], more => some (p, more)
  | c :: letters, more =>
    match specs.find? (·.letter == some c) with
    | none => none
    | some spec =>
      if !spec.takesValue then readLetters specs (p.option spec.long "") letters more
      else if !letters.isEmpty then some (p.option spec.long (String.ofList letters), more)
      else
        match more with
        | [] => none
        | value :: more => some (p.option spec.long value, more)

def readLong (specs : List OptionSpec) (p : Parsed) (text : List Char) (more : List String) :
    Option (Parsed × List String) :=
  let (name, value) := Text.cutAt '=' text
  let hasValue := text.contains '='
  match specs.find? (·.long == String.ofList name) with
  | none => none
  | some spec =>
    if !spec.takesValue then
      if hasValue then none else some (p.option spec.long "", more)
    else if hasValue then some (p.option spec.long (String.ofList value), more)
    else
      match more with
      | [] => none
      | value :: more => some (p.option spec.long value, more)

def readAll (specs : List OptionSpec) : Nat → Parsed → List String → Option Parsed
  | 0, p, _ => some p
  | _, p, [] => some p
  | fuel + 1, p, argument :: more =>
    match argument.toList with
    | ['-', '-'] => some { p with rest := p.rest ++ more }
    | '-' :: '-' :: text => do
      let (p, more) ← readLong specs p text more
      readAll specs fuel p more
    | '-' :: c :: letters => do
      let (p, more) ← readLetters specs p (c :: letters) more
      readAll specs fuel p more
    | _ => readAll specs fuel { p with rest := p.rest ++ [argument] } more

def read (specs : List OptionSpec) (arguments : List String) : Option Parsed :=
  readAll specs (arguments.length + 1) {} arguments

def Parsed.has (p : Parsed) (name : String) : Bool := (p.options.lookup name).isSome

def providerOption : OptionSpec := { long := "provider", letter := some 'p' }

def verboseFlag : OptionSpec := { long := "verbose", letter := some 'v', takesValue := false }

def parseOptions : List OptionSpec :=
  [providerOption, { long := "name", letter := some 'n' }, { long := "output", letter := some 'o' },
    { long := "no-resolve", takesValue := false }, { long := "strict", takesValue := false },
    verboseFlag]

def defaultProvider : String := "openapi"

def readParse (arguments : List String) : Option Command := do
  let p ← read parseOptions arguments
  match p.rest with
  | [source] =>
    return .parse {
      source, provider := (p.options.lookup "provider").getD defaultProvider
      name := p.options.lookup "name", output := p.options.lookup "output"
      noResolve := p.has "no-resolve", strict := p.has "strict" }
  | _ => none

def readGenerate (arguments : List String) : Option Command := do
  let p ← read [{ long := "config", letter := some 'c' }, verboseFlag] arguments
  if p.rest.isEmpty then return .generate (p.options.lookup "config") else none

def readTypes (arguments : List String) : Option Command := do
  let p ← read [{ long := "language", letter := some 'l' }, providerOption] arguments
  let language ← match p.options.lookup "language" with
    | some name => Language.ofName? name
    | none => some .typescript
  match p.rest with
  | [source] => return .types source language ((p.options.lookup "provider").getD defaultProvider)
  | _ => none

/-- The command that arguments ask for; nothing where they are misused. -/
def ofArguments (arguments : List String) : Option Command :=
  match arguments with
  | "parse" :: rest => readParse rest
  | "generate" :: rest => readGenerate rest
  | "types" :: rest => readTypes rest
  | "providers" :: rest => (read [] rest).bind fun p => if p.rest.isEmpty then some .providers else none
  | "version" :: rest => (read [] rest).bind fun p => if p.rest.isEmpty then some .version else none
  | _ => none

end Command

end ApiSchema
