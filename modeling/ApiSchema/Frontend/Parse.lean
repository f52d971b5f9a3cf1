import ApiSchema.Frontend.Options
import ApiSchema.Source.Loader
import ApiSchema.Conversion.Context

namespace ApiSchema

structure Frontend where
  id : String
  name : String
  problems : Document → Except Fault (List String)
  convert : Document → FrontendOptions → Conversion Schema

structure Outcome where
  success : Bool
  schema : Option Schema
  errors : List String
  warnings : List String
  issues : List Fault

namespace Frontend

def defaultOptions (f : Frontend) : FrontendOptions :=
  { providerId := f.id, providerName := f.name }

def isValid (f : Frontend) (document : Document) : Except Fault Bool :=
  (f.problems document).map (·.isEmpty)

def run (f : Frontend) (options : FrontendOptions) (source : String)
    (loaded : Except Fault Document) : Conversion Schema := do
  let document ← ofExcept loaded
  let problems ← ofExcept (f.problems document)
  if !problems.isEmpty then throw (.invalid source problems)
  f.convert document options

def parseErrorLine (fault : Fault) : String := "Parse error: " ++ fault.message

def outcomeOf (options : FrontendOptions) (result : Except Fault Schema) (notes : Context) :
    Outcome :=
  let failed (errors : List String) (warnings : List String) (issues : List Fault) : Outcome :=
    { success := false, schema := none, errors, warnings, issues }
  match result with
  | .ok schema =>
    { success := notes.errors.isEmpty && !(options.strict && !notes.warnings.isEmpty)
      schema := some schema
      errors := notes.errors, warnings := notes.warnings, issues := notes.issues.map .node }
  | .error (.invalid source problems) =>
    failed problems notes.warnings [.invalid source problems]
  | .error (.load source cause) =>
    failed [Fault.message (.load source cause)] notes.warnings [.load source cause]
  | .error (.node issue) =>
    let notes := notes.record issue
    failed notes.errors notes.warnings (notes.issues.map .node)
  | .error fault =>
    failed (notes.errors ++ [parseErrorLine fault]) notes.warnings
      (notes.issues.map Fault.node ++ [fault])

/-- Checks and converts a loaded document; `source` is what messages call it. -/
def parseLoaded (f : Frontend) (options : FrontendOptions) (source : String)
    (loaded : Except Fault Document) : Outcome :=
  let (result, notes) := (f.run options source loaded).run.run {}
  outcomeOf options result notes

def loaderOptions (options : FrontendOptions) (base : Path) : LoaderOptions :=
  { resolveExternalRefs := options.resolveExternalRefs, base }

def parse (f : Frontend) (options : FrontendOptions) (s : Surround) (source : DocumentSource) :
    Outcome :=
  let base : Path := ⟨"/", s.files.current⟩
  let (loaded, _) := (loadDocument s (loaderOptions options base) source).run.run {}
  f.parseLoaded options source.describe loaded

end Frontend

end ApiSchema
