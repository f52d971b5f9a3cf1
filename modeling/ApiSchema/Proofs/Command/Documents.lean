import ApiSchema.Proofs.Command.Outputs
import ApiSchema.Proofs.Frontend.RoundTrip
import ApiSchema.Proofs.Source.Rereading

namespace ApiSchema.Command

open FileTree (Passes)
open Regime

variable {current : Place} {written made : Place → Prop} {s s' s₁ m : Session} {α β : Type}

def Escapes (fault : Fault) : Prop := isReported fault = false

/-- Between sessions nothing is done but to print, to write at some places and to make directories. -/
structure Session.Touches (written made : Place → Prop) (s s' : Session) : Prop where
  files : s.surround.files.Touches written made s'.surround.files
  web : s'.surround.web = s.surround.web
  now : s'.now = s.now
  registry : s'.registry = s.registry

structure Session.Ready (current : Place) (s : Session) : Prop where
  sound : s.surround.files.Sound
  here : s.surround.files.current = current
  usual : s.registry = {}

section Printing

variable {start : Session}

end Printing

section Again

def textAt (sch : Schema) (indent : Int) (now : Moment) : Running String :=
  match (sch.stamped now).toJson (some indent.toNat) with
  | .ok text => return text ++ "\n"
  | .error fault => throw (.fault (.plain fault))

end Again

section Writing

variable {start : Session}

variable {x : OutputStep α} {rest : α → OutputStep β}

section Steps

variable {b : Except String β} {a : α}

def Session.filed (s : Session) (files : FileTree) : Session := { s with surround := { s.surround with files } }

end Steps

end Writing

def directoryOf (d : DocumentSettings) : Path := Path.ofString (d.output.getD "")

def catalogName (language : Language) : String := "types." ++ language.name ++ ".json"

def outputNames (settings : Settings) : List String :=
  "schema.json" :: settings.targets.map catalogName

def outputs (settings : Settings) (current : Place) (d : DocumentSettings) : List Place :=
  (outputNames settings).map fun name => placeFrom current ((directoryOf d).child name)

section Outputs

variable {settings : Settings} {directory : Path} {start : Session}

structure Clear (current : Place) (written made : Place → Prop) (directory : Path) (names : List String) :
    Prop where
  way : ∀ place, Passes current directory place → ¬ written place
  unwritten : ∀ name ∈ names, ¬ written (placeFrom current (directory.child name))
  unmade : ∀ name ∈ names, ¬ made (placeFrom current (directory.child name))

end Outputs

section Parsing

def sources (s : Surround) (d : DocumentSettings) : List Place :=
  let o : LoaderOptions :=
    { resolveExternalRefs := d.resolveExternalRefs, base := ⟨"/", s.files.current⟩ }
  let loader := ((loadDocument s o (.named d.source)).run.run {}).2
  (loader.documents.filter (!Address.isWeb ·.1)).map fun entry =>
    placeFrom s.files.current (Path.ofString entry.1)

variable {d : DocumentSettings} {settings : Settings}

theorem file_read {t : Surround} {o : LoaderOptions} {location label : String} {l l' : Loader} {item : Item}
    (came : Gives (Loading.readFile t o location label) l item l') :
    t.files.refuses (Path.ofString location) = none ∧
      ∃ bytes, t.files.read (Path.ofString location) = .ok bytes := by
  unfold Loading.readFile at came
  dsimp only at came
  cases admitted : t.files.refuses (Path.ofString location) with
  | some wording =>
      rw [admitted] at came
      obtain ⟨_, _, stopped, -⟩ := gives_bind.mp came
      exact absurd stopped gives_throw
  | none =>
      refine ⟨rfl, ?_⟩
      cases read : t.files.read (Path.ofString location) with
      | ok bytes => exact ⟨bytes, rfl⟩
      | error denial =>
          simp only [admitted, read] at came
          split at came
          · obtain ⟨_, _, stopped, -⟩ := gives_bind.mp came
            exact absurd stopped gives_throw
          · exact absurd came gives_throw

def adjusted (d : DocumentSettings) (options : FrontendOptions) : FrontendOptions :=
  { options with
    includeDeprecated := d.includeDeprecated
    resolveExternalRefs := d.resolveExternalRefs, strict := d.strict }

end Parsing

section One

variable {settings : Settings} {d : DocumentSettings} {start : Session}

/-- What a document needs to be processed without a word about it. -/
structure Quiet (d : DocumentSettings) (s : Session) (o : Outcome) (sch : Schema) : Prop where
  shown : Gives (showProgress d.source) s () s
  parsed : s.registry.parse s.surround (.named d.source) d.provider d.providerName (adjusted d) = .ok o
  well : o.success = true
  made : o.schema = some sch
  warnings : o.warnings = []
  errors : o.errors = []

end One

end ApiSchema.Command
