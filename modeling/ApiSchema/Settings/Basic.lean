import ApiSchema.Check.Record
import ApiSchema.Target.Language

namespace ApiSchema

structure DocumentSettings where
  source : String
  provider : String := "openapi"
  providerName : Option String := none
  output : Option String := none
  includeDeprecated : Bool := false
  resolveExternalRefs : Bool := true
  strict : Bool := false
deriving DecidableEq

structure Settings where
  documents : List DocumentSettings
  targets : List Language := []
  indent : Int := 2
deriving DecidableEq

namespace Settings

open Check

def documentSettings : Check DocumentSettings := fun v =>
  (record "DocumentConfig" v).andThen fun r =>
    DocumentSettings.mk <$> required r ["source"] text <*>
      withDefault r ["provider"] "openapi" text <*> optional r ["provider_name"] text <*>
      optional r ["output"] text <*> withDefault r ["include_deprecated"] false flag <*>
      withDefault r ["resolve_external_refs"] true flag <*> withDefault r ["strict"] false flag

def language : Check Language := choice (Language.all.map fun l => (l.name, l))

def names : List String := ["documents", "targets", "indent"]

def noneOf : List (Scalar × Value) → Checked Unit
  | [] => .ok ()
  | (key, _) :: rest =>
    (fun _ _ => ()) <$> (Checked.fail (α := Unit) .extra).within (Step.ofKey key) <*> noneOf rest

def extras (entries : List (Scalar × Value)) : List (Scalar × Value) :=
  entries.filter fun (key, _) => !names.any fun name => key.isText name

def settings : Check Settings := fun v =>
  (record "ForgeConfig" v).andThen fun r =>
    (fun documents targets indent _ => { documents, targets, indent }) <$>
      required r ["documents"] (list documentSettings) <*>
      withDefault r ["targets"] [] (list language) <*> withDefault r ["indent"] 2 integer <*>
      noneOf (extras r)

end Settings

end ApiSchema
