import ApiSchema.Check.Record
import ApiSchema.Fault
import ApiSchema.Schema.Decode
import ApiSchema.Text.Words

namespace ApiSchema.OpenApi

open Check

def unsupportedVersion : String := "Only OpenAPI 3.0.x and 3.1.x are supported"

def supportedVersion : Check String := fun v =>
  (text v).andThen fun s =>
    if "3.".toList.isPrefixOf s.toList then .ok s else .fail (.rule unsupportedVersion)

def info : Check Literal := fun v =>
  (record "_Info" v).andThen fun r =>
    (fun _ version => version) <$> optional r ["title"] text <*> required r ["version"] literal

def header : Check Unit := fun v =>
  (record "_DocumentHeader" v).andThen fun r =>
    (fun _ _ _ => ()) <$> required r ["openapi"] supportedVersion <*> required r ["info"] info <*>
      required r ["paths"] (Check.map anything)

/-- How many containers lie around each other in what the check of a header looks at: the document
and the entry about the API. -/
def headerDepth : Nat := 2

def headerErrors (document : Value) : Except Fault (List String) := do
  if ← document.holds "swagger" then return [unsupportedVersion]
  match header document with
  | .ok _ => return []
  | .bad issues => return issues.map Issue.line

end ApiSchema.OpenApi
