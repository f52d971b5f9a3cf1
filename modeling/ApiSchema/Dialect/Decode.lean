import ApiSchema.Dialect.Basic
import ApiSchema.Fault
import ApiSchema.Schema.Decode
import ApiSchema.Schema.Dump

namespace ApiSchema.Dialect

open Check

def openRecord {α : Type} (title : String) (v : Value)
    (fields : List (Scalar × Value) → Checked α) : Checked α :=
  (record title v).andThen fun r => (fun a _ => a) <$> fields r <*> textKeys r

def dialectValue : Check DialectValue := fun v =>
  openRecord "DialectEnumValue" v fun r =>
    DialectValue.mk <$> required r ["value"] literal <*> optional r ["description"] text

def sourceBy (definition : Check TypeSource) : Check TypeSource :=
  union [⟨"str", fitText, fun v => TypeSource.name <$> text v⟩,
    ⟨"DialectTypeDefinition", fun _ => .read, definition⟩]

def propertyBy (definition : Check TypeSource) : Check (Field × TypeSource) := fun v =>
  openRecord "DialectProperty" v fun r =>
    (fun name type description required =>
      (⟨name, description, required, declared r "default"⟩, type)) <$>
      required r ["name"] text <*> required r ["type"] (sourceBy definition) <*>
      optional r ["description"] text <*> optional r ["required"] flag

/-- A definition with at most `depth` others around each other in it. -/
def definitionWithin (depth : Nat) : Check TypeSource := fun v =>
  match depth, v with
  | 0, _ | _, .loop _ => .fail .recursion
  | depth + 1, v =>
    let inner := definitionWithin depth
    openRecord "DialectTypeDefinition" v fun r =>
      (fun name kind description properties required values items variants primitiveType deprecated =>
        .definition
          { number := 0, name, kind, description, required, values, primitiveType, deprecated
            hasProperties := properties.isSome, hasVariants := variants.isSome }
          (properties.getD []) items.toList (variants.getD [])) <$>
        required r ["name"] text <*> required r ["kind"] text <*>
        optional r ["description"] text <*>
        optional r ["properties"] (list (propertyBy inner)) <*>
        optional r ["required"] (list text) <*> optional r ["values"] (list dialectValue) <*>
        optional r ["items"] (sourceBy inner) <*>
        optional r ["variants"] (list (sourceBy inner)) <*>
        optional r ["primitiveType", "primitive_type"] text <*> optional r ["deprecated"] flag

def depthLimit : Nat := 255

def definition : Check TypeSource := definitionWithin depthLimit

def source : Check TypeSource := sourceBy definition

def parameterLocation : Check Location := fun v =>
  (constant ["query", "header", "path"] v).map fun name =>
    if name == "header" then .header else if name == "path" then .path else .query

def dialectParameter : Check DialectParameter := fun v =>
  openRecord "DialectParameter" v fun r =>
    (fun name location type required description enum =>
      { number := 0, name, location, type, required, description, enum
        default := declared r "default" }) <$>
      required r ["name"] text <*> required r ["in", "location"] parameterLocation <*>
      withDefault r ["type"] "string" text <*> optional r ["required"] flag <*>
      optional r ["description"] text <*> optional r ["enum"] (list literal)

def dialectBody : Check DialectBody := fun v =>
  openRecord "DialectRequestBody" v fun r =>
    DialectBody.mk <$>
      withDefault r ["contentType", "content_type"] "application/json" text <*>
      required r ["schema", "body_schema"] source <*> withDefault r ["required"] true flag <*>
      optional r ["description"] text

def dialectStatus : Check Status :=
  union [⟨"int", fitInteger, fun v => Status.code <$> integer v⟩,
    ⟨"literal['default']", fitText, fun v => Status.text <$> constant ["default"] v⟩]

def dialectResponse : Check DialectResponse := fun v =>
  openRecord "DialectResponse" v fun r =>
    DialectResponse.mk <$> required r ["statusCode", "status_code"] dialectStatus <*>
      optional r ["description"] text <*> optional r ["contentType", "content_type"] text <*>
      optional r ["schema", "body_schema"] source

def dialectEndpoint : Check DialectEndpoint := fun v =>
  openRecord "DialectEndpoint" v fun r =>
    DialectEndpoint.mk <$> required r ["id"] text <*> required r ["method"] text <*>
      required r ["path"] text <*> optional r ["summary"] text <*>
      optional r ["description"] text <*>
      withDefault r ["parameters"] [] (list dialectParameter) <*>
      optional r ["requestBody", "request_body"] dialectBody <*>
      withDefault r ["responses"] [] (list dialectResponse) <*>
      optional r ["streaming"] flag <*> optional r ["requiresAuth", "requires_auth"] flag <*>
      optional r ["deprecated"] flag <*> optional r ["tags"] (list text)

def dialectError : Check DialectError := fun v =>
  openRecord "DialectError" v fun r =>
    DialectError.mk <$> required r ["code"] text <*>
      required r ["statusCode", "status_code"] integer <*> required r ["description"] text <*>
      optional r ["type"] text <*> optional r ["retryable"] flag

def longVersion : String :=
  "Exceeds the limit (4300 digits) for integer string conversion; " ++
    "use sys.set_int_max_str_digits() to increase the limit"

/-- A version may be given as any value; its text is taken. -/
def version : Check String := fun v =>
  match v with
  | .scalar (.text s) => .ok s
  | other => if other.isShort then .ok other.display else .fail (.rule longVersion)

def document : Check DialectDocument := fun v =>
  openRecord "DialectDocument" v fun r =>
    DialectDocument.mk <$> required r ["version"] version <*>
      required r ["baseUrl", "base_url"] text <*> optional r ["description"] text <*>
      withDefault r ["models"] [] (list freeForm) <*>
      required r ["endpoints"] (list dialectEndpoint) <*>
      withDefault r ["types"] [] (list definition) <*>
      withDefault r ["errors"] [] (list dialectError)

def DialectDocument.ofValue (v : Value) : Except Rejection DialectDocument :=
  ((document v).orReject "DialectDocument").map DialectDocument.numbered

def given (v : Value) (name : String) : Bool := ((v.get? name).map Value.truthy).getD false

def documentErrors (v : Value) : Except Fault (List String) :=
  match v with
  | .map _ =>
    if !given v "version" then .ok ["Schema version is required"]
    else if !given v "baseUrl" && !given v "base_url" then .ok ["Base URL is required"]
    else if !given v "endpoints" then .ok ["At least one endpoint is required"]
    else
      match document v with
      | .ok _ => .ok []
      | .bad issues => .ok (issues.map Issue.line)
  | _ => .error (.misuse .part)

end ApiSchema.Dialect
