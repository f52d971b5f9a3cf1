import ApiSchema.Check.Moment
import ApiSchema.Check.Record
import ApiSchema.Schema.Basic

namespace ApiSchema

open Check

def literal : Check Literal :=
  union [⟨"str", fitText, fun v => Literal.text <$> text v⟩,
    ⟨"int", fitInteger, fun v => Literal.int <$> integer v⟩,
    ⟨"float", fitNumber, fun v => Literal.float <$> number v⟩]

def bound : Check Bound :=
  union [⟨"bool", fitFlag, fun v => Bound.flag <$> flag v⟩,
    ⟨"float", fitNumber, fun v => Bound.number <$> number v⟩]

def status : Check Status :=
  union [⟨"int", fitInteger, fun v => Status.code <$> integer v⟩,
    ⟨"str", fitText, fun v => Status.text <$> text v⟩]

def named {α : Type} (all : List α) (name : α → String) : List (String × α) :=
  all.map fun a => (name a, a)

def primitiveKind : Check PrimitiveKind := choice (named PrimitiveKind.all PrimitiveKind.name)

def method : Check Method := choice (named Method.all Method.name)

def location : Check Location := choice (named Location.all Location.name)

def flowKind : Check FlowKind := choice (named FlowKind.all FlowKind.name)

def keyLocation : Check Location := fun v =>
  (constant ["header", "query", "cookie"] v).map fun name =>
    if name == "header" then .header else if name == "query" then .query else .cookie

def enumKind : Check EnumKind := fun v =>
  (constant ["string", "number"] v).map fun name => if name == "number" then .number else .string

def typeRef : Check TypeRef := fun v =>
  (record "TypeReference" v).andThen fun r =>
    TypeRef.mk <$> required r ["typeId", "type_id"] text <*>
      withDefault r ["nullable"] false flag

def constraints : Check Constraints := fun v =>
  (record "PrimitiveConstraints" v).andThen fun r =>
    Constraints.mk <$> optional r ["minLength", "min_length"] integer <*>
      optional r ["maxLength", "max_length"] integer <*> optional r ["pattern"] text <*>
      optional r ["format"] text <*> optional r ["minimum"] number <*>
      optional r ["maximum"] number <*>
      optional r ["exclusiveMinimum", "exclusive_minimum"] bound <*>
      optional r ["exclusiveMaximum", "exclusive_maximum"] bound <*>
      optional r ["multipleOf", "multiple_of"] number <*> optional r ["enum"] (tuple literal)

def freeForm : Check Fields := Check.map anything

def property : Check Property := fun v =>
  (record "PropertyDefinition" v).andThen fun r =>
    (fun name type required description constraints deprecated metadata =>
      { name, type, required, description, constraints, deprecated, metadata
        default := declared r "default" }) <$>
      required r ["name"] text <*> required r ["type"] typeRef <*> required r ["required"] flag <*>
      optional r ["description"] text <*> optional r ["constraints"] constraints <*>
      optional r ["deprecated"] flag <*> optional r ["metadata"] freeForm

def additional : Check Additional :=
  union [⟨"TypeReference", fun _ => .read, fun v => Additional.type <$> typeRef v⟩,
    ⟨"bool", fitFlag, fun v => Additional.allowed <$> flag v⟩]

def enumValue : Check EnumValue := fun v =>
  (record "EnumValue" v).andThen fun r =>
    EnumValue.mk <$> required r ["value"] literal <*> required r ["name"] text <*>
      optional r ["description"] text <*> optional r ["deprecated"] flag

def typeOfKind (title kind : String) (shape : List (Scalar × Value) → Checked Shape) :
    Check TypeDefinition := fun v =>
  (record title v).andThen fun r =>
    (fun id name description deprecated deprecationMessage metadata _ shape =>
      { id, name, description, deprecated, deprecationMessage, metadata, shape }) <$>
      required r ["id"] text <*> required r ["name"] text <*>
      optional r ["description"] text <*> optional r ["deprecated"] flag <*>
      optional r ["deprecationMessage", "deprecation_message"] text <*>
      optional r ["metadata"] freeForm <*> withDefault r ["kind"] kind (constant [kind]) <*> shape r

def primitiveType : Check TypeDefinition :=
  typeOfKind "PrimitiveType" "primitive" fun r =>
    Shape.primitive <$> required r ["primitiveKind", "primitive_kind"] primitiveKind <*>
      optional r ["constraints"] constraints

def objectType : Check TypeDefinition :=
  typeOfKind "ObjectType" "object" fun r =>
    Shape.object <$> withDefault r ["properties"] [] (tuple property) <*>
      withDefault r ["required"] [] (tuple text) <*>
      optional r ["additionalProperties", "additional_properties"] additional <*>
      optional r ["discriminator"] text

def arrayType : Check TypeDefinition :=
  typeOfKind "ArrayType" "array" fun r =>
    Shape.array <$> required r ["items"] typeRef <*>
      optional r ["minItems", "min_items"] integer <*>
      optional r ["maxItems", "max_items"] integer <*>
      optional r ["uniqueItems", "unique_items"] flag

def unionType : Check TypeDefinition :=
  typeOfKind "UnionType" "union" fun r =>
    Shape.union <$> withDefault r ["variants"] [] (tuple typeRef) <*>
      optional r ["discriminator"] text <*>
      optional r ["discriminatorMapping", "discriminator_mapping"] (Check.map text)

def enumType : Check TypeDefinition :=
  typeOfKind "EnumType" "enum" fun r =>
    Shape.enum <$> withDefault r ["values"] [] (tuple enumValue) <*>
      withDefault r ["valueType", "value_type"] .string enumKind

def typeDefinition : Check TypeDefinition :=
  byTag "kind" [("primitive", primitiveType), ("object", objectType), ("array", arrayType),
    ("union", unionType), ("enum", enumType)]

def parameter : Check Parameter := fun v =>
  (record "ParameterDefinition" v).andThen fun r =>
    (fun name location type required description deprecated =>
      { name, location, type, required, description, deprecated
        default := declared r "default" }) <$>
      required r ["name"] text <*> required r ["in", "location"] location <*>
      required r ["type"] typeRef <*> withDefault r ["required"] false flag <*>
      optional r ["description"] text <*> optional r ["deprecated"] flag

def requestBody : Check RequestBody := fun v =>
  (record "RequestBodyDefinition" v).andThen fun r =>
    RequestBody.mk <$> required r ["type"] typeRef <*> withDefault r ["required"] false flag <*>
      withDefault r ["contentType", "content_type"] "application/json" text <*>
      optional r ["description"] text

def header : Check Header := fun v =>
  (record "HeaderDefinition" v).andThen fun r =>
    Header.mk <$> required r ["name"] text <*> required r ["type"] typeRef <*>
      withDefault r ["required"] false flag <*> optional r ["description"] text

def response : Check Response := fun v =>
  (record "ResponseDefinition" v).andThen fun r =>
    Response.mk <$> required r ["statusCode", "status_code"] status <*>
      optional r ["type"] typeRef <*> optional r ["description"] text <*>
      optional r ["headers"] (tuple header) <*> optional r ["contentType", "content_type"] text

def rateLimit : Check RateLimit := fun v =>
  (record "RateLimitSpec" v).andThen fun r =>
    RateLimit.mk <$> required r ["requests"] integer <*>
      required r ["windowSeconds", "window_seconds"] integer <*> optional r ["scope"] text

def endpoint : Check Endpoint := fun v =>
  (record "EndpointDefinition" v).andThen fun r =>
    Endpoint.mk <$> required r ["id"] text <*>
      required r ["operationId", "operation_id"] text <*> required r ["path"] text <*>
      required r ["method"] method <*> optional r ["summary"] text <*>
      optional r ["description"] text <*> withDefault r ["parameters"] [] (tuple parameter) <*>
      optional r ["requestBody", "request_body"] requestBody <*>
      withDefault r ["responses"] [] (tuple response) <*>
      withDefault r ["streaming"] false flag <*>
      withDefault r ["authentication"] [] (tuple text) <*>
      optional r ["rateLimit", "rate_limit"] rateLimit <*> optional r ["tags"] (tuple text) <*>
      optional r ["deprecated"] flag <*> optional r ["metadata"] freeForm

def flow : Check Flow := fun v =>
  (record "OAuth2Flow" v).andThen fun r =>
    Flow.mk <$> required r ["type"] flowKind <*>
      optional r ["authorizationUrl", "authorization_url"] text <*>
      optional r ["tokenUrl", "token_url"] text <*>
      optional r ["refreshUrl", "refresh_url"] text <*> optional r ["scopes"] (Check.map text)

def apiKeyScheme : Check AuthScheme := fun v =>
  (record "ApiKeyAuthScheme" v).andThen fun r =>
    (fun id _ location name description => ⟨id, .apiKey location name, description⟩) <$>
      required r ["id"] text <*> withDefault r ["type"] "apiKey" (constant ["apiKey"]) <*>
      required r ["in", "location"] keyLocation <*> required r ["name"] text <*>
      optional r ["description"] text

def bearerScheme : Check AuthScheme := fun v =>
  (record "BearerAuthScheme" v).andThen fun r =>
    (fun id _ scheme format description => ⟨id, .bearer scheme format, description⟩) <$>
      required r ["id"] text <*> withDefault r ["type"] "bearer" (constant ["bearer"]) <*>
      withDefault r ["scheme"] "bearer" text <*>
      optional r ["bearerFormat", "bearer_format"] text <*> optional r ["description"] text

def oauth2Scheme : Check AuthScheme := fun v =>
  (record "OAuth2AuthScheme" v).andThen fun r =>
    (fun id _ flows description => ⟨id, .oauth2 flows, description⟩) <$>
      required r ["id"] text <*> withDefault r ["type"] "oauth2" (constant ["oauth2"]) <*>
      withDefault r ["flows"] [] (tuple flow) <*> optional r ["description"] text

def basicScheme : Check AuthScheme := fun v =>
  (record "BasicAuthScheme" v).andThen fun r =>
    (fun id _ description => ⟨id, .basic, description⟩) <$>
      required r ["id"] text <*> withDefault r ["type"] "basic" (constant ["basic"]) <*>
      optional r ["description"] text

def authScheme : Check AuthScheme :=
  byTag "type" [("apiKey", apiKeyScheme), ("bearer", bearerScheme), ("oauth2", oauth2Scheme),
    ("basic", basicScheme)]

def errorDefinition : Check ErrorDefinition := fun v =>
  (record "ErrorDefinition" v).andThen fun r =>
    ErrorDefinition.mk <$> required r ["code"] text <*>
      required r ["statusCode", "status_code"] integer <*> required r ["message"] text <*>
      optional r ["name"] text <*> optional r ["description"] text <*>
      optional r ["type"] typeRef <*> optional r ["retryable"] flag

def metadata : Check Metadata := fun v =>
  (record "SchemaMetadata" v).andThen fun r =>
    Metadata.mk <$> withDefault r ["version"] "1.0.0" text <*>
      required r ["providerId", "provider_id"] text <*>
      required r ["providerName", "provider_name"] text <*>
      required r ["apiVersion", "api_version"] text <*>
      withDefault r ["generatedAt", "generated_at"] none (fun v => some <$> moment v) <*>
      optional r ["metadata"] freeForm

def schema : Check Schema := fun v =>
  (record "CanonicalSchema" v).andThen fun r =>
    Schema.mk <$> required r ["metadata"] metadata <*>
      withDefault r ["types"] [] (tuple typeDefinition) <*>
      withDefault r ["endpoints"] [] (tuple endpoint) <*>
      withDefault r ["authentication"] [] (tuple authScheme) <*>
      withDefault r ["errors"] [] (tuple errorDefinition) <*> optional r ["config"] freeForm

def Schema.ofValue (v : Value) : Except Rejection Schema :=
  (schema v).orReject "CanonicalSchema"

end ApiSchema
