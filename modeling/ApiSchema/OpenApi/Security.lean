import ApiSchema.OpenApi.Node
import ApiSchema.Text.Case

namespace ApiSchema.OpenApi

def flowsOf (g : Graph) (item : Item) : Except Fault (List Flow) := do
  let entries ← entriesOf g item
  let known := entries.filterMap fun (name, node) =>
    match FlowKind.all.find? fun kind => name.isText kind.name, g.entries? node with
    | some kind, some fields => some (kind, fields)
    | _, _ => none
  known.mapM fun (kind, fields) =>
    let part (name : String) : Value := g.value (fieldOf fields name)
    checked "OAuth2Flow" flow [("type", .text kind.name),
      ("authorization_url", part "authorizationUrl"), ("token_url", part "tokenUrl"),
      ("refresh_url", part "refreshUrl"), ("scopes", part "scopes")]

def schemeLabel (g : Graph) (kind : Item) (httpScheme : String) : Value :=
  if isText kind "http" then
    .text (String.ofList (Text.trim ("http " ++ httpScheme).toList))
  else g.value kind

def keyLocations : List String := ["header", "query", "cookie"]

def httpSchemeOf (g : Graph) (entries : Entries) : Except Fault String :=
  match lookup? entries (.text "scheme") with
  | some item => Text.lowerText <$> shown g item
  | none => .ok ""

def schemeOf (s : Scope) (id : Scalar) (entries : Entries) : Conversion (Option AuthScheme) := do
  let g := s.graph
  let kind := fieldOf entries "type"
  let httpScheme ← ofExcept (httpSchemeOf g entries)
  let common : List (String × Value) :=
    [("id", .scalar id), ("description", g.value (fieldOf entries "description"))]
  let location := (fieldOf entries "in").text?
  if isText kind "apiKey" && (location.map keyLocations.contains).getD false then
    let name := (lookup? entries (.text "name")).getD (.scalar id)
    some <$> ofExcept (checked "ApiKeyAuthScheme" apiKeyScheme
      ([("location", .text (location.getD "")), ("name", g.value name)] ++ common))
  else if isText kind "http" && httpScheme == "bearer" then
    some <$> ofExcept (checked "BearerAuthScheme" bearerScheme
      ([("scheme", .text httpScheme), ("bearer_format", g.value (fieldOf entries "bearerFormat"))] ++
        common))
  else if isText kind "http" && httpScheme == "basic" then
    some <$> ofExcept (checked "BasicAuthScheme" basicScheme common)
  else if isText kind "oauth2" && g.truthy (fieldOf entries "flows") then
    let flows ← ofExcept (flowsOf g (fieldOf entries "flows"))
    let scheme ← ofExcept (checked "OAuth2AuthScheme" oauth2Scheme common)
    return some { scheme with kind := .oauth2 flows }
  else
    noteIssue (NodeIssue.worded (.unsupportedScheme id (schemeLabel g kind httpScheme)))
    return none

def schemesFrom (s : Scope) : Entries → Conversion (List AuthScheme)
  | [] => return []
  | (id, node) :: rest => do
    let scheme? ← match ← component? s.document node "security scheme" with
      | some entries => schemeOf s id entries
      | none => pure none
    let more ← schemesFrom s rest
    return scheme?.toList ++ more

end ApiSchema.OpenApi
