import ApiSchema.Schema.Dump
import ApiSchema.Target.Language
import ApiSchema.Target.Names
import ApiSchema.Text.Words

/-!
Canonical types as type expressions of a language.

A mapper belongs to one schema and one language. Nominal types (enums, objects with fields, and
unions where the language names them) get their names when it is made; a structural type gets a
name only when it is met inside itself.
-/

namespace ApiSchema

structure Usage where
  nullable : Bool := false
  required : Bool := true
  nested : Bool := false
deriving DecidableEq, Repr

inductive Detail where
  | placeholder (metadata : Fields)
  | union (strategy : UnionStrategy) (variants imports : List String) (discriminator : Option String)
  | constants (baseType : String) (constants : List (String × Literal)) (predicate : String)

structure Mapped where
  expression : String
  imports : List String := []
  nullable : Bool := false
  presenceFlag : Bool := false
  constraints : Option Constraints := none
  detail : Option Detail := none

structure Progress where
  names : Names
  within : List String := []

namespace Progress

def enter (p : Progress) (id : String) : Progress := { p with within := id :: p.within }

def leave (p : Progress) : Progress := { p with within := p.within.tail }

def assign (p : Progress) (id wanted : String) : String × Progress :=
  let (name, names) := p.names.assign id wanted
  (name, { p with names })

end Progress

structure Mapper extends Progress where
  schema : Schema
  language : Language
  custom : List (String × String)
  depth : Nat

abbrev Mapping := ExceptT Fault (StateM Progress)

def mergeImports (groups : List (List String)) : List String := groups.flatten.eraseDups

namespace Mapper

def capabilities (m : Mapper) : Capabilities := m.language.capabilities

def definition (m : Mapper) (id : String) : Except Fault TypeDefinition :=
  match m.schema.definition? id with
  | some d => .ok d
  | none => .error (.mapping id m.language.name (some "type is not defined in the schema"))

def isFreeForm : Shape → Bool
  | .object [] _ additional _ => additional != some (.allowed false)
  | _ => false

def isNominal (c : Capabilities) (d : TypeDefinition) : Bool :=
  match d.shape with
  | .enum .. => true
  | .object .. => !d.isPlaceholder && !isFreeForm d.shape
  | .union .. => c.unionStrategy != .inline
  | .primitive .. | .array .. => false

def wantedName (d : TypeDefinition) : String := String.ofList (Text.typeName d.name.toList)

def typeName (m : Mapper) (id : String) : Mapping String := do
  let d ← ofExcept (m.definition id)
  modifyGet (·.assign id (wantedName d))

def usualDepth : Nat := 330

def make (schema : Schema) (language : Language) (custom : List (String × String))
    (depth : Nat := usualDepth) : Mapper :=
  let nominal := schema.types.filter (isNominal language.capabilities)
  let names := nominal.foldl (fun names t =>
    (names.assign t.id (wantedName ((schema.definition? t.id).getD t))).2)
    ⟨language.capabilities.reserved, []⟩
  ⟨⟨names, []⟩, schema, language, custom, depth⟩

def customFor (m : Mapper) (d : TypeDefinition) : Option String :=
  match m.custom.lookup d.name with
  | some expression => if expression.isEmpty then m.custom.lookup d.id else some expression
  | none => m.custom.lookup d.id

def primitive (c : Capabilities) (kind : PrimitiveKind) (constraints : Option Constraints) : Mapped :=
  let constraints := constraints.filter (!·.isEmpty)
  let override :=
    if kind = .string then (constraints.bind (·.format)).bind fun f => c.formats.lookup f else none
  match override with
  | some (expression, imports) => { expression, imports, constraints }
  | none => { expression := c.primitive kind, constraints }

def anyOf (c : Capabilities) : Mapped := { expression := c.anyType, imports := c.anyImports }

def sequenceOf (c : Capabilities) (item : Mapped) : Mapped :=
  let mark := Text.trim c.unionSeparator.toList
  let inner :=
    if c.sequence.before.isEmpty && Text.occurs mark item.expression.toList then
      "(" ++ item.expression ++ ")"
    else item.expression
  { expression := c.sequence.fill inner, imports := mergeImports [item.imports, c.sequenceImports] }

def mapOf (c : Capabilities) (value : Mapped) : Mapped :=
  { expression := c.map.fill value.expression, imports := mergeImports [value.imports, c.mapImports] }

def inlineUnion (c : Capabilities) (variants : List Mapped) : Mapped :=
  let expressions := (variants.map (·.expression)).eraseDups
  let imports := mergeImports (variants.map (·.imports))
  match expressions with
  | [] => anyOf c
  | [only] => { expression := only, imports }
  | several =>
    { expression := c.union.fill (c.unionSeparator.intercalate several)
      imports := mergeImports [imports, c.unionImports] }

def constantName (language : Language) (name : String) (value : Literal) : String :=
  let text := value.toScalar.display.toList
  if language = .go then name ++ String.ofList (Text.typeName text)
  else String.ofList ((Text.snakeCase text).map Char.toUpper)

def isInteger : Literal → Bool
  | .int _ => true
  | _ => false

def enumBase (values : List EnumValue) (kind : EnumKind) : PrimitiveKind :=
  if kind = .string then .string
  else if values.all fun v => isInteger v.value then .integer
  else .float

def enumOf (language : Language) (name : String) (values : List EnumValue) (kind : EnumKind) :
    Except Fault Mapped :=
  match language.capabilities.enumStrategy with
  | .native => .ok { expression := name }
  | .constants =>
    let constants := values.map fun v => (constantName language name v.value, v.value)
    let predicate := if language = .go then name ++ ".IsValid" else "is" ++ name
    let base := language.capabilities.primitive (enumBase values kind)
    printed (values.all fun v => v.value.toScalar.isShort)
      { expression := name, detail := some (.constants base constants predicate) }

def box (c : Capabilities) (mapped : Mapped) : Mapped :=
  match c.boxed.lookup mapped.expression with
  | some expression => { mapped with expression }
  | none => mapped

def holdsNothing (c : Capabilities) (expression : String) : Bool :=
  ["[]", "map[", "*", c.anyType].any fun front => front.toList.isPrefixOf expression.toList

def optional (c : Capabilities) (mapped : Mapped) (usage : Usage) : Mapped :=
  match c.optionalStrategy with
  | .presenceFlag =>
    if !usage.nested then { mapped with nullable := true, presenceFlag := true }
    else
      match c.pointer with
      | none => { mapped with nullable := true }
      | some pointer =>
        if holdsNothing c mapped.expression then { mapped with nullable := true }
        else { mapped with expression := pointer.fill mapped.expression, nullable := true }
  | .wrap =>
    let inner := box c mapped
    { inner with
      expression := c.optional.fill inner.expression
      imports := mergeImports [inner.imports, c.optionalImports]
      nullable := true }

def used (c : Capabilities) (nullable : Bool) (usage : Usage) (mapped : Mapped) : Mapped :=
  if nullable || usage.nullable || !usage.required then optional c mapped usage
  else if usage.nested then box c mapped
  else mapped

def markedPlaceholder (metadata : Fields) : Fields :=
  ("placeholder", (metadata.lookup "placeholder").getD (.bool true)) ::
    metadata.filter (·.1 != "placeholder")

def mapShape {M : Type → Type} [Monad M] [MonadExceptOf Fault M] (m : Mapper) (name : String → M String)
    (inner : TypeRef → M Mapped) (d : TypeDefinition) : M Mapped := do
  let c := m.capabilities
  match d.shape with
  | .primitive kind constraints => return primitive c kind constraints
  | .object _ _ additional _ =>
    if d.isPlaceholder then
      return { anyOf c with detail := some (.placeholder (markedPlaceholder (d.metadata.getD []))) }
    else if !isFreeForm d.shape then return { expression := ← name d.id }
    else
      match additional with
      | some (.type ref) => return mapOf c (← inner ref)
      | _ => return mapOf c (anyOf c)
  | .array items .. => return sequenceOf c (← inner items)
  | .union variants discriminator _ =>
    let variants ← variants.mapM inner
    if c.unionStrategy = .inline then return inlineUnion c variants
    else
      return { expression := ← name d.id,
               detail := some (.union c.unionStrategy (variants.map (·.expression)).eraseDups
                 (mergeImports (variants.map (·.imports))) discriminator) }
  | .enum values kind => ofExcept (enumOf m.language (← name d.id) values kind)

/-- Maps what is in a type: until it is done, whether or not it succeeds, the type is among those
being mapped. -/
def enclosed {α : Type} (id : String) (mapping : Mapping α) : Mapping α := fun p =>
  let (answer, p) := mapping.run.run (p.enter id)
  (answer, p.leave)

/-- A type by the expression given for it, or by name inside itself, or by its shape. -/
def mapDefinition (m : Mapper) (inner : TypeRef → Mapping Mapped) (d : TypeDefinition) :
    Mapping Mapped := do
  match m.customFor d with
  | some expression => return { expression }
  | none =>
    if (← get).within.contains d.id then return { expression := ← m.typeName d.id }
    else enclosed d.id (m.mapShape m.typeName inner d)

/-- The type behind a reference. Each step inward adds a type to those being mapped that is not
there yet, so a `depth` beyond the number of types is never used up. -/
def mapReference (m : Mapper) : Nat → TypeRef → Usage → Mapping Mapped
  | 0, _, _ => throw (.misuse .depth)
  | depth + 1, ref, usage => do
    let d ← ofExcept (m.definition ref.typeId)
    let mapped ← m.mapDefinition (fun ref => m.mapReference depth ref { nested := true }) d
    return used m.capabilities ref.nullable usage mapped

def mapType (m : Mapper) (ref : TypeRef) (usage : Usage) : Mapping Mapped :=
  m.mapReference m.depth ref usage

def mapProperty (m : Mapper) (p : Property) : Mapping Mapped :=
  m.mapType p.type { required := p.required }

def run {α : Type} (m : Mapper) (mapping : Mapping α) : Except Fault α × Mapper :=
  let (answer, progress) := mapping.run m.toProgress
  (answer, { m with toProgress := progress })

end Mapper

def constantValue (constant : String × Literal) : Value :=
  .list [.text constant.1, constant.2.toValue]

def Detail.toValue : Detail → Value
  | placeholder metadata => fieldsValue metadata
  | union strategy variants imports discriminator =>
    .object [("union_strategy", .text strategy.name), ("variants", .strings variants),
      ("variant_imports", .strings imports),
      ("discriminator", match discriminator with | some d => .text d | none => .null)]
  | constants baseType pairs predicate =>
    .object [("enum_strategy", .text EnumStrategy.constants.name), ("base_type", .text baseType),
      ("constants", .list (pairs.map constantValue)), ("predicate", .text predicate)]

end ApiSchema
