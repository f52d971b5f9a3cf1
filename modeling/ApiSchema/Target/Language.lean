import ApiSchema.Fault
import ApiSchema.Schema.Basic

/-!
The target languages and how each writes the canonical types.

Everything that differs between languages is an entry of this table; the mapping of types reads
the table and decides nothing about a language by itself, save how constants are spelled.
-/

namespace ApiSchema

structure Template where
  before : String
  hole : String
  after : String
deriving DecidableEq, Repr

def Template.fill (t : Template) (inner : String) : String := t.before ++ inner ++ t.after

def Template.text (t : Template) : String := t.fill ("\x7b" ++ t.hole ++ "\x7d")

inductive Language where
  | rust
  | typescript
  | python
  | javascript
  | csharp
  | go
  | java
deriving DecidableEq, Repr

namespace Language

def all : List Language := [.rust, .typescript, .python, .javascript, .csharp, .go, .java]

def name : Language → String
  | rust => "rust"
  | typescript => "typescript"
  | python => "python"
  | javascript => "javascript"
  | csharp => "csharp"
  | go => "go"
  | java => "java"

def ofName? (name : String) : Option Language := all.find? (·.name == name)

def ofValue (v : Value) : Except Fault Language :=
  match v with
  | .scalar (.text s) => match ofName? s with
    | some language => .ok language
    | none => .error (.language v)
  | _ => .error (.language v)

end Language

inductive OptionalStrategy where
  | wrap
  /-- A plain field with a flag for its presence; a pointer inside containers. -/
  | presenceFlag
deriving DecidableEq, Repr

inductive EnumStrategy where
  | native
  | constants
deriving DecidableEq, Repr

inductive UnionStrategy where
  | inline
  | tagged
  | optionalFields
deriving DecidableEq, Repr

def OptionalStrategy.name : OptionalStrategy → String
  | wrap => "wrap"
  | presenceFlag => "presence_flag"

def EnumStrategy.name : EnumStrategy → String
  | native => "native"
  | constants => "constants"

def UnionStrategy.name : UnionStrategy → String
  | inline => "inline"
  | tagged => "tagged"
  | optionalFields => "optional_fields"

structure Capabilities where
  string : String
  integer : String
  float : String
  boolean : String
  null : String
  sequence : Template
  map : Template
  anyType : String
  optional : Template
  optionalStrategy : OptionalStrategy := .wrap
  enumStrategy : EnumStrategy := .native
  unionStrategy : UnionStrategy
  sequenceImports : List String := []
  mapImports : List String := []
  anyImports : List String := []
  optionalImports : List String := []
  union : Template := ⟨"", "variants", ""⟩
  unionSeparator : String := " | "
  unionImports : List String := []
  formats : List (String × String × List String) := []
  boxed : List (String × String) := []
  /-- The form of a nullable value inside a container, where optional fields have flags. -/
  pointer : Option Template := none
  reserved : List String

def Capabilities.primitive (c : Capabilities) : PrimitiveKind → String
  | .string => c.string
  | .integer => c.integer
  | .float => c.float
  | .boolean => c.boolean
  | .null => c.null

def itemHole (before after : String) : Template := ⟨before, "item", after⟩

def valueHole (before after : String) : Template := ⟨before, "value", after⟩

def typeHole (before after : String) : Template := ⟨before, "type", after⟩

namespace Language

def rustTypes : Capabilities where
  string := "String"
  integer := "i64"
  float := "f64"
  boolean := "bool"
  null := "()"
  sequence := itemHole "Vec<" ">"
  map := valueHole "HashMap<String, " ">"
  mapImports := ["use std::collections::HashMap;"]
  anyType := "serde_json::Value"
  optional := typeHole "Option<" ">"
  unionStrategy := .tagged
  reserved := ["Box", "HashMap", "Option", "Result", "Self", "String", "Value", "Vec"]

def typescriptTypes : Capabilities where
  string := "string"
  integer := "number"
  float := "number"
  boolean := "boolean"
  null := "null"
  sequence := itemHole "" "[]"
  map := valueHole "Record<string, " ">"
  anyType := "unknown"
  optional := typeHole "" " | undefined"
  unionStrategy := .inline
  reserved := ["Array", "Boolean", "Date", "Error", "Map", "Number", "Object", "Promise", "Record",
    "Set", "String", "Symbol"]

def pythonTypes : Capabilities where
  string := "str"
  integer := "int"
  float := "float"
  boolean := "bool"
  null := "None"
  sequence := itemHole "List[" "]"
  sequenceImports := ["from typing import List"]
  map := valueHole "Dict[str, " "]"
  mapImports := ["from typing import Dict"]
  anyType := "Any"
  anyImports := ["from typing import Any"]
  optional := typeHole "Optional[" "]"
  optionalImports := ["from typing import Optional"]
  unionStrategy := .inline
  union := ⟨"Union[", "variants", "]"⟩
  unionSeparator := ", "
  unionImports := ["from typing import Union"]
  formats := [("date-time", "datetime", ["from datetime import datetime"]),
    ("date", "date", ["from datetime import date"]), ("uuid", "UUID", ["from uuid import UUID"])]
  reserved := ["Any", "BaseModel", "Dict", "Enum", "False", "Field", "List", "None", "Optional",
    "True", "Union"]

def javascriptTypes : Capabilities where
  string := "string"
  integer := "number"
  float := "number"
  boolean := "boolean"
  null := "null"
  sequence := itemHole "" "[]"
  map := valueHole "Object<string, " ">"
  anyType := "*"
  optional := typeHole "" " | undefined"
  enumStrategy := .constants
  unionStrategy := .inline
  reserved := ["Array", "Boolean", "Date", "Error", "Map", "Number", "Object", "Promise", "String"]

def csharpTypes : Capabilities where
  string := "string"
  integer := "long"
  float := "double"
  boolean := "bool"
  null := "object"
  sequence := itemHole "List<" ">"
  sequenceImports := ["using System.Collections.Generic;"]
  map := valueHole "Dictionary<string, " ">"
  mapImports := ["using System.Collections.Generic;"]
  anyType := "object"
  optional := typeHole "" "?"
  unionStrategy := .optionalFields
  reserved := ["Dictionary", "Exception", "List", "Object", "String", "Task", "Type"]

def goTypes : Capabilities where
  string := "string"
  integer := "int64"
  float := "float64"
  boolean := "bool"
  null := "interface\x7b\x7d"
  sequence := itemHole "[]" ""
  map := valueHole "map[string]" ""
  anyType := "interface\x7b\x7d"
  optional := typeHole "" ""
  optionalStrategy := .presenceFlag
  enumStrategy := .constants
  unionStrategy := .optionalFields
  pointer := some (typeHole "*" "")
  reserved := ["Client", "Context", "Error", "Time"]

def javaTypes : Capabilities where
  string := "String"
  integer := "long"
  float := "double"
  boolean := "boolean"
  null := "Object"
  sequence := itemHole "List<" ">"
  sequenceImports := ["import java.util.List;"]
  map := valueHole "Map<String, " ">"
  mapImports := ["import java.util.Map;"]
  anyType := "Object"
  optional := typeHole "Optional<" ">"
  optionalImports := ["import java.util.Optional;"]
  unionStrategy := .tagged
  boxed := [("long", "Long"), ("double", "Double"), ("boolean", "Boolean")]
  reserved := ["Boolean", "Class", "Double", "Exception", "Integer", "List", "Long", "Map",
    "Object", "Optional", "Override", "Record", "String"]

def capabilities : Language → Capabilities
  | rust => rustTypes
  | typescript => typescriptTypes
  | python => pythonTypes
  | javascript => javascriptTypes
  | csharp => csharpTypes
  | go => goTypes
  | java => javaTypes

end Language

end ApiSchema
