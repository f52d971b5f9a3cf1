import ApiSchema.Check.Basic
import ApiSchema.Text.Words
import ApiSchema.Value.Plain

/-!
What can go wrong, by cause.

A `NodeIssue` concerns one node of a document: the node is replaced by a placeholder and the
conversion goes on. A `Fault` ends what was being done.
-/

namespace ApiSchema

/-- How grave a problem with one node is: only errors fail a parse. -/
inductive Severity where
  | warning
  | error
deriving DecidableEq, Repr

def Severity.name : Severity → String
  | warning => "warning"
  | error => "error"

inductive NodeIssue where
  | unresolved (reference : String) (reason : Option String)
  | unknownKind (kind : Value) (typeName : String)
  | unsupportedScheme (id : Scalar) (kind : Value)
  | noItems (typeName : String)
  | other (message : String)

def suffixed (message : String) (reason : Option String) : String :=
  match reason with
  | some r => if r.isEmpty then message else message ++ ": " ++ r
  | none => message

namespace NodeIssue

def severity : NodeIssue → Severity
  | noItems _ => .error
  | _ => .warning

def code : NodeIssue → String
  | unresolved .. => "unresolved_reference"
  | unknownKind .. => "unknown_type_kind"
  | unsupportedScheme .. => "unsupported_auth_scheme"
  | noItems _ => "ambiguous_array_items"
  | other _ => "schema_issue"

def message : NodeIssue → String
  | unresolved reference reason => suffixed ("Failed to resolve reference '" ++ reference ++ "'") reason
  | unknownKind kind typeName =>
    "Unknown type kind '" ++ kind.display ++ "' for type '" ++ typeName ++ "'"
  | unsupportedScheme id kind =>
    "Unsupported security scheme type: " ++ kind.display ++ " (scheme '" ++ id.display ++ "')"
  | noItems typeName => "Array schema '" ++ typeName ++ "' has no items definition"
  | other message => message

def isShort : NodeIssue → Bool
  | unknownKind kind _ => kind.isShort
  | unsupportedScheme id kind => id.isShort && kind.isShort
  | _ => true

end NodeIssue

inductive Denial where
  | absent
  | exists
  | notDirectory
  | isDirectory
deriving DecidableEq, Repr

def Denial.text : Denial → String
  | absent => "[Errno 2] No such file or directory"
  | «exists» => "[Errno 17] File exists"
  | notDirectory => "[Errno 20] Not a directory"
  | isDirectory => "[Errno 21] Is a directory"

structure FileFault where
  denial : Denial
  path : String
  wording : Option String := none
deriving DecidableEq, Repr

def Denial.at (denial : Denial) (path : String) : FileFault := { denial, path }

def FileFault.refused (wording path : String) : FileFault :=
  { denial := .absent, path, wording := some wording }

def FileFault.text (f : FileFault) : String :=
  f.wording.getD f.denial.text ++ ": " ++ Text.quoted f.path

inductive NetFault where
  | connect
  | status (code : Int)
  | redirects
deriving DecidableEq, Repr

def NetFault.text : NetFault → String
  | connect => "connection refused"
  | status code => "answered with status " ++ decimalText code
  | redirects => "too many redirects"

/-- A part of a document used as what it is not. -/
inductive Misuse where
  /-- A named part, or what only one kind of value can do, asked of another kind. -/
  | part
  /-- A value of a kind that cannot stand where it does. -/
  | kind
  /-- A value of the right kind that cannot be read. -/
  | value
  | key
  | index
  /-- Bytes that are no text, or a text that has no bytes. -/
  | encoding
  | range
  | depth
deriving DecidableEq, Repr

def Misuse.text : Misuse → String
  | part => "a value has no such part"
  | kind => "a value is of the wrong kind"
  | value => "a value cannot be read"
  | key => "no such entry"
  | index => "no such position"
  | encoding => "bytes are no text"
  | range => "a number is out of range"
  | depth => "nested too deeply"

inductive Cause where
  | file (fault : FileFault)
  | net (fault : NetFault)
  | missing (path : String)
  | notMapping
  | pointer (pointer : String)
  | json (message : String)
  | yaml
  | other (message : String)
deriving DecidableEq, Repr

def pointerText (pointer : String) : String := "JSON pointer path not found: " ++ pointer

def Cause.text : Cause → String
  | file fault => fault.text
  | net fault => fault.text
  | missing path => "File not found: " ++ path
  | notMapping => "Document root must be a mapping"
  | pointer p => Text.quoted (pointerText p)
  | json message => message
  | yaml => "malformed YAML"
  | other message => message

inductive SettingsProblem where
  | notFound
  | unreadable (fault : FileFault)
  | malformed (cause : Cause)
  | notMapping
  | invalid (message : String)
  | nowhere (looked : List String)
  | other (message : String)

def SettingsProblem.text : SettingsProblem → String
  | notFound => "Configuration file not found"
  | unreadable fault => "Cannot read configuration: " ++ fault.text
  | malformed cause => "Malformed configuration: " ++ cause.text
  | notMapping => "Configuration must be a mapping"
  | invalid message => "Invalid configuration: " ++ message
  | nowhere looked =>
    "No configuration found (looked for " ++ ", ".intercalate looked ++
      " and [tool.llmforge] in pyproject.toml)"
  | other message => message

inductive SlotFault where
  | pending (ids : List String)
  | filled (id : String)
  | mismatch (definition slot : String)
deriving DecidableEq, Repr

def SlotFault.text : SlotFault → String
  | pending ids => "Types still being built: " ++ ", ".intercalate ids
  | filled id => "Type '" ++ id ++ "' is already defined"
  | mismatch definition slot =>
    "Definition id '" ++ definition ++ "' does not match slot '" ++ slot ++ "'"

inductive Fault where
  | load (source : String) (cause : Option Cause)
  | invalid (source : String) (errors : List String)
  | node (issue : NodeIssue)
  | provider (id : String) (available : List String)
  | mapping (typeId language : String) (reason : Option String)
  | language (given : Value)
  | settings (problem : SettingsProblem) (path field : Option String)
  | output (path : String) (cause : Option Cause)
  | schema (message : String)
  | other (message : String)
  | rejected (rejection : Check.Rejection)
  | slot (fault : SlotFault)
  | misuse (misuse : Misuse)
  | file (fault : FileFault)
  | toml
  | badVariable (field : String)
  | plain (fault : PlainFault)
  /-- A closing tag without an opening one in a line to be printed. -/
  | markup (tag : String)

def settingsText (message : String) (path field : Option String) : String :=
  let placed := match path with
    | some p => if p.isEmpty then message else message ++ " in '" ++ p ++ "'"
    | none => message
  match field with
  | some f => if f.isEmpty then placed else placed ++ " (field: " ++ f ++ ")"
  | none => placed

def Check.Rejection.text (r : Check.Rejection) : String :=
  let lines := r.issues.map fun i => i.place ++ ": " ++ i.cause.message r.fromJson
  r.title ++ ": " ++ "; ".intercalate lines

def Fault.message : Fault → String
  | load source cause =>
    match cause with
    | some c => "Failed to load document from '" ++ source ++ "': " ++ c.text
    | none => "Failed to load document from '" ++ source ++ "'"
  | invalid source errors =>
    let base := "Schema validation failed for '" ++ source ++ "'"
    if errors.isEmpty then base else base ++ ": " ++ "; ".intercalate errors
  | node issue => issue.message
  | provider id available =>
    let base := "No parser registered for provider '" ++ id ++ "'"
    if available.isEmpty then base else base ++ ". Available: " ++ ", ".intercalate available
  | mapping typeId target reason =>
    suffixed ("Cannot map type '" ++ typeId ++ "' to " ++ target) reason
  | language given => given.literal ++ " is not a valid TargetLanguage"
  | settings problem path field => settingsText problem.text path field
  | output path cause =>
    match cause with
    | some c => "Failed to write output to '" ++ path ++ "': " ++ c.text
    | none => "Failed to write output to '" ++ path ++ "'"
  | schema message | other message => message
  | rejected rejection => rejection.text
  | slot fault => fault.text
  | misuse m => m.text
  | file fault => fault.text
  | toml => "malformed TOML"
  | badVariable field => "error parsing value for field \"" ++ field ++ "\""
  | plain .cycle => "a value is part of itself"
  | plain .encoding => "bytes are no text"
  | markup tag => "closing tag '[" ++ tag ++ "]' has nothing to close"

/-- What is printed of a value, if no integer in it is too long. -/
def printed {α : Type} (short : Bool) (text : α) : Except Fault α :=
  if short then .ok text else .error (.misuse .value)

theorem printed_text {α : Type} {short : Bool} {a b : α} (shown : printed short a = .ok b) : b = a := by
  unfold printed at shown
  split at shown
  · exact (Except.ok.inj shown).symm
  · cases shown

theorem printed_map {α β : Type} (short : Bool) (a : α) (f : α → β) :
    (printed short a).map f = printed short (f a) := by
  cases short <;> rfl

def Scalar.shown (s : Scalar) : Except Fault String := printed s.isShort s.display

def Value.shown (v : Value) : Except Fault String := printed v.isShort v.display

def Value.spelled (v : Value) : Except Fault String := printed v.isShort v.literal

def NodeIssue.worded (issue : NodeIssue) : Except Fault NodeIssue := printed issue.isShort issue

def Value.holds (v : Value) (text : String) : Except Fault Bool :=
  match v with
  | .map entries => .ok (lookup? entries (.text text)).isSome
  | .list items => .ok (items.any (Value.text text).same)
  | .set members => .ok (members.any (Scalar.text text).same)
  | .pair a b => .ok ([a, b].any (Value.text text).same)
  | .scalar (.text s) => .ok (Text.occurs text.toList s.toList)
  | _ => .error (.misuse .kind)

end ApiSchema
