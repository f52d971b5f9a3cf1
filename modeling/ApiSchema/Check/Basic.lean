import ApiSchema.Value.Literal

/-!
Checks of data, with located errors.

A check turns a value into a typed one or into all its issues, each with the path to the place
where it was found. Checks of parts combine so that every part is looked at: the issues of a
record are those of its fields, in order.
-/

namespace ApiSchema.Check

inductive Step where
  | name (s : String)
  | index (n : Int)
deriving DecidableEq

def Step.text : Step → String
  | .name s => s
  | .index n => decimalText n

inductive Cause where
  | missing
  | extra
  | keyText
  | text
  | textEncoding
  | integer
  | integerText
  | integerFraction
  | integerFinite
  | integerSize
  | number
  | numberText
  | flag
  | flagText
  | list
  | tuple
  | map
  | record (title : String)
  | tagged
  | choice (options : List String)
  | constant (options : List String)
  | tagMissing (field : String)
  | tagUnknown (tag field : String) (expected : List String)
  | moment
  | momentText (reason : String)
  | momentDate (reason : String)
  | recursion
  | rule (message : String)
  | json (message : String)
  | frozen
deriving DecidableEq

def alternatives : List String → String
  | [] => ""
  | [only] => "'" ++ only ++ "'"
  | [first, last] => "'" ++ first ++ "' or '" ++ last ++ "'"
  | first :: rest => "'" ++ first ++ "', " ++ alternatives rest

namespace Cause

def code : Cause → String
  | missing => "missing"
  | extra => "extra_forbidden"
  | keyText => "invalid_key"
  | text => "string_type"
  | textEncoding => "string_unicode"
  | integer => "int_type"
  | integerText => "int_parsing"
  | integerFraction => "int_from_float"
  | integerFinite => "finite_number"
  | integerSize => "int_parsing_size"
  | number => "float_type"
  | numberText => "float_parsing"
  | flag => "bool_type"
  | flagText => "bool_parsing"
  | list => "list_type"
  | tuple => "tuple_type"
  | map => "dict_type"
  | record _ => "model_type"
  | tagged => "model_attributes_type"
  | choice _ => "enum"
  | constant _ => "literal_error"
  | tagMissing _ => "union_tag_not_found"
  | tagUnknown .. => "union_tag_invalid"
  | moment => "datetime_type"
  | momentText _ => "datetime_parsing"
  | momentDate _ => "datetime_from_date_parsing"
  | recursion => "recursion_loop"
  | rule _ => "value_error"
  | json _ => "json_invalid"
  | frozen => "frozen_instance"

/-- The wording of a cause. Containers are called by other words when the data was JSON text. -/
def message (fromJson : Bool) : Cause → String
  | missing => "Field required"
  | extra => "Extra inputs are not permitted"
  | keyText => "Keys should be strings"
  | text => "Input should be a valid string"
  | textEncoding => "Input should be a valid string, unable to parse raw data as a unicode string"
  | integer => "Input should be a valid integer"
  | integerText => "Input should be a valid integer, unable to parse string as an integer"
  | integerFraction => "Input should be a valid integer, got a number with a fractional part"
  | integerFinite => "Input should be a finite number"
  | integerSize => "Unable to parse input string as an integer, exceeded maximum size"
  | number => "Input should be a valid number"
  | numberText => "Input should be a valid number, unable to parse string as a number"
  | flag => "Input should be a valid boolean"
  | flagText => "Input should be a valid boolean, unable to interpret input"
  | list => if fromJson then "Input should be a valid array" else "Input should be a valid list"
  | tuple => if fromJson then "Input should be a valid array" else "Input should be a valid tuple"
  | map => if fromJson then "Input should be an object" else "Input should be a valid dictionary"
  | record title =>
    if fromJson then "Input should be an object"
    else "Input should be a valid dictionary or instance of " ++ title
  | tagged => "Input should be a valid dictionary or object to extract fields from"
  | choice options => "Input should be " ++ alternatives options
  | constant options => "Input should be " ++ alternatives options
  | tagMissing field => "Unable to extract tag using discriminator '" ++ field ++ "'"
  | tagUnknown tag field expected =>
    "Input tag '" ++ tag ++ "' found using '" ++ field ++ "' does not match any of the expected tags: " ++
      ", ".intercalate (expected.map fun e => "'" ++ e ++ "'")
  | moment => "Input should be a valid datetime"
  | momentText reason => "Input should be a valid datetime, " ++ reason
  | momentDate reason => "Input should be a valid datetime or date, " ++ reason
  | recursion => "Recursion error - cyclic reference detected"
  | rule message => "Value error, " ++ message
  | json message => "Invalid JSON: " ++ message
  | frozen => "Instance is frozen"

end Cause

structure Issue where
  path : List Step
  cause : Cause
deriving DecidableEq

def Issue.place (i : Issue) : String := ".".intercalate (i.path.map Step.text)

def Issue.line (i : Issue) : String := i.place ++ ": " ++ i.cause.message false

inductive Checked (α : Type) where
  | ok (value : α)
  | bad (issues : List Issue)

namespace Checked

variable {α β : Type}

def map (f : α → β) : Checked α → Checked β
  | ok a => ok (f a)
  | bad issues => bad issues

/-- Both sides are looked at, and the issues of both are kept. -/
def seq (f : Checked (α → β)) (x : Unit → Checked α) : Checked β :=
  match f, x () with
  | ok f, ok a => ok (f a)
  | ok _, bad issues => bad issues
  | bad issues, ok _ => bad issues
  | bad first, bad second => bad (first ++ second)

instance : Applicative Checked where
  pure := ok
  map := map
  seq := seq

def andThen (c : Checked α) (next : α → Checked β) : Checked β :=
  match c with
  | ok a => next a
  | bad issues => bad issues

def within (c : Checked α) (step : Step) : Checked α :=
  match c with
  | ok a => ok a
  | bad issues => bad (issues.map fun i => { i with path := step :: i.path })

def fail (cause : Cause) : Checked α := bad [⟨[], cause⟩]

def toOption : Checked α → Option α
  | ok a => some a
  | bad _ => none

end Checked

structure Rejection where
  title : String
  issues : List Issue
  fromJson : Bool := false

def Checked.orReject {α : Type} (c : Checked α) (title : String) : Except Rejection α :=
  match c with
  | .ok a => .ok a
  | .bad issues => .error ⟨title, issues, false⟩

end ApiSchema.Check
