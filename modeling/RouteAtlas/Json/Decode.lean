import RouteAtlas.Json.Doc
import RouteAtlas.Text.Literal

/-! # Decoding documents

Readers that turn a document into values of fixed types. They walk it from left to right, and the
first mistake met is the answer. A record is written as an object or, field by field, as an array;
members that no field is named for are skipped.
-/

namespace RouteAtlas.Json

/-- What stands where something else was expected. -/
inductive Found where
  | null
  | bool (value : Bool)
  | integer (value : Int)
  /-- A double, by its bits. -/
  | double (bits : UInt64)
  | text (content : String)
  | array
  | object
  deriving DecidableEq, Repr

/-- Why a text is no value of the expected type. -/
inductive DecodeError where
  /-- The text goes wrong, or is too deeply nested. -/
  | malformed
  | wrongType (found : Found) (expected : String)
  /-- An integer that the expected type does not hold. -/
  | outOfRange (value : Int) (expected : String)
  /-- An object without a field that it needs. -/
  | missingField (field : String)
  | duplicateField (field : String)
  /-- An array that ends before a field that it needs. -/
  | tooShort (length : Nat) (record : String) (fields : Nat)
  /-- A word that names none of the alternatives. -/
  | unknownVariant (word : String) (alternatives : List String)
  deriving DecidableEq, Repr

/-- Wording of what stands where something else was expected. -/
def Found.describe : Found → String
  | .null => "null"
  | .bool value => "boolean `" ++ (if value then "true" else "false") ++ "`"
  | .integer value => "integer `" ++ toString value ++ "`"
  | .double bits => "floating point `" ++ Numeral.doubleLayout.writeDouble bits ++ "`"
  | .text content => "string " ++ Text.visible content
  | .array => "sequence"
  | .object => "map"

def describeFields (count : Nat) : String :=
  toString count ++ if count = 1 then " element" else " elements"

/-- Wording of the choice between alternatives. -/
def describeAlternatives (alternatives : List String) : String :=
  "expected one of " ++ ", ".intercalate (alternatives.map fun word => "`" ++ word ++ "`")

/-- Wording of a decoding error. -/
def DecodeError.message : DecodeError → String
  | .malformed => "syntax error"
  | .wrongType found expected =>
    "invalid type: " ++ found.describe ++ ", expected " ++ expected
  | .outOfRange value expected =>
    "invalid value: " ++ (Found.integer value).describe ++ ", expected " ++ expected
  | .missingField field => "missing field `" ++ field ++ "`"
  | .duplicateField field => "duplicate field `" ++ field ++ "`"
  | .tooShort length record fields =>
    "invalid length " ++ toString length ++ ", expected " ++ record ++ " with "
      ++ describeFields fields
  | .unknownVariant word alternatives =>
    "unknown variant `" ++ word ++ "`, " ++ describeAlternatives alternatives

namespace Decode

/-- The summary of a document that is not of the expected type. -/
def mismatch (doc : Doc) (expected : String) : DecodeError :=
  match doc with
  | .null => .wrongType .null expected
  | .bool value => .wrongType (.bool value) expected
  | .number numeral =>
    match numeral.amount? with
    | some (.integer value) => .wrongType (.integer value) expected
    | some (.double bits) => .wrongType (.double bits) expected
    | none => .malformed
  | .text content => .wrongType (.text content) expected
  | .array _ _ => .wrongType .array expected
  | .object _ _ => .wrongType .object expected
  | .unpaired | .fault => .malformed

def text : Doc → Except DecodeError String
  | .text content => .ok content
  | doc => .error (mismatch doc "a string")

def bool : Doc → Except DecodeError Bool
  | .bool value => .ok value
  | doc => .error (mismatch doc "a boolean")

/-- Whether an integer has at most 32 bits. -/
def isInt32 (value : Int) : Bool :=
  -2147483648 ≤ value && value ≤ 2147483647

/-- Read an integer of 32 bits. -/
def int32 : Doc → Except DecodeError Int
  | .number numeral =>
    match numeral.amount? with
    | some (.integer value) =>
      if isInt32 value then .ok value else .error (.outOfRange value "i32")
    | _ => .error (mismatch (.number numeral) "i32")
  | doc => .error (mismatch doc "i32")

/-- Read a value that may be absent, written as `null`. -/
def optional {α : Type} (read : Doc → Except DecodeError α) : Doc → Except DecodeError (Option α)
  | .null => .ok none
  | doc => (read doc).map some

/-- Read an array, where `depth` more containers may be entered. -/
def list {α : Type} (depth : Nat) (read : Doc → Except DecodeError α) :
    Doc → Except DecodeError (List α)
  | .array items closed =>
    if depth = 0 then .error .malformed
    else do
      let values ← items.mapM read
      if closed then .ok values else .error .malformed
  | doc => .error (mismatch doc "a sequence")

/-- Read one of several words, where `depth` more containers may be entered. A word also stands as
    the only key of an object with the value `null`. -/
def word {α : Type} (depth : Nat) (alternatives : List (String × α)) : Doc → Except DecodeError α
  | .text content => choose content
  | .object members closed =>
    if depth = 0 then .error .malformed
    else
      match members with
      | [] => .error .malformed
      | (some content, value) :: rest => do
        let chosen ← choose content
        match value with
        | .null => if rest.isEmpty && closed then .ok chosen else .error .malformed
        | other => .error (mismatch other "unit")
      | (none, _) :: _ => .error .malformed
  | _ => .error .malformed
where
  /-- The alternative with the given name. -/
  choose (content : String) : Except DecodeError α :=
    match alternatives.lookup content with
    | some chosen => .ok chosen
    | none => .error (.unknownVariant content (alternatives.map Prod.fst))

/-- A field of a record of type `α`. -/
structure FieldReader (α : Type) where
  /-- Key of the field in an object. -/
  name : String
  /-- Whether the record needs the field. -/
  required : Bool
  /-- Read the field into a record. -/
  read : Doc → α → Except DecodeError α

/-- Read the members of an object into a record; `seen` names the fields that were read. -/
def members {α : Type} (fields : List (FieldReader α)) :
    List String → α → List (Option String × Doc) → Except DecodeError (List String × α)
  | seen, sofar, [] => .ok (seen, sofar)
  | seen, sofar, (some key, value) :: rest =>
    match fields.find? (·.name == key) with
    | some field =>
      if seen.contains key then .error (.duplicateField key)
      else do
        let next ← field.read value sofar
        members fields (key :: seen) next rest
    | none => if value.isWhole then members fields seen sofar rest else .error .malformed
  | _, _, (none, _) :: _ => .error .malformed

/-- Read the items of an array into a record, field by field. `index` counts the fields before. -/
def items {α : Type} (record : String) (count : Nat) (closed : Bool) :
    Nat → List (FieldReader α) → α → List Doc → Except DecodeError α
  | _, [], sofar, [] => if closed then .ok sofar else .error .malformed
  | _, [], _, _ :: _ => .error .malformed
  | index, field :: fields, sofar, [] =>
    if !closed then .error .malformed
    else if field.required then .error (.tooShort index record count)
    else items record count closed (index + 1) fields sofar []
  | index, field :: fields, sofar, doc :: rest => do
    let next ← field.read doc sofar
    items record count closed (index + 1) fields next rest

/-- Read a record, where `depth` more containers may be entered. `initial` holds the values of
    fields that are left out. -/
def record {α : Type} (name : String) (fields : List (FieldReader α)) (initial : α)
    (depth : Nat) : Doc → Except DecodeError α
  | .object entries closed =>
    if depth = 0 then .error .malformed
    else do
      let (seen, value) ← members fields [] initial entries
      if !closed then .error .malformed
      match fields.find? fun field => field.required && !seen.contains field.name with
      | some field => .error (.missingField field.name)
      | none => .ok value
  | .array entries closed =>
    if depth = 0 then .error .malformed
    else items ("struct " ++ name) fields.length closed 0 fields initial entries
  | doc => .error (mismatch doc ("struct " ++ name))

end Decode

end RouteAtlas.Json
