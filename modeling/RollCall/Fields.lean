import RollCall.Json.Printer
import RollCall.Text.Quoted

/-!
# Reading the fields of an object

A `Field` names a field, its further names and how its value is read. `scan` goes through the keys
of an object in their order and stops at the first value that cannot be read, or at the second key
of one field; only then are missing fields reported, in the order in which they are declared. Keys
that no field has are ignored.
-/
namespace RollCall

inductive FieldFault
  | missing (name : String)
  | duplicate (name : String)
  | wrongType (found : Json) (expected : String)
  | wrongValue (found : Json) (expected : String)
  | wrongLength (found : Nat) (expected : String)
  | unknownVariant (found : String) (known : List String)
  /-- Neither a name nor a list of names. -/
  | notNames
  /-- A bare name where the variant has fields. -/
  | bareVariant

namespace FieldFault

/-- What was found, by its type and, for scalars, its value. -/
def describe : Json → String
  | .null => "null"
  | .bool b => if b then "boolean `true`" else "boolean `false`"
  | .int n => s!"integer `{n}`"
  | .float x => "floating point `" ++ Json.floatText x ++ "`"
  | .str s => "string " ++ Text.quoted s
  | .arr _ => "sequence"
  | .obj _ => "map"

/-- Names in backquotes with commas between them. -/
def listed (names : List String) : String :=
  ", ".intercalate (names.map fun n => "`" ++ n ++ "`")

/-- What may stand in place of an unknown variant. -/
def expectation : List String → String
  | [] => "there are no variants"
  | [a] => "expected `" ++ a ++ "`"
  | [a, b] => "expected `" ++ a ++ "` or `" ++ b ++ "`"
  | names => "expected one of " ++ listed names

def message : FieldFault → String
  | .missing name => s!"missing field `{name}`"
  | .duplicate name => s!"duplicate field `{name}`"
  | .wrongType found expected => s!"invalid type: {describe found}, expected {expected}"
  | .wrongValue found expected => s!"invalid value: {describe found}, expected {expected}"
  | .wrongLength found expected => s!"invalid length {found}, expected {expected}"
  | .unknownVariant found known => s!"unknown variant `{found}`, {expectation known}"
  | .notNames => "data did not match any variant of untagged enum OneOrMany"
  | .bareVariant => "invalid type: unit variant, expected struct variant"

end FieldFault

abbrev Reading (α : Type) := Json → Except FieldFault α

namespace Reading

def any : Reading Json := .ok

def text : Reading String
  | .str s => .ok s
  | v => .error (.wrongType v "a string")

def object : Reading (List (String × Json))
  | .obj fields => .ok fields
  | v => .error (.wrongType v "a map")

/-- A natural number below `2^64`; `type` is its name in messages. -/
def natural (type : String) : Reading Nat
  | .int n => if 0 ≤ n then .ok n.toNat else .error (.wrongValue (.int n) type)
  | v => .error (.wrongType v type)

def list (item : Reading α) : Reading (List α)
  | .arr items => items.mapM item
  | v => .error (.wrongType v "a sequence")

def orNull (item : Reading α) : Reading (Option α)
  | .null => .ok none
  | v => (item v).map some

/-- A single name or a list of names, told apart. -/
inductive Names
  | one (name : String)
  | many (names : List String)
deriving DecidableEq

def Names.toList : Names → List String
  | .one name => [name]
  | .many names => names

def names : Reading Names
  | .str s => .ok (.one s)
  | .arr items =>
    match items.mapM Json.toStr? with
    | some names => .ok (.many names)
    | none => .error .notNames
  | _ => .error .notNames

def textPair : Reading (String × String)
  | .arr [] => .error (.wrongLength 0 "a tuple of size 2")
  | .arr [a] => do
    let _ ← text a
    .error (.wrongLength 1 "a tuple of size 2")
  | .arr (a :: b :: more) => do
    let a ← text a
    let b ← text b
    if more.isEmpty then .ok (a, b)
    else .error (.wrongLength (more.length + 2) "2 elements in sequence")
  | v => .error (.wrongType v "a tuple of size 2")

/-- One of several named values, given by its name or as an object with the name as its only key and
`null` in it, or nothing if `bare` says so. `known` lists the names in the order of messages. -/
def variant (bare : Bool) (known : List (String × α)) : Reading α
  | .str s => find s
  | .obj [(s, v)] => do
    let found ← find s
    match v with
    | .null => .ok found
    | .obj [] => if bare then .ok found else .error (.wrongType v "unit")
    | v => .error (.wrongType v "unit")
  | .obj fields => .error (.wrongValue (.obj fields) "map with a single key")
  | v => .error (.wrongType v "string or map")
where
  find (s : String) : Except FieldFault α :=
    match known.find? fun entry => entry.1 = s with
    | some (_, found) => .ok found
    | none => .error (.unknownVariant s (known.map Prod.fst))

end Reading

structure Field (α : Type) where
  name : String
  /-- Other keys under which the field may stand. -/
  aliases : List String
  required : Bool
  read : Reading α

namespace Field

def needed (name : String) (aliases : List String) (read : Reading α) : Field α :=
  ⟨name, aliases, true, read⟩

def spare (name : String) (aliases : List String) (read : Reading α) : Field α :=
  ⟨name, aliases, false, read⟩

def hasKey (f : Field α) (key : String) : Bool :=
  key = f.name || key ∈ f.aliases

def check (f : Field α) : Field Unit :=
  ⟨f.name, f.aliases, f.required, fun v => (f.read v).map fun _ => ()⟩

def get? (f : Field α) (fields : List (String × Json)) : Except FieldFault (Option α) :=
  match fields.find? fun entry => f.hasKey entry.1 with
  | some (_, v) => (f.read v).map some
  | none => .ok none

/-- The value of the field, or a given value if it is left out. -/
def getD (f : Field α) (fields : List (String × Json)) (default : α) : Except FieldFault α :=
  return (← f.get? fields).getD default

def get (f : Field α) (fields : List (String × Json)) : Except FieldFault α := do
  match ← f.get? fields with
  | some v => .ok v
  | none => .error (.missing f.name)

/-- Check the keys of an object in their order, `seen` being the fields found before. -/
def scanKeys (known : List (Field Unit)) (seen : List String) :
    List (String × Json) → Except FieldFault (List String)
  | [] => .ok seen
  | (key, v) :: fields =>
    match known.find? (·.hasKey key) with
    | none => scanKeys known seen fields
    | some f =>
      if f.name ∈ seen then .error (.duplicate f.name)
      else do
        f.read v
        scanKeys known (f.name :: seen) fields

/-- Check that every given field can be read and that no needed field is missing. -/
def scan (known : List (Field Unit)) (fields : List (String × Json)) : Except FieldFault Unit := do
  let seen ← scanKeys known [] fields
  match known.find? fun f => f.required && f.name ∉ seen with
  | some f => .error (.missing f.name)
  | none => .ok ()

end Field
end RollCall
