import HomeGateway.Enumeration
import HomeGateway.Json.Basic

/-!
The JSON form of a type, and the shapes that forms are made of: enumerations, records and
tagged sums.
-/

namespace HomeGateway

class JsonForm (α : Type) where
  write : α → Json
  read? : Json → Option α

namespace JsonForm

export Json (ofInt ofString ofList ofFields)

instance : JsonForm Bool where
  write := .bool
  read?
    | .bool b => some b
    | _ => none

instance : JsonForm String where
  write := ofString
  read? := Json.toString?

def word? (low high : Int) (json : Json) : Option Int :=
  json.toInt?.filter fun n => low ≤ n && n ≤ high

instance : JsonForm UInt8 where
  write n := ofInt n.toNat
  read? json := (word? 0 0xFF json).map fun n => n.toNat.toUInt8

instance : JsonForm UInt16 where
  write n := ofInt n.toNat
  read? json := (word? 0 0xFFFF json).map fun n => n.toNat.toUInt16

instance : JsonForm UInt32 where
  write n := ofInt n.toNat
  read? json := (word? 0 0xFFFFFFFF json).map fun n => n.toNat.toUInt32

instance : JsonForm UInt64 where
  write n := ofInt n.toNat
  read? json := (word? 0 0xFFFFFFFFFFFFFFFF json).map fun n => n.toNat.toUInt64

instance : JsonForm Int8 where
  write n := ofInt n.toInt
  read? json := (word? (-128) 127 json).map Int8.ofInt

instance : JsonForm Int16 where
  write n := ofInt n.toInt
  read? json := (word? (-32768) 32767 json).map Int16.ofInt

instance {α : Type} [JsonForm α] : JsonForm (List α) where
  write xs := ofList (xs.map write)
  read?
    | .array items => items.mapM read?
    | _ => none

/-- The name of a variant without contents: alone, or as the key of a null. -/
def variantName? : Json → Option String
  | .object [(key, .null)] => (Json.unescape? key).map String.ofList
  | json => json.toString?

/-- An enumeration is written as its tag. -/
@[reducible] def ofEnumeration {α : Type} [Enumeration α] : JsonForm α where
  write a := ofString (Enumeration.tag a)
  read? json := (variantName? json).bind Enumeration.ofTag?

/-- The fields of a record, in the order of `names` and `none` where missing. A record is an
object, in which other members are skipped and none of the fields comes twice, or a list of
its first fields. -/
def fields? (names : List String) : Json → Option (List (Option Json))
  | .array items =>
    if items.length ≤ names.length then
      some (items.map some ++ List.replicate (names.length - items.length) none)
    else none
  | json => do
    let members ← json.members?
    names.mapM fun name =>
      match members.filter fun member => member.1 == name with
      | [] => some none
      | [(_, value)] => some (some value)
      | _ => none

/-- A field that must be there. -/
def required? {α : Type} [JsonForm α] (field : Option Json) : Option α :=
  field.bind read?

/-- A field that has a default. -/
def optional? {α : Type} [JsonForm α] (fallback : α) : Option Json → Option α
  | none => some fallback
  | some json => read? json

/-- A member of an object. One that is null counts as missing. -/
def member? (json : Json) (name : String) : Option Json :=
  match ((json.members?.getD []).find? fun member => member.1 == name).map Prod.snd with
  | some .null => none
  | found => found

/-- The value of a member that must be there. -/
def value? {α : Type} [JsonForm α] (json : Json) (name : String) : Option α :=
  (member? json name).bind read?

/-- Bytes are written as hexadecimal text. -/
def ofBytes (bytes : List UInt8) : Json := ofString (Hex.ofBytes bytes)

def bytes? (json : Json) (name : String) : Option (List UInt8) :=
  (value? json name).bind Hex.toBytes?

def ofNat (n : Nat) : Json := ofInt n

def writeOption {α : Type} (write : α → Json) : Option α → Json
  | some a => write a
  | none => .null

/-- Tag and content of a variant, from a pair or from an object that has other members
besides. Content that comes before its tag is read ahead. -/
def tagged? (tag content : String) : Json → Option (Json × Option Json)
  | .array [variant, value] => some (variant, some value)
  | json => do
    let members ← json.members?
    match members.filter fun member => member.1 == tag || member.1 == content with
    | [(first, variant)] => if first = tag then some (variant, none) else none
    | [(first, a), (second, b)] =>
      if first = tag ∧ second = content then some (a, some b)
      else if first = content ∧ second = tag then do
        let a ← a.readAhead?
        return (b, some a)
      else none
    | _ => none

end JsonForm

end HomeGateway
