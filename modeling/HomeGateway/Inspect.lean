import HomeGateway.Enumeration
import HomeGateway.Text.Hex
import HomeGateway.Text.Hidden

/-!
One-line inspection texts of values, such as `Pool (name: "event", capacity: 4)` with
braces: records by name and field, enumerations by label, texts in quotes.
-/

namespace HomeGateway

class Inspect (α : Type) where
  inspect : α → String

export Inspect (inspect)

namespace Inspect

def commaList (items : List String) : String := ", ".intercalate items

/-- A record. `hidden` says that it has fields which are not shown. -/
def record (name : String) (fields : List (String × String)) (hidden : Bool := false) : String :=
  let shown := fields.map fun (field, value) => field ++ ": " ++ value
  name ++ " \x7b " ++ commaList (if hidden then shown ++ [".."] else shown) ++ " \x7d"

/-- A variant or wrapper with unnamed contents. -/
def applied (name : String) (arguments : List String) : String :=
  name ++ "(" ++ commaList arguments ++ ")"

/-- A character in a quoted text. One that would not show is given by its code point. -/
def quotedChar (c : Char) : List Char :=
  if c = '"' then ['\\', '"']
  else if c = '\\' then ['\\', '\\']
  else if c = '\n' then ['\\', 'n']
  else if c = '\r' then ['\\', 'r']
  else if c = '\t' then ['\\', 't']
  else if c.toNat = 0 then ['\\', '0']
  else if Hidden.isHidden c then
    ['\\', 'u', '\x7b'] ++ (Hex.shortest c.toNat).toList ++ ['\x7d']
  else [c]

def quoted (text : String) : String :=
  String.ofList (['"'] ++ text.toList.flatMap quotedChar ++ ['"'])

instance : Inspect Bool := ⟨fun b => if b then "true" else "false"⟩
instance : Inspect Nat := ⟨fun n => toString n⟩
instance : Inspect UInt8 := ⟨fun n => toString n.toNat⟩
instance : Inspect UInt16 := ⟨fun n => toString n.toNat⟩
instance : Inspect UInt32 := ⟨fun n => toString n.toNat⟩
instance : Inspect UInt64 := ⟨fun n => toString n.toNat⟩
instance : Inspect Int8 := ⟨fun n => toString n.toInt⟩
instance : Inspect Int16 := ⟨fun n => toString n.toInt⟩

instance {α : Type} [Inspect α] : Inspect (Option α) where
  inspect
    | none => "None"
    | some a => applied "Some" [inspect a]

instance {α : Type} [Inspect α] : Inspect (List α) where
  inspect items := "[" ++ commaList (items.map inspect) ++ "]"

/-- An enumeration shows its label. -/
@[reducible] def ofEnumeration {α : Type} [Enumeration α] : Inspect α := ⟨Enumeration.label⟩

end Inspect

end HomeGateway
