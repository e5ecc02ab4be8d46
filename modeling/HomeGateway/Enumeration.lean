/-! Finite vocabularies, written `snake_case` on the wire and `CamelCase` in inspection texts. -/

namespace HomeGateway

def capitalizeWords : Bool → List Char → List Char
  | _, [] => []
  | _, '_' :: rest => capitalizeWords true rest
  | start, c :: rest => (if start then c.toUpper else c) :: capitalizeWords false rest

/-- `bedroom1_dressing` becomes `Bedroom1Dressing`. -/
def camelCase (tag : String) : String :=
  String.ofList (capitalizeWords true tag.toList)

/-- A type with finitely many values, each known by a tag. `all` lists them in
declaration order. -/
class Enumeration (α : Type) where
  all : List α
  tag : α → String

namespace Enumeration

variable {α : Type} [Enumeration α]

def label (a : α) : String := camelCase (tag a)

def ofTag? (text : String) : Option α :=
  (all : List α).find? fun a => tag a == text

end Enumeration

end HomeGateway
