import HomeGateway.Json.Number
import HomeGateway.Text.Hex

/-!
JSON documents with uninterpreted literals. A number keeps its digits and a text keeps its
escapes, so that a reader decides what it makes of a literal, and a literal that nobody reads
need not stand for anything.
-/

namespace HomeGateway

/-- A buried container is nested too deep to be read. It can only be skipped. -/
inductive Json where
  | null
  | bool (value : Bool)
  | number (literal : Json.Number)
  | text (literal : List Char)
  | array (items : List Json)
  | object (members : List (List Char × Json))
  | buried (container : Json)
  deriving Inhabited

namespace Json

/-! Numbers -/

def ofInt (n : Int) : Json := .number (.ofInt n)

def toInt? : Json → Option Int
  | .number n => n.toInt?
  | _ => none

/-! Texts -/

/-- The code point of four hexadecimal digits. -/
def codeUnit? (a b c d : Char) : Option Nat := do
  let a ← Hex.value? a
  let b ← Hex.value? b
  let c ← Hex.value? c
  let d ← Hex.value? d
  return ((a * 16 + b) * 16 + c) * 16 + d

def simpleEscape? : Char → Option Char
  | '"' => some '"'
  | '\\' => some '\\'
  | '/' => some '/'
  | 'b' => some '\x08'
  | 'f' => some '\x0c'
  | 'n' => some '\n'
  | 'r' => some '\r'
  | 't' => some '\t'
  | _ => none

/-- The characters a literal stands for. Two escaped surrogates make one character; one
alone makes none. -/
def unescape? : List Char → Option (List Char)
  | [] => some []
  | '\\' :: 'u' :: a :: b :: c :: d :: rest => do
    let unit ← codeUnit? a b c d
    if 0xDC00 ≤ unit ∧ unit ≤ 0xDFFF then none
    else if 0xD800 ≤ unit ∧ unit ≤ 0xDBFF then
      match rest with
      | '\\' :: 'u' :: e :: f :: g :: h :: rest => do
        let low ← codeUnit? e f g h
        if 0xDC00 ≤ low ∧ low ≤ 0xDFFF then
          let tail ← unescape? rest
          return Char.ofNat (0x10000 + (unit - 0xD800) * 0x400 + (low - 0xDC00)) :: tail
        else none
      | _ => none
    else
      let tail ← unescape? rest
      return Char.ofNat unit :: tail
  | '\\' :: c :: rest => do
    let c ← simpleEscape? c
    let tail ← unescape? rest
    return c :: tail
  | c :: rest =>
    if c = '\\' then none else (unescape? rest).map (c :: ·)

def escapeChar (c : Char) : List Char :=
  if c = '"' then ['\\', '"']
  else if c = '\\' then ['\\', '\\']
  else if c.toNat < 32 then
    ['\\', 'u', '0', '0', Hex.digit (c.toNat / 16), Hex.digit (c.toNat % 16)]
  else [c]

def escape (cs : List Char) : List Char := cs.flatMap escapeChar

def ofString (s : String) : Json := .text (escape s.toList)

def toString? : Json → Option String
  | .text literal => (unescape? literal).map String.ofList
  | _ => none

/-! Containers -/

def ofList (items : List Json) : Json := .array items

def ofFields (fields : List (String × Json)) : Json :=
  .object (fields.map fun (name, value) => (escape name.toList, value))

/-- The members of an object under their decoded names. -/
def members? : Json → Option (List (String × Json))
  | .object members => members.mapM fun (key, value) =>
      (unescape? key).map fun cs => (String.ofList cs, value)
  | _ => none

/-! Reading ahead -/

/-- A null and an empty object say the same behind the name of a variant without contents. -/
def plainVariant : List (List Char × Json) → List (List Char × Json)
  | [(name, .object [])] => [(name, .null)]
  | members => members

mutual

/-- What becomes of content that is read before anybody knows what to skip in it. Every literal
has to stand for something and no container may be buried. -/
def readAhead? : Json → Option Json
  | .null => some .null
  | .bool value => some (.bool value)
  | .number literal => if literal.isFinite then some (.number literal) else none
  | .text literal => if (unescape? literal).isSome then some (.text literal) else none
  | .array items => (readItems? items).map .array
  | .object members => (readMembers? members).map fun members => .object (plainVariant members)
  | .buried _ => none

def readItems? : List Json → Option (List Json)
  | [] => some []
  | item :: rest => do
    let item ← readAhead? item
    let rest ← readItems? rest
    return item :: rest

def readMembers? : List (List Char × Json) → Option (List (List Char × Json))
  | [] => some []
  | (key, value) :: rest =>
    if (unescape? key).isSome then do
      let value ← readAhead? value
      let rest ← readMembers? rest
      return (key, value) :: rest
    else none

end

end Json

end HomeGateway
