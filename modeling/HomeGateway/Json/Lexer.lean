import HomeGateway.Json.Basic

/-! The tokens of a JSON text. -/

namespace HomeGateway.Json

inductive Token where
  | openArray
  | closeArray
  | openObject
  | closeObject
  | colon
  | comma
  | scalar (value : Json)

def isBlank (c : Char) : Bool :=
  c = ' ' || c = '\t' || c = '\n' || c = '\r'

def takeDigits (cs : List Char) : List Char × List Char :=
  (cs.takeWhile Char.isDigit, cs.dropWhile Char.isDigit)

/-- A point needs a digit behind it. -/
def fraction? : List Char → Option (List Char × List Char)
  | '.' :: rest =>
    match takeDigits rest with
    | ([], _) => none
    | (digits, rest) => some (digits, rest)
  | rest => some ([], rest)

def exponent? : List Char → Option (Option Int × List Char)
  | c :: rest =>
    if c = 'e' ∨ c = 'E' then
      let (negative, rest) :=
        match rest with
        | '-' :: rest => (true, rest)
        | '+' :: rest => (false, rest)
        | rest => (false, rest)
      match takeDigits rest with
      | ([], _) => none
      | (digits, rest) =>
        let n : Int := decimalValue digits
        some (some (if negative then -n else n), rest)
    else some (none, c :: rest)
  | [] => some (none, [])

/-- A number at the head of the text. Its whole part is a lone zero or starts with
another digit. -/
def number? (cs : List Char) : Option (Number × List Char) := do
  let (negative, cs) :=
    match cs with
    | '-' :: rest => (true, rest)
    | cs => (false, cs)
  let (whole, rest) := takeDigits cs
  if whole = [] ∨ (whole.head? = some '0' ∧ whole.length ≠ 1) then none else
  let (decimals, rest) ← fraction? rest
  let (power, rest) ← exponent? rest
  return ({ negative, whole, decimals, power }, rest)

/-- Cuts a text literal at its closing quote; `seen` holds what was passed, reversed. The
escapes are left as they are, once known to be well-formed. -/
def literal? (seen : List Char) : List Char → Option (List Char × List Char)
  | [] => none
  | '"' :: rest => some (seen.reverse, rest)
  | '\\' :: 'u' :: a :: b :: c :: d :: rest =>
    if (codeUnit? a b c d).isSome then
      literal? (d :: c :: b :: a :: 'u' :: '\\' :: seen) rest
    else none
  | '\\' :: c :: rest =>
    if (simpleEscape? c).isSome then literal? (c :: '\\' :: seen) rest else none
  | c :: rest => if c.toNat < 32 ∨ c = '\\' then none else literal? (c :: seen) rest

/-- One token at the head of a text that does not start with a blank. -/
def token? : List Char → Option (Token × List Char)
  | '[' :: rest => some (.openArray, rest)
  | ']' :: rest => some (.closeArray, rest)
  | '\x7b' :: rest => some (.openObject, rest)
  | '\x7d' :: rest => some (.closeObject, rest)
  | ':' :: rest => some (.colon, rest)
  | ',' :: rest => some (.comma, rest)
  | 'n' :: 'u' :: 'l' :: 'l' :: rest => some (.scalar .null, rest)
  | 't' :: 'r' :: 'u' :: 'e' :: rest => some (.scalar (.bool true), rest)
  | 'f' :: 'a' :: 'l' :: 's' :: 'e' :: rest => some (.scalar (.bool false), rest)
  | '"' :: rest => (literal? [] rest).map fun (literal, rest) => (.scalar (.text literal), rest)
  | cs => (number? cs).map fun (n, rest) => (.scalar (.number n), rest)

/-- The tokens of a text, or `none` if it cannot be cut into tokens. Every token takes a
character, so the length of the text bounds their number. -/
def tokens? (text : List Char) : Option (List Token) :=
  go text.length text []
where
  go (fuel : Nat) (cs : List Char) (seen : List Token) : Option (List Token) :=
    match cs.dropWhile isBlank with
    | [] => some seen.reverse
    | c :: rest =>
      match fuel with
      | 0 => none
      | fuel + 1 =>
        match token? (c :: rest) with
        | some (token, rest) => go fuel rest (token :: seen)
        | none => none

end HomeGateway.Json
