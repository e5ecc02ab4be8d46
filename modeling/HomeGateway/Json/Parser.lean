import HomeGateway.Json.Lexer

/-!
Reading a JSON text: a stack machine over its tokens, so that nesting costs no recursion.
-/

namespace HomeGateway.Json

/-- A container whose end has not been seen, with its contents reversed. -/
inductive Frame where
  | array (items : List Json)
  | object (members : List (List Char × Json))
  | member (members : List (List Char × Json)) (key : List Char)

/-- What may come next. -/
inductive Phase where
  | value
  | firstItem
  | firstKey
  | key
  | colon (key : List Char)
  | separator
  | finished (value : Json)

structure Machine where
  stack : List Frame
  phase : Phase

namespace Machine

def start : Machine := { stack := [], phase := .value }

/-- Puts a complete value where it belongs. -/
def complete (value : Json) : List Frame → Option Machine
  | [] => some { stack := [], phase := .finished value }
  | .array items :: stack => some { stack := .array (value :: items) :: stack, phase := .separator }
  | .member members key :: stack =>
    some { stack := .object ((key, value) :: members) :: stack, phase := .separator }
  | .object _ :: _ => none

/-- How many containers a reader can be inside of. -/
def readableDepth : Nat := 127

/-- A complete container, buried if the containers around it leave no room for it. -/
def bury (container : Json) (around : List Frame) : Json :=
  if (around.drop (readableDepth - 1)).isEmpty then container else .buried container

def close : Token → List Frame → Option Machine
  | .closeArray, .array items :: stack => complete (bury (.array items.reverse) stack) stack
  | .closeObject, .object members :: stack =>
    complete (bury (.object members.reverse) stack) stack
  | _, _ => none

def beginValue (token : Token) (stack : List Frame) : Option Machine :=
  match token with
  | .scalar value => complete value stack
  | .openArray => some { stack := .array [] :: stack, phase := .firstItem }
  | .openObject => some { stack := .object [] :: stack, phase := .firstKey }
  | _ => none

def step (m : Machine) (token : Token) : Option Machine :=
  match m.phase, token with
  | .value, token => beginValue token m.stack
  | .firstItem, .closeArray => close .closeArray m.stack
  | .firstItem, token => beginValue token m.stack
  | .firstKey, .closeObject => close .closeObject m.stack
  | .firstKey, .scalar (.text key) => some { m with phase := .colon key }
  | .key, .scalar (.text key) => some { m with phase := .colon key }
  | .colon key, .colon =>
    match m.stack with
    | .object members :: stack => some { stack := .member members key :: stack, phase := .value }
    | _ => none
  | .separator, .comma =>
    match m.stack with
    | .array _ :: _ => some { m with phase := .value }
    | .object _ :: _ => some { m with phase := .key }
    | _ => none
  | .separator, token => close token m.stack
  | _, _ => none

def run (m : Machine) : List Token → Option Json
  | [] =>
    match m.phase with
    | .finished value => some value
    | _ => none
  | token :: rest =>
    match m.step token with
    | some m => m.run rest
    | none => none

end Machine

/-- Reads a text that holds one JSON value and nothing else. -/
def parse? (text : String) : Option Json :=
  (tokens? text.toList).bind Machine.start.run

end HomeGateway.Json
