import HomeGateway.Json.Basic

/-! Writing a JSON document without blanks. -/

namespace HomeGateway.Json

def Number.render (n : Number) : String :=
  let decimals := if n.decimals.isEmpty then "" else "." ++ String.ofList n.decimals
  let power :=
    match n.power with
    | some power => "e" ++ toString power
    | none => ""
  (if n.negative then "-" else "") ++ String.ofList n.whole ++ decimals ++ power

def renderText (literal : List Char) (out : String) : String :=
  (literal.foldl String.push (out.push '"')).push '"'

mutual

/-- Appends the text of a document to `out`. -/
def renderOnto (out : String) : Json → String
  | .null => out ++ "null"
  | .bool true => out ++ "true"
  | .bool false => out ++ "false"
  | .number n => out ++ n.render
  | .text literal => renderText literal out
  | .array [] => out ++ "[]"
  | .array (item :: rest) => (renderItems (renderOnto (out.push '[') item) rest).push ']'
  | .object [] => out ++ "\x7b\x7d"
  | .object ((key, value) :: rest) =>
    let out := (renderText key (out.push '\x7b')).push ':'
    (renderMembers (renderOnto out value) rest).push '\x7d'
  | .buried container => renderOnto out container

def renderItems (out : String) : List Json → String
  | [] => out
  | item :: rest => renderItems (renderOnto (out.push ',') item) rest

def renderMembers (out : String) : List (List Char × Json) → String
  | [] => out
  | (key, value) :: rest =>
    renderMembers (renderOnto ((renderText key (out.push ',')).push ':') value) rest

end

def render (value : Json) : String := renderOnto "" value

end HomeGateway.Json
