import HomeGateway.Bus.Controller
import HomeGateway.Wire.Failure
import HomeGateway.Wire.Report

/-! The JSON forms of frames and of what happens on a bus. -/

namespace HomeGateway

open JsonForm

/-! Frames -/

instance : JsonForm BusFrame where
  write f := ofFields
    [("type", write f.frameType), ("dir", write f.direction), ("did", write f.did),
     ("endpoint", write f.endpoint), ("payload", ofBytes f.payload)]
  read? json := do
    return {
      frameType := ← value? json "type"
      direction := ← value? json "dir"
      did := ← value? json "did"
      endpoint := ← value? json "endpoint"
      payload := ← bytes? json "payload" }

/-- Written as a pair. -/
def RawFrame.toJson (raw : RawFrame) : Json := ofList [write raw.id, ofBytes raw.data]

def RawFrame.ofJson? (json : Json) : Option RawFrame := do
  return { id := ← value? json "id", data := ← bytes? json "data" }

/-- A frame and what can be said of it. -/
def BusFrame.describe (f : BusFrame) : List (String × Json) :=
  [("frame", write f), ("can_id", write f.canId), ("raw", f.toRaw.toJson),
   ("response", .bool f.isResponse), ("error_frame", .bool f.isError),
   ("board_telemetry", .bool f.isBoardTelemetry), ("text", ofString f.text),
   ("class", write f.did.cls), ("sub_id", write f.did.subId)]

/-! What a protocol reports -/

def QueryHandle.toJson (handle : QueryHandle) : Json := ofString ("#" ++ toString handle.toNat)

def CompletionStatus.name : CompletionStatus → String
  | .answered => "Answered"
  | .answeredWithError => "AnsweredWithError"
  | .timedOut => "TimedOut"
  | .cancelled => "Cancelled"

def ProtocolEvent.toJson : ProtocolEvent → Json
  | .completed handle status response =>
    ofFields
      [("handle", handle.toJson), ("status", ofString status.name),
       ("response", writeOption write response)]
  | .unsolicited frame => ofFields [("unsolicited", write frame)]

def codeJson (code : Int) : Json := ofFields [("code", ofInt code)]

def QueryStart.toJson : QueryStart → Json
  | .waiting handle => handle.toJson
  | .sent => .null
  | .refused code => codeJson code
  | .abort => (Halt.abort : Halt Unit).toJson fun _ => .null

/-! What a caller gets -/

def QueryStatus.name : QueryStatus → String
  | .sent => "Sent"
  | .answered => "Answered"
  | .answeredWithError => "AnsweredWithError"

def QueryReply.toJson (r : QueryReply) : Json :=
  ofFields
    [("status", ofString r.status.name), ("elapsed", ofNat r.elapsed.millis),
     ("response", writeOption write r.response)]

def Delivery.name : Delivery → String
  | .queued => "ok"
  | .full => "full"
  | .closed => "closed"

end HomeGateway
