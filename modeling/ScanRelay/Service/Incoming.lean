import ScanRelay.Json.Inspect
import ScanRelay.Service.Server

/-!
# Incoming messages

An editor sends requests, replies to our own requests, and notifications. What a message is shows
in its members: a request has a name and a method, a reply a name only, a notification a method.
-/

namespace ScanRelay

inductive Incoming
  | request (r : Request)
  /-- Replies are passed over. -/
  | reply
  | notification (n : Notification)

namespace Incoming

def requestSchema : Schema :=
  .record "Request" <|
    .ofRequired [("id", .numberOrText "IdRepr"), ("method", .text)] <|
    .cons "params" .default .any .nil

def replySchema : Schema :=
  .record "Response" <|
    .ofRequired [("id", .numberOrText "IdRepr")] <|
    .ofOptional [("result", .any), ("error", .record "ResponseError" <|
      .ofRequired [("code", .int32), ("message", .text)] <| .ofOptional [("data", .any)])]

def notificationSchema : Schema :=
  .record "Notification" <|
    .ofRequired [("method", .text)] <| .cons "params" .default .any .nil

def requestOfJson (j : Json) : Request where
  id := NumberOrText.ofJson (j.field 0 "id")
  method := (j.field 1 "method").asText
  params := j.field 2 "params"

def notificationOfJson (j : Json) : Notification where
  method := (j.field 0 "method").asText
  params := j.field 1 "params"

/-- Reads a message as the first of the three that it fits. -/
def ofJson? (j : Json) : Option Incoming :=
  match requestSchema.decode requestOfJson j with
  | .ok r => some (.request r)
  | .error _ =>
    match replySchema.check j with
    | .ok _ => some .reply
    | .error _ =>
      match notificationSchema.decode notificationOfJson j with
      | .ok n => some (.notification n)
      | .error _ => none

end Incoming

/-- The form in which a refusal shows the name of a request. -/
def NumberOrText.inspect : NumberOrText → String
  | .number n => "RequestId(I32(" ++ toString n ++ "))"
  | .text s => "RequestId(String(" ++ Quoted.quote s ++ "))"

/-- The form in which a refusal shows a request. -/
def Request.inspect (r : Request) : String :=
  "Request \x7b id: " ++ r.id.inspect ++ ", method: " ++ Quoted.quote r.method ++ ", params: "
    ++ r.params.inspect ++ " \x7d"

end ScanRelay
