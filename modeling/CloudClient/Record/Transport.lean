import CloudClient.Record.Field
import CloudClient.Signature.Signed
import CloudClient.Transport.State

/-!
# Records of the transport

A request as an object, before and after it is signed; what the journal of a transport holds, as
objects; and the answers of a session read from objects.
-/

namespace CloudClient

/-! ## Requests -/

/-- The record of a body: its kind and length, whether it can be sent again, and its bytes or the
place where its stream starts. -/
def Body.record (b : Body) : Json :=
  let rest :=
    match b with
    | .empty => []
    | .bytes data => [("hex", Json.ofBytes data)]
    | .stream p => [("start", Json.ofInt? p.start)]
  .object
    ([("kind", .text b.kindName), ("length", .int b.length),
      ("replayable", .bool b.isReplayable)] ++ rest)

/-- The record of a query: a bare name has null. -/
def Query.record (q : Query) : Json := .object (q.entries.map fun (k, v) => (k, .ofText? v))

/-- The record of a request. -/
def Request.record (r : Request) : Json :=
  .object
    [("operation", .text r.operation), ("method", .text r.method.name), ("path", .text r.path),
      ("resource", .text r.resource), ("query", Query.record r.query),
      ("headers", .ofTexts r.headers), ("body", r.body.record),
      ("form", (r.form.map Json.ofTexts).getD .null), ("idempotent", .bool r.isIdempotent)]

/-- The record of a signed request. -/
def SignedRequest.record (r : SignedRequest) : Json :=
  .object
    [("method", .text r.method.name), ("url", .text r.url), ("headers", .ofTexts r.headers),
      ("body", r.body.record), ("operation", .text r.operation), ("resource", .text r.resource),
      ("idempotent", .bool r.isIdempotent), ("replayable", .bool r.body.isReplayable)]

/-! ## The journal -/

/-- The record of the counters. -/
def TransportMetrics.record (m : TransportMetrics) : Json :=
  .object
    [("requests", .int m.requests), ("attempts", .int m.attempts), ("retries", .int m.retries),
      ("bytes_sent", .int m.bytesSent), ("bytes_received", .int m.bytesReceived),
      ("connection_errors", .int m.connectionErrors), ("timeout_errors", .int m.timeoutErrors),
      ("error_responses", .int m.errorResponses), ("mean_latency_ms", .ofFloat m.meanLatency)]

/-- The record of a warning. -/
def LogWarning.record (w : LogWarning) : Json :=
  .object
    [("logger", .text w.logger), ("message", .text w.message),
      ("context", (Json.ofDict w.context).fixed)]

/-- The record of what a session got of a body. -/
def Cargo.record : Cargo → Json
  | nothing => .null
  | bytes data => .ofBytes data
  | chunks parts => .list (parts.map Json.ofBytes)

/-- The record of time limits. -/
def limitsRecord (total connect read : Json) : Json :=
  .object [("total", total), ("sock_connect", connect), ("sock_read", read)]

/-- The record of an exchange. A request with a live body has limits of its own. -/
def Exchange.record (c : TransportConfig) (e : Exchange) : Json :=
  .object
    [("method", .text e.request.method.name), ("url", .text e.request.url),
      ("headers", .ofTexts e.request.headers), ("body", e.cargo.record),
      ("skip_auto_headers", .list [.text "Content-Type"]),
      ("timeout",
        if e.isLive then limitsRecord .null (.ofFloat c.connectTimeout) (.ofFloat c.requestTimeout)
        else .null),
      ("released", if e.hasResponse then .bool e.isReleased else .null)]

/-- The record of an event of the session. -/
def SessionEvent.record (c : TransportConfig) : SessionEvent → Json
  | closed => .text "closed"
  | opened =>
    .object
      [("connector", .object
          (("limit", .int c.poolSize) ::
            if c.verifiesCertificates then [] else [("ssl", .bool false)])),
        ("headers", .object [("User-Agent", .text "awsrest/1.0.0")]),
        ("auto_decompress", .bool false),
        ("timeout",
          limitsRecord (.ofFloat c.requestTimeout) (.ofFloat c.connectTimeout) .null)]

/-! ## Answers -/

/-- Reads a failure of the session. -/
def SessionFailure.ofRecord (v : Json) : SessionFailure :=
  let text := v.textAt "text"
  match v.textAt "kind" with
  | "timeout" => .timeout
  | "server_timeout" => .serverTimeout text
  | "connection" => .connection text
  | "disconnected" => .disconnected
  | "os" => .system (v.intAt "errno" 104) text
  | "payload" => .payload text
  | "invalid_url" => .invalidUrl text
  | "client" => .protocol text
  | _ => .other text

/-- Reads an answer of the session. -/
def Delivery.ofRecord (v : Json) : Delivery :=
  match v.given? "raise" with
  | some f => { reply := .failure (.ofRecord f) }
  | none =>
    let body := (v.bytesAt "body").toOption.getD []
    let length : Option Int :=
      match v.field? "content_length" with
      | none => some body.length
      | some n => n.integer?
    { reply := .response
        { status := v.intAt "status" 200
          reason := v.textAt "reason"
          headers := (v.field "headers").textPairs
          body, length
          readFailure := (v.given? "read_fail").map .ofRecord } }

end CloudClient
