import ConfigRollout.Text.Escaped

/-!
# Errors of the API client

A request to the API server fails in one of four ways: it cannot be built (an empty name, or
a URI that does not read), the transport itself fails (the in-memory store reports its
injected failures this way), the server answers with an error status, or a successful answer
does not read as the expected object. An error status carries
the server's error response: a status, a message, a reason and a code. When the body of the
answer is no error response, the client makes one from the HTTP status, the body text (quoted)
and the reason "Failed to parse error data".

`ApiError.message` is the text of each; an error response is shown with its fields in the
client's record notation, strings escaped.
-/

set_option autoImplicit false

namespace ConfigRollout

/-- The error response of the API server. -/
structure ErrorResponse where
  /-- The status, e.g. `Failure`. -/
  status : String
  /-- The human-readable message. -/
  message : String
  /-- The machine-readable reason, e.g. `NotFound`. -/
  reason : String
  /-- The HTTP code the response stands for. -/
  code : Nat
  deriving DecidableEq, Repr, Inhabited

/-- The error response in record notation. -/
def ErrorResponse.record (r : ErrorResponse) : String :=
  "ErrorResponse \x7b status: " ++ Text.escaped r.status ++ ", message: " ++
    Text.escaped r.message ++ ", reason: " ++ Text.escaped r.reason ++ ", code: " ++
    toString r.code ++ " \x7d"

/-- How a request to the API failed. -/
inductive ApiError where
  /-- The request could not be built; nothing was sent. -/
  | build (text : String)
  /-- The transport failed. -/
  | service (text : String)
  /-- The server answered with an error. -/
  | response (r : ErrorResponse)
  /-- A successful answer did not read as the expected object. -/
  | decode (text : String)
  deriving DecidableEq, Repr, Inhabited

/-- The text of a failed request. -/
def ApiError.message : ApiError → String
  | .build text => "Failed to build request: " ++ text
  | .service text => "ServiceError: " ++ text
  | .response r => "ApiError: " ++ r.message ++ ": " ++ r.reason ++ " (" ++ r.record ++ ")"
  | .decode text => "Error deserializing response: " ++ text

end ConfigRollout
