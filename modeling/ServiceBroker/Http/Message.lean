import ServiceBroker.Json.Printer

/-!
# HTTP messages

Requests as the gateway gets them from the server, and the answers to them.
-/

namespace ServiceBroker.Http

/-- A request. -/
structure Request where
  /-- Method, in capitals. -/
  method : String
  /-- Path with query and fragment, as sent. -/
  path : Bytes
  /-- Header fields in their order; the names in small letters. -/
  headers : List (String × Bytes) := []
  /-- Common name of a certificate that the server itself has checked. -/
  peerName : Option String := none
  /-- Body. -/
  body : Bytes := []
  /-- How long after the head of the request the last byte comes that is read of its body, in
  milliseconds. -/
  bodyDelay : Nat := 0

/-- An answer. -/
structure Response where
  /-- Status code. -/
  status : Nat
  /-- Type of the body, if there is one. -/
  contentType : Option String := none
  /-- Body. -/
  body : Bytes := []
  /-- Methods that the resource allows. -/
  allow : Option String := none
deriving DecidableEq

namespace Response

/-- The type of JSON bodies. -/
def jsonType : String := "application/json"

/-- The type of plain texts. -/
def textType : String := "text/plain; charset=utf-8"

/-- An answer without a body. -/
def empty (status : Nat) : Response := { status }

/-- An answer in JSON. -/
def json (status : Nat) (value : Json.Value) : Response :=
  { status, contentType := some jsonType, body := value.print }

/-- An answer in plain text. -/
def text (status : Nat) (s : String) : Response :=
  { status, contentType := some textType, body := Bytes.ofString s }

end Response

namespace Request

/-- The first value of a header field. -/
def header? (r : Request) (name : String) : Option Bytes := r.headers.lookup name

end Request

end ServiceBroker.Http
