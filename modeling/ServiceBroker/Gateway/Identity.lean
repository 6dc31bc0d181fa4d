import ServiceBroker.Gateway.ApiError

/-!
# Who is calling

The identity of a caller is the common name of its certificate. The server gives it with the request
if it has checked the certificate itself; else it stands in a header field that a terminator in
front of the gateway sets. Blanks around the name do not count.
-/

namespace ServiceBroker.Gateway

/-- The text of a header value, of visible ASCII characters, blanks and tabs only. -/
def headerText? (value : Bytes) : Option String :=
  if value.all fun b => (0x20 ≤ b && b < 0x7f) || b == Ascii.tab then Bytes.toString? value
  else none

/-- The identity in a common name, blanks around it aside. -/
def identityOf (commonName : String) : Except ApiError Urn :=
  (Urn.ofCommonName (Text.trim commonName)).mapError .ofIdentity

/-- The identity of a caller; the common name that the server gives wins over the header field. -/
def callerOf (header : String) (request : Http.Request) : Except ApiError Urn :=
  match request.peerName with
  | some name => identityOf name
  | none =>
    match request.header? (Text.toLower header) with
    | none => .error .unauthorized
    | some value =>
      match headerText? value with
      | none => .error (.forbidden "identity header is not valid UTF-8")
      | some name => identityOf name

end ServiceBroker.Gateway
