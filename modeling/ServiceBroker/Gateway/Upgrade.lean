import ServiceBroker.Http.Message

/-!
# Upgrades to WebSocket

A request for a live channel has to ask for an upgrade of its connection. The first thing that is
missing is named in the answer.
-/

namespace ServiceBroker.Gateway

/-- A value in small letters. -/
def lower (value : Bytes) : Bytes := value.map Bytes.toLower

/-- Whether a header field has this value, letters of either case being the same. -/
def headerIs (r : Http.Request) (name value : String) : Bool :=
  (r.header? name).map lower == some (Bytes.ofString value)

/-- Whether a word stands somewhere in the bytes. -/
def holds (word : Bytes) : Bytes → Bool
  | [] => word.isEmpty
  | b :: rest => word.isPrefixOf (b :: rest) || holds word rest

/-- Whether this value stands in that of a header field, letters of either case being the same. -/
def headerHolds (r : Http.Request) (name value : String) : Bool :=
  match r.header? name with
  | none => false
  | some found =>
    (Bytes.toString? found).isSome && holds (Bytes.ofString value) (lower found)

/-- The answer to a request that asks for no proper upgrade, if it is one; `canUpgrade` says
whether the connection can be upgraded at all. -/
def refuseUpgrade? (r : Http.Request) (canUpgrade : Bool) : Option Http.Response :=
  if r.method ≠ "GET" then some (.text 405 "Request method must be `GET`")
  else if !headerHolds r "connection" "upgrade" then
    some (.text 400 "Connection header did not include 'upgrade'")
  else if !headerIs r "upgrade" "websocket" then
    some (.text 400 "`Upgrade` header did not include 'websocket'")
  else if !headerIs r "sec-websocket-version" "13" then
    some (.text 400 "`Sec-WebSocket-Version` header did not include '13'")
  else if (r.header? "sec-websocket-key").isNone then
    some (.text 400 "`Sec-WebSocket-Key` header missing")
  else if !canUpgrade then
    some (.text 426
      "WebSocket request couldn't be upgraded since no upgrade state was present")
  else none

end ServiceBroker.Gateway
