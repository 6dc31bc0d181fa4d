import ServiceBroker.Address
import ServiceBroker.Duration

/-!
# Configuration of the gateway

Where the gateway listens, which header carries the identity of a caller, and the limits under
which it serves. Every field may be absent from the text and then takes its default.
`GatewayConfig.validate` refuses settings under which the gateway could not serve.
-/

namespace ServiceBroker

/-- The largest number of a size or count. -/
def largestSize : Nat := 0xffffffffffffffff

/-- Reads a size or count. -/
def readSize : Json.Reader Nat := Json.readNat largestSize "usize"

/-- The largest port. -/
def largestPort : Nat := 0xffff

/-- Settings of the gateway. -/
structure GatewayConfig where
  /-- Address to listen on. -/
  host : Address := .v4 ⟨0, 0, 0, 0⟩
  /-- Port to listen on. -/
  port : Nat := 8443
  /-- Header that carries the common name of a caller's certificate. -/
  identityHeader : String := "x-ssl-client-cn"
  /-- The largest request body in bytes. -/
  maxBodySize : Nat := 1048576
  /-- How long a request may take. -/
  requestTimeout : Duration := { nanos := 30000000000 }
  /-- Time between pings on a live channel. -/
  pingInterval : Duration := { nanos := 30000000000 }
  /-- Frames that wait on a live channel before pushes to it have to wait. -/
  liveChannelBuffer : Nat := 64
deriving DecidableEq

/-- Settings that the gateway refuses, with the reason. -/
inductive GatewayConfigError where
  | invalidLimit (reason : String)
  | invalidTimeout (reason : String)
  | invalid (reason : String)
deriving DecidableEq, Repr

/-- The wording of refused settings. -/
def GatewayConfigError.message : GatewayConfigError → String
  | .invalidLimit reason => "invalid limit: " ++ reason
  | .invalidTimeout reason => "invalid timeout: " ++ reason
  | .invalid reason => "invalid configuration: " ++ reason

/-- Whether the character may stand in the name of a header. -/
def isHeaderNameChar (c : Char) : Bool := c.isAlphanum || "!#$%&'*+-.^_`|~".toList.contains c

/-- Whether the text is the name of a header. -/
def isHeaderName (s : String) : Bool :=
  !s.isEmpty && s.utf8ByteSize ≤ 65535 && s.toList.all isHeaderNameChar

namespace GatewayConfig

/-- The settings that apply where nothing else is said. -/
instance : Inhabited GatewayConfig := ⟨{}⟩

/-- Refuses settings under which the gateway could not serve. -/
def validate (c : GatewayConfig) : Except GatewayConfigError Unit := do
  if (Text.trim c.identityHeader).isEmpty then
    throw (.invalid "identity_header cannot be empty")
  if !isHeaderName c.identityHeader then
    throw (.invalid ("identity_header is not a valid header name: " ++ c.identityHeader))
  if c.maxBodySize = 0 then throw (.invalidLimit "max_body_size cannot be 0")
  if c.liveChannelBuffer = 0 then throw (.invalidLimit "live_channel_buffer cannot be 0")
  if c.requestTimeout.isZero then throw (.invalidTimeout "request_timeout cannot be 0")
  if c.pingInterval.isZero then throw (.invalidTimeout "ws_ping_interval cannot be 0")

/-- The socket address that the gateway listens on. -/
def socketAddress (c : GatewayConfig) : String := c.host.withPort c.port

/-! ## JSON -/

/-- What has been read of the settings. -/
structure Draft where
  host : Option Address := none
  port : Option Nat := none
  identityHeader : Option String := none
  maxBodySize : Option Nat := none
  requestTimeout : Option Duration := none
  pingInterval : Option Duration := none
  liveChannelBuffer : Option Nat := none

/-- How the settings are read; every field may be absent. -/
def record : Json.Record Draft GatewayConfig where
  name := "GatewayConfig"
  fields := [
    .of "host" Draft.host (fun d v => { d with host := some v }) Address.read,
    .of "port" Draft.port (fun d v => { d with port := some v })
      (Json.readNat largestPort "u16"),
    .of "identity_header" Draft.identityHeader (fun d v => { d with identityHeader := some v })
      Json.readString,
    .of "max_body_size" Draft.maxBodySize (fun d v => { d with maxBodySize := some v }) readSize,
    .of "request_timeout" Draft.requestTimeout (fun d v => { d with requestTimeout := some v })
      Duration.read,
    .of "ws_ping_interval" Draft.pingInterval (fun d v => { d with pingInterval := some v })
      Duration.read,
    .of "live_channel_buffer" Draft.liveChannelBuffer
      (fun d v => { d with liveChannelBuffer := some v }) readSize]
  empty := {}
  finish := fun d =>
    let c : GatewayConfig := default
    .ok {
      host := d.host.getD c.host
      port := d.port.getD c.port
      identityHeader := d.identityHeader.getD c.identityHeader
      maxBodySize := d.maxBodySize.getD c.maxBodySize
      requestTimeout := d.requestTimeout.getD c.requestTimeout
      pingInterval := d.pingInterval.getD c.pingInterval
      liveChannelBuffer := d.liveChannelBuffer.getD c.liveChannelBuffer }

/-- The settings as data. -/
def toJson (c : GatewayConfig) : Json.Value :=
  .object [
    ("host", c.host.toJson),
    ("port", .integer c.port),
    ("identity_header", .string c.identityHeader),
    ("max_body_size", .integer c.maxBodySize),
    ("request_timeout", c.requestTimeout.toJson),
    ("ws_ping_interval", c.pingInterval.toJson),
    ("live_channel_buffer", .integer c.liveChannelBuffer)]

end GatewayConfig

end ServiceBroker
