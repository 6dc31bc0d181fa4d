import ServiceBroker.Delivery.Dispatch
import ServiceBroker.Http.Message
import ServiceBroker.Replication.Synchronizer

/-!
# Errors of the gateway

What a client is told when its request is refused, and why the gateway itself fails. A refusal is
answered by its status and a body that holds its message under `error`.
-/

namespace ServiceBroker

/-- Why a request is refused. -/
inductive ApiError where
  /-- The body or the path is malformed. -/
  | badRequest (details : String)
  /-- The caller has presented no identity. -/
  | unauthorized
  /-- The caller has presented an identity that is none. -/
  | forbidden (details : String)
  /-- There is no such resource. -/
  | notFound (resource : String)
  /-- The request is well formed but cannot be honoured. -/
  | unprocessable (details : String)
  /-- The broker has failed. -/
  | internal (details : String)
  /-- Any other refusal. -/
  | other (status : Nat) (text : String)
deriving DecidableEq, Repr

namespace ApiError

/-- The status of a refusal. -/
def status : ApiError → Nat
  | .badRequest _ => 400
  | .unauthorized => 401
  | .forbidden _ => 403
  | .notFound _ => 404
  | .unprocessable _ => 422
  | .internal _ => 500
  | .other status _ => status

/-- What the client is told. -/
def message : ApiError → String
  | .badRequest details => "Bad request: " ++ details
  | .unauthorized => "Client identity required"
  | .forbidden details => details
  | .notFound resource => "Resource not found: " ++ resource
  | .unprocessable details => details
  | .internal details => "Internal error: " ++ details
  | .other _ text => text

/-- The refusal on one line. -/
def display (e : ApiError) : String := "[" ++ toString e.status ++ "] " ++ e.message

/-- The answer to a request that is refused. -/
def response (e : ApiError) : Http.Response :=
  .json e.status (.object [("error", .string e.message)])

/-- The refusal of a caller without a valid identity. -/
def ofIdentity (e : IdentityError) : ApiError := .forbidden e.message

/-- The refusal of an add or remove. -/
def ofSubscription (e : SubscriptionError) : ApiError :=
  match e with
  | .invalidScope _ | .invalidDescriptor _ => .badRequest e.message
  | .limitExceeded _ _ _ => .unprocessable e.message

/-- The refusal of a change that is not replicated. -/
def ofSync (e : SyncError) : ApiError := .internal e.message

/-- The refusal of a notification that cannot be delivered at all. -/
def ofDelivery (e : DeliveryError) : ApiError := .internal e.message

end ApiError

/-- Why the gateway cannot serve. -/
inductive GatewayError where
  | config (reason : String)
  | bind (reason : String)
  | server (reason : String)
deriving DecidableEq, Repr

/-- The wording of a gateway that cannot serve. -/
def GatewayError.message : GatewayError → String
  | .config reason => "configuration error: " ++ reason
  | .bind reason => "server bind error: " ++ reason
  | .server reason => "server error: " ++ reason

end ServiceBroker
