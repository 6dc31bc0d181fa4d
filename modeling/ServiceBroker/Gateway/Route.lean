import ServiceBroker.Gateway.ApiError
import ServiceBroker.Http.Path

/-!
# Routes of the gateway

Which resource a path names and which operation a method asks of it. Paths are told apart before
they are percent-decoded; only the names in a subscription path are decoded, and they have to be
text.
-/

namespace ServiceBroker.Gateway

/-- What a path names. -/
inductive Resource where
  | services
  | subscriptions
  /-- The subscriptions of the caller to a namespace, as written in the path. -/
  | namespaceScope (ns : Bytes)
  /-- The subscriptions of the caller to a service, as written in the path. -/
  | serviceScope (ns id : Bytes)
  | notifications
  | health
  | metrics
deriving DecidableEq, Repr

/-- What a client asks of a resource in its own name. -/
inductive ClientOperation where
  | listServices
  | registerService
  | deregisterService
  | listSubscriptions
  | removeAllSubscriptions
  | subscribe
  | unsubscribe
  | pushNotification
  | openLiveChannel
deriving DecidableEq, Repr

/-- What is asked of a resource. -/
inductive Operation where
  /-- Something that a client asks in its own name. -/
  | ofClient (operation : ClientOperation)
  | health
  | metrics
deriving DecidableEq, Repr

namespace Resource

/-- The resource that a path names. The last name in a subscription path is not empty. -/
def ofPath? (path : Bytes) : Option Resource :=
  let named (s : String) (b : Bytes) : Bool := b == Bytes.ofString s
  match Http.segments? path with
  | some [a] =>
    if named "services" a then some .services
    else if named "subscriptions" a then some .subscriptions
    else if named "notifications" a then some .notifications
    else if named "health" a then some .health
    else if named "metrics" a then some .metrics
    else none
  | some [a, ns] =>
    if named "subscriptions" a && !ns.isEmpty then some (.namespaceScope ns) else none
  | some [a, ns, id] =>
    if named "subscriptions" a && !id.isEmpty then some (.serviceScope ns id) else none
  | _ => none

/-- The methods that a resource has, each with the operation it asks for. -/
def operations : Resource → List (String × Operation)
  | .services =>
    [("GET", .ofClient .listServices), ("POST", .ofClient .registerService),
      ("DELETE", .ofClient .deregisterService)]
  | .subscriptions =>
    [("GET", .ofClient .listSubscriptions), ("DELETE", .ofClient .removeAllSubscriptions)]
  | .namespaceScope _ | .serviceScope _ _ =>
    [("POST", .ofClient .subscribe), ("DELETE", .ofClient .unsubscribe)]
  | .notifications =>
    [("GET", .ofClient .openLiveChannel), ("POST", .ofClient .pushNotification)]
  | .health => [("GET", .health)]
  | .metrics => [("GET", .metrics)]

/-- The operation that a method asks for; `HEAD` asks for what `GET` does. -/
def operation? (r : Resource) (method : String) : Option Operation :=
  r.operations.lookup (if method = "HEAD" then "GET" else method)

/-- The methods that a resource allows, as they are listed to a client. -/
def allow (r : Resource) : String :=
  ",".intercalate <| r.operations.flatMap fun (method, _) =>
    if method = "GET" then ["GET", "HEAD"] else [method]

/-- The text that a name in a path stands for. -/
def decodeName (name : String) (written : Bytes) : Except Http.Response String :=
  match (Http.percentDecode written).toString? with
  | some s => .ok s
  | none => .error (.text 400 ("Invalid URL: Invalid UTF-8 in `" ++ name ++ "`"))

/-- The scope that a subscription path names. -/
def scope : Resource → Except Http.Response Scope
  | .namespaceScope ns => return .namespaceWide (← decodeName "namespace" ns)
  | .serviceScope ns id => do
    let ns ← decodeName "namespace" ns
    return .service ns (← decodeName "id" id)
  | _ => .error (.empty 404)

end Resource

end ServiceBroker.Gateway
