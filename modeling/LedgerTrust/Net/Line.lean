import LedgerTrust.Data.Duration
import LedgerTrust.Url.Basic

/-!
# The line to the replicas

A `Line` holds the deliveries that are still to come, one for each request in order, the time
that has passed, and the requests that were sent. `Line.exchange` sends a request and waits for
its delivery, at most until a deadline: a delivery that arrives exactly then is in time, and one
that arrives later is lost. A request for which no delivery is left cannot be sent.
-/

namespace LedgerTrust

/-- At which point a request over HTTP failed, with the report of the HTTP client where it depends
on more than that. -/
inductive HttpFailure where
  | building
  /-- There is no connection to the server. -/
  | connecting (report : String)
  /-- The connection was lost, or broke a rule of HTTP, before the reply was complete. -/
  | exchanging (report : String)
  | decodingBody
  deriving DecidableEq, Repr

namespace HttpFailure

/-- Whether the request failed before any of it could be sent. -/
def neverSent : HttpFailure → Bool
  | .building => true
  | .connecting _ => true
  | .exchanging _ => false
  | .decodingBody => false

def report : HttpFailure → String
  | .building => "builder error"
  | .connecting report => report
  | .exchanging report => report
  | .decodingBody => "error decoding response body"

end HttpFailure

/-- Why a request has no reply. -/
inductive TransportError where
  | http (failure : HttpFailure)
  | invalidUrl (reason : String)
  deriving DecidableEq, Repr

namespace TransportError

/-- Whether the request certainly did not reach the server. -/
def neverSent : TransportError → Bool
  | .http failure => failure.neverSent
  | .invalidUrl _ => true

def message : TransportError → String
  | .http failure => "HTTP request failed: " ++ failure.report
  | .invalidUrl reason => "invalid url: " ++ reason

/-- The failure of a request for which there is no delivery. -/
def unreachable : TransportError := .invalidUrl "unreachable"

end TransportError

/-- The status and the body of a reply. -/
structure Reply where
  status : Nat
  body : Bytes
  deriving DecidableEq

/-- The status of a request that was carried out. -/
def Reply.okStatus : Nat := 200

/-- The status of a request that was accepted and is not carried out yet. -/
def Reply.acceptedStatus : Nat := 202

/-- What is sent to a replica. -/
inductive Request where
  /-- An envelope; the server is asked to wait so long for its outcome if a time is given. -/
  | submit (url : Url) (contentType : String) (serverTimeout : Option Duration) (body : Bytes)
  /-- A question of a user, with the user's signature. -/
  | query (url : Url) (userId : String) (signature : Bytes)
  deriving DecidableEq

/-- What a request leads to, and after how many nanoseconds. -/
structure Delivery where
  outcome : Except TransportError Reply
  delay : Nat

/-- The line to the replicas. -/
structure Line where
  /-- The deliveries to come. -/
  deliveries : List Delivery
  /-- The time in nanoseconds. -/
  clock : Nat
  /-- The requests that were sent, in order. -/
  sent : List Request

namespace Line

/-- A line on which nothing was sent yet. -/
def start (deliveries : List Delivery) : Line := ⟨deliveries, 0, []⟩

/-- The delivery for the next request. -/
def next (l : Line) : Delivery := l.deliveries.headD ⟨.error .unreachable, 0⟩

/-- Whether a delay ends by a deadline. -/
def inTime (delay : Nat) : Option Nat → Bool
  | none => true
  | some deadline => delay ≤ deadline

/-- The time spent waiting for what comes after a delay. -/
def waited (delay : Nat) : Option Nat → Nat
  | none => delay
  | some deadline => min delay deadline

/-- What a request leads to, if it comes in time, and the line after the wait for it. -/
def exchange (l : Line) (request : Request) (deadline : Option Nat) :
    Option (Except TransportError Reply) × Line :=
  (if inTime l.next.delay deadline then some l.next.outcome else none,
    { deliveries := l.deliveries.tail
      clock := l.clock + waited l.next.delay deadline
      sent := l.sent ++ [request] })

end Line

end LedgerTrust
