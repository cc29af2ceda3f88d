import LedgerTrust.Codec.Record
import LedgerTrust.Net.Line

/-!
# Replicas

A `Replica` is a node that requests are sent to, with the name under which it answers and the
URL that request paths are relative to. `ReplicaPolicy.select` picks the replica of a request:
always the first one, or one after the other and then again from the first.
-/

namespace LedgerTrust

/-- A node that requests are sent to. -/
structure Replica where
  id : String
  url : Url
  deriving DecidableEq

namespace Replica

/-- The replica with the URL of a text. -/
def ofText (id url : String) : Except Url.ParseError Replica := (Url.parse url).map (Replica.mk id)

/-- The URL of a request path. -/
def endpoint (r : Replica) (path : String) : Except TransportError Url :=
  match r.url.join path with
  | .ok url => .ok url
  | .error e => .error (.invalidUrl (path ++ ": " ++ e.message))

/-- The endpoint of a path is what the path is joined to. -/
theorem endpoint_eq_ok_iff {r : Replica} {path : String} {url : Url} :
  r.endpoint path = .ok url ↔ r.url.join path = .ok url
  := by
  unfold endpoint
  cases r.url.join path with
  | ok u => simp
  | error e => simp

/-- A path without endpoint is found before anything is sent. -/
theorem neverSent_of_endpoint {r : Replica} {path : String} {cause : TransportError}
    (h : r.endpoint path = .error cause) :
  cause.neverSent = true
  := by
  unfold endpoint at h
  split at h
  · cases h
  · cases h
    rfl

end Replica

/-- How the replica of a request is picked. -/
inductive ReplicaPolicy where
  | firstAvailable
  | roundRobin
  deriving DecidableEq, Repr

namespace ReplicaPolicy

def all : List ReplicaPolicy := [.firstAvailable, .roundRobin]

def name : ReplicaPolicy → String
  | .firstAvailable => "first_available"
  | .roundRobin => "round_robin"

def codec : Codec ReplicaPolicy := .enumeration all name

/-- The replica whose turn it is, and the turn after it. Turns are counted where they matter:
among some replicas, one after the other. -/
def select (p : ReplicaPolicy) (turn : UInt64) (replicas : List Replica) :
    Option Replica × UInt64 :=
  match p, replicas with
  | _, [] => (none, turn)
  | .firstAvailable, r :: _ => (some r, turn)
  | .roundRobin, _ :: _ => (replicas[turn.toNat % replicas.length]?, turn + 1)

end ReplicaPolicy

end LedgerTrust
