import LedgerTrust.Crypto.Digest
import LedgerTrust.Codec.Record

/-!
# Schemes

A `Scheme` fixes how values are written before they are hashed or signed, which function hashes
them, and on which side a sibling is added when an inclusion proof is folded. Everything that
is hashed, signed or checked goes through the scheme of the ledger.
-/

namespace LedgerTrust

/-- The canonical form of values. -/
inductive Encoding where
  | json
  | binary
  deriving DecidableEq, Repr

/-- The side on which the siblings of an inclusion proof are added. -/
inductive SiblingOrder where
  /-- The running hash is on the left at every level. -/
  | runningFirst
  /-- Bit `k` of the position tells the side at level `k`: the running hash is on the left
  where it is zero and on the right where it is one. -/
  | indexBits
  deriving DecidableEq, Repr

/-- How values of a ledger are written, hashed and folded. -/
structure Scheme where
  hash : HashFunction
  encoding : Encoding
  siblingOrder : SiblingOrder
  deriving DecidableEq, Repr

def HashFunction.all : List HashFunction := [.sha256, .sha3]

def HashFunction.name : HashFunction → String
  | .sha256 => "sha256"
  | .sha3 => "sha3_256"

def Encoding.all : List Encoding := [.json, .binary]

def Encoding.name : Encoding → String
  | .json => "json"
  | .binary => "bincode"

/-- The canonical form of a value. -/
def Encoding.write {α : Type} (e : Encoding) (c : Codec α) (v : α) : Bytes :=
  match e with
  | .json => c.json v
  | .binary => c.binary v

/-- The value of a canonical form. -/
def Encoding.read? {α : Type} (e : Encoding) (c : Codec α) (b : Bytes) : Option α :=
  match e with
  | .json => c.ofJson? b
  | .binary => c.ofBinary? b

def SiblingOrder.all : List SiblingOrder := [.runningFirst, .indexBits]

def SiblingOrder.name : SiblingOrder → String
  | .runningFirst => "running_first"
  | .indexBits => "index_bits"

namespace Scheme

/-- The scheme of the first version of the protocol, which is also that of a ledger that names
none. -/
def version1 : Scheme := ⟨.sha256, .json, .runningFirst⟩

def codec : Codec Scheme :=
  .record (fun s => (s.hash, s.encoding, s.siblingOrder, ())) (fun (h, e, o, _) => ⟨h, e, o⟩)
    (.defaulted "hash" (.enumeration HashFunction.all HashFunction.name) version1.hash
      (.defaulted "encoding" (.enumeration Encoding.all Encoding.name) version1.encoding
        (.defaulted "sibling_order" (.enumeration SiblingOrder.all SiblingOrder.name)
          version1.siblingOrder .done)))

/-- The content type of a body written under the scheme. -/
def contentType (s : Scheme) : String :=
  match s.encoding with
  | .json => "application/json"
  | .binary => "application/octet-stream"

/-- The digest of a byte string. -/
def digest (s : Scheme) (b : Bytes) : Digest := s.hash.digest b

/-- What is hashed to combine two digests, in this order. -/
def pairBytes (left right : Digest) : Bytes := left.bytes ++ right.bytes

/-- The combination of two digests, in this order. -/
def hashPair (s : Scheme) (left right : Digest) : Digest := s.digest (pairBytes left right)

/-- The canonical bytes of a value. -/
def encode {α : Type} (s : Scheme) (c : Codec α) (v : α) : Bytes := s.encoding.write c v

/-- The value of canonical bytes. -/
def decode? {α : Type} (s : Scheme) (c : Codec α) (b : Bytes) : Option α :=
  s.encoding.read? c b

/-- The digest of the canonical bytes of a value. -/
def hashValue {α : Type} (s : Scheme) (c : Codec α) (v : α) : Digest := s.digest (s.encode c v)

end Scheme

end LedgerTrust
