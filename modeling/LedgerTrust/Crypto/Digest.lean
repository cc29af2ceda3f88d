import LedgerTrust.Crypto.Sha256
import LedgerTrust.Crypto.Sha3
import LedgerTrust.Codec.Basic
import LedgerTrust.Data.Hex
import LedgerTrust.Data.Base64

/-!
# Digests

A `Digest` is a string of 32 bytes, and `HashFunction.digest` is the digest of a byte string
under one of two hash functions. Digests are written as hexadecimal strings.
-/

namespace LedgerTrust

/-- A hash value. -/
structure Digest where
  bytes : Bytes
  length_bytes : bytes.length = 32
  deriving DecidableEq

namespace Digest

/-- The digest with the given bytes, if there are 32 of them. -/
def ofBytes? (b : Bytes) : Option Digest :=
  if h : b.length = 32 then some ⟨b, h⟩ else none

theorem ofBytes?_bytes (d : Digest) :
  ofBytes? d.bytes = some d
  := by
  simp [ofBytes?, d.length_bytes]

theorem ext {d e : Digest} (h : d.bytes = e.bytes) :
  d = e
  := by
  cases d
  cases e
  cases h
  rfl

end Digest

/-- The hash functions. -/
inductive HashFunction where
  | sha256
  | sha3
  deriving DecidableEq, Repr

/-- The digest of a byte string. -/
def HashFunction.digest (f : HashFunction) (b : Bytes) : Digest :=
  match f with
  | .sha256 => ⟨Sha256.hash b, Sha256.length_hash b⟩
  | .sha3 => ⟨Sha3.hash b, Sha3.length_hash b⟩

namespace Codec

/-- Byte strings as hexadecimal strings. -/
def hexBytes : Codec Bytes := literal Hex.encode Hex.decode?

/-- Byte strings as base64 strings. -/
def base64Bytes : Codec Bytes := literal Base64.encode Base64.decode?

/-- Digests as hexadecimal strings. -/
def digest : Codec Digest :=
  literal (fun d => Hex.encode d.bytes) fun t => (Hex.decode? t).bind Digest.ofBytes?

end Codec

end LedgerTrust
