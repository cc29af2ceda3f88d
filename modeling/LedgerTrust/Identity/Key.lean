import LedgerTrust.Crypto.Ed25519
import LedgerTrust.Data.Hex
import LedgerTrust.Text.Blank
import LedgerTrust.Text.Quoted

/-!
# Keys as texts

Public keys and signing seeds are given as 64 hexadecimal digits, with blank characters around
them allowed. `PublicKey.parse` also asks that the bytes are those of a point of the curve.
-/

namespace LedgerTrust

/-- Why a text is no key. -/
inductive KeyError where
  | digits (cause : Hex.Error)
  | publicKeyLength
  | seedLength
  | notAPoint
  deriving DecidableEq, Repr

def KeyError.message : KeyError → String
  | .digits .oddLength => "Odd number of digits"
  | .digits (.badDigit byte position) =>
    "Invalid character " ++ Text.quotedChar (Char.ofNat byte.toNat) ++ " at position "
      ++ toString position
  | .publicKeyLength => "public key must be 32 bytes"
  | .seedLength => "signing seed must be 32 bytes"
  | .notAPoint => "signature error: Cannot decompress Edwards point"

/-- The bytes of a text of hexadecimal digits with blank characters around it. -/
def keyBytes (text : String) : Except KeyError Bytes :=
  (Hex.decode (Bytes.ofText (Text.trim text))).mapError .digits

/-- A key that signatures are checked under. -/
structure PublicKey where
  bytes : Bytes
  deriving DecidableEq, Repr

/-- The public key that a text stands for. -/
def PublicKey.parse (text : String) : Except KeyError PublicKey := do
  let b ← keyBytes text
  if b.length ≠ 32 then .error .publicKeyLength
  else if (Ed25519.Point.decompress? b).isNone then .error .notAPoint
  else .ok ⟨b⟩

/-- The signing seed that a text stands for. -/
def parseSeed (text : String) : Except KeyError Bytes := do
  let b ← keyBytes text
  if b.length ≠ 32 then .error .seedLength else .ok b

end LedgerTrust
