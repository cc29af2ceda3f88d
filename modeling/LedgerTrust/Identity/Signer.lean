import LedgerTrust.Identity.KeyTable

/-!
# Signing users

A `Signer` is a user with a signing seed. Its signatures are accepted under its public key, and
its description shows the public key only.
-/

namespace LedgerTrust

/-- A user who signs. -/
structure Signer where
  userId : String
  seed : Bytes

namespace Signer

/-- The signer of a user whose seed is given as a text. -/
def ofText (userId seed : String) : Except SignatureError Signer :=
  match parseSeed seed with
  | .ok b => .ok ⟨userId, b⟩
  | .error cause => .error (.invalidKey cause)

/-- The signer of a user whose seed is the content of a file; there may be no such file, or
its content may be no text. -/
def ofFile (userId path : String) (content : Option Bytes) : Except SignatureError Signer :=
  match content.bind Bytes.toText? with
  | some text => ofText userId text
  | none => .error (.keyFile path)

def publicKey (s : Signer) : PublicKey := ⟨Ed25519.publicKey s.seed⟩

/-- The signature of a message. -/
def sign (s : Signer) (message : Bytes) : Bytes := Ed25519.sign s.seed message

/-- The description of a signer, which does not show the seed. -/
def description (s : Signer) : String :=
  "UserSigner \x7b user_id: " ++ Text.quoted s.userId ++ ", public_key: "
    ++ Text.quoted (Hex.text s.publicKey.bytes) ++ " \x7d"

end Signer

end LedgerTrust
