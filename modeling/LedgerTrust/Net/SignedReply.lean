import LedgerTrust.Identity.KeyTable
import LedgerTrust.Ledger.Response

/-!
# Signed replies

The body of a reply pairs a response with the signature of the node that answers. The signature
covers the response byte for byte as it stands in the body, so a `SignedReply` keeps these bytes.
`authenticate` accepts a body if the response names the node that was asked, the signature is
one of this node, and the response can be read; nothing but the name is read before the
signature is checked.
-/

namespace LedgerTrust

/-- The text of a response, as it stands, and a signature of it. -/
structure SignedReply where
  response : Bytes
  signature : Bytes
  deriving DecidableEq

namespace SignedReply

/-- JSON texts as they stand; every byte of one belongs to UTF-8. -/
def verbatim : Codec Bytes where
  json t := t
  json? t := if (Bytes.toText? t).isSome then some t else none
  binary t := Codec.lengthAndBytes t
  binary? b := do
    let (n, r) ← Codec.takeWord? 8 b
    r.split? n

def codec : Codec SignedReply :=
  .record (fun v => (v.response, v.signature, ())) (fun (r, s, _) => ⟨r, s⟩)
    (.required "response" verbatim (.required "signature" .base64Bytes .done))

end SignedReply

/-- Responses of which only the name of the node is read. -/
def Response.nodeCodec : Codec String :=
  .record (fun n => (n, ())) (fun (n, _) => n) (.required "header" Response.headerCodec .done)

/-- What stands in messages for the reason for which a JSON text cannot be read. -/
def unreadableText : String := "<json>"

/-- Why a reply is not accepted. -/
inductive AuthenticationError where
  | unreadable
  | unexpectedNode (expected declared : String)
  | untrusted (node : String) (cause : SignatureError)
  deriving DecidableEq, Repr

namespace AuthenticationError

/-- The node that the reply declares, where it declares one. -/
def node? : AuthenticationError → Option String
  | .unreadable => none
  | .unexpectedNode _ declared => some declared
  | .untrusted node _ => some node

def message : AuthenticationError → String
  | .unreadable => "malformed response: " ++ unreadableText
  | .unexpectedNode expected declared =>
    "responding node " ++ declared ++ " is not the contacted replica " ++ expected
  | .untrusted node cause =>
    "signature verification failed for node " ++ node ++ ": " ++ cause.message

end AuthenticationError

/-- The response in the body of a reply from the node `expected`. -/
def authenticate {α : Type} (verify : Verifier) (expected : String) (c : Codec (Response α))
    (body : Bytes) : Except AuthenticationError (Response α) :=
  match SignedReply.codec.ofJson? body with
  | none => .error .unreadable
  | some reply =>
    match Response.nodeCodec.ofJson? reply.response with
    | none => .error .unreadable
    | some declared =>
      if declared ≠ expected then .error (.unexpectedNode expected declared)
      else
        match verify declared reply.response reply.signature with
        | .error cause => .error (.untrusted declared cause)
        | .ok () =>
          match c.ofJson? reply.response with
          | none => .error .unreadable
          | some response => .ok response

end LedgerTrust
