import LedgerTrust.Json.Container

/-!
# Rejections

A server that does not carry out a request says why in a JSON record with one field, which is
named `error` or `Error`. `rejectionMessage` is what is reported of the body of such a reply.
-/

namespace LedgerTrust

/-- The text in the record of an error: an object with the field once, whatever other members
it has, or an array of the field alone. -/
def errorText? (body : Bytes) : Option String := do
  let t ← Json.document? body
  match Json.members? t with
  | some ms =>
    match ms.filter fun m => m.1 = "error" ∨ m.1 = "Error" with
    | [(_, value)] => Json.text? value
    | _ => none
  | none =>
    match ← Json.elements? t with
    | [value] => Json.text? value
    | _ => none

/-- The message of a rejection with the given body. -/
def rejectionMessage (body : Bytes) : String :=
  if body.isEmpty then ""
  else (errorText? body).getD "(failed to parse the server's error message)"

end LedgerTrust
