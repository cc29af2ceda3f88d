import LedgerTrust.Ledger.Response
import LedgerTrust.Proof.Error

/-!
# Paths of headers

`LedgerPath.verify` checks that each header of a path but the last carries the digest of the
next one among its skip links. A path of fewer than two headers proves nothing and is refused.
-/

namespace LedgerTrust

/-- Whether each header carries the digest of the next one. -/
def linked (s : Scheme) : List BlockHeader → Bool
  | h :: next :: r => h.skipLinks.contains (next.hash s) && linked s (next :: r)
  | _ => true

namespace LedgerPath

/-- Whether the headers are linked from the newest to the oldest. -/
def verify (p : LedgerPath) (s : Scheme) : Except ProofError Bool :=
  match p.headers with
  | [] => .error .emptyPath
  | [h] => .error (.singleBlockPath h.number)
  | headers => .ok (linked s headers)

def newest? (p : LedgerPath) : Option BlockHeader := p.headers.head?

def oldest? (p : LedgerPath) : Option BlockHeader := p.headers.getLast?

end LedgerPath

end LedgerTrust
