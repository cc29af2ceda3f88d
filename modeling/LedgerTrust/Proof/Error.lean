/-!
# Proofs that cannot be evaluated

A proof that is evaluated is right or wrong; a `ProofError` says why one could not be
evaluated at all.
-/

namespace LedgerTrust

/-- Why a proof cannot be evaluated. -/
inductive ProofError where
  | emptyProof
  | indexOutOfRange (index : UInt64) (count : Nat)
  | emptyPath
  | singleBlockPath (block : UInt64)
  deriving DecidableEq, Repr

def ProofError.message : ProofError → String
  | .emptyProof => "proof contains no hashes"
  | .indexOutOfRange index count =>
    "transaction index " ++ toString index.toNat ++ " out of range, block holds "
      ++ toString count ++ " transactions"
  | .emptyPath => "impossible to validate empty path in ledger"
  | .singleBlockPath block =>
    "ledger path composed from single block " ++ toString block.toNat
      ++ " is impossible to validate"

end LedgerTrust
