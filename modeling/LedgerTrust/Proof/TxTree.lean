import LedgerTrust.Ledger.Response

/-!
# Trees over the transactions of a block

A `TxTree` is a binary tree over a non-empty list of leaves, built level by level: neighbours
are combined from left to right, and a last node without a neighbour is combined with itself.
`TxTree.proof?` lists a leaf and its siblings on the way up; under the order that adds every
sibling on the right, a leaf has a proof only if it stands on the left at every level.
-/

namespace LedgerTrust

/-- The leaves of a block with transactions, the first one apart. -/
structure TxTree where
  scheme : Scheme
  first : Digest
  rest : List Digest

namespace TxTree

/-- The level above a level. -/
def parents (s : Scheme) : List Digest → List Digest
  | [] => []
  | [a] => [s.hashPair a a]
  | a :: b :: r => s.hashPair a b :: parents s r

theorem length_parents (s : Scheme) (level : List Digest) :
  (parents s level).length = (level.length + 1) / 2
  := by
  induction level using parents.induct with
  | case1 => simp [parents]
  | case2 => simp [parents]
  | case3 a b r ih =>
    simp only [parents, List.length_cons, ih]
    omega

/-- The root over a level, whose first node is given apart. -/
def rootOver (s : Scheme) (first : Digest) (rest : List Digest) : Digest :=
  match rest with
  | [] => first
  | b :: r => rootOver s (s.hashPair first b) (parents s r)
termination_by rest.length
decreasing_by
  rw [length_parents]
  simp
  omega

/-- The tree over a list of leaves; there is none over no leaves. -/
def build? (s : Scheme) : List Digest → Option TxTree
  | [] => none
  | first :: rest => some ⟨s, first, rest⟩

/-- The leaves in order. -/
def leaves (t : TxTree) : List Digest := t.first :: t.rest

def root (t : TxTree) : Digest := rootOver t.scheme t.first t.rest

/-- The place of the node that a node is combined with. -/
def partner (position : Nat) : Nat := if position % 2 = 0 then position + 1 else position - 1

/-- The siblings of the node at a position and of the nodes above it, up to the root. -/
def siblings? (s : Scheme) (position : Nat) (level : List Digest) : Option (List Digest) :=
  match _h : level with
  | [] | [_] => some []
  | _ :: _ :: _ =>
    if position % 2 = 1 ∧ s.siblingOrder = .runningFirst then none
    else do
      let sibling ← level[partner position]? <|> level[position]?
      let above ← siblings? s (position / 2) (parents s level)
      return sibling :: above
termination_by level.length
decreasing_by
  subst _h
  rw [length_parents]
  simp
  omega

/-- The proof of the leaf at an index. -/
def proof? (t : TxTree) (index : Nat) : Option InclusionProof := do
  let leaf ← t.leaves[index]?
  let siblings ← siblings? t.scheme index t.leaves
  return ⟨leaf :: siblings⟩

end TxTree

end LedgerTrust
