import LedgerTrust.Proofs.Session.Requests
import LedgerTrust.Proofs.Session.Soundness

/-!
# Full proofs are checked again

The verdict on a full proof depends on nothing but the full proof, the receipt, the anchor and the
envelope: it is verified exactly if its parts pass the checks again. A path that is accepted
between two different blocks has at least two headers, so it can always be evaluated, and only the
inclusion proof may be one that cannot.
-/

namespace LedgerTrust

open Session (genesis)

/-! ### Paths that can be evaluated -/

/-- A path between different blocks can be evaluated. -/
theorem LedgerPath.exists_verify_eq_ok {path : LedgerPath} {first last : UInt64}
    (hne : first ≠ last) (hnewest : path.newest?.map BlockHeader.number = some last)
    (holdest : path.oldest?.map BlockHeader.number = some first) (s : Scheme) :
  ∃ isLinked, path.verify s = .ok isLinked
  := by
  obtain ⟨headers⟩ := path
  match headers with
  | [] => cases hnewest
  | [header] =>
    cases hnewest
    cases holdest
    exact absurd rfl hne
  | header :: next :: r => exact ⟨_, rfl⟩

/-- An inclusion proof that cannot be evaluated is empty or about no transaction of the block. -/
theorem InclusionProof.verify_eq_error {p : InclusionProof} {s : Scheme} {receipt : TxReceipt}
    {envelope : Envelope} {cause : ProofError} (h : p.verify s receipt envelope = .error cause) :
  cause = .emptyProof
    ∨ cause = .indexOutOfRange receipt.index receipt.header.validation.length
  := by
  unfold verify at h
  split at h
  · cases h
    exact .inr rfl
  · cases h
    exact .inl rfl
  · simp only at h
    split at h
    · cases h
    · cases h

namespace Session

open Dialogue

variable {s : Session} {l l' : Link} {e : QueryError}

/-- No query fails for a proof. -/
theorem ask_ne_proof {α : Type} {c : Codec (Response α)} {path : String}
    (h : s.ask c path l = (.error e, l')) (cause : ProofError) :
  e ≠ .proof cause
  := by
  rintro rfl
  obtain ⟨replica, url, haddress⟩ | ⟨e, hnowhere⟩ := s.exists_addresses_or_goesNowhere path l
  · rw [ask_of_addresses haddress] at h
    cases unanswered_of_readReception (congrArg Prod.fst h)
  · rw [ask_of_goesNowhere hnowhere] at h
    cases h
    cases hnowhere

theorem ledgerPath_ne_proof {first last : UInt64} (h : s.ledgerPath first last l = (.error e, l'))
    (cause : ProofError) :
  e ≠ .proof cause
  := by
  unfold ledgerPath at h
  obtain hrange | ⟨_, l₁, -, h⟩ := bind_eq_error.1 h
  · obtain ⟨-, rfl, -⟩ := require_eq_error.1 hrange
    nofun
  obtain hask | ⟨headers, l₂, -, h⟩ := bind_eq_error.1 h
  · exact ask_ne_proof hask cause
  obtain hends | ⟨_, l₃, -, h⟩ := bind_eq_error.1 h
  · obtain ⟨-, rfl, -⟩ := require_eq_error.1 hends
    nofun
  · cases h

/-- A path between two blocks that is missing or gathered does not fail for a proof. -/
theorem path_ne_proof {lower upper : UInt64} {verdict : LedgerPath → Bool → Bool}
    {otherwise : Bool}
    (h : (if lower < upper then do
        let path ← s.ledgerPath lower upper
        let isLinked ← evaluated (path.verify s.scheme)
        return (some path, verdict path isLinked)
      else return (none, otherwise) : Dialogue (Option LedgerPath × Bool)) l = (.error e, l'))
    (cause : ProofError) :
  e ≠ .proof cause
  := by
  split at h
  · next hlt =>
    obtain hpath | ⟨path, l₁, hpath, h⟩ := bind_eq_error.1 h
    · exact ledgerPath_ne_proof hpath cause
    obtain hevaluated | ⟨isLinked, l₂, -, h⟩ := bind_eq_error.1 h
    · obtain ⟨-, -, hnewest, holdest⟩ := ledgerPath_eq_ok.1 hpath
      obtain ⟨isLinked, hverify⟩ :=
        LedgerPath.exists_verify_eq_ok (UInt64.ne_of_lt hlt) hnewest holdest s.scheme
      rw [hverify] at hevaluated
      cases hevaluated
    · cases h
  · cases h

variable {receipt : TxReceipt} {anchor : BlockHeader} {envelope : Envelope}

/-- Of the proofs in a full proof only the inclusion proof may be one that cannot be evaluated. -/
theorem cause_of_fullProof {cause : ProofError}
    (h : s.fullProof receipt anchor envelope l = (.error (.proof cause), l')) :
  cause = .emptyProof
    ∨ cause = .indexOutOfRange receipt.index receipt.header.validation.length
  := by
  unfold fullProof at h
  obtain hrange | ⟨_, l₁, -, h⟩ := bind_eq_error.1 h
  · cases (require_eq_error.1 hrange).2.1
  obtain hproof | ⟨inclusion, l₂, -, h⟩ := bind_eq_error.1 h
  · obtain hask | ⟨hashes, l₃, -, hpure⟩ := bind_eq_error.1 hproof
    · exact absurd rfl (ask_ne_proof hask cause)
    · cases hpure
  obtain hevaluated | ⟨isIncluded, l₃, -, h⟩ := bind_eq_error.1 h
  · obtain ⟨_, hverify, hcause, -⟩ := evaluated_eq_error.1 hevaluated
    cases hcause
    exact InclusionProof.verify_eq_error hverify
  obtain hgenesis | ⟨toGenesis, l₄, -, h⟩ := bind_eq_error.1 h
  · exact absurd rfl (path_ne_proof hgenesis cause)
  obtain hanchor | ⟨fromAnchor, l₅, -, h⟩ := bind_eq_error.1 h
  · exact absurd rfl (path_ne_proof hanchor cause)
  · cases h

/-- A full proof does not fail for a path that is too short. -/
theorem fullProof_ne_proof_path (h : s.fullProof receipt anchor envelope l = (.error e, l')) :
  e ≠ .proof .emptyPath ∧ ∀ block, e ≠ .proof (.singleBlockPath block)
  := by
  constructor
  · rintro rfl
    simpa using cause_of_fullProof h
  · rintro block rfl
    simpa using cause_of_fullProof h

end Session

/-! ### What is checked again -/

theorem hasHash_iff_map {s : Scheme} {header : Option BlockHeader} {d : Digest} :
  hasHash s header d = true ↔ header.map (BlockHeader.hash s) = some d
  := by
  rw [hasHash_iff, Option.map_eq_some_iff]

namespace FullProof

/-- A block after the first one has a path that is linked, from its header down to a first block;
the first block has none. -/
def ReachesGenesis (s : Scheme) (header : BlockHeader) (path? : Option LedgerPath) : Prop :=
  if genesis < header.number then
    ∃ path ∈ path?, path.verify s = .ok true
      ∧ path.newest?.map (BlockHeader.hash s) = some (header.hash s)
      ∧ path.oldest?.map BlockHeader.number = some genesis
  else path? = none

/-- An anchor after the block has a path that is linked, from the anchor down to the header of the
block; otherwise there is none, and the anchor has the digest of that header. -/
def IsAnchored (s : Scheme) (anchor header : BlockHeader) (path? : Option LedgerPath) : Prop :=
  if header.number < anchor.number then
    ∃ path ∈ path?, path.verify s = .ok true
      ∧ path.newest?.map (BlockHeader.hash s) = some (anchor.hash s)
      ∧ path.oldest?.map (BlockHeader.hash s) = some (header.hash s)
  else path? = none ∧ anchor.hash s = header.hash s

/-- The parts of a full proof are right, as far as this can be told without a replica. -/
structure Checks (s : Scheme) (receipt : TxReceipt) (anchor : BlockHeader) (envelope : Envelope)
    (p : FullProof) : Prop where
  inclusion : p.inclusion.verify s receipt envelope = .ok true
  toGenesis : ReachesGenesis s receipt.header p.toGenesis
  fromAnchor : IsAnchored s anchor receipt.header p.fromAnchor

end FullProof

namespace Session

open FullProof

variable {s : Session} {l l' : Link} {receipt : TxReceipt} {anchor header : BlockHeader}
  {envelope : Envelope} {path? : Option LedgerPath} {right : Bool}

theorem reachesGenesis_iff (h : s.pathToGenesis header l = (.ok (path?, right), l')) :
  right = true ↔ ReachesGenesis s.scheme header path?
  := by
  obtain ⟨hlt, path, isLinked, -, hverify, rfl, rfl⟩ | ⟨hnot, rfl, rfl, -⟩ :=
    pathToGenesis_eq_ok.1 h
  · rw [ReachesGenesis, if_pos hlt]
    simp [hverify, hasHash_iff_map, and_assoc]
  · rw [ReachesGenesis, if_neg hnot]
    simp

theorem isAnchored_iff (h : s.pathFromAnchor anchor header l = (.ok (path?, right), l')) :
  right = true ↔ IsAnchored s.scheme anchor header path?
  := by
  obtain ⟨hlt, path, isLinked, -, hverify, rfl, rfl⟩ | ⟨hnot, rfl, rfl, -⟩ :=
    pathFromAnchor_eq_ok.1 h
  · rw [IsAnchored, if_pos hlt]
    simp [hverify, hasHash_iff_map, and_assoc]
  · rw [IsAnchored, if_neg hnot]
    simp

theorem verified_iff_checks {p : FullProof}
    (h : s.fullProof receipt anchor envelope l = (.ok p, l')) :
  p.verified = true ↔ p.Checks s.scheme receipt anchor envelope
  := by
  obtain ⟨-, l₁, l₂, isIncluded, reachesGenesis, isAnchored, -, hinclusion, hgenesis, hanchor, he⟩ :=
    fullProof_eq_ok.1 h
  rw [he, Bool.and_eq_true, Bool.and_eq_true, reachesGenesis_iff hgenesis, isAnchored_iff hanchor]
  constructor
  · rintro ⟨⟨rfl, hreaches⟩, hanchored⟩
    exact ⟨hinclusion, hreaches, hanchored⟩
  · rintro ⟨hverify, hreaches, hanchored⟩
    rw [hinclusion] at hverify
    cases hverify
    exact ⟨⟨rfl, hreaches⟩, hanchored⟩

variable (s receipt anchor envelope l) in
/-- A full proof that is had, after whatever replies, is verified exactly if its parts pass the
checks again, and took one query for each part that was due. In any case the queries sent are
those for the parts that are due, in order, up to the first error; and the error is never that a
path is too short to be evaluated. -/
theorem fullProof_rechecked :
  (∀ p, (s.fullProof receipt anchor envelope l).1 = .ok p →
      (p.verified = true ↔ p.Checks s.scheme receipt anchor envelope)
        ∧ (s.fullProofRequests receipt anchor envelope l).length
          = (Part.due receipt anchor).length)
    ∧ (s.fullProof receipt anchor envelope l).2.line.sent
      = l.line.sent ++ s.fullProofRequests receipt anchor envelope l
    ∧ ∀ e, (s.fullProof receipt anchor envelope l).1 = .error e →
      e ≠ .proof .emptyPath ∧ ∀ block, e ≠ .proof (.singleBlockPath block)
  := by
  refine ⟨?_, sends_fullProof l, ?_⟩
  · intro p hp
    have hrun : s.fullProof receipt anchor envelope l
        = (.ok p, (s.fullProof receipt anchor envelope l).2) := Prod.ext hp rfl
    exact ⟨verified_iff_checks hrun, length_fullProofRequests hrun⟩
  · intro e he
    have hrun : s.fullProof receipt anchor envelope l
        = (.error e, (s.fullProof receipt anchor envelope l).2) := Prod.ext he rfl
    exact fullProof_ne_proof_path hrun

/-- The full proof of the transaction of the second block passes the checks again and took two
queries. -/
theorem fullProof_rechecked_sample :
  ∃ p, (Sample.session.fullProof ⟨Sample.second, 0⟩ Sample.second Sample.envelope
      Sample.link).1 = .ok p
    ∧ p.Checks Sample.scheme ⟨Sample.second, 0⟩ Sample.second Sample.envelope
    ∧ (Sample.session.fullProof ⟨Sample.second, 0⟩ Sample.second Sample.envelope
      Sample.link).2.line.sent.length = 2
  := by
  obtain ⟨p, l', hrun, hverified, -⟩ := Sample.exists_fullProof
  have hp := congrArg Prod.fst hrun
  obtain ⟨hok, hsent, -⟩ :=
    fullProof_rechecked Sample.session Sample.link ⟨Sample.second, 0⟩ Sample.second Sample.envelope
  obtain ⟨hchecks, hlength⟩ := hok p hp
  use p, hp, hchecks.1 hverified
  rw [hsent, List.length_append, hlength]
  rfl

end Session

end LedgerTrust
