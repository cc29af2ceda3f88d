import LedgerTrust.Session.FullProof

/-!
# How dialogues end

What it means for a dialogue to end well is read off its steps: each of them ends well, on the
link that the one before it left. It ends with an error if one of them does, after those before it
ended well.
-/

namespace LedgerTrust

namespace Dialogue

variable {α β : Type} {l l' : Link}

theorem pure_eq_ok {a b : α} :
  (pure a : Dialogue α) l = (.ok b, l') ↔ a = b ∧ l = l'
  := by
  constructor
  · intro h
    cases h
    exact ⟨rfl, rfl⟩
  · rintro ⟨rfl, rfl⟩
    rfl

/-- One step after the other, up to the first error. -/
theorem bind_apply {ε : Type} (x : ExceptT ε (StateM Link) α) (f : α → ExceptT ε (StateM Link) β)
    (l : Link) :
  (x >>= f) l
    = match x l with
      | (.ok a, l₁) => f a l₁
      | (.error e, l₁) => (.error e, l₁)
  := by
  simp only [bind, ExceptT.bind, ExceptT.mk, StateT.bind]
  cases x l with
  | mk result l₁ =>
    cases result with
    | ok a => rfl
    | error e => rfl

theorem bind_eq_ok {x : Dialogue α} {f : α → Dialogue β} {b : β} :
  (x >>= f) l = (.ok b, l') ↔ ∃ a l₁, x l = (.ok a, l₁) ∧ f a l₁ = (.ok b, l')
  := by
  rw [bind_apply]
  constructor
  · intro h
    split at h
    · next a l₁ hx => exact ⟨a, l₁, hx, h⟩
    · cases h
  · rintro ⟨a, l₁, hx, hf⟩
    rw [hx]
    exact hf

theorem bind_eq_error {x : Dialogue α} {f : α → Dialogue β} {e : QueryError} :
  (x >>= f) l = (.error e, l')
    ↔ x l = (.error e, l') ∨ ∃ a l₁, x l = (.ok a, l₁) ∧ f a l₁ = (.error e, l')
  := by
  rw [bind_apply]
  constructor
  · intro h
    split at h
    · next a l₁ hx => exact .inr ⟨a, l₁, hx, h⟩
    · next e' l₁ hx =>
      cases h
      exact .inl hx
  · rintro (hx | ⟨a, l₁, hx, hf⟩)
    · rw [hx]
    · rw [hx]
      exact hf

end Dialogue

namespace Session

open Dialogue

variable {s : Session} {l l' : Link}

theorem require_eq_ok {condition : Bool} {e : QueryError} {u : Unit} :
  require condition e l = (.ok u, l') ↔ condition = true ∧ l = l'
  := by
  cases condition with
  | true =>
    rw [require, if_pos rfl, pure_eq_ok]
    simp
  | false =>
    constructor
    · nofun
    · nofun

theorem evaluated_eq_ok {result : Except ProofError Bool} {verified : Bool} :
  evaluated result l = (.ok verified, l') ↔ result = .ok verified ∧ l = l'
  := by
  cases result with
  | ok v =>
    rw [evaluated, pure_eq_ok]
    simp
  | error cause =>
    constructor
    · nofun
    · nofun

theorem require_eq_error {condition : Bool} {e e' : QueryError} :
  require condition e l = (.error e', l') ↔ condition = false ∧ e = e' ∧ l = l'
  := by
  cases condition with
  | true =>
    constructor
    · nofun
    · nofun
  | false =>
    constructor
    · intro h
      cases h
      exact ⟨rfl, rfl, rfl⟩
    · rintro ⟨-, rfl, rfl⟩
      rfl

theorem evaluated_eq_error {result : Except ProofError Bool} {e : QueryError} :
  evaluated result l = (.error e, l') ↔ ∃ cause, result = .error cause ∧ e = .proof cause ∧ l = l'
  := by
  cases result with
  | ok verified =>
    constructor
    · nofun
    · nofun
  | error cause =>
    constructor
    · intro h
      cases h
      exact ⟨cause, rfl, rfl, rfl⟩
    · rintro ⟨_, hcause, rfl, rfl⟩
      cases hcause
      rfl

/-! ### Parts of a full proof -/

/-- The path of the proof of a transaction. -/
def txProofPath (block index : UInt64) : String :=
  "/ledger/proof/tx/" ++ toString block.toNat ++ "?idx=" ++ toString index.toNat

theorem txProof_eq_ok {block index : UInt64} {p : InclusionProof} :
  s.txProof block index l = (.ok p, l')
    ↔ s.ask Response.inclusionProofCodec (txProofPath block index) l = (.ok p.hashes, l')
  := by
  unfold txProof
  simp only [bind_eq_ok, pure_eq_ok]
  constructor
  · rintro ⟨hashes, l₁, hask, rfl, rfl⟩
    exact hask
  · intro hask
    exact ⟨p.hashes, l', hask, rfl, rfl⟩

/-- A path that is accepted runs between the blocks asked for. -/
theorem ledgerPath_eq_ok {first last : UInt64} {path : LedgerPath} :
  s.ledgerPath first last l = (.ok path, l')
    ↔ isRange first last = true
      ∧ s.ask Response.pathCodec (rangePath first last) l = (.ok path.headers, l')
      ∧ path.newest?.map BlockHeader.number = some last
      ∧ path.oldest?.map BlockHeader.number = some first
  := by
  unfold ledgerPath
  simp only [bind_eq_ok, require_eq_ok, pure_eq_ok, decide_eq_true_eq]
  constructor
  · rintro ⟨_, _, ⟨hrange, rfl⟩, headers, l₁, hask, _, _, ⟨hends, rfl⟩, rfl, rfl⟩
    exact ⟨hrange, hask, hends⟩
  · rintro ⟨hrange, hask, hends⟩
    exact ⟨(), l, ⟨hrange, rfl⟩, path.headers, l', hask, (), l', ⟨hends, rfl⟩, rfl, rfl⟩

/-- A path between two blocks is missing if the lower one is not before the other; otherwise it
is asked for and evaluated. -/
theorem path_eq_ok {lower upper : UInt64} {verdict : LedgerPath → Bool → Bool} {otherwise : Bool}
    {path? : Option LedgerPath} {right : Bool} :
  (if lower < upper then do
      let path ← s.ledgerPath lower upper
      let isLinked ← evaluated (path.verify s.scheme)
      return (some path, verdict path isLinked)
    else return (none, otherwise) : Dialogue (Option LedgerPath × Bool)) l
      = (.ok (path?, right), l')
    ↔ (lower < upper ∧ ∃ path isLinked,
        s.ledgerPath lower upper l = (.ok path, l')
          ∧ path.verify s.scheme = .ok isLinked ∧ path? = some path
          ∧ right = verdict path isLinked)
      ∨ (¬ lower < upper ∧ path? = none ∧ right = otherwise ∧ l = l')
  := by
  split
  · next h =>
    simp only [bind_eq_ok, evaluated_eq_ok, pure_eq_ok]
    constructor
    · rintro ⟨path, l₁, hpath, isLinked, l₂, ⟨hverify, rfl⟩, he, rfl⟩
      cases he
      exact .inl ⟨h, path, isLinked, hpath, hverify, rfl, rfl⟩
    · rintro (⟨-, path, isLinked, hpath, hverify, rfl, rfl⟩ | ⟨hnot, -⟩)
      · exact ⟨path, l', hpath, isLinked, l', ⟨hverify, rfl⟩, rfl, rfl⟩
      · exact absurd h hnot
  · next h =>
    rw [pure_eq_ok]
    constructor
    · rintro ⟨he, rfl⟩
      cases he
      exact .inr ⟨h, rfl, rfl, rfl⟩
    · rintro (⟨hlt, -⟩ | ⟨-, rfl, rfl, rfl⟩)
      · exact absurd hlt h
      · exact ⟨rfl, rfl⟩

/-- The path to the first block is missing for the first block; otherwise it is asked for and
evaluated. -/
theorem pathToGenesis_eq_ok {header : BlockHeader} {path? : Option LedgerPath} {right : Bool} :
  s.pathToGenesis header l = (.ok (path?, right), l')
    ↔ (genesis < header.number ∧ ∃ path isLinked,
        s.ledgerPath genesis header.number l = (.ok path, l')
          ∧ path.verify s.scheme = .ok isLinked ∧ path? = some path
          ∧ right = (isLinked && hasHash s.scheme path.newest? (header.hash s.scheme)
            && path.oldest?.map BlockHeader.number = some genesis))
      ∨ (¬ genesis < header.number ∧ path? = none ∧ right = true ∧ l = l')
  := path_eq_ok

/-- The path from the anchor is missing if the block is not before it, where the headers have to
agree; otherwise it is asked for and evaluated. -/
theorem pathFromAnchor_eq_ok {anchor header : BlockHeader} {path? : Option LedgerPath}
    {right : Bool} :
  s.pathFromAnchor anchor header l = (.ok (path?, right), l')
    ↔ (header.number < anchor.number ∧ ∃ path isLinked,
        s.ledgerPath header.number anchor.number l = (.ok path, l')
          ∧ path.verify s.scheme = .ok isLinked ∧ path? = some path
          ∧ right = (isLinked && hasHash s.scheme path.newest? (anchor.hash s.scheme)
            && hasHash s.scheme path.oldest? (header.hash s.scheme)))
      ∨ (¬ header.number < anchor.number ∧ path? = none
        ∧ right = decide (anchor.hash s.scheme = header.hash s.scheme) ∧ l = l')
  := path_eq_ok

/-- A full proof is gathered part by part, and is verified if each part is right. -/
theorem fullProof_eq_ok {receipt : TxReceipt} {anchor : BlockHeader} {envelope : Envelope}
    {p : FullProof} :
  s.fullProof receipt anchor envelope l = (.ok p, l')
    ↔ receipt.blockNumber ≤ anchor.number
      ∧ ∃ l₁ l₂ isIncluded reachesGenesis isAnchored,
        s.txProof receipt.blockNumber receipt.index l = (.ok p.inclusion, l₁)
          ∧ p.inclusion.verify s.scheme receipt envelope = .ok isIncluded
          ∧ s.pathToGenesis receipt.header l₁ = (.ok (p.toGenesis, reachesGenesis), l₂)
          ∧ s.pathFromAnchor anchor receipt.header l₂ = (.ok (p.fromAnchor, isAnchored), l')
          ∧ p.verified = (isIncluded && reachesGenesis && isAnchored)
  := by
  unfold fullProof
  simp only [bind_eq_ok, require_eq_ok, evaluated_eq_ok, pure_eq_ok, decide_eq_true_eq]
  constructor
  · rintro ⟨_, _, ⟨hle, rfl⟩, inclusion, l₁, hproof, isIncluded, l₂, ⟨hverify, rfl⟩,
      ⟨toGenesis, reachesGenesis⟩, l₃, hgenesis, ⟨fromAnchor, isAnchored⟩, l₄, hanchor, rfl, rfl⟩
    exact ⟨hle, l₁, l₃, isIncluded, reachesGenesis, isAnchored, hproof, hverify, hgenesis,
      hanchor, rfl⟩
  · rintro ⟨hle, l₁, l₂, isIncluded, reachesGenesis, isAnchored, hproof, hverify, hgenesis,
      hanchor, hverified⟩
    refine ⟨(), l, ⟨hle, rfl⟩, p.inclusion, l₁, hproof, isIncluded, l₁, ⟨hverify, rfl⟩,
      (p.toGenesis, reachesGenesis), l₂, hgenesis, (p.fromAnchor, isAnchored), l', hanchor, ?_, rfl⟩
    rw [← hverified]

end Session

end LedgerTrust
