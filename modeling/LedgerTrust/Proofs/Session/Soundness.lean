import LedgerTrust.Proofs.Session.Completeness

/-!
# Full proofs are sound

Whatever replicas reply, a full proof that is verified against a header of a chain is about a
block of this chain and one of its transactions, unless two different byte strings with the same
digest are among those that were hashed to build the chain and to verify the proof. The anchor is
in the chain, so are the headers on the path down from it, and the last of these is the header of
the receipt; from there the path to the first block stays in the chain, and the inclusion proof is
right in the block of the receipt.
-/

namespace LedgerTrust

namespace FullProof

/-- The headers on the paths. -/
def headers (p : FullProof) : List BlockHeader :=
  p.toGenesis.elim [] LedgerPath.headers ++ p.fromAnchor.elim [] LedgerPath.headers

/-- What is hashed to verify a full proof. -/
def hashed (s : Scheme) (p : FullProof) (receipt : TxReceipt) (anchor : BlockHeader)
    (envelope : Envelope) : List Bytes :=
  (anchor :: receipt.header :: p.headers).map (s.encode BlockHeader.codec)
    ++ Block.inclusionBytes s p.inclusion receipt envelope

end FullProof

/-! ### Paths that are right -/

theorem hasHash_iff {s : Scheme} {header : Option BlockHeader} {d : Digest} :
  hasHash s header d = true ↔ ∃ h, header = some h ∧ h.hash s = d
  := by
  cases header with
  | none => simp [hasHash]
  | some h => simp [hasHash]

namespace Chain

variable {s : Scheme} {c : Chain s}

/-- A path that is right and starts with the digest of a header of the chain stays in the chain,
unless digests collide. -/
theorem Linked.forall_mem_of_path (hlinked : c.Linked) (hs : s.encoding = .json)
    {hashed : List Bytes} (hsep : s.Separates hashed) (hchain : ∀ x ∈ c.hashed, x ∈ hashed)
    {path : LedgerPath} (hpath : ∀ h ∈ path.headers, s.encode BlockHeader.codec h ∈ hashed)
    (hverify : path.verify s = .ok true) {start : BlockHeader} (hstart : start ∈ c.headers)
    (hbytes : s.encode BlockHeader.codec start ∈ hashed)
    (hnewest : hasHash s path.newest? (start.hash s) = true) :
  ∀ h ∈ path.headers, h ∈ c.headers
  := by
  obtain ⟨newest, r, hheaders, hlinks⟩ := LedgerPath.verify_eq_ok_true hverify
  obtain ⟨h, hh, he⟩ := hasHash_iff.1 hnewest
  rw [LedgerPath.newest?, hheaders] at hh
  cases hh
  rw [hheaders] at hpath ⊢
  have hsame := eq_of_hash_eq hsep hs (hpath newest List.mem_cons_self) hbytes he
  apply hlinked.forall_mem_of_linked hs hsep hchain _ (hsame ▸ hstart) hlinks
  exact fun h' hr => hpath h' (List.mem_cons_of_mem newest hr)

/-- The block of a header of the chain and the transactions that it proves. -/
theorem exists_block_of_verify (hbare : c.BareWhereEmpty) (hs : s.encoding = .json)
    (hbits : s.siblingOrder = .indexBits) {hashed : List Bytes} (hsep : s.Separates hashed)
    (hchain : ∀ x ∈ c.hashed, x ∈ hashed) {p : InclusionProof} {receipt : TxReceipt}
    {e : Envelope} (hreceipt : receipt.header ∈ c.headers)
    (hproof : ∀ x ∈ Block.inclusionBytes s p receipt e, x ∈ hashed)
    (h : p.verify s receipt e = .ok true) :
  ∃ b ∈ c.blocks, b.header = receipt.header ∧ b.envelopes[receipt.index.toNat]? = some e
  := by
  obtain ⟨b, hb, hheader⟩ := List.mem_map.1 hreceipt
  obtain ⟨header, index⟩ := receipt
  cases hheader
  have hfilled : b.envelopes ≠ [] := by
    intro hempty
    obtain ⟨info, siblings, hinfo, -⟩ := Block.verify_eq_ok_true h
    rw [hbare b hb hempty] at hinfo
    cases hinfo
  use b, hb
  constructor
  · rfl
  · have hplace : s.place index.toNat = index.toNat := by rw [Scheme.place, hbits]
    rw [← hplace]
    refine ((c.committed b hb hfilled).getElem?_of_verify hs hsep ?_ hproof h).1
    intro x hx
    apply hchain
    apply List.mem_append_right
    exact List.mem_flatMap.2 ⟨b, hb, hx⟩

end Chain

namespace Session

variable {s : Session} {c : Chain s.scheme} {anchor : BlockHeader} {receipt : TxReceipt}
  {hashed : List Bytes} {l l' : Link}

/-- A header down to which a right path leads from the anchor is in the chain, unless digests
collide. -/
theorem mem_of_pathFromAnchor (hlinked : c.Linked) (hs : s.scheme.encoding = .json)
    (hsep : s.scheme.Separates hashed) (hchain : ∀ x ∈ c.hashed, x ∈ hashed)
    (hanchor : anchor ∈ c.headers) {header : BlockHeader}
    (hends : ∀ h ∈ [anchor, header], s.scheme.encode BlockHeader.codec h ∈ hashed)
    {path? : Option LedgerPath}
    (hpath : ∀ path, path? = some path → ∀ h ∈ path.headers,
      s.scheme.encode BlockHeader.codec h ∈ hashed)
    (h : s.pathFromAnchor anchor header l = (.ok (path?, true), l')) :
  header ∈ c.headers
  := by
  have hanchorBytes := hends anchor List.mem_cons_self
  have hheaderBytes := hends header (List.mem_cons_of_mem anchor List.mem_cons_self)
  obtain ⟨-, path, isLinked, -, hverify, rfl, hright⟩ | ⟨-, -, hright, -⟩ :=
    pathFromAnchor_eq_ok.1 h
  · simp only [Bool.true_eq, Bool.and_eq_true] at hright
    obtain ⟨⟨rfl, hnewest⟩, holdest⟩ := hright
    have hmem := hlinked.forall_mem_of_path hs hsep hchain (hpath path rfl) hverify hanchor
      hanchorBytes hnewest
    obtain ⟨oldest, hoppose, he⟩ := hasHash_iff.1 holdest
    have hin := List.mem_of_getLast? hoppose
    rw [← Chain.eq_of_hash_eq hsep hs (hpath path rfl oldest hin) hheaderBytes he]
    exact hmem oldest hin
  · have he := of_decide_eq_true hright.symm
    rw [← Chain.eq_of_hash_eq hsep hs hanchorBytes hheaderBytes he]
    exact hanchor

/-- A right path from a header of the chain to the first block stays in the chain and ends with
its first header, unless digests collide. -/
theorem path_of_pathToGenesis (hlinked : c.Linked) (hs : s.scheme.encoding = .json)
    (hsep : s.scheme.Separates hashed) (hchain : ∀ x ∈ c.hashed, x ∈ hashed)
    {header : BlockHeader} (hheader : header ∈ c.headers)
    (hbytes : s.scheme.encode BlockHeader.codec header ∈ hashed) {path : LedgerPath}
    (hpath : ∀ h ∈ path.headers, s.scheme.encode BlockHeader.codec h ∈ hashed)
    (h : s.pathToGenesis header l = (.ok (some path, true), l')) :
  (∀ h ∈ path.headers, h ∈ c.headers)
    ∧ ∃ first, c.headers.head? = some first ∧ path.oldest? = some first
  := by
  obtain ⟨-, path', isLinked, -, hverify, hsome, hright⟩ | ⟨-, hnone, -⟩ :=
    pathToGenesis_eq_ok.1 h
  · cases hsome
    simp only [Bool.true_eq, Bool.and_eq_true, decide_eq_true_eq, Option.map_eq_some_iff] at hright
    obtain ⟨⟨rfl, hnewest⟩, oldest, holdest, hnumber⟩ := hright
    have hmem := hlinked.forall_mem_of_path hs hsep hchain hpath hverify hheader hbytes hnewest
    constructor
    · exact hmem
    · use oldest
      constructor
      · exact Chain.eq_head_of_number_eq_one (hmem oldest (List.mem_of_getLast? holdest)) hnumber
      · exact holdest
  · cases hnone

/-- A full proof that is verified against a header of a linked chain, after whatever replies: it is
about a block of the chain that is not after the anchor, the envelope is the transaction of this
block at the index of the receipt, and the path to the first block goes through headers of the
chain down to the first one. Otherwise different byte strings with the same digest were hashed. -/
theorem fullProof_sound (hs : s.scheme.encoding = .json)
    (hbits : s.scheme.siblingOrder = .indexBits) (hlinked : c.Linked) (hbare : c.BareWhereEmpty)
    (hanchor : anchor ∈ c.headers) {envelope : Envelope} {p : FullProof}
    (h : s.fullProof receipt anchor envelope l = (.ok p, l')) (hverified : p.verified = true) :
  s.scheme.Collision (c.hashed ++ p.hashed s.scheme receipt anchor envelope)
    ∨ (∃ b ∈ c.blocks, b.header = receipt.header
          ∧ b.envelopes[receipt.index.toNat]? = some envelope)
      ∧ receipt.header.number ≤ anchor.number
      ∧ ∀ path, p.toGenesis = some path →
        (∀ h ∈ path.headers, h ∈ c.headers)
          ∧ ∃ first, c.headers.head? = some first ∧ path.oldest? = some first
  := by
  obtain hcollision | hsep :=
    s.scheme.collision_or_separates (c.hashed ++ p.hashed s.scheme receipt anchor envelope)
  · exact .inl hcollision
  obtain ⟨hle, l₁, l₂, isIncluded, reachesGenesis, isAnchored, -, hinclusion, hgenesis, hpath,
    he⟩ := fullProof_eq_ok.1 h
  rw [hverified] at he
  simp only [Bool.true_eq, Bool.and_eq_true] at he
  obtain ⟨⟨rfl, rfl⟩, rfl⟩ := he
  have hchain : ∀ x ∈ c.hashed, x ∈ c.hashed ++ p.hashed s.scheme receipt anchor envelope :=
    fun x hx => List.mem_append_left _ hx
  have hheaders : ∀ h ∈ anchor :: receipt.header :: p.headers,
      s.scheme.encode BlockHeader.codec h
        ∈ c.hashed ++ p.hashed s.scheme receipt anchor envelope := by
    intro h hh
    apply List.mem_append_right
    apply List.mem_append_left
    exact List.mem_map.2 ⟨h, hh, rfl⟩
  have hproof : ∀ x ∈ Block.inclusionBytes s.scheme p.inclusion receipt envelope,
      x ∈ c.hashed ++ p.hashed s.scheme receipt anchor envelope := by
    intro x hx
    apply List.mem_append_right
    exact List.mem_append_right _ hx
  have hreceipt : receipt.header ∈ c.headers := by
    apply mem_of_pathFromAnchor hlinked hs hsep hchain hanchor _ _ hpath
    · intro h hh
      apply hheaders
      simp only [List.mem_cons, List.not_mem_nil, or_false] at hh ⊢
      exact hh.elim .inl fun he => .inr (.inl he)
    · intro path hsome h hh
      apply hheaders
      apply List.mem_cons_of_mem
      apply List.mem_cons_of_mem
      apply List.mem_append_right
      rwa [hsome]
  apply Or.inr
  constructor
  · exact Chain.exists_block_of_verify hbare hs hbits hsep hchain hreceipt hproof hinclusion
  constructor
  · exact hle
  · intro path hsome
    rw [hsome] at hgenesis
    apply path_of_pathToGenesis hlinked hs hsep hchain hreceipt _ _ hgenesis
    · apply hheaders
      exact List.mem_cons_of_mem _ List.mem_cons_self
    · intro h hh
      apply hheaders
      apply List.mem_cons_of_mem
      apply List.mem_cons_of_mem
      apply List.mem_append_left
      rwa [hsome]

end Session

namespace Sample

theorem linked_chain :
  chain.Linked
  := by
  intro k b hb d hd
  match k with
  | 0 =>
    cases hb
    cases hd
  | 1 =>
    cases hb
    cases List.mem_singleton.1 hd
    exact ⟨0, ⟨first, []⟩, Nat.zero_lt_one, rfl, rfl⟩

theorem bareWhereEmpty_chain :
  chain.BareWhereEmpty
  := by
  intro b hb hempty
  simp only [chain, List.mem_cons, List.not_mem_nil, or_false] at hb
  rcases hb with rfl | rfl
  · rfl
  · cases hempty

/-- The full proof of the transaction of the second block is verified, with a path to the first
block. -/
theorem exists_fullProof :
  ∃ p l', session.fullProof ⟨second, 0⟩ second envelope link = (.ok p, l')
    ∧ p.verified = true ∧ p.toGenesis ≠ none
  := by
  have hb : ⟨second, [envelope]⟩ ∈ chain.blocks := List.mem_cons_of_mem _ List.mem_cons_self
  have hanswers := answersFullProof
  have hverify := commits_second.verify_proofHashes (i := 0) (.inl rfl) rfl
  have hinclusion := Session.txProof_of_answers hanswers.inclusion
  obtain ⟨toGenesis, l₂, hgenesis, hfirst⟩ :=
    Session.pathToGenesis_of_answers (s := session) (c := chain) skips_chain hb hanswers.toGenesis
  rw [hinclusion] at hgenesis
  use ⟨true, ⟨Block.proofHashes scheme ⟨second, [envelope]⟩ 0⟩, toGenesis, none⟩, l₂
  constructor
  · apply Session.fullProof_eq_ok.2
    have hanchored : session.pathFromAnchor second second l₂ = (.ok (none, true), l₂) := by
      apply Session.pathFromAnchor_eq_ok.2
      exact .inr ⟨UInt64.lt_irrefl _, rfl, (decide_eq_true rfl).symm, rfl⟩
    exact ⟨UInt64.le_refl _, _, l₂, true, true, true, hinclusion, hverify, hgenesis, hanchored, rfl⟩
  constructor
  · rfl
  · intro hnone
    cases hfirst.1 hnone

end Sample

theorem Session.fullProof_sound_sample :
  ∃ p l', Sample.session.fullProof ⟨Sample.second, 0⟩ Sample.second Sample.envelope Sample.link
      = (.ok p, l')
    ∧ p.verified = true ∧ p.toGenesis ≠ none
    ∧ (Sample.scheme.Collision (Sample.chain.hashed
          ++ p.hashed Sample.scheme ⟨Sample.second, 0⟩ Sample.second Sample.envelope)
      ∨ (∃ b ∈ Sample.chain.blocks, b.header = Sample.second
            ∧ b.envelopes[(0 : UInt64).toNat]? = some Sample.envelope)
        ∧ Sample.second.number ≤ Sample.second.number
        ∧ ∀ path, p.toGenesis = some path →
          (∀ h ∈ path.headers, h ∈ Sample.chain.headers)
            ∧ ∃ first, Sample.chain.headers.head? = some first ∧ path.oldest? = some first)
  := by
  obtain ⟨p, l', hrun, hverified, hpath⟩ := Sample.exists_fullProof
  have hanchor : Sample.second ∈ Sample.chain.headers :=
    List.mem_cons_of_mem _ List.mem_cons_self
  use p, l', hrun, hverified, hpath
  exact fullProof_sound (s := Sample.session) (c := Sample.chain) rfl rfl Sample.linked_chain
    Sample.bareWhereEmpty_chain hanchor hrun hverified

end LedgerTrust
