import Mathlib.Tactic.Use
import LedgerTrust.Proof.Path
import LedgerTrust.Proofs.Ledger.Block
import LedgerTrust.Proofs.Ledger.Scheme

/-!
# Paths that start at a genuine header

A list of headers `LinksBack` if every skip link in it is the digest of an earlier header of the
list, as in a ledger. Whoever supplies a path, if it is right and its newest header is one of such
a list, then so are all its headers, at positions that decrease along the path, unless two
different canonical forms of headers have the same digest. Each step down the path pins the next
header by its digest, and only then are the skip links of that header those of the ledger.
-/

namespace LedgerTrust

/-! ### Headers and their digests -/

/-- Headers with the same digest are the same header, unless digests collide. -/
theorem BlockHeader.eq_of_hash_eq {s : Scheme} {hashed : List Bytes} (hsep : s.Separates hashed)
    {h h' : BlockHeader} (hfits : s.encoding = .binary → h.Fits ∧ h'.Fits)
    (hh : s.encode codec h ∈ hashed) (hh' : s.encode codec h' ∈ hashed)
    (he : h.hash s = h'.hash s) :
  h = h'
  := encode_injective hfits (hsep _ hh _ hh' he)

/-- Every skip link is the digest of an earlier header. -/
def LinksBack (s : Scheme) (chain : List BlockHeader) : Prop :=
  ∀ (k : Nat) (h : BlockHeader), chain[k]? = some h → ∀ d ∈ h.skipLinks,
    ∃ (j : Nat) (h' : BlockHeader), j < k ∧ chain[j]? = some h' ∧ d = h'.hash s

/-- The headers whose digests are skip links. -/
def linkedHeaders (s : Scheme) (chain : List BlockHeader) : List BlockHeader :=
  chain.filter fun h => chain.any fun h' => h'.skipLinks.contains (h.hash s)

/-- A header whose digest is a skip link is among those whose digests are. -/
theorem mem_linkedHeaders {s : Scheme} {chain : List BlockHeader} {h h' : BlockHeader}
    (hh : h ∈ chain) (hh' : h' ∈ chain) (hlink : h'.hash s ∈ h.skipLinks) :
  h' ∈ linkedHeaders s chain
  := by
  apply List.mem_filter.2
  constructor
  · exact hh'
  · apply List.any_eq_true.2
    exact ⟨h, hh, List.contains_iff_mem.2 hlink⟩

/-! ### Numbers -/

/-- Headers are numbered from one. -/
def NumberedFromOne (chain : List BlockHeader) : Prop :=
  ∀ (k : Nat) (h : BlockHeader), chain[k]? = some h → h.number.toNat = k + 1

/-- A header stands at the place that its number says. -/
theorem NumberedFromOne.getElem?_pred {chain : List BlockHeader}
    (hnumbered : NumberedFromOne chain) {h : BlockHeader} (hh : h ∈ chain) :
  1 ≤ h.number.toNat ∧ chain[h.number.toNat - 1]? = some h
  := by
  obtain ⟨k, hk⟩ := List.mem_iff_getElem?.1 hh
  rw [hnumbered k h hk]
  use Nat.le_add_left 1 k, hk

/-- Headers with the same number are the same header. -/
theorem NumberedFromOne.eq_of_number_eq {chain : List BlockHeader}
    (hnumbered : NumberedFromOne chain) {h h' : BlockHeader} (hh : h ∈ chain) (hh' : h' ∈ chain)
    (hn : h.number = h'.number) :
  h = h'
  := by
  obtain ⟨-, hget⟩ := hnumbered.getElem?_pred hh
  obtain ⟨-, hget'⟩ := hnumbered.getElem?_pred hh'
  rw [hn, hget'] at hget
  apply (Option.some.inj hget).symm

/-- What is found by a number is a header with this number. -/
theorem mem_of_find?_number {chain : List BlockHeader} {n : UInt64} {h : BlockHeader}
    (hfound : chain.find? (·.number = n) = some h) :
  h ∈ chain ∧ h.number = n
  := by
  have hnumber := List.find?_some hfound
  use List.mem_of_find?_eq_some hfound, of_decide_eq_true hnumber

/-! ### Down a path -/

section Positions

variable {s : Scheme} {chain : List BlockHeader}

/-- The header that a header of the list is linked to is an earlier one of the list, unless digests
collide. -/
theorem LinksBack.exists_earlier (hlinks : LinksBack s chain) {hashed : List Bytes}
    (hsep : s.Separates hashed)
    (hchain : ∀ h ∈ linkedHeaders s chain, s.encode BlockHeader.codec h ∈ hashed)
    (hfits : s.encoding = .binary → ∀ h ∈ chain, h.Fits) {k : Nat} {h next : BlockHeader}
    (hk : chain[k]? = some h) (hlink : next.hash s ∈ h.skipLinks)
    (hnext : s.encode BlockHeader.codec next ∈ hashed)
    (hnextFits : s.encoding = .binary → next.Fits) :
  ∃ j < k, chain[j]? = some next
  := by
  obtain ⟨j, h', hlt, hj, he⟩ := hlinks k h hk _ hlink
  have hh' : h' ∈ chain := List.mem_of_getElem? hj
  have hmem : h' ∈ linkedHeaders s chain :=
    mem_linkedHeaders (List.mem_of_getElem? hk) hh' (he ▸ hlink)
  have hsame : next = h' := by
    apply BlockHeader.eq_of_hash_eq hsep _ hnext (hchain h' hmem) he
    exact fun hs => ⟨hnextFits hs, hfits hs h' hh'⟩
  use j, hlt
  rw [hsame]
  exact hj

/-- The headers of a linked path that starts in the list stand in the list, at positions that
decrease along the path, unless digests collide. -/
theorem LinksBack.exists_positions (hlinks : LinksBack s chain) {hashed : List Bytes}
    (hsep : s.Separates hashed)
    (hchain : ∀ h ∈ linkedHeaders s chain, s.encode BlockHeader.codec h ∈ hashed)
    (hfits : s.encoding = .binary → ∀ h ∈ chain, h.Fits) {k : Nat} {h : BlockHeader}
    {r : List BlockHeader} (hk : chain[k]? = some h)
    (hpath : ∀ h' ∈ r, s.encode BlockHeader.codec h' ∈ hashed)
    (hpathFits : s.encoding = .binary → ∀ h' ∈ r, h'.Fits) (hlinked : linked s (h :: r) = true) :
  ∃ ks : List Nat, (k :: ks).map (chain[·]?) = (h :: r).map some ∧ (k :: ks).Pairwise (· > ·)
  := by
  induction r generalizing k h with
  | nil =>
    use []
    simp [hk]
  | cons next r ih =>
    rw [linked, Bool.and_eq_true] at hlinked
    obtain ⟨j, hlt, hj⟩ := hlinks.exists_earlier hsep hchain hfits hk
      (List.contains_iff_mem.1 hlinked.1) (hpath next List.mem_cons_self)
      (fun hs => hpathFits hs next List.mem_cons_self)
    obtain ⟨ks, hmap, hdown⟩ := ih hj (fun h' hr => hpath h' (List.mem_cons_of_mem next hr))
      (fun hs h' hr => hpathFits hs h' (List.mem_cons_of_mem next hr)) hlinked.2
    use j :: ks
    constructor
    · rw [List.map_cons, hmap, hk]
      rfl
    · apply List.pairwise_cons.2
      constructor
      · intro i hi
        rcases List.mem_cons.1 hi with rfl | hi
        · exact hlt
        · exact Nat.lt_trans ((List.pairwise_cons.1 hdown).1 i hi) hlt
      · exact hdown

/-- What stands at positions of a list is in the list. -/
theorem forall_mem_of_positions {ks : List Nat} {hs : List BlockHeader}
    (hmap : ks.map (chain[·]?) = hs.map some) :
  ∀ h ∈ hs, h ∈ chain
  := by
  intro h hh
  have hsome : some h ∈ ks.map (chain[·]?) := by
    rw [hmap]
    exact List.mem_map.2 ⟨h, hh, rfl⟩
  obtain ⟨j, -, hj⟩ := List.mem_map.1 hsome
  exact List.mem_of_getElem? hj

/-! ### Paths that are right -/

/-- A path that is right has headers, and they are linked. -/
theorem LedgerPath.verify_eq_ok_true {path : LedgerPath} (h : path.verify s = .ok true) :
  ∃ newest r, path.headers = newest :: r ∧ linked s (newest :: r) = true
  := by
  unfold LedgerPath.verify at h
  split at h
  · cases h
  · cases h
  · next hne _ =>
    cases hheaders : path.headers with
    | nil => exact absurd hheaders hne
    | cons newest r =>
      rw [hheaders] at h
      exact ⟨newest, r, rfl, Except.ok.inj h⟩

/-- A path that is right and whose newest header is that at a position of a list that links back
has only headers of the list, at positions that decrease from this one on. Otherwise two different
canonical forms of headers with the same digest were hashed for the skip links of the list or to
verify the path. -/
theorem LinksBack.positions_of_verify (hlinks : LinksBack s chain) {path : LedgerPath}
    (hfits : s.encoding = .binary → ∀ h ∈ chain ++ path.headers, h.Fits)
    (hverify : path.verify s = .ok true) {k : Nat} {newest : BlockHeader}
    (hnewest : path.newest? = some newest) (hk : chain[k]? = some newest) :
  s.Collision ((linkedHeaders s chain ++ path.headers.tail).map (s.encode BlockHeader.codec))
    ∨ (∀ h ∈ path.headers, h ∈ chain)
      ∧ ∃ positions : List Nat, positions.head? = some k
        ∧ positions.map (chain[·]?) = path.headers.map some
        ∧ positions.Pairwise (· > ·)
  := by
  obtain hcollision | hsep := s.collision_or_separates
    ((linkedHeaders s chain ++ path.headers.tail).map (s.encode BlockHeader.codec))
  · exact .inl hcollision
  obtain ⟨newest', r, hheaders, hlinked⟩ := LedgerPath.verify_eq_ok_true hverify
  rw [LedgerPath.newest?, hheaders] at hnewest
  cases hnewest
  rw [hheaders] at hsep hfits ⊢
  obtain ⟨ks, hmap, hdown⟩ := hlinks.exists_positions hsep
    (fun h hh => List.mem_map.2 ⟨h, List.mem_append_left _ hh, rfl⟩)
    (fun hs h hh => hfits hs h (List.mem_append_left _ hh)) hk
    (fun h hh => List.mem_map.2 ⟨h, List.mem_append_right _ hh, rfl⟩)
    (fun hs h hh => hfits hs h (List.mem_append_right _ (List.mem_cons_of_mem newest hh))) hlinked
  apply Or.inr
  constructor
  · exact forall_mem_of_positions hmap
  · exact ⟨k :: ks, rfl, hmap, hdown⟩

end Positions

namespace Sample

/-- The binary form, under the second hash function. -/
def binaryScheme : Scheme := ⟨.sha3, .binary, .indexBits⟩

/-- A header with a number and skip links. -/
def bareHeader (number : UInt64) (skipLinks : List Digest) : BlockHeader where
  base := ⟨number, binaryScheme.digest [], binaryScheme.digest [], 0⟩
  skipLinks := skipLinks
  txRoot := binaryScheme.digest []
  stateRoot := binaryScheme.digest []
  validation := [.invalid .noPermission "no write access"]

/-- A first header, and a second one that is linked to it. -/
def twoHeaders : List BlockHeader :=
  [bareHeader 1 [], bareHeader 2 [(bareHeader 1 []).hash binaryScheme]]

theorem linksBack_twoHeaders :
  LinksBack binaryScheme twoHeaders
  := by
  intro k h hk d hd
  match k with
  | 0 =>
    cases hk
    cases hd
  | 1 =>
    cases hk
    cases List.mem_singleton.1 hd
    exact ⟨0, bareHeader 1 [], Nat.zero_lt_one, rfl, rfl⟩

theorem fits_bareHeader (number : UInt64) {skipLinks : List Digest}
    (h : skipLinks.length < UInt64.size) :
  (bareHeader number skipLinks).Fits
  where
  skipLinks := h
  validation := by
    show 1 < UInt64.size
    decide
  reasons v hv := by
    cases List.mem_singleton.1 hv
    decide

theorem fits_twoHeaders :
  ∀ h ∈ twoHeaders ++ twoHeaders.reverse, h.Fits
  := by
  intro h hh
  have hmem : h ∈ twoHeaders := by
    rcases List.mem_append.1 hh with hh | hh
    · exact hh
    · exact List.mem_reverse.1 hh
  rcases List.mem_cons.1 hmem with rfl | hmem
  · exact fits_bareHeader 1 (by decide)
  · cases List.mem_singleton.1 hmem
    exact fits_bareHeader 2 (by decide)

theorem verify_twoHeaders :
  LedgerPath.verify ⟨twoHeaders.reverse⟩ binaryScheme = .ok true
  := by
  have hlink : linked binaryScheme twoHeaders.reverse = true := by
    simp [twoHeaders, linked, bareHeader]
  exact congrArg Except.ok hlink

end Sample

theorem LinksBack.positions_of_verify_twoHeaders :
  LinksBack Sample.binaryScheme Sample.twoHeaders
    ∧ LedgerPath.verify ⟨Sample.twoHeaders.reverse⟩ Sample.binaryScheme = .ok true
    ∧ (Sample.binaryScheme.Collision
        ((linkedHeaders Sample.binaryScheme Sample.twoHeaders ++ Sample.twoHeaders.reverse.tail).map
          (Sample.binaryScheme.encode BlockHeader.codec))
      ∨ (∀ h ∈ Sample.twoHeaders.reverse, h ∈ Sample.twoHeaders)
        ∧ ∃ positions : List Nat, positions.head? = some 1
          ∧ positions.map (Sample.twoHeaders[·]?) = Sample.twoHeaders.reverse.map some
          ∧ positions.Pairwise (· > ·))
  := ⟨Sample.linksBack_twoHeaders, Sample.verify_twoHeaders,
    Sample.linksBack_twoHeaders.positions_of_verify (fun _ => Sample.fits_twoHeaders)
      Sample.verify_twoHeaders rfl rfl⟩

end LedgerTrust
