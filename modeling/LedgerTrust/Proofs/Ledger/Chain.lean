import LedgerTrust.Proof.Path
import LedgerTrust.Proofs.Ledger.Inclusion
import LedgerTrust.Proofs.Ledger.Path
import LedgerTrust.Proofs.Proof.SkipList

/-!
# Chains of blocks

A `Chain` is what a ledger holds: blocks numbered from one, whose headers commit to their
transactions. It is `Linked` if skip links are digests of earlier headers, and it `Skips` if they
are just the digests of the targets that `SkipList` gives. In a linked chain a path of headers
that starts in the chain stays in the chain, unless digests collide. In a chain that skips, the
headers along a walk are linked.
-/

namespace LedgerTrust

/-- Blocks numbered from one, whose headers commit to their transactions. -/
structure Chain (s : Scheme) where
  blocks : List Block
  numbered : ∀ k b, blocks[k]? = some b → b.header.number.toNat = k + 1
  committed : ∀ b ∈ blocks, b.envelopes ≠ [] → b.Commits s

namespace Chain

variable {s : Scheme} (c : Chain s)

/-- The headers in order. -/
def headers : List BlockHeader := c.blocks.map Block.header

/-- The header with a number. -/
def header? (n : UInt64) : Option BlockHeader := c.headers.find? (·.number = n)

/-- Every skip link is the digest of an earlier header. -/
def Linked : Prop :=
  ∀ (k : Nat) (b : Block), c.blocks[k]? = some b → ∀ d ∈ b.header.skipLinks,
    ∃ (j : Nat) (b' : Block), j < k ∧ c.blocks[j]? = some b' ∧ d = b'.header.hash s

/-- The skip links are the digests of the targets. -/
def Skips : Prop :=
  ∀ h ∈ c.headers,
    h.skipLinks = (SkipList.targets h.number).filterMap fun t => (c.header? t).map (·.hash s)

/-- Blocks without transactions record no outcomes. -/
def BareWhereEmpty : Prop := ∀ b ∈ c.blocks, b.envelopes = [] → b.header.validation = []

/-- The headers whose digests are skip links. -/
def linkedHeaders : List BlockHeader :=
  c.headers.filter fun h => c.headers.any fun h' => h'.skipLinks.contains (h.hash s)

/-- What is hashed to build the chain. -/
def hashed : List Bytes :=
  c.linkedHeaders.map (s.encode BlockHeader.codec) ++ c.blocks.flatMap (Block.hashed s)

/-- The headers along the walk from one block down to another. -/
def pathHeaders (first last : UInt64) : List BlockHeader :=
  (SkipList.path first last).filterMap c.header?

/-! ### Numbers -/

variable {c}

theorem mem_headers {b : Block} (h : b ∈ c.blocks) :
  b.header ∈ c.headers
  := List.mem_map.2 ⟨b, h, rfl⟩

theorem number_of_header? {n : UInt64} {h : BlockHeader} (hn : c.header? n = some h) :
  h ∈ c.headers ∧ h.number = n
  := mem_of_find?_number hn

theorem numberedFromOne (c : Chain s) :
  NumberedFromOne c.headers
  := by
  intro k h hk
  rw [headers, List.getElem?_map, Option.map_eq_some_iff] at hk
  obtain ⟨b, hb, rfl⟩ := hk
  apply c.numbered k b hb

/-- Headers with the same number are the same header. -/
theorem eq_of_number_eq {h h' : BlockHeader} (hh : h ∈ c.headers) (hh' : h' ∈ c.headers)
    (hn : h.number = h'.number) :
  h = h'
  := c.numberedFromOne.eq_of_number_eq hh hh' hn

/-- A header of the chain is found by its number. -/
theorem header?_number {h : BlockHeader} (hh : h ∈ c.headers) :
  c.header? h.number = some h
  := by
  cases hfound : c.header? h.number with
  | none =>
    have hnone := List.find?_eq_none.1 hfound h hh
    simp at hnone
  | some h' =>
    obtain ⟨hh', hn⟩ := number_of_header? hfound
    rw [eq_of_number_eq hh' hh hn]

theorem one_le_number {h : BlockHeader} (hh : h ∈ c.headers) :
  1 ≤ h.number
  := UInt64.le_iff_toNat_le.2 (c.numberedFromOne.getElem?_pred hh).1

/-- Between one and the number of a header, every number is that of a header. -/
theorem exists_header? {h : BlockHeader} (hh : h ∈ c.headers) {n : UInt64} (hn : 1 ≤ n)
    (hle : n ≤ h.number) :
  ∃ h', c.header? n = some h'
  := by
  obtain ⟨-, hget⟩ := c.numberedFromOne.getElem?_pred hh
  obtain ⟨hlength, -⟩ := List.getElem?_eq_some_iff.1 hget
  rw [UInt64.le_iff_toNat_le] at hn hle
  have hone : (1 : UInt64).toNat = 1 := rfl
  have hlt : n.toNat - 1 < c.headers.length := by omega
  obtain ⟨h', hget'⟩ : ∃ h', c.headers[n.toNat - 1]? = some h' :=
    ⟨_, List.getElem?_eq_getElem hlt⟩
  have hthere := c.numberedFromOne _ _ hget'
  have heq : h'.number = n := by
    apply UInt64.toNat_inj.1
    omega
  use h'
  rw [← heq]
  apply header?_number (List.mem_of_getElem? hget')

/-- The first header is the one with number one. -/
theorem eq_head_of_number_eq_one {h : BlockHeader} (hh : h ∈ c.headers) (hn : h.number = 1) :
  c.headers.head? = some h
  := by
  obtain ⟨-, hget⟩ := c.numberedFromOne.getElem?_pred hh
  rw [hn] at hget
  rw [List.head?_eq_getElem?]
  apply hget

/-! ### Paths that start in the chain -/

/-- Under JSON, headers with the same digest are the same header, unless digests collide. -/
theorem eq_of_hash_eq {hashed : List Bytes} (hsep : s.Separates hashed)
    (hs : s.encoding = .json) {h h' : BlockHeader} (hh : s.encode BlockHeader.codec h ∈ hashed)
    (hh' : s.encode BlockHeader.codec h' ∈ hashed) (he : h.hash s = h'.hash s) :
  h = h'
  := BlockHeader.eq_of_hash_eq hsep (by simp [hs]) hh hh' he

/-- The headers of a linked chain link back. -/
theorem Linked.linksBack (hlinked : c.Linked) :
  LinksBack s c.headers
  := by
  intro k h hk d hd
  rw [headers, List.getElem?_map, Option.map_eq_some_iff] at hk
  obtain ⟨b, hb, rfl⟩ := hk
  obtain ⟨j, b', hlt, hj, he⟩ := hlinked k b hb d hd
  use j, b'.header, hlt
  rw [headers, List.getElem?_map, hj]
  exact ⟨rfl, he⟩

/-- A linked path that starts in a linked chain stays in the chain, unless digests collide. -/
theorem Linked.forall_mem_of_linked (hlinked : c.Linked) (hs : s.encoding = .json)
    {hashed : List Bytes} (hsep : s.Separates hashed) (hchain : ∀ x ∈ c.hashed, x ∈ hashed)
    {h : BlockHeader} {r : List BlockHeader}
    (hpath : ∀ h' ∈ r, s.encode BlockHeader.codec h' ∈ hashed) (hh : h ∈ c.headers)
    (hlinks : linked s (h :: r) = true) :
  ∀ h' ∈ h :: r, h' ∈ c.headers
  := by
  obtain ⟨k, hk⟩ := List.mem_iff_getElem?.1 hh
  have hbytes : ∀ h' ∈ LedgerTrust.linkedHeaders s c.headers,
      s.encode BlockHeader.codec h' ∈ hashed := by
    intro h' hh'
    apply hchain
    apply List.mem_append_left
    exact List.mem_map.2 ⟨h', hh', rfl⟩
  obtain ⟨ks, hmap, -⟩ := hlinked.linksBack.exists_positions hsep hbytes (by simp [hs]) hk hpath
    (by simp [hs]) hlinks
  exact forall_mem_of_positions hmap

/-! ### Paths of the chain -/

/-- Along links, the headers of a chain that skips are linked. -/
theorem Skips.linked_filterMap (hskips : c.Skips) {ns : List UInt64}
    (hlinks : ns.IsChain fun x y => y ∈ SkipList.targets x)
    (hthere : ∀ n ∈ ns, ∃ h, c.header? n = some h) :
  linked s (ns.filterMap c.header?) = true
  := by
  induction hlinks with
  | nil => rfl
  | singleton n =>
    obtain ⟨h, hh⟩ := hthere n List.mem_cons_self
    simp [hh, linked]
  | @cons_cons x y ns hlink _ ih =>
    obtain ⟨h, hh⟩ := hthere x List.mem_cons_self
    obtain ⟨h', hh'⟩ := hthere y (List.mem_cons_of_mem x List.mem_cons_self)
    obtain ⟨hmem, hn⟩ := number_of_header? hh
    have hrest := ih fun n hn => hthere n (List.mem_cons_of_mem x hn)
    rw [List.filterMap_cons_some hh'] at hrest
    rw [List.filterMap_cons_some hh, List.filterMap_cons_some hh', linked, hrest, Bool.and_true]
    rw [hskips h hmem, List.contains_iff_mem, hn]
    apply List.mem_filterMap.2
    exact ⟨y, hlink, by rw [hh']; rfl⟩

/-- The headers along the walk between two blocks of a chain that skips: they are linked, start
with the later block and end with the earlier one. -/
theorem Skips.pathHeaders_spec (hskips : c.Skips) {first last : BlockHeader}
    (hfirst : first ∈ c.headers) (hlast : last ∈ c.headers) (h : first.number ≤ last.number) :
  linked s (c.pathHeaders first.number last.number) = true
    ∧ (c.pathHeaders first.number last.number).head? = some last
    ∧ (c.pathHeaders first.number last.number).getLast? = some first
  := by
  have hone := one_le_number hfirst
  obtain ⟨hlinks, hend, hbetween⟩ := SkipList.walk_spec hone h
  have hthere : ∀ n ∈ SkipList.walk first.number last.number, ∃ h, c.header? n = some h := by
    intro n hn
    obtain ⟨hlow, hhigh⟩ := hbetween n hn
    exact exists_header? hlast (UInt64.le_trans hone hlow) hhigh
  rw [pathHeaders, SkipList.path_eq_walk hone h]
  constructor
  · exact hskips.linked_filterMap hlinks hthere
  constructor
  · obtain ⟨r, hr⟩ := List.head?_eq_some_iff.1 (SkipList.head?_walk first.number last.number)
    rw [hr, List.filterMap_cons_some (header?_number hlast)]
    rfl
  · obtain ⟨r, hr⟩ := List.getLast?_eq_some_iff.1 hend
    rw [hr, List.filterMap_append, List.filterMap_cons_some (header?_number hfirst)]
    simp

/-- A path between two different blocks has more than one header. -/
theorem Skips.pathHeaders_ne_singleton (hskips : c.Skips) {first last : BlockHeader}
    (hfirst : first ∈ c.headers) (hlast : last ∈ c.headers) (h : first.number < last.number)
    (header : BlockHeader) :
  c.pathHeaders first.number last.number ≠ [header]
  := by
  intro he
  obtain ⟨-, hhead, hend⟩ := hskips.pathHeaders_spec hfirst hlast (UInt64.le_of_lt h)
  rw [he] at hhead hend
  cases hhead
  cases hend
  exact UInt64.lt_irrefl _ h

end Chain

end LedgerTrust
