import LedgerTrust.Proofs.Ledger.Path
import LedgerTrust.Proofs.Proof.SkipPath

/-!
# Tampering with paths

In a list of headers that are numbered from one and have as skip links the digests of the headers at
the targets of their blocks, a path follows the links between numbers, unless digests collide. There
is one way at most to go from one block to another in two steps, so between two headers of a path no
other header fits than the one that stands there, be it one of the ledger or not. And what
`SkipList.path` goes along is a shortest walk, so none of its headers can be left out.
-/

namespace LedgerTrust

/-! ### Linked headers -/

/-- Headers are linked if each one has the digest of the next among its skip links. -/
theorem linked_iff_isChain {s : Scheme} {headers : List BlockHeader} :
  linked s headers = true ↔ headers.IsChain fun h next => next.hash s ∈ h.skipLinks
  := by
  induction headers with
  | nil => simp [linked]
  | cons h r ih =>
    cases r with
    | nil => simp [linked]
    | cons next r =>
      rw [linked, Bool.and_eq_true, List.contains_iff_mem, ih, List.isChain_cons_cons]

/-- A path in two parts that are not empty can be evaluated. -/
theorem LedgerPath.verify_append (s : Scheme) {before after : List BlockHeader}
    (hbefore : before ≠ []) (hafter : after ≠ []) :
  LedgerPath.verify ⟨before ++ after⟩ s = .ok (linked s (before ++ after))
  := by
  obtain ⟨h, r, rfl⟩ := List.exists_cons_of_ne_nil hbefore
  obtain ⟨h', r', rfl⟩ := List.exists_cons_of_ne_nil hafter
  cases r with
  | nil => rfl
  | cons next r => rfl

/-! ### Headers that skip -/

/-- The skip links of each header are the digests of the headers at its targets, in order. -/
def SkipsBack (s : Scheme) (chain : List BlockHeader) : Prop :=
  ∀ h ∈ chain, h.skipLinks = (SkipList.targets h.number).filterMap fun t =>
    (chain.find? (·.number = t)).map (·.hash s)

variable {s : Scheme} {chain : List BlockHeader}

/-- Each skip link is the digest of a header at one of the targets. -/
theorem SkipsBack.exists_target (hskips : SkipsBack s chain) {h : BlockHeader} (hh : h ∈ chain)
    {d : Digest} (hd : d ∈ h.skipLinks) :
  ∃ h' ∈ chain, h'.number ∈ SkipList.targets h.number ∧ d = h'.hash s
  := by
  rw [hskips h hh] at hd
  obtain ⟨t, ht, hfound⟩ := List.mem_filterMap.1 hd
  obtain ⟨h', hh', rfl⟩ := Option.map_eq_some_iff.1 hfound
  obtain ⟨hmem, rfl⟩ := mem_of_find?_number hh'
  use h', hmem, ht

/-- A header whose digest is a skip link of a header of the list is the one at a target, unless
digests collide. -/
theorem SkipsBack.mem_of_linked (hskips : SkipsBack s chain) {hashed : List Bytes}
    (hsep : s.Separates hashed)
    (hchain : ∀ h ∈ linkedHeaders s chain, s.encode BlockHeader.codec h ∈ hashed)
    (hfits : s.encoding = .binary → ∀ h ∈ chain, h.Fits) {h next : BlockHeader} (hh : h ∈ chain)
    (hlink : next.hash s ∈ h.skipLinks) (hnext : s.encode BlockHeader.codec next ∈ hashed)
    (hnextFits : s.encoding = .binary → next.Fits) :
  next ∈ chain ∧ next.number ∈ SkipList.targets h.number
  := by
  obtain ⟨h', hh', htarget, hdigest⟩ := hskips.exists_target hh hlink
  have hbytes : s.encode BlockHeader.codec h' ∈ hashed :=
    hchain h' (mem_linkedHeaders hh hh' (hdigest ▸ hlink))
  obtain rfl : next = h' := by
    apply BlockHeader.eq_of_hash_eq hsep _ hnext hbytes hdigest
    intro hs
    exact ⟨hnextFits hs, hfits hs h' hh'⟩
  exact ⟨hh', htarget⟩

/-- From one header of the list to another that it is linked to, the numbers follow a link, unless
digests collide. -/
theorem SkipsBack.mem_targets (hskips : SkipsBack s chain) {hashed : List Bytes}
    (hsep : s.Separates hashed)
    (hchain : ∀ h ∈ linkedHeaders s chain, s.encode BlockHeader.codec h ∈ hashed)
    (hfits : s.encoding = .binary → ∀ h ∈ chain, h.Fits) {h next : BlockHeader} (hh : h ∈ chain)
    (hnext : next ∈ chain) (hlink : next.hash s ∈ h.skipLinks) :
  next.number ∈ SkipList.targets h.number
  := by
  have hbytes := hchain next (mem_linkedHeaders hh hnext hlink)
  obtain ⟨-, htarget⟩ := hskips.mem_of_linked hsep hchain hfits hh hlink hbytes
    (fun hs => hfits hs next hnext)
  apply htarget

/-! ### Another header, or none -/

/-- A header in a linked path is linked from the one before it and to the one after it. -/
theorem links_of_linked {r q : List BlockHeader} {previous h next : BlockHeader}
    (hlinked : linked s (r ++ [previous] ++ h :: next :: q) = true) :
  h.hash s ∈ previous.skipLinks ∧ next.hash s ∈ h.skipLinks
  := by
  rw [linked_iff_isChain, List.append_assoc, List.singleton_append] at hlinked
  obtain ⟨hfrom, hrest⟩ := List.isChain_cons_cons.1 hlinked.right_of_append
  obtain ⟨hto, -⟩ := List.isChain_cons_cons.1 hrest
  exact ⟨hfrom, hto⟩

/-- In a linked path of the list, no other header can take the place of one between two others,
unless digests collide. -/
theorem SkipsBack.eq_of_linked (hskips : SkipsBack s chain) (hnumbered : NumberedFromOne chain)
    (hfits : s.encoding = .binary → ∀ h ∈ chain, h.Fits) {before after : List BlockHeader}
    {h h' : BlockHeader} (hbefore : before ≠ []) (hafter : after ≠ [])
    (hsep : s.Separates ((h' :: linkedHeaders s chain).map (s.encode BlockHeader.codec)))
    (hfits' : s.encoding = .binary → h'.Fits) (hpath : ∀ x ∈ before ++ h :: after, x ∈ chain)
    (hlinked : linked s (before ++ h :: after) = true)
    (hlinked' : linked s (before ++ h' :: after) = true) :
  h' = h
  := by
  obtain ⟨r, previous, rfl⟩ := (List.eq_nil_or_concat' before).resolve_left hbefore
  obtain ⟨next, q, rfl⟩ := List.exists_cons_of_ne_nil hafter
  obtain ⟨hfrom, hto⟩ := links_of_linked hlinked
  obtain ⟨hfrom', hto'⟩ := links_of_linked hlinked'
  have hprevious : previous ∈ chain := by
    apply hpath
    simp
  have hh : h ∈ chain := by
    apply hpath
    simp
  have hnext : next ∈ chain := by
    apply hpath
    simp
  have hbytes : ∀ x ∈ linkedHeaders s chain, s.encode BlockHeader.codec x
      ∈ (h' :: linkedHeaders s chain).map (s.encode BlockHeader.codec) := by
    intro x hx
    apply List.mem_map_of_mem (List.mem_cons_of_mem h' hx)
  -- The other header is one of the list, too, and leads from the one before to the one after.
  obtain ⟨hh', htarget'⟩ := hskips.mem_of_linked hsep hbytes hfits hprevious hfrom'
    (List.mem_map_of_mem List.mem_cons_self) hfits'
  apply hnumbered.eq_of_number_eq hh' hh
  apply SkipList.midpoint_unique (n := previous.number) (m := next.number)
  · apply htarget'
  · apply hskips.mem_targets hsep hbytes hfits hprevious hh hfrom
  · apply hskips.mem_targets hsep hbytes hfits hh' hnext hto'
  · apply hskips.mem_targets hsep hbytes hfits hh hnext hto

/-- Along a path between two blocks, no header between two others can be left out, unless digests
collide. -/
theorem SkipsBack.not_linked_of_removed (hskips : SkipsBack s chain)
    (hfits : s.encoding = .binary → ∀ h ∈ chain, h.Fits)
    (hsep : s.Separates ((linkedHeaders s chain).map (s.encode BlockHeader.codec)))
    {before after : List BlockHeader} {h : BlockHeader} {first last : UInt64}
    (hbefore : before ≠ []) (hafter : after ≠ []) (hpath : ∀ x ∈ before ++ h :: after, x ∈ chain)
    (hnumbers : (before ++ h :: after).map BlockHeader.number = SkipList.path first last) :
  linked s (before ++ after) = false
  := by
  apply Bool.eq_false_iff.2
  intro hlinked
  obtain ⟨r, previous, rfl⟩ := (List.eq_nil_or_concat' before).resolve_left hbefore
  obtain ⟨next, q, rfl⟩ := List.exists_cons_of_ne_nil hafter
  obtain ⟨hfirst, hle⟩ : 1 ≤ first ∧ first ≤ last := by
    apply SkipList.le_of_path_ne_nil
    rw [← hnumbers]
    simp
  obtain ⟨hstart, hend, hlinks⟩ := SkipList.path_spec hfirst hle
  rw [← hnumbers, List.map_append] at hstart hend hlinks
  have hshortcut : next.number ∈ SkipList.targets previous.number := by
    apply hskips.mem_targets hsep (fun h hh => List.mem_map_of_mem hh) hfits
    · apply hpath
      simp
    · apply hpath
      simp
    · rw [linked_iff_isChain, List.append_assoc, List.singleton_append] at hlinked
      apply (List.isChain_cons_cons.1 hlinked.right_of_append).1
  -- Without the header there would be a shorter walk.
  have hshort : (SkipList.path first last).length ≤ ((r ++ [previous]).map BlockHeader.number
      ++ (next :: q).map BlockHeader.number).length := by
    apply SkipList.length_path_le_of_links hfirst hle
    · rw [List.head?_append_of_ne_nil] at hstart ⊢
      · apply hstart
      · simp
      · simp
    · rw [List.getLast?_append_of_ne_nil] at hend ⊢
      · apply hend
      · simp
      · simp
    · rw [List.isChain_append]
      use hlinks.left_of_append, hlinks.right_of_append.tail
      simpa using hshortcut
  rw [← hnumbers] at hshort
  simp at hshort

/-- Of every scheme and every list of headers that are numbered from one and whose skip links are
the digests of the headers at their targets, in order. If a path of such headers is right, then it
is wrong with any other header in the place of one that is neither the first nor the last; and the
headers along a path between two blocks are wrong without one that is neither the first nor the
last. Otherwise two different headers among those that are linked to and the one put in have
canonical forms with the same digest. -/
theorem SkipsBack.verify_tampered (hskips : SkipsBack s chain) (hnumbered : NumberedFromOne chain)
    (hfits : s.encoding = .binary → ∀ h ∈ chain, h.Fits) {before after : List BlockHeader}
    {h : BlockHeader} (hbefore : before ≠ []) (hafter : after ≠ [])
    (hpath : ∀ x ∈ before ++ h :: after, x ∈ chain) :
  (LedgerPath.verify ⟨before ++ h :: after⟩ s = .ok true →
    ∀ h', h' ≠ h → (s.encoding = .binary → h'.Fits) →
      LedgerPath.verify ⟨before ++ h' :: after⟩ s = .ok false
        ∨ s.Collision ((h' :: linkedHeaders s chain).map (s.encode BlockHeader.codec)))
    ∧ ∀ first last, (before ++ h :: after).map BlockHeader.number = SkipList.path first last →
      LedgerPath.verify ⟨before ++ after⟩ s = .ok false
        ∨ s.Collision ((linkedHeaders s chain).map (s.encode BlockHeader.codec))
  := by
  constructor
  · intro hverify h' hne hfits'
    obtain hcollision | hsep := s.collision_or_separates
      ((h' :: linkedHeaders s chain).map (s.encode BlockHeader.codec))
    · apply Or.inr hcollision
    apply Or.inl
    rw [LedgerPath.verify_append s hbefore (List.cons_ne_nil _ _)] at hverify ⊢
    congr 1
    apply Bool.eq_false_iff.2
    intro hlinked
    apply hne
    apply hskips.eq_of_linked hnumbered hfits hbefore hafter hsep hfits' hpath
      (Except.ok.inj hverify) hlinked
  · intro first last hnumbers
    obtain hcollision | hsep := s.collision_or_separates
      ((linkedHeaders s chain).map (s.encode BlockHeader.codec))
    · apply Or.inr hcollision
    apply Or.inl
    rw [LedgerPath.verify_append s hbefore hafter]
    congr 1
    apply hskips.not_linked_of_removed hfits hsep hbefore hafter hpath hnumbers

/-! ### Four headers -/

namespace Sample

/-- A digest that stands where it does not matter which one does. -/
def blank : Digest := Scheme.version1.digest []

/-- A header with a number and skip links of a block without transactions. -/
def skipHeader (number : UInt64) (skipLinks : List Digest) : BlockHeader :=
  ⟨⟨number, blank, blank, 0⟩, skipLinks, blank, blank, []⟩

def firstHeader : BlockHeader := skipHeader 1 []

def secondHeader : BlockHeader := skipHeader 2 [firstHeader.hash .version1]

def thirdHeader : BlockHeader :=
  skipHeader 3 [secondHeader.hash .version1, firstHeader.hash .version1]

def fourthHeader : BlockHeader := skipHeader 4 [thirdHeader.hash .version1]

/-- Four headers that skip back. -/
def fourHeaders : List BlockHeader := [firstHeader, secondHeader, thirdHeader, fourthHeader]

theorem numberedFromOne_fourHeaders :
  NumberedFromOne fourHeaders
  := by
  intro k h hk
  match k with
  | 0 | 1 | 2 | 3 =>
    cases hk
    rfl

theorem skipsBack_fourHeaders :
  SkipsBack .version1 fourHeaders
  := by
  have htargets : SkipList.targets 1 = [] ∧ SkipList.targets 2 = [1]
      ∧ SkipList.targets 3 = [2, 1] ∧ SkipList.targets 4 = [3] := by decide
  obtain ⟨hfirst, hsecond, hthird, hfourth⟩ := htargets
  intro h hh
  simp only [fourHeaders, List.mem_cons, List.not_mem_nil, or_false] at hh
  rcases hh with rfl | rfl | rfl | rfl
  · show _ = (SkipList.targets 1).filterMap _
    rw [hfirst]
    rfl
  · show _ = (SkipList.targets 2).filterMap _
    rw [hsecond]
    rfl
  · show _ = (SkipList.targets 3).filterMap _
    rw [hthird]
    rfl
  · show _ = (SkipList.targets 4).filterMap _
    rw [hfourth]
    rfl

theorem path_fourHeaders :
  SkipList.path 1 4 = [4, 3, 1]
  := by decide +kernel

theorem verify_fourHeaders :
  LedgerPath.verify ⟨[fourthHeader, thirdHeader, firstHeader]⟩ .version1 = .ok true
  := by
  have hlink : linked .version1 [fourthHeader, thirdHeader, firstHeader] = true := by
    simp [linked, fourthHeader, thirdHeader, skipHeader]
  apply congrArg Except.ok hlink

theorem nodup_fourHeaders :
  ((fourHeaders.map (Scheme.version1.encode BlockHeader.codec)).map
    Scheme.version1.digest).Nodup
  := by decide +kernel

theorem separates_fourHeaders {headers : List BlockHeader} (h : ∀ x ∈ headers, x ∈ fourHeaders) :
  Scheme.version1.Separates (headers.map (Scheme.version1.encode BlockHeader.codec))
  := by
  apply Scheme.separates_of_nodup nodup_fourHeaders
  intro x hx
  obtain ⟨header, hheader, rfl⟩ := List.mem_map.1 hx
  apply List.mem_map_of_mem (h header hheader)

end Sample

/-- Of the four headers, the path from the last one to the first goes by the third. It is wrong with
the second one in its place, which is linked to the first one, too; and it is wrong without it. -/
theorem SkipsBack.verify_tampered_fourHeaders :
  SkipsBack .version1 Sample.fourHeaders ∧ NumberedFromOne Sample.fourHeaders
    ∧ LedgerPath.verify ⟨[Sample.fourthHeader, Sample.thirdHeader, Sample.firstHeader]⟩ .version1
      = .ok true
    ∧ LedgerPath.verify ⟨[Sample.fourthHeader, Sample.secondHeader, Sample.firstHeader]⟩ .version1
      = .ok false
    ∧ LedgerPath.verify ⟨[Sample.fourthHeader, Sample.firstHeader]⟩ .version1 = .ok false
  := by
  have hpath : ∀ x ∈ [Sample.fourthHeader] ++ Sample.thirdHeader :: [Sample.firstHeader],
      x ∈ Sample.fourHeaders := by
    simp [Sample.fourHeaders]
  obtain ⟨hother, hnone⟩ := Sample.skipsBack_fourHeaders.verify_tampered
    Sample.numberedFromOne_fourHeaders nofun (List.cons_ne_nil _ _) (List.cons_ne_nil _ _) hpath
  have hlinked : ∀ x ∈ linkedHeaders .version1 Sample.fourHeaders, x ∈ Sample.fourHeaders :=
    fun x hx => List.mem_of_mem_filter hx
  use Sample.skipsBack_fourHeaders, Sample.numberedFromOne_fourHeaders, Sample.verify_fourHeaders
  constructor
  · have hne : Sample.secondHeader ≠ Sample.thirdHeader := by
      intro heq
      have hnumber := congrArg BlockHeader.number heq
      revert hnumber
      decide
    apply (hother Sample.verify_fourHeaders Sample.secondHeader hne nofun).resolve_right
    apply Scheme.Separates.not_collision
    apply Sample.separates_fourHeaders
    intro x hx
    rcases List.mem_cons.1 hx with rfl | hx
    · simp [Sample.fourHeaders]
    · apply hlinked x hx
  · apply (hnone 1 4 Sample.path_fourHeaders.symm).resolve_right
    apply Scheme.Separates.not_collision
    apply Sample.separates_fourHeaders hlinked

end LedgerTrust
