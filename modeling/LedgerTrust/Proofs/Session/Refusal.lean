import LedgerTrust.Proofs.Session.Script

/-!
# When arguments are refused

An argument is refused by the check of a fetch, and by nothing else: no query and no look at an
answer reports a refused argument. So an operation that makes several queries in turn refuses an
argument exactly at the first query whose check fails, after those before it were made
(`Operation.inTurn_refused_iff`).

For an operation of one query this is before anything is done. A full proof compares the anchor with
the block of the receipt first. Then the checks of its paths pass, unless the receipt is of block 0:
there is no such block, but it is before every anchor, and the path down to it is refused only when
it is due, after the inclusion proof was fetched.
-/

namespace LedgerTrust

/-! ### Fetches -/

namespace Session

variable {α : Type} {s : Session} {l l' : Link} {e : QueryError}

/-- A query that was sent is one more request. -/
theorem sent_queried {path : String} {url : Url} :
  (s.queried path l url).line.sent = l.line.sent ++ [s.queryRequest url path]
  := by rw [queried, Link.sent_exchange, Link.line_select]

/-- A query does not refuse arguments. -/
theorem isInvalidArgument_of_ask {c : Codec (Response α)} {path : String}
    (h : s.ask c path l = (.error e, l')) :
  e.isInvalidArgument = false
  := by
  obtain ⟨replica, url, haddress⟩ | ⟨e', hnowhere⟩ := s.exists_addresses_or_goesNowhere path l
  · rw [ask_of_addresses haddress] at h
    cases unanswered_of_readReception (Prod.mk.inj h).1 with
    | _ => rfl
  · rw [ask_of_goesNowhere hnowhere] at h
    cases h
    cases hnowhere with
    | _ => rfl

end Session

namespace Fetch

open Dialogue Session

variable {s : Session} {f : Fetch} {l l' : Link} {e : QueryError}

/-- The look at an answer does not refuse arguments. -/
theorem isInvalidArgument_of_value {content : f.Content} (h : f.value s content = .error e) :
  e.isInvalidArgument = false
  := by
  cases unfit_of_value h with
  | _ => rfl

/-- A fetch refuses its arguments exactly by their check, before anything is done. -/
theorem dialogue_refused_iff :
  f.dialogue s l = (.error e, l') ∧ e.isInvalidArgument = true ↔ f.check = .error e ∧ l = l'
  := by
  rw [dialogue_eq]
  simp only [bind_eq_error, given_eq_error]
  constructor
  · rintro ⟨hrefused | ⟨_, l₁, -, hasked | ⟨content, l₂, -, hlooked, -⟩⟩, he⟩
    · exact hrefused
    · rw [isInvalidArgument_of_ask hasked] at he
      cases he
    · rw [isInvalidArgument_of_value hlooked] at he
      cases he
  · intro h
    exact ⟨.inl h, isInvalidArgument_of_check h.1⟩

/-- The script of a fetch whose arguments are refused does nothing. -/
theorem script_of_check (h : f.check = .error e) :
  f.script s = .done (.error e)
  := by
  rw [script, h]
  rfl

end Fetch

/-! ### Queries in turn -/

namespace Operation

open Dialogue Session
open FullProof (Part)

variable {s : Session} {op : Operation} {l l' : Link} {e : QueryError}
  {look : (f : Fetch) → f.Value → Except ProofError Unit} {f : Fetch} {fs : List Fetch}

/-- Queries that are made in turn refuse an argument exactly at the first one whose check fails,
after those before it were made. -/
theorem inTurn_refused_iff :
  (inTurn s look fs).dialogue s l = (.error e, l') ∧ e.isInvalidArgument = true
    ↔ ∃ before f after, fs = before ++ f :: after
      ∧ (inTurn s look before).dialogue s l = (.ok (), l') ∧ f.check = .error e
  := by
  induction fs generalizing l with
  | nil =>
    constructor
    · nofun
    · rintro ⟨before, f, after, hsplit, -⟩
      simp at hsplit
  | cons f fs ih =>
    rw [dialogue_inTurn]
    simp only [bind_eq_error, given_eq_error]
    constructor
    · rintro ⟨hfetch | ⟨v, l₁, hfetch, ⟨hlook, -⟩ | ⟨_, l₂, hlook, hrest⟩⟩, he⟩
      · obtain ⟨hcheck, rfl⟩ := Fetch.dialogue_refused_iff.1 ⟨hfetch, he⟩
        exact ⟨[], f, fs, rfl, rfl, hcheck⟩
      · obtain ⟨cause, -, rfl⟩ := mapError_eq_error_iff.1 hlook
        cases he
      · obtain ⟨hlooked, rfl⟩ := given_eq_ok.1 hlook
        obtain ⟨before, f', after, rfl, hbefore, hcheck⟩ := ih.1 ⟨hrest, he⟩
        refine ⟨f :: before, f', after, rfl, ?_, hcheck⟩
        rw [dialogue_inTurn]
        apply bind_eq_ok.2
        exact ⟨v, l₁, hfetch, bind_eq_ok.2 ⟨(), l₁, given_eq_ok.2 ⟨hlooked, rfl⟩, hbefore⟩⟩
    · rintro ⟨before, f', after, hsplit, hbefore, hcheck⟩
      cases before with
      | nil =>
        cases hsplit
        cases hbefore
        obtain ⟨hfetch, he⟩ := Fetch.dialogue_refused_iff.2 ⟨hcheck, rfl⟩
        exact ⟨.inl hfetch, he⟩
      | cons first before =>
        cases hsplit
        rw [dialogue_inTurn] at hbefore
        obtain ⟨v, l₁, hfetch, hbefore⟩ := bind_eq_ok.1 hbefore
        obtain ⟨_, l₂, hlook, hbefore⟩ := bind_eq_ok.1 hbefore
        obtain ⟨hrest, he⟩ := ih.2 ⟨before, f', after, rfl, hbefore, hcheck⟩
        exact ⟨.inr ⟨v, l₁, hfetch, .inr ⟨(), l₂, hlook, hrest⟩⟩, he⟩

/-- The script of queries of which the first refuses its arguments does nothing. -/
theorem inTurn_of_check (h : f.check = .error e) :
  inTurn s look (f :: fs) = .done (.error e)
  := by
  rw [inTurn, Fetch.script_of_check h]
  rfl

theorem inTurn_singleton_refused_iff :
  (inTurn s look [f]).dialogue s l = (.error e, l') ∧ e.isInvalidArgument = true
    ↔ f.check = .error e ∧ l = l'
  := by
  rw [inTurn_refused_iff]
  constructor
  · rintro ⟨before, f', after, hsplit, hbefore, hcheck⟩
    cases before with
    | nil =>
      cases hsplit
      cases hbefore
      exact ⟨hcheck, rfl⟩
    | cons first before =>
      cases before with
      | nil => cases hsplit
      | cons _ _ => cases hsplit
  · rintro ⟨hcheck, rfl⟩
    exact ⟨[], f, [], rfl, rfl, hcheck⟩

/-! ### Refused arguments -/

/-- The arguments of an operation are refused as such, with an error. -/
def Refuses : Operation → QueryError → Prop
  | .ledgerPath first last, e => (first = 0 ∨ last < first) ∧ e = .invalidRange first last
  | .txReceipt txId, e => isTxId txId = false ∧ e = .invalidTxId txId
  | .dataProof _ database _ _, e => isDatabaseName database = false ∧ e = .invalidDatabase database
  | .verifyValue _ database _ _ _, e =>
    isDatabaseName database = false ∧ e = .invalidDatabase database
  | .fullProof receipt anchor _, e =>
    anchor.number < receipt.blockNumber ∧ e = .anchorBeforeTx anchor.number receipt.blockNumber
  | _, _ => False

/-- The arguments of an operation are refused between two links only: those of a full proof with a
receipt of block 0, once the inclusion proof was fetched and evaluated. -/
inductive RefusesLate (s : Session) (l l' : Link) : Operation → QueryError → Prop
  | fullProof {receipt : TxReceipt} {anchor : BlockHeader} {envelope : Envelope}
      {inclusion : InclusionProof} {isIncluded : Bool} (hblock : receipt.blockNumber = 0)
      (hanchor : 0 < anchor.number) (hproof : s.txProof 0 receipt.index l = (.ok inclusion, l'))
      (hverify : inclusion.verify s.scheme receipt envelope = .ok isIncluded) :
    RefusesLate s l l' (.fullProof receipt anchor envelope) (.invalidRange 0 anchor.number)

/-- What is refused late is refused after one request. -/
theorem RefusesLate.exists_request (h : op.RefusesLate s l l' e) :
  ∃ request, l'.line.sent = l.line.sent ++ [request]
  := by
  obtain ⟨-, -, hproof, -⟩ := h
  obtain ⟨a, -, -, rfl⟩ := ask_eq_ok_iff.1 (txProof_eq_ok.1 hproof)
  exact ⟨_, sent_queried⟩

theorem isRange_eq_false_iff {first last : UInt64} :
  isRange first last = false ↔ first = 0 ∨ last < first
  := by
  rw [isRange, Bool.and_eq_false_iff, decide_eq_false_iff_not, decide_eq_false_iff_not,
    UInt64.not_le, UInt64.not_le]
  apply or_congr_left
  rw [UInt64.lt_iff_toNat_lt, ← UInt64.toNat_inj]
  exact Nat.lt_one_iff

/-! ### Operations of one query -/

variable {q : Fetch}

/-- An operation of one query refuses its arguments by the check of this query, and does nothing. -/
theorem refused_iff_of_query (hrefusal : op.refusal? = none) (hqueries : op.queries = [q])
    (hcheck : q.check = .error e ↔ op.Refuses e) (hlate : ¬ op.RefusesLate s l l' e) :
  (op.dialogue s l = (.error e, l') ∧ e.isInvalidArgument = true
      ↔ op.Refuses e ∧ l = l' ∨ op.RefusesLate s l l' e)
    ∧ (op.Refuses e → op.script s = .done (.error e))
  := by
  rw [← dialogue_script, script, hrefusal, ← hcheck]
  simp only [hqueries, inTurn_singleton_refused_iff, hlate, or_false, true_and]
  exact inTurn_of_check

/-! ### Full proofs -/

variable {receipt : TxReceipt} {anchor : BlockHeader} {envelope : Envelope}

/-- Of the parts of a full proof that are due, only the path from the anchor can be refused, and
only for a receipt of block 0. -/
theorem check_fetch_eq_error {part : Part} (hdue : part.isDue receipt anchor = true)
    (hcheck : (part.fetch receipt anchor).check = .error e) :
  part = .fromAnchor ∧ receipt.blockNumber = 0 ∧ e = .invalidRange 0 anchor.number
  := by
  cases part with
  | inclusion => cases hcheck
  | toGenesis =>
    obtain ⟨hrange, -⟩ := checked_eq_error.1 hcheck
    obtain hzero | hlt := isRange_eq_false_iff.1 hrange
    · cases hzero
    · exact absurd hlt (UInt64.lt_asymm (of_decide_eq_true hdue))
  | fromAnchor =>
    obtain ⟨hrange, rfl⟩ := checked_eq_error.1 hcheck
    obtain hzero | hlt := isRange_eq_false_iff.1 hrange
    · rw [hzero]
      exact ⟨rfl, rfl, rfl⟩
    · exact absurd hlt (UInt64.lt_asymm (of_decide_eq_true hdue))

theorem queries_of_block_zero (hblock : receipt.blockNumber = 0) (hanchor : 0 < anchor.number) :
  (fullProof receipt anchor envelope).queries
    = [.txProof 0 receipt.index, .ledgerPath 0 anchor.number]
  := by
  have hdue : Part.due receipt anchor = [.inclusion, .fromAnchor] := by
    simp [Part.due, List.filter_cons, Part.isDue, hblock, hanchor, genesis]
  rw [queries, if_pos (hblock ▸ UInt64.zero_le), hdue]
  simp [Part.fetch, hblock]

/-- An inclusion proof is fetched and evaluated. -/
theorem inTurn_inclusion_eq_ok_iff {block : UInt64} :
  (inTurn s ((fullProof receipt anchor envelope).look s)
      [.txProof block receipt.index]).dialogue s l = (.ok (), l')
    ↔ ∃ inclusion isIncluded, s.txProof block receipt.index l = (.ok inclusion, l')
      ∧ inclusion.verify s.scheme receipt envelope = .ok isIncluded
  := by
  rw [dialogue_inTurn]
  simp only [bind_eq_ok, given_eq_ok, mapError_eq_ok_iff, look]
  constructor
  · rintro ⟨inclusion, l₁, hproof, _, _, ⟨hlook, rfl⟩, hend⟩
    cases hend
    cases hverify : inclusion.verify s.scheme receipt envelope with
    | ok isIncluded => exact ⟨inclusion, isIncluded, hproof, hverify⟩
    | error cause =>
      rw [hverify] at hlook
      cases hlook
  · rintro ⟨inclusion, isIncluded, hproof, hverify⟩
    refine ⟨inclusion, l', hproof, (), l', ⟨?_, rfl⟩, rfl⟩
    rw [hverify]
    rfl

theorem refusedLate_iff (hle : receipt.blockNumber ≤ anchor.number) :
  (fullProof receipt anchor envelope).dialogue s l = (.error e, l') ∧ e.isInvalidArgument = true
    ↔ (fullProof receipt anchor envelope).RefusesLate s l l' e
  := by
  rw [← dialogue_script, script, refusal?, if_pos hle]
  simp only
  rw [inTurn_refused_iff]
  constructor
  · rintro ⟨before, f, after, hsplit, hbefore, hcheck⟩
    have hmem : f ∈ (fullProof receipt anchor envelope).queries := by
      rw [hsplit]
      simp
    rw [queries, if_pos hle] at hmem
    obtain ⟨part, hpart, rfl⟩ := List.mem_map.1 hmem
    have hdue := isDue_of_mem_due hpart
    obtain ⟨rfl, hblock, rfl⟩ := check_fetch_eq_error hdue hcheck
    have hanchor : 0 < anchor.number := hblock ▸ of_decide_eq_true hdue
    rw [queries_of_block_zero hblock hanchor] at hsplit
    obtain rfl : before = [.txProof 0 receipt.index] := by
      cases before with
      | nil => cases hsplit
      | cons first before =>
        cases before with
        | nil => rw [(List.cons.inj hsplit).1]
        | cons second before => simp at hsplit
    obtain ⟨inclusion, isIncluded, hproof, hverify⟩ := inTurn_inclusion_eq_ok_iff.1 hbefore
    exact .fullProof hblock hanchor hproof hverify
  · rintro ⟨hblock, hanchor, hproof, hverify⟩
    rw [queries_of_block_zero hblock hanchor]
    refine ⟨[.txProof 0 receipt.index], .ledgerPath 0 anchor.number, [], rfl, ?_, rfl⟩
    exact inTurn_inclusion_eq_ok_iff.2 ⟨_, _, hproof, hverify⟩

/-- A full proof compares its anchor before anything is done, and otherwise is refused late if at
all. -/
theorem refused_fullProof_iff :
  ((fullProof receipt anchor envelope).dialogue s l = (.error e, l') ∧ e.isInvalidArgument = true
      ↔ (fullProof receipt anchor envelope).Refuses e ∧ l = l'
        ∨ (fullProof receipt anchor envelope).RefusesLate s l l' e)
    ∧ ((fullProof receipt anchor envelope).Refuses e
      → (fullProof receipt anchor envelope).script s = .done (.error e))
  := by
  by_cases hle : receipt.blockNumber ≤ anchor.number
  · have hrefuses : ¬ (fullProof receipt anchor envelope).Refuses e :=
      fun h => UInt64.not_lt.2 hle h.1
    rw [refusedLate_iff hle]
    simp only [hrefuses, false_and, false_or, false_implies, and_self]
  · have hlate : ¬ (fullProof receipt anchor envelope).RefusesLate s l l' e := by
      rintro ⟨hblock, -, -, -⟩
      exact hle (hblock ▸ UInt64.zero_le)
    have hscript : (fullProof receipt anchor envelope).script s
        = .done (.error (.anchorBeforeTx anchor.number receipt.blockNumber)) := by
      rw [script, refusal?, if_neg hle]
    rw [← dialogue_script, hscript]
    constructor
    · constructor
      · rintro ⟨⟨⟩, -⟩
        exact .inl ⟨⟨UInt64.not_le.1 hle, rfl⟩, rfl⟩
      · rintro (⟨⟨-, rfl⟩, rfl⟩ | h)
        · exact ⟨rfl, rfl⟩
        · exact absurd h hlate
    · rintro ⟨-, rfl⟩
      rfl

/-- Of every operation, with any arguments, on any link and whatever the replicas deliver: it
returns the error of a refused argument exactly if its arguments are refused as such, or if it is a
full proof with a receipt of block 0 that fetched its inclusion proof. In the first case no replica
was picked and nothing was sent; in the second case one request was sent. -/
theorem invalidArgument_iff (s : Session) (op : Operation) (l l' : Link) (e : QueryError) :
  (op.dialogue s l = (.error e, l') ∧ e.isInvalidArgument = true
      ↔ op.Refuses e ∧ l = l' ∨ op.RefusesLate s l l' e)
    ∧ (op.Refuses e → op.script s = .done (.error e))
    ∧ (op.RefusesLate s l l' e → ∃ request, l'.line.sent = l.line.sent ++ [request])
  := by
  rw [← and_assoc]
  constructor
  · cases op with
    | ledgerPath first last =>
      have hcheck : (Fetch.ledgerPath first last).check = .error e
          ↔ (ledgerPath first last).Refuses e :=
        checked_eq_error.trans (and_congr_left' isRange_eq_false_iff)
      exact refused_iff_of_query rfl rfl hcheck nofun
    | txReceipt txId => exact refused_iff_of_query rfl rfl checked_eq_error nofun
    | dataProof block database key isDeleted =>
      exact refused_iff_of_query rfl rfl checked_eq_error nofun
    | verifyValue header database key value isDeleted =>
      exact refused_iff_of_query rfl rfl checked_eq_error nofun
    | fullProof receipt anchor envelope => exact refused_fullProof_iff
    -- The arguments of all others are accepted, whatever they are.
    | _ => exact refused_iff_of_query rfl rfl ⟨nofun, nofun⟩ nofun
  · exact RefusesLate.exists_request

namespace Sample

/-- The header of the second block, with the number of no block. -/
def numberless : BlockHeader :=
  { Sample.second with base := { Sample.second.base with number := 0 } }

/-- A link with the delivery of the proof of a transaction. -/
def proofLink : Link := .start [Sample.delivery Sample.proofText Sample.proofSignature]

theorem refusesLate_numberless :
  ∃ l', (fullProof ⟨numberless, 0⟩ Sample.second Sample.envelope).RefusesLate Sample.session
    proofLink l' (.invalidRange 0 2)
  := by
  have hanswers : Sample.session.Answers Response.inclusionProofCodec (txProofPath 0 0)
      [leafHash Sample.scheme Sample.envelope .valid] proofLink :=
    Sample.answers_of_delivery (by decide +kernel) rfl Sample.verify_proofText
  obtain ⟨isIncluded, hverify⟩ : ∃ isIncluded, InclusionProof.verify
      ⟨[leafHash Sample.scheme Sample.envelope .valid]⟩ Sample.scheme ⟨numberless, 0⟩
      Sample.envelope = .ok isIncluded :=
    ⟨_, if_pos rfl⟩
  exact ⟨_, .fullProof rfl (by decide) (txProof_of_answers hanswers) hverify⟩

end Sample

/-- A path to a block before its first one is refused before anything is done, and a full proof with
a receipt of block 0 after one request. -/
theorem invalidArgument_iff_sample :
  (ledgerPath 2 1).script Sample.session = .done (.error (.invalidRange 2 1))
    ∧ ∃ l' request, (fullProof ⟨Sample.numberless, 0⟩ Sample.second Sample.envelope).dialogue
        Sample.session Sample.proofLink = (.error (.invalidRange 0 2), l')
      ∧ l'.line.sent = [request]
  := by
  constructor
  · obtain ⟨-, hearly, -⟩ := invalidArgument_iff Sample.session (.ledgerPath 2 1) Sample.proofLink
      Sample.proofLink (.invalidRange 2 1)
    exact hearly ⟨.inr (by decide), rfl⟩
  · obtain ⟨l', hlate⟩ := Sample.refusesLate_numberless
    obtain ⟨hrefused, -, hsent⟩ := invalidArgument_iff _ _ _ _ _
    obtain ⟨hdialogue, -⟩ := hrefused.2 (.inr hlate)
    obtain ⟨request, hrequest⟩ := hsent hlate
    exact ⟨l', request, hdialogue, hrequest⟩

/-- The argument of a full proof is refused after a replica was picked and a request was sent. -/
theorem refused_after_request :
  ∃ e l' request, e.isInvalidArgument = true
    ∧ (fullProof ⟨Sample.numberless, 0⟩ Sample.second Sample.envelope).dialogue Sample.session
        Sample.proofLink = (.error e, l')
    ∧ l'.line.sent = [request]
  := by
  obtain ⟨l', hlate⟩ := Sample.refusesLate_numberless
  have hle : TxReceipt.blockNumber ⟨Sample.numberless, 0⟩ ≤ Sample.second.number := by decide
  obtain ⟨hdialogue, he⟩ := (refusedLate_iff hle).2 hlate
  obtain ⟨request, hsent⟩ := hlate.exists_request
  exact ⟨_, l', request, he, hdialogue, hsent⟩

end Operation

end LedgerTrust
