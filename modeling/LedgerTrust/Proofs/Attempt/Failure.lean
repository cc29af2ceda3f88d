import LedgerTrust.Proofs.Attempt.Outcome

/-!
# How a commit fails

A commit fails before it submits anything, or by the delivery that it takes. `Session.FailsWith`
lists the deliveries of the second sort with the error of each. From the error alone it is known
whether the transaction may be committed nevertheless: it may if the request may have arrived and
the replica did not refuse it, that is if the exchange broke off, or the replica carried the request
out and what it answers is not accepted.
-/

namespace LedgerTrust

namespace Session

variable {s : Session} {replica : Replica} {d : Delivery} {txId : String} {sync : Bool}
  {e : AttemptError}

/-! ### Deliveries with which a commit fails -/

/-- By the deadline of commits, the transport fails. -/
def BreaksOff (s : Session) (sync : Bool) (d : Delivery) (cause : TransportError) : Prop :=
  d.outcome = .error cause ∧ (sync = true → d.delay ≤ s.commitTimeout.length + 1000000000)

/-- The error of a commit that submits to a replica and takes a delivery with which it fails. -/
inductive FailsWith (s : Session) (sync : Bool) (replica : Replica) (d : Delivery) :
    AttemptError → Prop
  | brokenOff {cause : TransportError} (h : s.BreaksOff sync d cause) :
    FailsWith s sync replica d (.transport cause)
  /-- A reply with status 200 is undecodable, names another node, or is not signed by this one. -/
  | unauthenticated {reply : Reply} {cause : AuthenticationError} (htime : s.InTime sync d reply)
      (hstatus : reply.status = 200)
      (hauth : authenticate s.trusted.verify replica.id Response.submissionCodec reply.body
        = .error cause) :
    FailsWith s sync replica d (.unauthenticated cause)
  | noReceipt {reply : Reply} {response : Response (Option TxReceipt)} (hsync : sync = true)
      (htime : s.InTime sync d reply) (haccepts : s.Accepts replica reply response)
      (hcontent : response.content = none) :
    FailsWith s sync replica d .noReceipt
  | outsideBlock {reply : Reply} {response : Response (Option TxReceipt)} {receipt : TxReceipt}
      (hsync : sync = true) (htime : s.InTime sync d reply)
      (haccepts : s.Accepts replica reply response) (hcontent : response.content = some receipt)
      (houtside : receipt.header.validation.length ≤ receipt.index.toNat) :
    FailsWith s sync replica d (.receiptOutsideBlock receipt.index receipt.blockNumber)
  | rejected {reply : Reply} (htime : s.InTime sync d reply) (hok : reply.status ≠ 200)
      (haccepted : reply.status ≠ 202) :
    FailsWith s sync replica d (.rejected reply.status (rejectionMessage reply.body))

/-- A failure of the transport is received exactly if it comes by the deadline. -/
theorem reception_eq_failure_iff {cause : TransportError} :
  s.reception sync d = some (.error cause) ↔ s.BreaksOff sync d cause
  := by
  unfold reception BreaksOff
  rw [← inTime_iff]
  split
  · next h => simp [h]
  · next h => simp [h]

theorem failsWith_of_receiptVerdict {reply : Reply} {response : Response (Option TxReceipt)}
    (hsync : sync = true) (htime : s.InTime sync d reply)
    (haccepts : s.Accepts replica reply response)
    (h : receiptVerdict txId response.content = .error e) :
  s.FailsWith sync replica d e
  := by
  unfold receiptVerdict at h
  split at h
  · next hcontent =>
    cases h
    apply FailsWith.noReceipt hsync htime haccepts hcontent
  · next receipt hcontent =>
    split at h
    · cases h
    · next hvalidation =>
      cases h
      apply FailsWith.outsideBlock hsync htime haccepts hcontent
      rw [TxReceipt.validation?] at hvalidation
      simpa using hvalidation

theorem failsWith_of_replyVerdict {reply : Reply} (htime : s.InTime sync d reply)
    (h : s.replyVerdict txId sync replica reply = .error e) :
  s.FailsWith sync replica d e
  := by
  unfold replyVerdict at h
  split at h
  · next hok =>
    split at h
    · next cause hauth =>
      cases h
      apply FailsWith.unauthenticated htime hok hauth
    · next response hauth =>
      split at h
      · next hsync => exact failsWith_of_receiptVerdict hsync htime ⟨hok, hauth⟩ h
      · cases h
  · next hok =>
    split at h
    · cases h
    · next haccepted =>
      cases h
      apply FailsWith.rejected htime hok haccepted

/-- A commit that submits fails by one of these deliveries. -/
theorem failsWith_of_verdict (h : s.verdict txId sync replica (s.reception sync d) = .error e) :
  s.FailsWith sync replica d e
  := by
  cases hreception : s.reception sync d with
  | none =>
    rw [hreception] at h
    cases h
  | some received =>
    rw [hreception] at h
    cases received with
    | error cause =>
      cases h
      apply FailsWith.brokenOff (reception_eq_failure_iff.1 hreception)
    | ok reply => exact failsWith_of_replyVerdict (reception_eq_reply_iff.1 hreception) h

/-! ### What an error tells of its delivery -/

/-- A reply with status 200 comes in time and is not accepted: its body is undecodable, names another
node or is not signed by the replica, or a receipt is waited for and there is none inside its
block. -/
def Mistrusts (s : Session) (sync : Bool) (replica : Replica) (d : Delivery) : Prop :=
  ∃ reply, s.InTime sync d reply ∧ reply.status = 200
    ∧ ((∃ cause, authenticate s.trusted.verify replica.id Response.submissionCodec reply.body
          = .error cause)
      ∨ sync = true ∧ ∃ response, s.Accepts replica reply response
        ∧ ∀ receipt, response.content = some receipt →
          receipt.header.validation.length ≤ receipt.index.toNat)

/-- With a delivery, the transaction may be committed although the commit fails: the request may have
arrived before the exchange broke off, or the reply to it is not accepted. -/
def MayTakeEffect (s : Session) (sync : Bool) (replica : Replica) (d : Delivery) : Prop :=
  (∃ cause, s.BreaksOff sync d cause ∧ cause.neverSent = false) ∨ s.Mistrusts sync replica d

/-- With a delivery, it is certain that the replica did not take the transaction: by the deadline the
transport fails before anything is sent, or a reply comes with another status than 200 and 202. -/
def FailsDefinitely (s : Session) (sync : Bool) (d : Delivery) : Prop :=
  (∃ cause, s.BreaksOff sync d cause ∧ cause.neverSent = true)
    ∨ ∃ reply, s.InTime sync d reply ∧ reply.status ≠ 200 ∧ reply.status ≠ 202

namespace FailsWith

/-- A delivery that is a reply is no failure of the transport. -/
theorem not_breaksOff {reply : Reply} (htime : s.InTime sync d reply) (cause : TransportError) :
  ¬ s.BreaksOff sync d cause
  := by
  rintro ⟨hfailure, -⟩
  rw [htime.1] at hfailure
  cases hfailure

theorem outcomeUnknown_iff_mayTakeEffect (h : s.FailsWith sync replica d e) :
  e.outcomeUnknown = true ↔ s.MayTakeEffect sync replica d
  := by
  cases h with
  | @brokenOff cause h =>
    constructor
    · intro hunknown
      apply Or.inl
      use cause, h
      simpa [AttemptError.outcomeUnknown] using hunknown
    · rintro (⟨cause', h', hsent⟩ | ⟨reply, htime, -⟩)
      · obtain ⟨⟩ := h.1.symm.trans h'.1
        simp [AttemptError.outcomeUnknown, hsent]
      · exact absurd h (not_breaksOff htime cause)
  | unauthenticated htime hstatus hauth =>
    apply iff_of_true rfl
    exact .inr ⟨_, htime, hstatus, .inl ⟨_, hauth⟩⟩
  | noReceipt hsync htime haccepts hcontent =>
    apply iff_of_true rfl
    refine .inr ⟨_, htime, haccepts.1, .inr ⟨hsync, _, haccepts, ?_⟩⟩
    rw [hcontent]
    nofun
  | outsideBlock hsync htime haccepts hcontent houtside =>
    apply iff_of_true rfl
    refine .inr ⟨_, htime, haccepts.1, .inr ⟨hsync, _, haccepts, ?_⟩⟩
    rw [hcontent]
    rintro _ ⟨⟩
    exact houtside
  | rejected htime hok haccepted =>
    apply iff_of_false nofun
    rintro (⟨cause, h, -⟩ | ⟨reply, htime', hstatus, -⟩)
    · exact not_breaksOff htime cause h
    · obtain ⟨⟩ := htime.1.symm.trans htime'.1
      exact hok hstatus

theorem failsDefinitely (h : s.FailsWith sync replica d e) (hknown : e.outcomeUnknown = false) :
  s.FailsDefinitely sync d
  := by
  cases h with
  | @brokenOff cause h =>
    apply Or.inl
    use cause, h
    simpa [AttemptError.outcomeUnknown] using hknown
  | unauthenticated _ _ _ => cases hknown
  | noReceipt _ _ _ _ => cases hknown
  | outsideBlock _ _ _ _ _ => cases hknown
  | rejected htime hok haccepted => exact .inr ⟨_, htime, hok, haccepted⟩

end FailsWith

end Session

/-! ### Commits -/

namespace Attempt

variable {s : Session} {a : Attempt} {l : Link} {e : AttemptError} {sync : Bool}

/-- Of what cannot be submitted the outcome is known. -/
theorem outcomeUnknown_of_submission {picked : Option Replica}
    (h : a.submission s picked = .error e) :
  e.outcomeUnknown = false
  := by
  cases submission_eq_error_iff.1 h with
  | noReplica => rfl
  | noEndpoint hendpoint =>
    rw [AttemptError.outcomeUnknown, Replica.neverSent_of_endpoint hendpoint]
    rfl
  | noTransaction _ _ => rfl

/-- A commit hands a submission to the transport: the envelope that the draft makes, for the
replica whose turn it is, in one request to its endpoint for the kind. -/
def HandsOver (s : Session) (a : Attempt) (sync : Bool) (l : Link) (p : Submission) : Prop :=
  (l.select s).1 = some p.replica
    ∧ p.replica.endpoint a.kind.submitPath = .ok p.url
    ∧ a.draft.envelope s.scheme s.signer a.txId = .ok p.envelope
    ∧ (a.commit s sync l).2.2.line.sent = l.line.sent ++ [s.submitRequest sync p]

theorem not_handsOver_of_quiet (h : (a.commit s sync l).2.2.line.sent = l.line.sent)
    (p : Submission) :
  ¬ a.HandsOver s sync l p
  := by
  rintro ⟨-, -, -, hsent⟩
  rw [h] at hsent
  simp at hsent

/-- A commit that has something to submit hands it over. -/
theorem handsOver_of_submission (hopen : a.phase = .drafting) {deadline : Option Duration}
    (hdeadline : s.commitDeadline sync = some deadline) {p : Submission}
    (h : a.submission s (l.select s).1 = .ok p) :
  a.HandsOver s sync l p
  := by
  obtain ⟨hreplica, hurl, henvelope⟩ := submission_eq_ok_iff.1 h
  use hreplica, hurl, henvelope
  rw [commit_of_submission hopen hdeadline h, Link.sent_exchange, Link.line_select]

/-- Of every commit that fails, whatever state the attempt is in: the outcome is unknown exactly if
the envelope was handed to the transport and the delivery for it is one with which the transaction
may be committed nevertheless. If the outcome is known, nothing was handed over, or the delivery for
it is a definite failure. -/
theorem outcomeUnknown_iff (h : (a.commit s sync l).1 = some (.error e)) :
  (e.outcomeUnknown = true
      ↔ ∃ p, a.HandsOver s sync l p ∧ s.MayTakeEffect sync p.replica l.line.next)
    ∧ (e.outcomeUnknown = false →
      (a.commit s sync l).2.2.line.sent = l.line.sent
        ∨ (∃ p, a.HandsOver s sync l p) ∧ s.FailsDefinitely sync l.line.next)
  := by
  have hquiet (hknown : e.outcomeUnknown = false)
      (hsent : (a.commit s sync l).2.2.line.sent = l.line.sent) :
      e.outcomeUnknown = true
        ↔ ∃ p, a.HandsOver s sync l p ∧ s.MayTakeEffect sync p.replica l.line.next := by
    apply iff_of_false (Bool.eq_false_iff.1 hknown)
    rintro ⟨p, hp, -⟩
    exact not_handsOver_of_quiet hsent p hp
  by_cases hspent : a.isSpent = true
  · have hcommit := commit_of_isSpent hspent s sync l
    rw [hcommit] at h
    cases h
    have hsent := congrArg (fun r => r.2.2.line.sent) hcommit
    exact ⟨hquiet rfl hsent, fun _ => .inl hsent⟩
  have hopen := isSpent_eq_false_iff.1 (Bool.eq_false_iff.2 hspent)
  cases hsubmission : a.submission s (l.select s).1 with
  | error cause =>
    have hcommit := commit_of_submission_error hopen sync hsubmission
    rw [hcommit] at h
    cases h
    have hsent := congrArg (fun r => r.2.2.line.sent) hcommit
    exact ⟨hquiet (outcomeUnknown_of_submission hsubmission) hsent, fun _ => .inl hsent⟩
  | ok p =>
    -- Without a deadline the commit returns nothing, and no error either.
    have hfits : s.DeadlineFits sync := by
      by_contra hlong
      rw [commit_of_no_deadline hopen (Session.commitDeadline_eq_none_iff.2 hlong) hsubmission] at h
      cases h
    obtain ⟨deadline, hdeadline⟩ := Session.exists_commitDeadline hfits
    have hover := handsOver_of_submission hopen hdeadline hsubmission
    have hfails : s.FailsWith sync p.replica l.line.next e := by
      rw [(commit_of_delivery hopen hfits hsubmission).1, Option.some_inj] at h
      exact Session.failsWith_of_verdict h
    constructor
    · rw [hfails.outcomeUnknown_iff_mayTakeEffect]
      constructor
      · exact fun heffect => ⟨p, hover, heffect⟩
      · rintro ⟨q, hq, heffect⟩
        have hreplica : p.replica = q.replica := Option.some.inj (hover.1.symm.trans hq.1)
        rw [hreplica]
        exact heffect
    · exact fun hknown => .inr ⟨⟨p, hover⟩, hfails.failsDefinitely hknown⟩

/-- A link with one delivery, a reply with status 200 that says nothing. -/
def Sample.emptyReplyLink : Link := .start [⟨.ok ⟨Reply.okStatus, []⟩, 5⟩]

theorem outcomeUnknown_iff_emptyReply :
  (Sample.creation.commit Sample.session true Sample.emptyReplyLink).1
      = some (.error (.unauthenticated .unreadable))
    ∧ ∃ p, Sample.creation.HandsOver Sample.session true Sample.emptyReplyLink p
      ∧ Sample.session.MayTakeEffect true p.replica Sample.emptyReplyLink.line.next
  := by
  obtain ⟨url, hurl⟩ := Sample.exists_endpoint
  have hsubmission := submission_eq_ok (l := Sample.emptyReplyLink) rfl hurl Sample.envelope_creation
  have hcommit : (Sample.creation.commit Sample.session true Sample.emptyReplyLink).1
      = some (.error (.unauthenticated .unreadable)) := by
    rw [commit_of_submission rfl (Sample.commitDeadline_session true) hsubmission]
    rfl
  use hcommit
  apply (outcomeUnknown_iff hcommit).1.1
  rfl

end Attempt

end LedgerTrust
