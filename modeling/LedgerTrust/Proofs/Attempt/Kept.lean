import LedgerTrust.Proofs.Attempt.Run
import LedgerTrust.Proofs.Draft.Compose
import LedgerTrust.Proofs.Session.QueryPath

/-!
# The envelope that is kept

An attempt keeps the envelope that it submits, and gives it out once it is finalized. The invariant
of a run, `Attempt.Stands`, ties the attempt to the requests of the run: a draft has sent nothing, an
attempt that was given up or whose commit broke down has sent nothing either, and any other attempt
has an empty draft and keeps the envelope that its only request had as its body. What one call makes
of a draft is said once, in `Attempt.Changes`, and a spent attempt does not change any more.
-/

namespace LedgerTrust

/-! ### Where envelopes are submitted -/

/-- Over the web, the request of a submission has the path of its kind. -/
theorem TxKind.requestPath_submitPath {kind : TxKind} {replica : Replica} {url : Url}
    (hweb : replica.url.scheme = "http" ∨ replica.url.scheme = "https")
    (h : replica.endpoint kind.submitPath = .ok url) :
  url.requestPath = kind.submitPath
  := by
  have hparts : ∃ first, Url.IsWord first ∧ first ≠ ""
      ∧ kind.submitPath = (Url.Path.segments [first, "tx"]).text ++ Url.partAfter "?" none := by
    cases kind with
    | data => exact ⟨"data", rfl, by decide, rfl⟩
    | database => exact ⟨"db", rfl, by decide, rfl⟩
    | user => exact ⟨"user", rfl, by decide, rfl⟩
    | config => exact ⟨"config", rfl, by decide, rfl⟩
  obtain ⟨first, hword, hfirst, hpath⟩ := hparts
  have htx : Url.IsWord "tx" := rfl
  have hjoin := Replica.endpoint_eq_ok_iff.1 h
  rw [hpath] at hjoin ⊢
  apply (Url.requestPath_eq_iff (Url.kind_eq_web hweb) hfirst hword.isPlain _
    (Url.forall_mem_none _) hjoin).2
  · intro t ht
    obtain rfl := List.mem_singleton.1 ht
    exact htx.isPlain
  · intro t ht c hc
    obtain rfl := List.mem_singleton.1 ht
    exact Url.not_mark_of_isVerbatim (htx.isPlain.1 c hc)

namespace Attempt

variable {s : Session} {a b : Attempt} {l : Link} {c : Call} {events : List Event}

/-! ### What one call makes of a draft -/

theorem draftOf_eq_ok {kind : TxKind} {draft : Draft} (h : a.draftOf kind = .ok draft) :
  draft = a.draft
  := by
  unfold draftOf at h
  split at h
  · cases h
  split at h
  · cases h
  · cases h
    rfl

/-- An edit that is accepted changes the draft, within its kind, and nothing else. -/
theorem exists_draft_of_edit {e : Edit} (h : a.edit e = .ok b) :
  ∃ draft : Draft, draft.kind = a.kind ∧ b = { a with draft := draft }
  := by
  unfold edit at h
  cases hdraft : a.draftOf e.kind with
  | error cause =>
    rw [hdraft] at h
    cases h
  | ok draft =>
    obtain rfl := draftOf_eq_ok hdraft
    simp only [hdraft, bind, Except.bind] at h
    split at h
    · next draft hedited =>
      cases h
      exact ⟨draft, Draft.kind_edited? hedited, rfl⟩
    · cases h

/-- What a call can make of an attempt in its draft, and the requests that it sends. -/
inductive Changes (s : Session) (a : Attempt) (l : Link) : Call → Attempt → List Request → Prop
  | edited {c : Call} (draft : Draft) (hkind : draft.kind = a.kind) :
    Changes s a l c { a with draft := draft } []
  | aborted : Changes s a l .abort { a.cleared with phase := .aborted } []
  | committed (sync : Bool) (p : Submission) (result : Except AttemptError CommitOutcome)
      (h : a.submission s (l.select s).1 = .ok p) :
    Changes s a l (.commit sync) ((a.dispatched p.envelope).settled result)
      [s.submitRequest sync p]
  | abandoned (sync : Bool) (wait : Nat) (p : Submission)
      (h : a.submission s (l.select s).1 = .ok p) :
    Changes s a l (.abandon sync wait) (a.dispatched p.envelope) [s.submitRequest sync p]
  /-- A commit, whether it is waited for or not, has no deadline. -/
  | stranded {c : Call} (sync : Bool) (hc : c = .commit sync ∨ ∃ wait, c = .abandon sync wait)
      (hdeadline : s.commitDeadline sync = none) (p : Submission)
      (h : a.submission s (l.select s).1 = .ok p) :
    Changes s a l c (a.dispatched p.envelope) []

/-- Nothing is changed. -/
theorem Changes.refl (s : Session) (a : Attempt) (l : Link) (c : Call) :
  Changes s a l c a []
  := .edited a.draft rfl

theorem changes_after (hopen : a.phase = .drafting) (c : Call) :
  Changes s a l c (a.after s l c).1 (a.sentBy s l c)
  := by
  have hspent : ¬ a.isSpent = true := by simp [isSpent_iff, hopen]
  unfold sentBy
  cases c with
  | operations kind =>
    rw [after, List.drop_length]
    apply Changes.refl
  | edit e =>
    rw [after, List.drop_length]
    cases h : a.edit e with
    | error cause => apply Changes.refl
    | ok b =>
      obtain ⟨draft, hkind, rfl⟩ := exists_draft_of_edit h
      apply Changes.edited draft hkind
  | commit sync =>
    rw [after]
    cases h : a.submission s (l.select s).1 with
    | error e =>
      rw [commit_of_submission_error hopen sync h, Link.line_select, List.drop_length]
      apply Changes.refl
    | ok p =>
      cases hdeadline : s.commitDeadline sync with
      | none =>
        rw [commit_of_no_deadline hopen hdeadline h, Link.line_select, List.drop_length]
        apply Changes.stranded sync (.inl rfl) hdeadline p h
      | some deadline =>
        rw [commit_of_submission hopen hdeadline h, Link.sent_exchange, Link.line_select,
          List.drop_left]
        apply Changes.committed sync p _ h
  | abandon sync wait =>
    rw [after, Attempt.abandoned, if_neg hspent]
    cases h : a.submission s (l.select s).1 with
    | error e =>
      dsimp only
      rw [Link.line_select, List.drop_length]
      apply Changes.refl
    | ok p =>
      cases hdeadline : s.commitDeadline sync with
      | none =>
        dsimp only
        rw [Link.line_select, List.drop_length]
        apply Changes.stranded sync (.inr ⟨wait, rfl⟩) hdeadline p h
      | some deadline =>
        dsimp only
        rw [Link.sent_exchange, Link.line_select, List.drop_left]
        apply Changes.abandoned sync wait p h
  | abort =>
    rw [after, List.drop_length, abort, if_neg hspent]
    apply Changes.aborted
  | envelope =>
    rw [after, List.drop_length]
    apply Changes.refl

/-! ### How an attempt stands after a run -/

/-- A request submits an envelope of the attempt: it goes to the endpoint that a replica has for the
kind, tells the server how long to wait exactly if the commit waits for a receipt, and has the
canonical bytes of the envelope as its body. -/
structure Submits (s : Session) (a : Attempt) (sync : Bool) (e : Envelope) (request : Request) :
    Prop where
  txId : e.txId = a.txId
  kind : e.kind = a.kind
  request : ∃ replica ∈ s.replicas, ∃ url, replica.endpoint a.kind.submitPath = .ok url
    ∧ request = .submit url s.scheme.contentType (if sync then some s.commitTimeout else none)
      (e.canonicalBytes s.scheme)

/-- How an attempt stands after the events of a run. -/
inductive Stands (s : Session) (a : Attempt) (events : List Event) : Prop
  | drafting (hphase : a.phase = .drafting) (hquiet : requests events = [])
  | aborted (hphase : a.phase = .aborted) (hdraft : a.draft = .empty a.kind)
      (hquiet : requests events = [])
  /-- The commit broke down before anything was submitted. -/
  | stranded (hphase : a.phase = .committing) (hdraft : a.draft = .empty a.kind)
      (hquiet : requests events = [])
  /-- The attempt was submitted; without an end of its commit it is not settled. -/
  | submitted (e : Envelope) (sync : Bool) (request : Request) (hdrafting : a.phase ≠ .drafting)
      (haborted : a.phase ≠ .aborted) (hdraft : a.draft = .empty a.kind)
      (henvelope : a.envelope = some e) (hsubmits : a.Submits s sync e request)
      (hsent : requests events = [request])
      (hcommit : a.phase = .committing ∨ ⟨.commit sync, [request]⟩ ∈ events)

theorem requests_append (events later : List Event) :
  requests (events ++ later) = requests events ++ requests later
  := List.flatMap_append

theorem kind_dispatched (a : Attempt) (e : Envelope) :
  (a.dispatched e).kind = a.kind
  := Draft.kind_empty a.kind

theorem draft_dispatched (a : Attempt) (e : Envelope) :
  (a.dispatched e).draft = .empty (a.dispatched e).kind
  := by
  rw [kind_dispatched]
  rfl

/-- The end of a commit changes the phase only, and no attempt ends in its draft or given up. -/
theorem exists_phase_settled (a : Attempt) (result : Except AttemptError CommitOutcome) :
  ∃ phase : Phase, a.settled result = { a with phase := phase }
    ∧ phase ≠ .drafting ∧ phase ≠ .aborted
  := by
  cases result with
  | error e => exact ⟨.failed, rfl, nofun, nofun⟩
  | ok outcome =>
    use outcome.phase, rfl
    cases outcome with
    | committed id receipt => exact ⟨nofun, nofun⟩
    | accepted id => exact ⟨nofun, nofun⟩
    | timedOut id => exact ⟨nofun, nofun⟩

/-- What is submitted for an attempt is an envelope of it. -/
theorem submits_of_submission {p : Submission} (h : a.submission s (l.select s).1 = .ok p)
    (sync : Bool) :
  (a.dispatched p.envelope).Submits s sync p.envelope (s.submitRequest sync p)
  := by
  obtain ⟨hreplica, hurl, henvelope⟩ := submission_eq_ok_iff.1 h
  obtain ⟨hkind, hid⟩ := Draft.envelope_eq_ok henvelope
  have hsame := kind_dispatched a p.envelope
  constructor
  · exact hid
  · rw [hsame]
    exact hkind
  · rw [hsame]
    exact ⟨p.replica, Session.mem_of_select hreplica, p.url, hurl, rfl⟩

/-- The step lemma: a call keeps the attempt in line with the requests. -/
theorem Stands.after (h : a.Stands s events) (l : Link) (c : Call) :
  (a.after s l c).1.Stands s (events ++ [⟨c, a.sentBy s l c⟩])
  := by
  -- Only a draft has cases: no call changes a spent attempt or adds to the requests.
  have hspent_quiet (hspent : a.isSpent = true) :
      (a.after s l c).1 = a ∧ requests (events ++ [⟨c, a.sentBy s l c⟩]) = requests events := by
    rw [after_of_isSpent hspent, sentBy_of_isSpent hspent, requests_append]
    exact ⟨rfl, List.append_nil _⟩
  cases h with
  | aborted hphase hdraft hquiet =>
    obtain ⟨hsame, hrequests⟩ := hspent_quiet (isSpent_iff.2 (hphase ▸ nofun))
    rw [hsame]
    apply Stands.aborted hphase hdraft (hrequests.trans hquiet)
  | stranded hphase hdraft hquiet =>
    obtain ⟨hsame, hrequests⟩ := hspent_quiet (isSpent_iff.2 (hphase ▸ nofun))
    rw [hsame]
    apply Stands.stranded hphase hdraft (hrequests.trans hquiet)
  | submitted e sync request hdrafting haborted hdraft henvelope hsubmits hsent hcommit =>
    obtain ⟨hsame, hrequests⟩ := hspent_quiet (isSpent_iff.2 hdrafting)
    rw [hsame]
    apply Stands.submitted e sync request hdrafting haborted hdraft henvelope hsubmits
      (hrequests.trans hsent)
    exact hcommit.imp_right (List.mem_append_left _)
  | drafting hphase hquiet =>
    have hchanges := changes_after (s := s) (l := l) hphase c
    generalize (a.after s l c).1 = b at hchanges ⊢
    generalize hsent : a.sentBy s l c = sent at hchanges ⊢
    have hrequests : requests (events ++ [⟨c, sent⟩]) = sent := by
      rw [requests_append, hquiet]
      exact List.append_nil sent
    cases hchanges with
    | edited draft hkind => exact .drafting hphase hrequests
    | aborted =>
      apply Stands.aborted rfl _ hrequests
      exact congrArg Draft.empty (Draft.kind_empty a.kind).symm
    | committed sync p result hsubmission =>
      obtain ⟨phase, hsettled, hdrafting, haborted⟩ :=
        exists_phase_settled (a.dispatched p.envelope) result
      obtain ⟨hid, hkind, hrequest⟩ := submits_of_submission hsubmission sync
      rw [hsettled]
      exact .submitted p.envelope sync _ hdrafting haborted (draft_dispatched a p.envelope) rfl
        ⟨hid, hkind, hrequest⟩ hrequests (.inr (List.mem_append_right _ List.mem_cons_self))
    | abandoned sync wait p hsubmission =>
      have hcommitting : (a.dispatched p.envelope).phase = .committing := rfl
      exact .submitted p.envelope sync _ (hcommitting ▸ nofun) (hcommitting ▸ nofun)
        (draft_dispatched a p.envelope) rfl (submits_of_submission hsubmission sync) hrequests
        (.inl hcommitting)
    | stranded sync hc hdeadline p hsubmission =>
      exact .stranded rfl (draft_dispatched a p.envelope) hrequests

/-- The run lemma. -/
theorem Stands.run (h : a.Stands s events) (calls : List (Call × Link)) :
  (a.run s calls).1.Stands s (events ++ (a.run s calls).2)
  := by
  induction calls generalizing a events with
  | nil =>
    rw [Attempt.run, List.append_nil]
    exact h
  | cons c r ih =>
    obtain ⟨c, l⟩ := c
    rw [Attempt.run, List.append_cons]
    apply ih (h.after l c)

/-- No call changes the kind of an attempt. -/
theorem kind_after (s : Session) (a : Attempt) (l : Link) (c : Call) :
  (a.after s l c).1.kind = a.kind
  := by
  by_cases hspent : a.isSpent = true
  · rw [after_of_isSpent hspent]
  · have hopen := isSpent_eq_false_iff.1 (Bool.eq_false_iff.2 hspent)
    have hchanges := changes_after (s := s) (l := l) hopen c
    generalize (a.after s l c).1 = b at hchanges ⊢
    generalize a.sentBy s l c = sent at hchanges
    cases hchanges with
    | edited draft hkind => exact hkind
    | aborted => exact Draft.kind_empty a.kind
    | committed sync p result hsubmission =>
      obtain ⟨phase, hsettled, -⟩ := exists_phase_settled (a.dispatched p.envelope) result
      rw [hsettled]
      exact kind_dispatched a p.envelope
    | abandoned sync wait p hsubmission => exact kind_dispatched a p.envelope
    | stranded sync hc hdeadline p hsubmission => exact kind_dispatched a p.envelope

theorem kind_run (s : Session) (a : Attempt) (calls : List (Call × Link)) :
  (a.run s calls).1.kind = a.kind
  := by
  induction calls generalizing a with
  | nil => rfl
  | cons c r ih => rw [Attempt.run, ih, kind_after]

/-! ### The envelope that is given out -/

/-- The commit of an attempt ended, and did not fail. -/
def IsFinalized (a : Attempt) : Prop :=
  a.phase = .committed ∨ a.phase = .submitted ∨ a.phase = .timedOut

/-- A finalized attempt gives out the envelope that it keeps. -/
theorem submittedEnvelope_of_isFinalized {e : Envelope} (h : a.IsFinalized)
    (henvelope : a.envelope = some e) :
  a.submittedEnvelope = .ok e
  := by
  unfold submittedEnvelope
  rcases h with hphase | hphase | hphase
  · rw [hphase, henvelope]
  · rw [hphase, henvelope]
  · rw [hphase, henvelope]

theorem isFinalized_of_submittedEnvelope {e : Envelope} (h : a.submittedEnvelope = .ok e) :
  a.IsFinalized ∧ a.envelope = some e
  := by
  unfold submittedEnvelope at h
  split at h
  · next hphase henvelope =>
    cases h
    exact ⟨.inl hphase, henvelope⟩
  · next hphase henvelope =>
    cases h
    exact ⟨.inr (.inl hphase), henvelope⟩
  · next hphase henvelope =>
    cases h
    exact ⟨.inr (.inr hphase), henvelope⟩
  · cases h

/-- There is one way only in which an attempt gives no envelope out. -/
theorem submittedEnvelope_eq_notFinalized (h : ¬ ∃ e, a.submittedEnvelope = .ok e) :
  a.submittedEnvelope = .error .notFinalized
  := by
  cases henvelope : a.submittedEnvelope with
  | ok e => exact absurd ⟨e, henvelope⟩ h
  | error cause =>
    unfold submittedEnvelope at henvelope
    split at henvelope
    · cases henvelope
    · cases henvelope
    · cases henvelope
    · cases henvelope
      rfl

/-- A finalized attempt keeps an envelope, and a commit sent it in the only request. -/
theorem Stands.exists_envelope (h : a.Stands s events) (hfinal : a.IsFinalized) :
  ∃ e sync request, a.envelope = some e ∧ a.Submits s sync e request
    ∧ requests events = [request] ∧ ⟨.commit sync, [request]⟩ ∈ events
  := by
  cases h with
  | drafting hphase _ => simp [IsFinalized, hphase] at hfinal
  | aborted hphase _ _ => simp [IsFinalized, hphase] at hfinal
  | stranded hphase _ _ => simp [IsFinalized, hphase] at hfinal
  | submitted e sync request _ _ _ henvelope hsubmits hsent hcommit =>
    use e, sync, request, henvelope, hsubmits, hsent
    apply hcommit.resolve_left
    intro hphase
    simp [IsFinalized, hphase] at hfinal

/-- The draft of a spent attempt is empty. -/
theorem Stands.draft_eq_empty (h : a.Stands s events) (hspent : a.isSpent = true) :
  a.draft = .empty a.kind
  := by
  cases h with
  | drafting hphase _ => exact absurd hphase (isSpent_iff.1 hspent)
  | aborted _ hdraft _ => exact hdraft
  | stranded _ hdraft _ => exact hdraft
  | submitted _ _ _ _ _ hdraft _ _ _ _ => exact hdraft

/-- Of any run from a new attempt: its kind and its identifier stay; an envelope is given out exactly
once the attempt is finalized, and otherwise the attempt is said not to be; an envelope that is given
out was the body of the only request of the run, which a commit sent, and if that went over the web,
to the path of the kind; and once the attempt is spent its draft is empty. -/
theorem submittedEnvelope_run (s : Session) (kind : TxKind) (nonce : Bytes)
    (calls : List (Call × Link)) :
  let start := begin s kind nonce
  let a := (start.run s calls).1
  let events := (start.run s calls).2
  a.kind = kind ∧ a.txId = start.txId
    ∧ ((∃ e, a.submittedEnvelope = .ok e) ↔ a.IsFinalized)
    ∧ (¬ a.IsFinalized → a.submittedEnvelope = .error .notFinalized)
    ∧ (∀ e, a.submittedEnvelope = .ok e →
        e.txId = a.txId ∧ e.kind = kind
          ∧ ∃ sync, ∃ replica ∈ s.replicas, ∃ url,
              replica.endpoint kind.submitPath = .ok url
                ∧ requests events
                  = [.submit url s.scheme.contentType (if sync then some s.commitTimeout else none)
                      (e.canonicalBytes s.scheme)]
                ∧ ⟨.commit sync, requests events⟩ ∈ events
                ∧ (replica.url.scheme = "http" ∨ replica.url.scheme = "https" →
                    url.requestPath = kind.submitPath))
    ∧ (a.isSpent = true → a.draft = .empty kind)
  := by
  intro start a events
  have hkind : a.kind = kind := (kind_run s start calls).trans (Draft.kind_empty kind)
  have hstands : a.Stands s events := (Stands.drafting rfl rfl : start.Stands s []).run calls
  have hiff : (∃ e, a.submittedEnvelope = .ok e) ↔ a.IsFinalized := by
    constructor
    · rintro ⟨e, he⟩
      exact (isFinalized_of_submittedEnvelope he).1
    · intro hfinal
      obtain ⟨e, -, -, henvelope, -⟩ := hstands.exists_envelope hfinal
      use e
      apply submittedEnvelope_of_isFinalized hfinal henvelope
  use hkind, txId_run s start calls, hiff
  constructor
  · intro hopen
    apply submittedEnvelope_eq_notFinalized
    rwa [hiff]
  constructor
  · intro e he
    obtain ⟨hfinal, hkept⟩ := isFinalized_of_submittedEnvelope he
    obtain ⟨e', sync, request, henvelope, hsubmits, hsent, hcommit⟩ :=
      hstands.exists_envelope hfinal
    obtain rfl := Option.some.inj (henvelope.symm.trans hkept)
    obtain ⟨hid, hsame, replica, hreplica, url, hurl, rfl⟩ := hsubmits
    rw [hkind] at hsame hurl
    use hid, hsame, sync, replica, hreplica, url, hurl, hsent
    constructor
    · rw [hsent]
      exact hcommit
    · intro hweb
      apply TxKind.requestPath_submitPath hweb hurl
  · intro hspent
    rw [← hkind]
    apply hstands.draft_eq_empty hspent

/-- A database is created, and the server takes the transaction over. -/
theorem submittedEnvelope_run_sample :
  let calls := [(.edit (.database (.create "db")), Sample.link), (.commit false, Sample.link)]
  let run := (begin Sample.session .database []).run Sample.session calls
  run.1.submittedEnvelope = .ok Sample.envelope
    ∧ ∃ (sync : Bool) (url : Url), requests run.2
      = [.submit url Sample.session.scheme.contentType
          (if sync then some Sample.session.commitTimeout else none)
          (Sample.envelope.canonicalBytes Sample.session.scheme)]
  := by
  intro calls run
  obtain ⟨-, -, -, -, hsent, -⟩ := submittedEnvelope_run Sample.session .database [] calls
  have henvelope : run.1.submittedEnvelope = .ok Sample.envelope := by
    have hrun : run.1 = (Sample.creation.commit Sample.session false Sample.link).2.1 := rfl
    obtain ⟨url, hurl⟩ := Sample.exists_endpoint
    have hsubmission := submission_eq_ok (l := Sample.link) rfl hurl Sample.envelope_creation
    rw [hrun, commit_of_submission rfl (Sample.commitDeadline_session false) hsubmission]
    rfl
  use henvelope
  obtain ⟨-, -, sync, -, -, url, -, hrequests, -⟩ := hsent _ henvelope
  exact ⟨sync, url, hrequests⟩

end Attempt

end LedgerTrust
