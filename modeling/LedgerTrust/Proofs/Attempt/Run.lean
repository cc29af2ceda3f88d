import LedgerTrust.Proofs.Attempt.Commit

/-!
# Runs of an attempt

A run is a list of calls on one attempt, each on the link as it is then: between two calls
others may use the session, and the deliveries that a link holds are whatever the replicas
answer. `Attempt.run` gives the attempt after a run and, call by call, the requests sent. The
invariant of a step is that either nothing is sent, or one request is sent and a draft becomes a
spent attempt; a step from a spent attempt does nothing. So a run sends at most one request.
-/

namespace LedgerTrust.Attempt

/-- A call on an attempt. -/
inductive Call where
  /-- The operations of a kind are asked for, and nothing is done to them. -/
  | operations (kind : TxKind)
  | edit (edit : Edit)
  | commit (sync : Bool)
  /-- A commit whose caller stops waiting for it after some nanoseconds, so that it never
  returns. -/
  | abandon (sync : Bool) (wait : Nat)
  | abort
  | envelope
  deriving DecidableEq

/-- A call of a run and the requests that it sent. -/
structure Event where
  call : Call
  sent : List Request

/-- The requests of a run, in order. -/
def requests (events : List Event) : List Request := events.flatMap Event.sent

/-- The attempt and the link when the caller of a commit stops waiting for its reply. A commit that
breaks down for want of a deadline does so before there is anything to wait for. -/
def abandoned (a : Attempt) (s : Session) (sync : Bool) (wait : Nat) (l : Link) :
    Attempt × Link :=
  if a.isSpent then (a, l)
  else
    match a.submission s (l.select s).1 with
    | .error _ => (a, (l.select s).2)
    | .ok p =>
      match s.commitDeadline sync with
      | none => (a.dispatched p.envelope, (l.select s).2)
      | some _ =>
        (a.dispatched p.envelope,
          ((l.select s).2.exchange (s.submitRequest sync p) (some wait)).2)

/-- The attempt and the link after a call. A call that is refused changes nothing. -/
def after (s : Session) (a : Attempt) (l : Link) : Call → Attempt × Link
  | .operations _ => (a, l)
  | .edit e => ((a.edit e).toOption.getD a, l)
  | .commit sync => (a.commit s sync l).2
  | .abandon sync wait => a.abandoned s sync wait l
  | .abort => (a.abort.toOption.getD a, l)
  | .envelope => (a, l)

/-- What a call returns. -/
inductive Return where
  | operations (result : Except AttemptError Draft)
  | edit (result : Except AttemptError Unit)
  | commit (result : Except AttemptError CommitOutcome)
  | abort (result : Except AttemptError Unit)
  | envelope (result : Except AttemptError Envelope)

/-- What a call returns, if its caller waits for that and the call does not break down. -/
def returned (s : Session) (a : Attempt) (l : Link) : Call → Option Return
  | .operations kind => some (.operations (a.draftOf kind))
  | .edit e => some (.edit ((a.edit e).map fun _ => ()))
  | .commit sync => (a.commit s sync l).1.map .commit
  | .abandon _ _ => none
  | .abort => some (.abort (a.abort.map fun _ => ()))
  | .envelope => some (.envelope a.submittedEnvelope)

/-- The requests that a call sends: those on the line that were not there before. -/
def sentBy (s : Session) (a : Attempt) (l : Link) (c : Call) : List Request :=
  (a.after s l c).2.line.sent.drop l.line.sent.length

/-- The attempt after a run of calls, and what each call sent. -/
def run (s : Session) (a : Attempt) : List (Call × Link) → Attempt × List Event
  | [] => (a, [])
  | (c, l) :: r =>
    ((run s (a.after s l c).1 r).1, ⟨c, a.sentBy s l c⟩ :: (run s (a.after s l c).1 r).2)

variable {s : Session} {a b : Attempt} {l : Link}

/-! ### Calls on a spent attempt -/

theorem abort_of_isSpent (h : a.isSpent = true) :
  a.abort = .error .alreadySpent
  := by
  rw [abort, if_pos h]

theorem draftOf_of_isSpent (h : a.isSpent = true) (kind : TxKind) :
  a.draftOf kind = .error .alreadySpent
  := by
  rw [draftOf, if_pos h]

theorem edit_of_isSpent (h : a.isSpent = true) (e : Edit) :
  a.edit e = .error .alreadySpent
  := by
  rw [edit, draftOf_of_isSpent h]
  rfl

/-- No call changes a spent attempt or uses the link. -/
theorem after_of_isSpent (h : a.isSpent = true) (c : Call) :
  a.after s l c = (a, l)
  := by
  cases c with
  | operations kind => rfl
  | edit e => rw [after, edit_of_isSpent h]; rfl
  | commit sync => rw [after, commit_of_isSpent h]
  | abandon sync wait => rw [after, abandoned, if_pos h]
  | abort => rw [after, abort_of_isSpent h]; rfl
  | envelope => rfl

theorem sentBy_of_isSpent (h : a.isSpent = true) (c : Call) :
  a.sentBy s l c = []
  := by
  rw [sentBy, after_of_isSpent h, List.drop_length]

/-! ### What one call does -/

/-- What an accepted edit leaves alone. -/
theorem edit_eq_ok {e : Edit} (h : a.edit e = .ok b) :
  b.txId = a.txId ∧ b.phase = a.phase
  := by
  unfold edit at h
  cases hd : a.draftOf e.kind with
  | error cause => simp [hd, bind, Except.bind] at h
  | ok draft =>
    simp only [hd, bind, Except.bind] at h
    split at h
    · cases h
      exact ⟨rfl, rfl⟩
    · cases h

/-- An abort that is not refused spends the attempt. -/
theorem abort_eq_ok (h : a.abort = .ok b) :
  b.txId = a.txId ∧ b.isSpent = true
  := by
  unfold abort at h
  split at h
  · cases h
  · cases h
    exact ⟨rfl, rfl⟩

/-- What a call can do to a draft: it may leave the line alone, or, if it is no abort, send one
request and spend the attempt. -/
inductive Moved (a : Attempt) (l : Link) (c : Call) (p : Attempt × Link) : Prop
  /-- Nothing is sent. -/
  | quiet (hid : p.1.txId = a.txId) (hline : p.2.line = l.line)
  /-- One request is sent. -/
  | submitted (request : Request) (hid : p.1.txId = a.txId) (hspent : p.1.isSpent = true)
      (hc : c ≠ .abort) (hline : p.2.line.sent = l.line.sent ++ [request])

theorem moved_commit (hopen : a.phase = .drafting) (sync : Bool) :
  Moved a l (.commit sync) (a.commit s sync l).2
  := by
  cases h : a.submission s (l.select s).1 with
  | error e =>
    rw [commit_of_submission_error hopen sync h]
    exact .quiet rfl rfl
  | ok p =>
    cases hdeadline : s.commitDeadline sync with
    | none =>
      rw [commit_of_no_deadline hopen hdeadline h]
      exact .quiet rfl rfl
    | some deadline =>
      rw [commit_of_submission hopen hdeadline h]
      apply Moved.submitted (s.submitRequest sync p)
      · rw [txId_settled]
        rfl
      · apply isSpent_settled
      · nofun
      · rw [Link.sent_exchange, Link.line_select]

theorem moved_abandoned (hopen : a.phase = .drafting) (sync : Bool) (wait : Nat) :
  Moved a l (.abandon sync wait) (a.abandoned s sync wait l)
  := by
  have hspent : ¬ a.isSpent = true := by simp [isSpent_iff, hopen]
  rw [abandoned, if_neg hspent]
  cases h : a.submission s (l.select s).1 with
  | error e => exact .quiet rfl rfl
  | ok p =>
    cases s.commitDeadline sync with
    | none => exact .quiet rfl rfl
    | some deadline =>
      apply Moved.submitted (s.submitRequest sync p)
      · rfl
      · rfl
      · nofun
      · rw [Link.sent_exchange, Link.line_select]

/-- The step lemma of runs. -/
theorem moved_after (hopen : a.phase = .drafting) (c : Call) :
  Moved a l c (a.after s l c)
  := by
  cases c with
  | operations kind => exact .quiet rfl rfl
  | edit e =>
    cases h : a.edit e with
    | error cause =>
      rw [after, h]
      exact .quiet rfl rfl
    | ok b =>
      rw [after, h]
      exact .quiet (edit_eq_ok h).1 rfl
  | commit sync => exact moved_commit hopen sync
  | abandon sync wait => exact moved_abandoned hopen sync wait
  | abort =>
    cases h : a.abort with
    | error cause =>
      rw [after, h]
      exact .quiet rfl rfl
    | ok b =>
      rw [after, h]
      exact .quiet (abort_eq_ok h).1 rfl
  | envelope => exact .quiet rfl rfl

/-- A call sends nothing, or it is no abort, sends one request and leaves a spent attempt. -/
theorem sentBy_cases (s : Session) (a : Attempt) (l : Link) (c : Call) :
  a.sentBy s l c = []
    ∨ c ≠ .abort ∧ (a.sentBy s l c).length = 1 ∧ (a.after s l c).1.isSpent = true
  := by
  by_cases hspent : a.isSpent = true
  · exact .inl (sentBy_of_isSpent hspent c)
  · have hopen := isSpent_eq_false_iff.1 (Bool.eq_false_iff.2 hspent)
    have hmoved := moved_after (s := s) (l := l) hopen c
    unfold sentBy
    cases hmoved with
    | quiet hid hline =>
      apply Or.inl
      rw [hline, List.drop_length]
    | submitted request hid hspent hc hline =>
      apply Or.inr
      rw [hline, List.drop_left]
      exact ⟨hc, rfl, hspent⟩

theorem txId_after (s : Session) (a : Attempt) (l : Link) (c : Call) :
  (a.after s l c).1.txId = a.txId
  := by
  by_cases hspent : a.isSpent = true
  · rw [after_of_isSpent hspent]
  · have hopen := isSpent_eq_false_iff.1 (Bool.eq_false_iff.2 hspent)
    have hmoved := moved_after (s := s) (l := l) hopen c
    cases hmoved with
    | quiet hid hline => exact hid
    | submitted request hid hspent hc hline => exact hid

/-! ### What a run does -/

theorem txId_run (s : Session) (a : Attempt) (calls : List (Call × Link)) :
  (a.run s calls).1.txId = a.txId
  := by
  induction calls generalizing a with
  | nil => rfl
  | cons c r ih => rw [run, ih, txId_after]

/-- A run from a spent attempt ends in the same attempt, and nothing is sent. -/
theorem run_of_isSpent (h : a.isSpent = true) (calls : List (Call × Link)) :
  (a.run s calls).1 = a ∧ ∀ e ∈ (a.run s calls).2, e.sent = []
  := by
  induction calls with
  | nil => exact ⟨rfl, nofun⟩
  | cons c r ih =>
    rw [run, after_of_isSpent h]
    constructor
    · exact ih.1
    · intro e he
      rcases List.mem_cons.1 he with rfl | he
      · exact sentBy_of_isSpent h c.1
      · exact ih.2 e he

theorem requests_run_of_isSpent (h : a.isSpent = true) (calls : List (Call × Link)) :
  requests (a.run s calls).2 = []
  := by
  apply List.flatMap_eq_nil_iff.2
  exact (run_of_isSpent h calls).2

/-- The run lemma: at most one request is sent, and where one is sent the attempt is spent. -/
theorem requests_run (s : Session) (a : Attempt) (calls : List (Call × Link)) :
  requests (a.run s calls).2 = []
    ∨ (requests (a.run s calls).2).length = 1 ∧ (a.run s calls).1.isSpent = true
  := by
  induction calls generalizing a with
  | nil => exact .inl rfl
  | cons c r ih =>
    obtain ⟨c, l⟩ := c
    rw [run]
    simp only [requests, List.flatMap_cons] at ih ⊢
    obtain hquiet | ⟨-, hone, hspent⟩ := sentBy_cases s a l c
    · rw [hquiet, List.nil_append]
      apply ih
    · have hrest := requests_run_of_isSpent (s := s) hspent r
      rw [requests] at hrest
      rw [hrest, List.append_nil, (run_of_isSpent hspent r).1]
      exact .inr ⟨hone, hspent⟩

theorem run_append (s : Session) (a : Attempt) (calls later : List (Call × Link)) :
  a.run s (calls ++ later)
    = (((a.run s calls).1.run s later).1,
        (a.run s calls).2 ++ ((a.run s calls).1.run s later).2)
  := by
  induction calls generalizing a with
  | nil => rfl
  | cons c r ih =>
    obtain ⟨c, l⟩ := c
    rw [List.cons_append, run, ih, run]
    rfl

/-- An abort sends nothing. -/
theorem sent_eq_nil_of_abort (s : Session) (a : Attempt) (calls : List (Call × Link)) :
  ∀ e ∈ (a.run s calls).2, e.call = .abort → e.sent = []
  := by
  induction calls generalizing a with
  | nil => nofun
  | cons c r ih =>
    obtain ⟨c, l⟩ := c
    intro e he hc
    rw [run] at he
    rcases List.mem_cons.1 he with rfl | he
    · obtain hquiet | ⟨hne, -⟩ := sentBy_cases s a l c
      · exact hquiet
      · exact absurd hc hne
    · exact ih _ e he hc

/-- Of any run from a new attempt, cut in two anywhere: at most one request is sent in the whole
run, and none by an abort; the identifier stays; and if the attempt is spent at the cut, it is
the same attempt ever after, nothing is sent any more, and commits, aborts, and operations of
every kind are refused without a use of the link, whatever the session. -/
theorem run_oneShot (s : Session) (kind : TxKind) (nonce : Bytes)
    (calls later : List (Call × Link)) :
  let start := begin s kind nonce
  let cut := (start.run s calls).1
  let whole := start.run s (calls ++ later)
  (requests whole.2).length ≤ 1
    ∧ (∀ e ∈ whole.2, e.call = .abort → e.sent = [])
    ∧ whole.1.txId = start.txId
    ∧ (cut.isSpent = true →
        whole.1 = cut
          ∧ requests whole.2 = requests (start.run s calls).2
          ∧ (∀ s' sync l, cut.commit s' sync l = (some (.error .alreadySpent), cut, l))
          ∧ cut.abort = .error .alreadySpent
          ∧ (∀ kind, cut.draftOf kind = .error .alreadySpent)
          ∧ ∀ e, cut.edit e = .error .alreadySpent)
  := by
  intro start cut whole
  constructor
  · obtain hnone | ⟨hone, -⟩ := requests_run s start (calls ++ later)
    · rw [hnone]
      exact Nat.zero_le 1
    · exact Nat.le_of_eq hone
  constructor
  · apply sent_eq_nil_of_abort
  constructor
  · apply txId_run
  · intro hspent
    have hwhole := run_append s start calls later
    constructor
    · rw [show whole = _ from hwhole]
      exact (run_of_isSpent hspent later).1
    constructor
    · rw [show whole = _ from hwhole, requests, List.flatMap_append]
      have hnone := requests_run_of_isSpent (s := s) hspent later
      rw [requests] at hnone
      rw [hnone, List.append_nil]
      rfl
    constructor
    · intro s' sync l
      exact commit_of_isSpent hspent s' sync l
    constructor
    · exact abort_of_isSpent hspent
    constructor
    · exact draftOf_of_isSpent hspent
    · exact edit_of_isSpent hspent

/-- A database is created, and then the attempt is tried again and given up. -/
theorem run_oneShot_sample :
  let calls := [(.edit (.database (.create "db")), Sample.link), (.commit true, Sample.link)]
  let later := [(.commit true, Sample.link), (.abort, Sample.link)]
  let cut := ((begin Sample.session .database []).run Sample.session calls).1
  let whole := (begin Sample.session .database []).run Sample.session (calls ++ later)
  cut.isSpent = true ∧ whole.1 = cut ∧ (requests whole.2).length ≤ 1
    ∧ cut.commit Sample.session true Sample.link = (some (.error .alreadySpent), cut, Sample.link)
  := by
  intro calls later cut whole
  obtain ⟨hone, -, -, hspent⟩ := run_oneShot Sample.session .database [] calls later
  have hcut : cut = (Sample.creation.commit Sample.session true Sample.link).2.1 := rfl
  have h : cut.isSpent = true := by
    obtain ⟨url, hurl⟩ := Sample.exists_endpoint
    have hsubmission := submission_eq_ok (l := Sample.link) rfl hurl Sample.envelope_creation
    rw [hcut, commit_of_submission rfl (Sample.commitDeadline_session true) hsubmission]
    apply isSpent_settled
  obtain ⟨hwhole, -, hcommit, -⟩ := hspent h
  exact ⟨h, hwhole, hone, hcommit _ true Sample.link⟩

end LedgerTrust.Attempt
