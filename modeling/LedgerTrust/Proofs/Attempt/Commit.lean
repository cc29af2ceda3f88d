import LedgerTrust.Session.Attempt

/-!
# What a commit does

`Attempt.commit` does one of four things. On a spent attempt it does nothing. On an attempt in
its draft it picks a replica; if nothing can be submitted to this replica, the attempt stays as
it was. Otherwise the draft is taken. If the deadline is too long for a duration, the commit breaks
down there; if not, exactly one request goes out and the attempt is settled by its verdict.
-/

namespace LedgerTrust

namespace Attempt

variable {s : Session} {a : Attempt} {l : Link}

theorem isSpent_iff :
  a.isSpent = true ↔ a.phase ≠ .drafting
  := by
  unfold isSpent Phase.isSpent
  exact decide_eq_true_iff

theorem isSpent_eq_false_iff :
  a.isSpent = false ↔ a.phase = .drafting
  := by
  rw [← Bool.not_eq_true, isSpent_iff, ne_eq, Decidable.not_not]

/-- A settled attempt stands where the result says. -/
theorem phase_settled (a : Attempt) (result : Except AttemptError CommitOutcome) :
  (a.settled result).phase
    = match result with
      | .ok outcome => outcome.phase
      | .error _ => .failed
  := by
  cases result with
  | ok outcome => rfl
  | error e => rfl

/-- No end of a commit leaves a draft behind. -/
theorem isSpent_settled (a : Attempt) (result : Except AttemptError CommitOutcome) :
  (a.settled result).isSpent = true
  := by
  apply isSpent_iff.2
  rw [phase_settled]
  cases result with
  | ok outcome => cases outcome <;> nofun
  | error e => nofun

@[simp]
theorem txId_settled (a : Attempt) (result : Except AttemptError CommitOutcome) :
  (a.settled result).txId = a.txId
  := by
  cases result with
  | ok outcome => rfl
  | error e => rfl

/-! ### The cases of a commit -/

/-- A commit of a spent attempt is refused. It changes neither the attempt nor the link, so it
picks no replica and sends nothing. -/
theorem commit_of_isSpent (h : a.isSpent = true) (s : Session) (sync : Bool) (l : Link) :
  a.commit s sync l = (some (.error .alreadySpent), a, l)
  := by
  rw [commit, if_pos h]

/-- If nothing can be submitted, a commit moves the turn among the replicas and does nothing
else. -/
theorem commit_of_submission_error (hopen : a.phase = .drafting) (sync : Bool) {e : AttemptError}
    (h : a.submission s (l.select s).1 = .error e) :
  a.commit s sync l = (some (.error e), a, (l.select s).2)
  := by
  have hspent : ¬ a.isSpent = true := by simp [isSpent_iff, hopen]
  rw [commit, if_neg hspent]
  simp only [h]

/-- Something is submitted exactly if a replica is picked, has an endpoint and the draft is a
transaction. -/
theorem submission_eq_ok_iff {picked : Option Replica} {p : Submission} :
  a.submission s picked = .ok p
    ↔ picked = some p.replica
      ∧ p.replica.endpoint a.kind.submitPath = .ok p.url
      ∧ a.draft.envelope s.scheme s.signer a.txId = .ok p.envelope
  := by
  constructor
  · intro h
    unfold submission at h
    split at h
    · cases h
    split at h
    · cases h
    next hurl =>
    split at h
    · cases h
    next henvelope =>
      cases h
      exact ⟨rfl, hurl, henvelope⟩
  · rintro ⟨rfl, hurl, henvelope⟩
    simp only [submission, hurl, henvelope]

/-- Why there is nothing to submit to the replica that was picked, with the error of the commit. -/
inductive FailsEarly (s : Session) (a : Attempt) : Option Replica → AttemptError → Prop
  | noReplica : FailsEarly s a none .noReplica
  | noEndpoint {replica : Replica} {cause : TransportError}
      (hendpoint : replica.endpoint a.kind.submitPath = .error cause) :
    FailsEarly s a (some replica) (.transport cause)
  | noTransaction {replica : Replica} {url : Url} {cause : ComposeError}
      (hendpoint : replica.endpoint a.kind.submitPath = .ok url)
      (hdraft : a.draft.envelope s.scheme s.signer a.txId = .error cause) :
    FailsEarly s a (some replica) (.compose cause)

/-- These are the only ways to have nothing to submit. -/
theorem submission_eq_error_iff {picked : Option Replica} {e : AttemptError} :
  a.submission s picked = .error e ↔ a.FailsEarly s picked e
  := by
  constructor
  · intro h
    unfold submission at h
    split at h
    · cases h
      apply FailsEarly.noReplica
    split at h
    · next hendpoint =>
      cases h
      apply FailsEarly.noEndpoint hendpoint
    next hendpoint =>
    split at h
    · next hdraft =>
      cases h
      apply FailsEarly.noTransaction hendpoint hdraft
    · cases h
  · intro h
    cases h with
    | noReplica => rfl
    | noEndpoint hendpoint => simp only [submission, hendpoint]
    | noTransaction hendpoint hdraft => simp only [submission, hendpoint, hdraft]

theorem submission_eq_ok {replica : Replica} {url : Url} {envelope : Envelope}
    (hreplica : (l.select s).1 = some replica)
    (hurl : replica.endpoint a.kind.submitPath = .ok url)
    (henvelope : a.draft.envelope s.scheme s.signer a.txId = .ok envelope) :
  a.submission s (l.select s).1 = .ok ⟨replica, url, envelope⟩
  := submission_eq_ok_iff.2 ⟨hreplica, hurl, henvelope⟩

/-- A commit whose deadline is too long takes the draft, and sends nothing and returns nothing. -/
theorem commit_of_no_deadline (hopen : a.phase = .drafting) {sync : Bool}
    (hdeadline : s.commitDeadline sync = none) {p : Submission}
    (h : a.submission s (l.select s).1 = .ok p) :
  a.commit s sync l = (none, a.dispatched p.envelope, (l.select s).2)
  := by
  have hspent : ¬ a.isSpent = true := by simp [isSpent_iff, hopen]
  rw [commit, if_neg hspent]
  simp only [h, hdeadline]

/-- A commit that has something to submit sends it to the replica picked, and what the request
leads to settles the attempt. -/
theorem commit_of_submission (hopen : a.phase = .drafting) {sync : Bool}
    {deadline : Option Duration} (hdeadline : s.commitDeadline sync = some deadline)
    {p : Submission} (h : a.submission s (l.select s).1 = .ok p) :
  a.commit s sync l
    = (some (s.verdict a.txId sync p.replica
          (l.exchange (s.submitRequest sync p) (deadline.map Duration.length)).1),
        (a.dispatched p.envelope).settled (s.verdict a.txId sync p.replica
          (l.exchange (s.submitRequest sync p) (deadline.map Duration.length)).1),
        ((l.select s).2.exchange (s.submitRequest sync p) (deadline.map Duration.length)).2)
  := by
  have hspent : ¬ a.isSpent = true := by simp [isSpent_iff, hopen]
  rw [commit, if_neg hspent]
  simp only [h, hdeadline]
  rfl

/-! ### The creation of a database -/

namespace Sample

def replica : Replica :=
  ⟨"node1", ⟨"http", some ⟨"", "", "127.0.0.1", some 6001⟩, .segments [""], none, none⟩⟩

abbrev session : Session where
  signer := ⟨"alice", List.replicate 32 1⟩
  replicas := [replica]
  policy := .firstAvailable
  trusted := ⟨.empty⟩
  commitTimeout := .ofSeconds 1
  queryTimeout := none
  scheme := ⟨.sha256, .json, .indexBits⟩

theorem commitDeadline_session (sync : Bool) :
  session.commitDeadline sync = some (if sync then some (.ofSeconds 2) else none)
  := by
  cases sync with
  | true => decide
  | false => rfl

/-- A new attempt after its only edit. -/
def creation : Attempt :=
  { begin session .database [] with
    draft := .database (DatabaseTxDraft.empty.apply (.create "db")) }

def envelope : Envelope :=
  .database (.signed session.scheme session.signer DatabaseTx.codec
    ⟨"alice", creation.txId, ["db"], []⟩)

/-- A link with one delivery, which says that the transaction was accepted. -/
def link : Link := .start [⟨.ok ⟨Reply.acceptedStatus, []⟩, 5⟩]

theorem exists_endpoint :
  ∃ url, replica.endpoint creation.kind.submitPath = .ok url
  := by
  have h : (replica.endpoint creation.kind.submitPath).toOption.isSome = true := by
    decide
  cases he : replica.endpoint creation.kind.submitPath with
  | ok url => exact ⟨url, rfl⟩
  | error cause =>
    rw [he] at h
    cases h

theorem envelope_creation :
  creation.draft.envelope session.scheme session.signer creation.txId = .ok envelope
  := rfl

end Sample

end Attempt

end LedgerTrust
