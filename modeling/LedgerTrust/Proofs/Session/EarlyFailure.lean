import LedgerTrust.Proofs.Attempt.Kept
import LedgerTrust.Proofs.Session.Run

/-!
# Commits that fail before they submit

Three things keep a commit from submitting anything: there is no replica, the replica whose turn it
is has no endpoint for the kind, or the draft is no transaction. `Attempt.FailsEarly` lists them
with their errors; an envelope that is made can always be written. Such a commit moves the turn
among the replicas, if the policy counts turns, and that is all it does: what a run shows after it,
in every result and in every stage, is what it shows from the stage before it with only the turn
moved. For the attempt to be as it was in the eyes of its user it also has to keep no envelope,
which holds of every draft in a run: only a commit that submits sets one, and it spends the attempt.
-/

namespace LedgerTrust

/-! ### The turn among the replicas -/

/-- The selection of a replica moves the turn by one if turns are taken, and else leaves the link as
it is. -/
theorem Link.select_cases (l : Link) (s : Session) :
  (l.select s).2 = l ∨ s.policy = .roundRobin ∧ (l.select s).2 = { l with turn := l.turn + 1 }
  := by
  have hpicks := s.picks_select l
  generalize l.select s = p at hpicks ⊢
  cases hpicks with
  | none _ => exact .inl rfl
  | first _ _ => exact .inl rfl
  | turn hpolicy _ => exact .inr ⟨hpolicy, rfl⟩

namespace Attempt

variable {s : Session} {a : Attempt} {l : Link} {e : AttemptError}

/-! ### One call -/

/-- A commit that fails early gives its error back and leaves the attempt as it was. -/
theorem commit_of_failsEarly (hopen : a.phase = .drafting) (sync : Bool)
    (h : a.FailsEarly s (l.select s).1 e) :
  a.commit s sync l = (some (.error e), a, (l.select s).2)
  := commit_of_submission_error hopen sync (submission_eq_error_iff.2 h)

/-- A draft that keeps no envelope keeps none after a call that leaves it a draft. -/
theorem envelope_after (h : a.phase = .drafting → a.envelope = none) (c : Call)
    (hafter : (a.after s l c).1.phase = .drafting) :
  (a.after s l c).1.envelope = none
  := by
  by_cases hspent : a.isSpent = true
  · rw [after_of_isSpent hspent] at hafter ⊢
    exact h hafter
  · have hopen := isSpent_eq_false_iff.1 (Bool.eq_false_iff.2 hspent)
    have hchanges := changes_after (s := s) (l := l) hopen c
    generalize (a.after s l c).1 = b at hchanges hafter ⊢
    generalize a.sentBy s l c = sent at hchanges
    cases hchanges with
    | edited draft hkind => exact h hopen
    | aborted => cases hafter
    | committed sync p result hsubmission =>
      obtain ⟨phase, hsettled, hdrafting, -⟩ :=
        exists_phase_settled (a.dispatched p.envelope) result
      rw [hsettled] at hafter
      exact absurd hafter hdrafting
    | abandoned sync wait p hsubmission => cases hafter
    | stranded sync hc hdeadline p hsubmission => cases hafter

end Attempt

/-! ### What a run shows -/

namespace Session

/-- What a step of a run gives back. -/
inductive Report where
  | begun (txId : String)
  | returned (result : Option Attempt.Return)
  /-- The attempt was not begun. -/
  | noAttempt
  | answered (result : Except QueryError Unit)

namespace Stage

variable {s : Session} {stage : Stage} {n : Nat} {a : Attempt} {l : Link} {e : AttemptError}

/-- What a step gives back. -/
def report (s : Session) (stage : Stage) : Step → Report
  | .begin kind nonce => .begun (Attempt.begin s kind nonce).txId
  | .call n c =>
    match stage.attempts[n]? with
    | some a => .returned (a.returned s stage.link c)
    | none => .noAttempt
  | .query op => .answered (op.dialogue s stage.link).1

/-- What a run shows step by step: what the step gives back, and the stage after it. -/
def shown (s : Session) (stage : Stage) : List Step → List (Report × Stage)
  | [] => []
  | step :: steps =>
    (stage.report s step, stage.after s step) :: shown s (stage.after s step) steps

/-- The step lemma: no draft keeps an envelope. -/
theorem envelope_after (h : ∀ a ∈ stage.attempts, a.phase = .drafting → a.envelope = none)
    (step : Step) :
  ∀ a ∈ (stage.after s step).attempts, a.phase = .drafting → a.envelope = none
  := by
  intro a ha hopen
  cases step with
  | begin kind nonce =>
    rcases List.mem_append.1 ha with hold | hnew
    · exact h a hold hopen
    · obtain rfl := List.mem_singleton.1 hnew
      rfl
  | call n c =>
    cases hget : stage.attempts[n]? with
    | none =>
      rw [after_call_of_none hget] at ha
      exact h a ha hopen
    | some b =>
      rw [(call_of_some s hget c).1] at ha
      rcases List.mem_or_eq_of_mem_set ha with hold | rfl
      · exact h a hold hopen
      · exact Attempt.envelope_after (h b (List.mem_of_getElem? hget)) c hopen
  | query op => exact h a ha hopen

/-- The run lemma. -/
theorem envelope_run (h : ∀ a ∈ stage.attempts, a.phase = .drafting → a.envelope = none)
    (steps : List Step) :
  ∀ a ∈ (stage.run s steps).attempts, a.phase = .drafting → a.envelope = none
  := by
  induction steps generalizing stage with
  | nil => exact h
  | cons step steps ih => exact ih (envelope_after h step)

/-- A commit that fails early reports its error and leaves all attempts as they were. -/
theorem step_of_failsEarly (hget : stage.attempts[n]? = some a) (hopen : a.phase = .drafting)
    (sync : Bool) (h : a.FailsEarly s (stage.link.select s).1 e) :
  stage.report s (.call n (.commit sync)) = .returned (some (.commit (.error e)))
    ∧ stage.after s (.call n (.commit sync))
      = { stage with link := (stage.link.select s).2 }
  := by
  have hcommit := Attempt.commit_of_failsEarly hopen sync h
  constructor
  · simp only [report, hget, Attempt.returned, hcommit, Option.map_some]
  -- The attempt that the call gives back is the one that it was made on.
  · have hsame : stage.attempts.set n a = stage.attempts := by
      obtain ⟨hlt, rfl⟩ := List.getElem?_eq_some_iff.1 hget
      exact List.set_getElem_self hlt
    rw [(call_of_some s hget _).1, Attempt.after, hcommit, hsame]

end Stage

/-- Of any run of a session and of any draft in it, whatever it collects: if its commit fails early,
the draft is exactly as before, it keeps no envelope, and nothing is sent; the stage is as before
too, but for a turn if turns are taken; and whatever is done later, all results and stages are
those of a run from that stage. -/
theorem shown_failsEarly (s : Session) (l : Link) (steps later : List Step) {n : Nat} {a : Attempt}
    {e : AttemptError} (sync : Bool)
    (hget : ((Stage.start l).run s steps).attempts[n]? = some a) (hopen : a.phase = .drafting)
    (hfails : a.FailsEarly s (((Stage.start l).run s steps).link.select s).1 e) :
  let stage := (Stage.start l).run s steps
  let other : Stage := { stage with link := (stage.link.select s).2 }
  a.envelope = none
    ∧ a.commit s sync stage.link = (some (.error e), a, other.link)
    ∧ other.link.line = stage.link.line
    ∧ (other = stage
      ∨ s.policy = .roundRobin
        ∧ other = { stage with link := { stage.link with turn := stage.link.turn + 1 } })
    ∧ stage.shown s (.call n (.commit sync) :: later)
      = (.returned (some (.commit (.error e))), other) :: other.shown s later
  := by
  intro stage other
  have hstart : ∀ a ∈ (Stage.start l).attempts, a.phase = .drafting → a.envelope = none := nofun
  have hnone : a.envelope = none :=
    Stage.envelope_run hstart steps a (List.mem_of_getElem? hget) hopen
  have hcommit := Attempt.commit_of_failsEarly hopen sync hfails
  use hnone, hcommit, stage.link.line_select s
  constructor
  · obtain hsame | ⟨hpolicy, hturn⟩ := stage.link.select_cases s
    · apply Or.inl
      rw [show other = { stage with link := _ } from rfl, hsame]
    · apply Or.inr
      use hpolicy
      rw [show other = { stage with link := _ } from rfl, hturn]
  · obtain ⟨hreport, hafter⟩ := Stage.step_of_failsEarly hget hopen sync hfails
    rw [Stage.shown, hreport, hafter]

namespace Sample

/-- A session whose replicas take turns. -/
abbrev turns : Session := { LedgerTrust.Sample.session with policy := .roundRobin }

/-- A database is to be created and deleted in one transaction. -/
def conflictSteps : List Step :=
  [.begin .database [], .call 0 (.edit (.database (.create "db"))),
    .call 0 (.edit (.database (.delete "db")))]

/-- Another database is added, and then the attempt is given up. -/
def laterSteps : List Step :=
  [.call 0 (.edit (.database (.create "other"))), .call 0 (.commit false), .call 0 .abort]

def conflict : Attempt :=
  { Attempt.begin turns .database [] with
    draft := .database ((DatabaseTxDraft.empty.apply (.create "db")).apply (.delete "db")) }

theorem getElem?_conflictSteps :
  ((Stage.start LedgerTrust.Sample.link).run turns conflictSteps).attempts[0]? = some conflict
  := rfl

theorem failsEarly_conflict :
  conflict.FailsEarly turns
    (((Stage.start LedgerTrust.Sample.link).run turns conflictSteps).link.select turns).1
    (.compose (.createdAndDeleted "db"))
  := by
  obtain ⟨url, hurl⟩ := @LedgerTrust.Sample.exists_endpoint TxKind.database.submitPath (by decide)
  exact .noTransaction hurl rfl

end Sample

/-- The commit of a draft that creates and deletes one database moves the turn from 0 to 1, and the
later steps show what they show from the stage with that turn. -/
theorem shown_failsEarly_conflict :
  let stage := (Stage.start LedgerTrust.Sample.link).run Sample.turns Sample.conflictSteps
  stage.attempts[0]? = some Sample.conflict
    ∧ Sample.conflict.phase = .drafting
    ∧ Sample.conflict.FailsEarly Sample.turns (stage.link.select Sample.turns).1
      (.compose (.createdAndDeleted "db"))
    ∧ stage.shown Sample.turns (.call 0 (.commit true) :: Sample.laterSteps)
      = (.returned (some (.commit (.error (.compose (.createdAndDeleted "db"))))),
          { stage with link := { stage.link with turn := 1 } })
        :: Stage.shown Sample.turns { stage with link := { stage.link with turn := 1 } }
          Sample.laterSteps
  := by
  intro stage
  obtain ⟨-, -, -, -, hshown⟩ :=
    shown_failsEarly Sample.turns LedgerTrust.Sample.link Sample.conflictSteps Sample.laterSteps
      true Sample.getElem?_conflictSteps rfl Sample.failsEarly_conflict
  exact ⟨Sample.getElem?_conflictSteps, rfl, Sample.failsEarly_conflict, hshown⟩

end Session

end LedgerTrust
