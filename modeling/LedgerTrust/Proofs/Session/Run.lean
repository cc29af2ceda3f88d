import LedgerTrust.Proofs.Attempt.Outcome
import LedgerTrust.Proofs.Attempt.Run
import LedgerTrust.Proofs.Session.Operation

/-!
# Runs of a session

A run of a session is a list of steps on one link: attempts are begun, calls are made on any of
them, and the ledger is queried. Each request takes one delivery, and an attempt is committed with a
receipt if the delivery that its commit takes vouches for this receipt. Nothing in a reply says
which submission it answers, so what keeps two attempts from being committed at one place of the
ledger is only that no two deliveries vouch for this place.

Commits that overlap end as they do one after the other, in the order of their requests: the end of
a commit depends on nothing but the delivery of its own request.
-/

namespace LedgerTrust

namespace Session

variable {s : Session} {l l₁ l₂ : Link}

/-! ### Deliveries that vouch -/

/-- A delivery that a commit ends with as soon as it takes it: a reply in time that is accepted as
one of a replica of the session, with this receipt, whose place is inside its block. -/
def Vouches (s : Session) (receipt : TxReceipt) (d : Delivery) : Prop :=
  ∃ replica ∈ s.replicas, s.Finalizes true replica d receipt

/-- A commit that a delivery finalizes took it off the line. -/
theorem deliveries_of_finalizes {sync : Bool} {replica : Replica} {receipt : TxReceipt}
    (h : s.Finalizes sync replica l.line.next receipt) :
  l.line.deliveries = l.line.next :: l.line.deliveries.tail
  := by
  obtain ⟨-, reply, -, ⟨houtcome, -⟩, -⟩ := h
  cases hline : l.line.deliveries with
  | nil =>
    rw [Line.next, hline] at houtcome
    cases houtcome
  | cons d rest =>
    rw [Line.next, hline]
    rfl

/-- From one link to another deliveries were taken, and some of them, in order, vouch for the
receipts. -/
def Yields (s : Session) (l l₁ : Link) (receipts : List TxReceipt) : Prop :=
  ∃ taken ds, l.line.deliveries = taken ++ l₁.line.deliveries
    ∧ ds.Sublist taken ∧ List.Forall₂ s.Vouches receipts ds

/-- Deliveries may be taken without use. -/
theorem Yields.of_suffix (h : l₁.line.deliveries <:+ l.line.deliveries) :
  s.Yields l l₁ []
  := by
  obtain ⟨taken, h⟩ := h
  exact ⟨taken, [], h.symm, List.nil_sublist taken, .nil⟩

theorem Yields.refl (s : Session) (l : Link) :
  s.Yields l l []
  := .of_suffix List.suffix_rfl

theorem Yields.trans {receipts later : List TxReceipt} (h : s.Yields l l₁ receipts)
    (h' : s.Yields l₁ l₂ later) :
  s.Yields l l₂ (receipts ++ later)
  := by
  obtain ⟨taken, ds, hline, hsub, hvouches⟩ := h
  obtain ⟨taken', ds', hline', hsub', hvouches'⟩ := h'
  use taken ++ taken', ds ++ ds'
  constructor
  · rw [hline, hline', List.append_assoc]
  · exact ⟨hsub.append hsub', List.rel_append hvouches hvouches'⟩

end Session

/-! ### Calls -/

namespace Attempt

open Session

variable {s : Session} {a : Attempt} {l : Link}

/-- The receipt that a commit gives, if it gives one. -/
def receiptOf (result : Except AttemptError CommitOutcome) : Option TxReceipt :=
  result.toOption.bind CommitOutcome.receipt?

theorem receiptOf_eq_some_iff {result : Except AttemptError CommitOutcome} {receipt : TxReceipt} :
  receiptOf result = some receipt ↔ ∃ id, result = .ok (.committed id receipt)
  := by
  cases result with
  | error e => simp [receiptOf, Except.toOption]
  | ok outcome => cases outcome <;> simp [receiptOf, Except.toOption, CommitOutcome.receipt?]

/-- The receipt that a call commits an attempt with, if it does. -/
def receiptBy (s : Session) (a : Attempt) (l : Link) : Call → Option TxReceipt
  | .commit sync => (a.commit s sync l).1.bind receiptOf
  | _ => none

theorem replica_of_submission {picked : Option Replica} {p : Submission}
    (h : a.submission s picked = .ok p) :
  picked = some p.replica
  := (submission_eq_ok_iff.1 h).1

/-- The deliveries after an exchange are those before it without the first. -/
theorem suffix_exchange (l : Link) (request : Request) (deadline : Option Nat) :
  (l.exchange request deadline).2.line.deliveries <:+ l.line.deliveries
  := List.tail_suffix _

/-- A commit of a draft gives a receipt only if the delivery that it takes vouches for it. -/
theorem yields_commit (hopen : a.phase = .drafting) (sync : Bool) :
  s.Yields l (a.commit s sync l).2.2 ((a.commit s sync l).1.bind receiptOf).toList
  := by
  cases h : a.submission s (l.select s).1 with
  | error e =>
    rw [commit_of_submission_error hopen sync h]
    exact .refl s l
  | ok p =>
    cases hdeadline : s.commitDeadline sync with
    | none =>
      rw [commit_of_no_deadline hopen hdeadline h]
      exact .refl s l
    | some deadline =>
      rw [commit_of_submission hopen hdeadline h, length_of_commitDeadline hdeadline]
      dsimp only [Option.bind_some]
      cases hreceipt : receiptOf (s.verdict a.txId sync p.replica
          (l.exchange (s.submitRequest sync p) (s.wait sync)).1) with
      | none => exact .of_suffix (suffix_exchange _ _ _)
      | some receipt =>
        obtain ⟨id, hcommitted⟩ := receiptOf_eq_some_iff.1 hreceipt
        obtain ⟨-, hfinal⟩ := verdict_eq_committed_iff.1 hcommitted
        obtain rfl := hfinal.1
        have hreplica := mem_of_select (replica_of_submission h)
        use [l.line.next], [l.line.next]
        constructor
        · exact deliveries_of_finalizes hfinal
        · exact ⟨List.Sublist.refl _, .cons ⟨p.replica, hreplica, hfinal⟩ .nil⟩

/-- The step lemma of calls: deliveries are only taken, and a receipt that is given is one that a
delivery taken vouches for. -/
theorem yields_after (s : Session) (a : Attempt) (l : Link) (c : Call) :
  s.Yields l (a.after s l c).2 (a.receiptBy s l c).toList
  := by
  by_cases hspent : a.isSpent = true
  · rw [after_of_isSpent hspent]
    cases c with
    | commit sync =>
      rw [receiptBy, commit_of_isSpent hspent]
      exact .refl s l
    | _ => exact .refl s l
  · have hopen := isSpent_eq_false_iff.1 (Bool.eq_false_iff.2 hspent)
    cases c with
    | commit sync => exact yields_commit hopen sync
    | abandon sync wait =>
      rw [after, abandoned, if_neg hspent]
      cases a.submission s (l.select s).1 with
      | error e => exact .refl s l
      | ok p =>
        cases s.commitDeadline sync with
        | none => exact .refl s l
        | some deadline => exact .of_suffix (suffix_exchange _ _ _)
    | _ => exact .refl s l

end Attempt

/-! ### Steps -/

namespace Session

open Attempt

/-- A step of a run. -/
inductive Step where
  | begin (kind : TxKind) (nonce : Bytes)
  /-- A call on the attempt with a number. -/
  | call (number : Nat) (call : Attempt.Call)
  | query (op : Operation)

/-- Where a run stands: the attempts that were begun, in order, and the link. -/
structure Stage where
  attempts : List Attempt
  link : Link

/-- An attempt that was committed, and its receipt. -/
structure Commitment where
  attempt : Nat
  receipt : TxReceipt
  deriving DecidableEq

namespace Stage

variable {s : Session}

/-- The stage after a step. -/
def after (s : Session) (stage : Stage) : Step → Stage
  | .begin kind nonce => { stage with attempts := stage.attempts ++ [Attempt.begin s kind nonce] }
  | .call n c =>
    match stage.attempts[n]? with
    | some a => ⟨stage.attempts.set n (a.after s stage.link c).1, (a.after s stage.link c).2⟩
    | none => stage
  | .query op => { stage with link := (op.dialogue s stage.link).2 }

/-- The commitments of a step. -/
def commitmentsBy (s : Session) (stage : Stage) : Step → List Commitment
  | .call n c =>
    match stage.attempts[n]? with
    | some a => (a.receiptBy s stage.link c).toList.map (Commitment.mk n)
    | none => []
  | _ => []

/-- The stage after a run. -/
def run (s : Session) (stage : Stage) : List Step → Stage
  | [] => stage
  | step :: steps => run s (stage.after s step) steps

/-- The commitments of a run, in order. -/
def commitments (s : Session) (stage : Stage) : List Step → List Commitment
  | [] => []
  | step :: steps => stage.commitmentsBy s step ++ commitments s (stage.after s step) steps

/-- The stage of a session in which nothing was begun. -/
def start (l : Link) : Stage := ⟨[], l⟩

theorem after_call_of_none {stage : Stage} {n : Nat} (h : stage.attempts[n]? = none)
    {c : Attempt.Call} :
  stage.after s (.call n c) = stage
  := by
  simp only [after, h]

/-- A call on an attempt that was begun. -/
theorem call_of_some (s : Session) {stage : Stage} {n : Nat} {a : Attempt}
    (h : stage.attempts[n]? = some a) (c : Attempt.Call) :
  stage.after s (.call n c)
      = ⟨stage.attempts.set n (a.after s stage.link c).1, (a.after s stage.link c).2⟩
    ∧ stage.commitmentsBy s (.call n c)
      = (a.receiptBy s stage.link c).toList.map (Commitment.mk n)
  := by
  constructor
  · simp only [after, h]
  · simp only [commitmentsBy, h]

/-- The step lemma of runs. -/
theorem yields_after (s : Session) (stage : Stage) (step : Step) :
  s.Yields stage.link (stage.after s step).link
    ((stage.commitmentsBy s step).map Commitment.receipt)
  := by
  cases step with
  | begin kind nonce => exact .refl s stage.link
  | query op =>
    obtain ⟨requests, -, htakes, -⟩ := op.exchanges_dialogue s stage.link
    apply Yields.of_suffix
    rw [after, htakes]
    exact List.drop_suffix _ _
  | call n c =>
    cases hget : stage.attempts[n]? with
    | none =>
      rw [after_call_of_none hget]
      simp only [commitmentsBy, hget]
      exact .refl s stage.link
    | some a =>
      have hreceipt : Commitment.receipt ∘ Commitment.mk n = id := rfl
      obtain ⟨hafter, hcommitments⟩ := call_of_some s hget c
      rw [hafter, hcommitments, List.map_map, hreceipt, List.map_id]
      exact a.yields_after s stage.link c

/-- The run lemma: the commitments of a run are vouched for, in order, by deliveries that it
took. -/
theorem yields_run (s : Session) (stage : Stage) (steps : List Step) :
  s.Yields stage.link (stage.run s steps).link
    ((stage.commitments s steps).map Commitment.receipt)
  := by
  induction steps generalizing stage with
  | nil => exact .refl s stage.link
  | cons step steps ih =>
    rw [run, commitments, List.map_append]
    exact (yields_after s stage step).trans (ih _)

/-- A draft that is submitted is committed with whatever receipt the next delivery vouches for as
one of the replica asked, where the deadline fits: nothing of what was submitted is looked at. -/
theorem commitmentsBy_of_finalizes {stage : Stage} {n : Nat} {a : Attempt} {p : Submission}
    {receipt : TxReceipt} (hget : stage.attempts[n]? = some a) (hopen : a.phase = .drafting)
    (hfits : s.DeadlineFits true) (hsubmission : a.submission s (stage.link.select s).1 = .ok p)
    (hfinal : s.Finalizes true p.replica stage.link.line.next receipt) :
  stage.commitmentsBy s (.call n (.commit true)) = [⟨n, receipt⟩]
    ∧ (stage.after s (.call n (.commit true))).link
      = ((stage.link.select s).2.exchange (s.submitRequest true p) (s.wait true)).2
  := by
  obtain ⟨hafter, hcommitments⟩ := call_of_some s hget (.commit true)
  obtain ⟨deadline, hdeadline⟩ := exists_commitDeadline hfits
  have hcommit := commit_of_submission hopen hdeadline hsubmission
  constructor
  · rw [hcommitments, receiptBy, (commit_of_delivery hopen hfits hsubmission).1,
      verdict_eq_committed_iff.2 ⟨rfl, hfinal⟩]
    rfl
  · rw [hafter, Attempt.after, hcommit, length_of_commitDeadline hdeadline]

end Stage

/-! ### One place, two deliveries -/

section Pairs

variable {α β : Type} {R : α → β → Prop} {as : List α} {bs : List β}

theorem exists_of_forall₂ (h : List.Forall₂ R as bs) {a : α} (ha : a ∈ as) :
  ∃ b ∈ bs, R a b
  := by
  induction h with
  | nil => cases ha
  | cons hfirst _ ih =>
    rcases List.mem_cons.1 ha with rfl | hin
    · exact ⟨_, List.mem_cons_self, hfirst⟩
    · obtain ⟨b, hb, hab⟩ := ih hin
      exact ⟨b, List.mem_cons_of_mem _ hb, hab⟩

/-- Two members of a list are related to two members of a related one, in one of the two orders. -/
theorem exists_pair_of_forall₂ (h : List.Forall₂ R as bs) {a a' : α} (ha : a ∈ as) (ha' : a' ∈ as)
    (hne : a ≠ a') :
  ∃ b b', [b, b'].Sublist bs ∧ (R a b ∧ R a' b' ∨ R a' b ∧ R a b')
  := by
  induction h with
  | nil => cases ha
  | cons hfirst hrest ih =>
    rcases List.mem_cons.1 ha with rfl | hin
    · obtain ⟨b', hb', hab'⟩ := exists_of_forall₂ hrest ((List.mem_cons.1 ha').resolve_left hne.symm)
      exact ⟨_, b', (List.singleton_sublist.2 hb').cons_cons _, .inl ⟨hfirst, hab'⟩⟩
    · rcases List.mem_cons.1 ha' with rfl | hin'
      · obtain ⟨b', hb', hab'⟩ := exists_of_forall₂ hrest hin
        exact ⟨_, b', (List.singleton_sublist.2 hb').cons_cons _, .inr ⟨hfirst, hab'⟩⟩
      · obtain ⟨b, b', hsub, hboth⟩ := ih hin hin'
        exact ⟨b, b', hsub.cons _, hboth⟩

end Pairs

/-- A delivery that vouches for a receipt at a place of the ledger. -/
def VouchesFor (s : Session) (block index : UInt64) (d : Delivery) : Prop :=
  ∃ receipt, s.Vouches receipt d ∧ receipt.blockNumber = block ∧ receipt.index = index

/-- Of any run of a session, and whatever the replicas deliver: two different attempts are both
committed at one place of the ledger only if two of the deliveries vouch for this place, each of them
by a reply that is accepted as one of a replica of the session. -/
theorem vouchesFor_of_same_place (s : Session) (l : Link) (steps : List Step) {i j : Nat}
    (hij : i ≠ j) {receipt other : TxReceipt}
    (hi : ⟨i, receipt⟩ ∈ (Stage.start l).commitments s steps)
    (hj : ⟨j, other⟩ ∈ (Stage.start l).commitments s steps)
    (hblock : other.blockNumber = receipt.blockNumber) (hindex : other.index = receipt.index) :
  ∃ d e, [d, e].Sublist l.line.deliveries
    ∧ s.VouchesFor receipt.blockNumber receipt.index d
    ∧ s.VouchesFor receipt.blockNumber receipt.index e
  := by
  obtain ⟨taken, ds, hline, hsub, hvouches⟩ := Stage.yields_run s (Stage.start l) steps
  have hne : (⟨i, receipt⟩ : Commitment) ≠ ⟨j, other⟩ := fun h => hij (congrArg Commitment.attempt h)
  obtain ⟨d, e, hpair, hboth⟩ :=
    exists_pair_of_forall₂ (List.forall₂_map_left_iff.1 hvouches) hi hj hne
  have htaken : taken.Sublist l.line.deliveries := by
    rw [show l.line.deliveries = _ from hline]
    exact List.sublist_append_left _ _
  use d, e, hpair.trans (hsub.trans htaken)
  obtain ⟨hd, he⟩ | ⟨hd, he⟩ := hboth
  · exact ⟨⟨receipt, hd, rfl, rfl⟩, other, he, hblock, hindex⟩
  · exact ⟨⟨other, hd, hblock, hindex⟩, receipt, he, rfl, rfl⟩

end Session

/-! ### A reply that is delivered twice -/

namespace Sample

open Session

/-- A link over which the same reply comes twice. -/
def replayLink : Link :=
  .start [delivery receiptText receiptSignature, delivery receiptText receiptSignature]

/-- Two attempts that create a database, and then the commit of each. -/
def replaySteps : List Step :=
  [.begin .database [], .begin .database [1],
    .call 0 (.edit (.database (.create "db"))), .call 1 (.edit (.database (.create "db"))),
    .call 0 (.commit true), .call 1 (.commit true)]

theorem after_edit (nonce : Bytes) (l : Link) :
  (Attempt.begin session .database nonce).after session l (.edit (.database (.create "db")))
    = (attempt nonce, l)
  := rfl

theorem commitments_drafts (steps : List Step) :
  (Stage.start replayLink).commitments session
      (.begin .database [] :: .begin .database [1]
        :: .call 0 (.edit (.database (.create "db")))
        :: .call 1 (.edit (.database (.create "db"))) :: steps)
    = Stage.commitments session ⟨[attempt [], attempt [1]], replayLink⟩ steps
  := by
  simp only [Stage.commitments, Stage.commitmentsBy, Stage.after, Stage.start, List.nil_append,
    List.cons_append, List.getElem?_cons_zero, List.getElem?_cons_succ, after_edit,
    List.set_cons_zero, List.set_cons_succ, Attempt.receiptBy, Option.toList_none, List.map_nil]

/-- The reply to the first attempt commits the second one as well, with the same receipt. -/
theorem commitments_replaySteps :
  (Stage.start replayLink).commitments session replaySteps = [⟨0, receipt⟩, ⟨1, receipt⟩]
  := by
  let drafts : Stage := ⟨[attempt [], attempt [1]], replayLink⟩
  let half : Stage := drafts.after session (.call 0 (.commit true))
  have hfirst : drafts.attempts[0]? = some (attempt []) := rfl
  have hfits : session.DeadlineFits true := fun _ => by decide
  have hfinal : session.Finalizes true replica (delivery receiptText receiptSignature) receipt :=
    finalizes_receiptAfter (by decide)
  obtain ⟨p, hp, hreplica⟩ := exists_submission [] (s := session) (l := replayLink) rfl
  obtain ⟨hone, hlink⟩ := Stage.commitmentsBy_of_finalizes hfirst rfl hfits hp
    (hreplica.symm ▸ hfinal)
  have hlink : half.link = _ := hlink
  have hsecond : half.attempts[1]? = some (attempt [1]) := by
    rw [show half = _ from (Stage.call_of_some session hfirst (.commit true)).1]
    rfl
  have hturn : (half.link.select session).1 = some replica := by
    rw [hlink]
    rfl
  have hnext : half.link.line.next = delivery receiptText receiptSignature := by
    rw [hlink]
    rfl
  obtain ⟨q, hq, hreplica'⟩ := exists_submission [1] hturn
  obtain ⟨htwo, -⟩ := Stage.commitmentsBy_of_finalizes hsecond rfl hfits hq
    (hnext.symm ▸ hreplica'.symm ▸ hfinal)
  rw [replaySteps, commitments_drafts, Stage.commitments, Stage.commitments, Stage.commitments,
    hone, htwo]
  rfl

end Sample

namespace Session

/-- Two attempts of a run are committed with one receipt. -/
theorem same_place_replayed :
  (⟨0, Sample.receipt⟩ : Commitment)
      ∈ (Stage.start Sample.replayLink).commitments Sample.session Sample.replaySteps
    ∧ ⟨1, Sample.receipt⟩
      ∈ (Stage.start Sample.replayLink).commitments Sample.session Sample.replaySteps
  := by
  rw [Sample.commitments_replaySteps]
  exact ⟨List.mem_cons_self, List.mem_cons_of_mem _ List.mem_cons_self⟩

/-- The place at which both attempts are committed is vouched for by both replies. -/
theorem vouchesFor_of_same_place_replayed :
  (⟨0, Sample.receipt⟩ : Commitment)
      ∈ (Stage.start Sample.replayLink).commitments Sample.session Sample.replaySteps
    ∧ ⟨1, Sample.receipt⟩
      ∈ (Stage.start Sample.replayLink).commitments Sample.session Sample.replaySteps
    ∧ ∃ d e, [d, e].Sublist Sample.replayLink.line.deliveries
      ∧ Sample.session.VouchesFor 2 0 d ∧ Sample.session.VouchesFor 2 0 e
  := by
  have hfirst : (⟨0, Sample.receipt⟩ : Commitment)
      ∈ (Stage.start Sample.replayLink).commitments Sample.session Sample.replaySteps := by
    rw [Sample.commitments_replaySteps]
    exact List.mem_cons_self
  have hsecond : (⟨1, Sample.receipt⟩ : Commitment)
      ∈ (Stage.start Sample.replayLink).commitments Sample.session Sample.replaySteps := by
    rw [Sample.commitments_replaySteps]
    exact List.mem_cons_of_mem _ List.mem_cons_self
  exact ⟨hfirst, hsecond, vouchesFor_of_same_place Sample.session Sample.replayLink
    Sample.replaySteps (by decide) hfirst hsecond rfl rfl⟩

end Session

end LedgerTrust
