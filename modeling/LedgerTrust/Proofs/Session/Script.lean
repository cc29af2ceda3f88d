import LedgerTrust.Proofs.Attempt.Run
import LedgerTrust.Proofs.Session.Fetch
import LedgerTrust.Proofs.Session.Operation

/-!
# Scripts

While a call or an operation of the ledger waits for a reply, others may use the session. A
`Script` is what is left to do, cut wherever others may come in: a replica is picked for a path, or
a request is sent and waited for, and the rest depends on what comes of that. Played to its end on
one link, without others, the script of a call is the call and the script of an operation is its
dialogue (`Attempt.play_script`, `Operation.dialogue_script`). `Script.Ends` says how a script can
end among others where there always is a replica, whatever is delivered, and for which paths it
picked one: a commit of a draft for the path of its submission, and an operation for the path of
each query that it makes and whose arguments pass their check.
-/

namespace LedgerTrust

/-! ### Scripts -/

/-- What is left to do, with a link that others use as well. -/
inductive Script (α : Type) where
  | done (result : α)
  /-- A replica is picked for a path. -/
  | pick (path : String) (rest : Option Replica → Script α)
  | exchange (request : Request) (deadline : Option Nat)
      (rest : Option (Except TransportError Reply) → Script α)

namespace Script

variable {α β ε : Type} {s : Session} {l : Link}

def bind : Script α → (α → Script β) → Script β
  | .done a, f => f a
  | .pick path rest, f => .pick path fun picked => (rest picked).bind f
  | .exchange request deadline rest, f =>
    .exchange request deadline fun reception => (rest reception).bind f

def map (f : α → β) (x : Script α) : Script β := x.bind fun a => .done (f a)

/-- One script after the other, unless the first ends with an error. -/
def andThen (x : Script (Except ε α)) (f : α → Script (Except ε β)) : Script (Except ε β) :=
  x.bind fun
    | .ok a => f a
    | .error e => .done (.error e)

/-- The end of a script on one link, without others. -/
def play (s : Session) : Script α → Link → α × Link
  | .done a, l => (a, l)
  | .pick _ rest, l => (rest (l.select s).1).play s (l.select s).2
  | .exchange request deadline rest, l =>
    (rest (l.exchange request deadline).1).play s (l.exchange request deadline).2

theorem play_bind (x : Script α) (f : α → Script β) (l : Link) :
  (x.bind f).play s l = (f (x.play s l).1).play s (x.play s l).2
  := by
  induction x generalizing l with
  | done a => rfl
  | pick path rest ih => exact ih _ _
  | exchange request deadline rest ih => exact ih _ _

/-- The dialogue of a script that may fail. -/
def dialogue (s : Session) (x : Script (Except QueryError α)) : Dialogue α := x.play s

theorem dialogue_andThen (x : Script (Except QueryError α))
    (f : α → Script (Except QueryError β)) :
  (x.andThen f).dialogue s = x.dialogue s >>= fun a => (f a).dialogue s
  := by
  funext l
  rw [Dialogue.bind_apply, dialogue, andThen, play_bind, dialogue]
  cases x.play s l with
  | mk result l₁ =>
    cases result with
    | ok a => rfl
    | error e => rfl

/-! ### How scripts end -/

/-- A script can end with a result where there always is a replica, and it picks one for these
paths. -/
inductive Ends : Script α → List String → α → Prop
  | done (a : α) : Ends (.done a) [] a
  | pick {path : String} {rest : Option Replica → Script α} (replica : Replica)
      {paths : List String} {a : α} (h : Ends (rest (some replica)) paths a) :
    Ends (.pick path rest) (path :: paths) a
  | exchange {request : Request} {deadline : Option Nat}
      {rest : Option (Except TransportError Reply) → Script α}
      (reception : Option (Except TransportError Reply)) {paths : List String} {a : α}
      (h : Ends (rest reception) paths a) :
    Ends (.exchange request deadline rest) paths a

/-- Where there is a replica, every script can end. -/
theorem exists_ends (replica : Replica) (x : Script α) :
  ∃ paths a, x.Ends paths a
  := by
  induction x with
  | done a => exact ⟨[], a, .done a⟩
  | pick path rest ih =>
    obtain ⟨paths, a, h⟩ := ih (some replica)
    exact ⟨path :: paths, a, .pick replica h⟩
  | exchange request deadline rest ih =>
    obtain ⟨paths, a, h⟩ := ih none
    exact ⟨paths, a, .exchange none h⟩

theorem ends_done {a b : α} {paths : List String} (h : (Script.done a).Ends paths b) :
  paths = [] ∧ a = b
  := by
  cases h
  exact ⟨rfl, rfl⟩

theorem ends_bind {x : Script α} {f : α → Script β} {paths : List String} {b : β}
    (h : (x.bind f).Ends paths b) :
  ∃ first later a, x.Ends first a ∧ (f a).Ends later b ∧ paths = first ++ later
  := by
  induction x generalizing paths with
  | done a => exact ⟨[], paths, a, .done a, h, rfl⟩
  | pick path rest ih =>
    cases h with
    | pick replica h =>
      obtain ⟨first, later, a, hfirst, hlater, rfl⟩ := ih _ h
      exact ⟨path :: first, later, a, .pick replica hfirst, hlater, rfl⟩
  | exchange request deadline rest ih =>
    cases h with
    | exchange reception h =>
      obtain ⟨first, later, a, hfirst, hlater, rfl⟩ := ih _ h
      exact ⟨first, later, a, .exchange reception hfirst, hlater, rfl⟩

theorem ends_map {x : Script α} {f : α → β} {paths : List String} {b : β}
    (h : (x.map f).Ends paths b) :
  ∃ a, x.Ends paths a ∧ f a = b
  := by
  obtain ⟨first, later, a, hfirst, hlater, rfl⟩ := ends_bind h
  cases hlater
  rw [List.append_nil]
  exact ⟨a, hfirst, rfl⟩

/-- The second script comes to its end only if the first ends well. -/
theorem ends_andThen {x : Script (Except ε α)} {f : α → Script (Except ε β)} {paths : List String}
    {result : Except ε β} (h : (x.andThen f).Ends paths result) :
  (∃ e, x.Ends paths (.error e) ∧ result = .error e)
    ∨ ∃ first later a, x.Ends first (.ok a) ∧ (f a).Ends later result ∧ paths = first ++ later
  := by
  obtain ⟨first, later, outcome, hfirst, hlater, rfl⟩ := ends_bind h
  cases outcome with
  | ok a => exact .inr ⟨first, later, a, hfirst, hlater, rfl⟩
  | error e =>
    cases hlater
    rw [List.append_nil]
    exact .inl ⟨e, hfirst, rfl⟩

end Script

open Script

/-! ### Queries -/

namespace Session

variable {α : Type} {s : Session} {l : Link} {c : Codec (Response α)} {path : String}

/-- The script of the query for a path. -/
def askScript (s : Session) (c : Codec (Response α)) (path : String) :
    Script (Except QueryError α) :=
  .pick path fun
    | none => .done (.error .noReplica)
    | some replica =>
      match replica.endpoint path with
      | .error cause => .done (.error (.transport cause))
      | .ok url =>
        .exchange (s.queryRequest url path) (s.queryTimeout.map Duration.length) fun reception =>
          .done (s.readReception c replica reception)

theorem dialogue_askScript (s : Session) (c : Codec (Response α)) (path : String) :
  (s.askScript c path).dialogue s = s.ask c path
  := by
  funext l
  simp only [dialogue, askScript, play, ask]
  cases (l.select s).1 with
  | none => rfl
  | some replica =>
    dsimp only
    cases replica.endpoint path with
    | error cause => rfl
    | ok url => rfl

/-- Errors differ whatever they stand in for. -/
theorem error_ne_error {ε α β : Type} {e e' : ε}
    (h : (.error e : Except ε α) ≠ .error e') :
  (.error e : Except ε β) ≠ .error e'
  := fun hsame => h (congrArg Except.error (Except.error.inj hsame))

theorem proof_ne_noReplica {α : Type} (result : Except ProofError α) :
  result.mapError QueryError.proof ≠ .error .noReplica
  := by
  cases result with
  | ok a => nofun
  | error cause => nofun

theorem ends_askScript {paths : List String} {result : Except QueryError α}
    (h : (s.askScript c path).Ends paths result) :
  paths = [path] ∧ result ≠ .error .noReplica
  := by
  cases h with
  | pick replica h =>
    dsimp only at h
    split at h
    · cases h
      exact ⟨rfl, nofun⟩
    · cases h with
      | exchange reception h =>
        cases h
        use rfl
        intro hnone
        cases unanswered_of_readReception hnone

end Session

/-! ### Fetches -/

namespace Fetch

open Session

variable {s : Session} {f : Fetch}

/-- Whether the arguments of a fetch pass their check. -/
def passes (f : Fetch) : Bool := f.check.isOk

/-- The script of a fetch. -/
def script (s : Session) (f : Fetch) : Script (Except QueryError f.Value) :=
  (Script.done f.check).andThen fun _ =>
    (s.askScript f.codec f.path).andThen fun content => .done (f.value s content)

theorem dialogue_script (s : Session) (f : Fetch) :
  (f.script s).dialogue s = f.dialogue s
  := by
  rw [dialogue_eq, script, dialogue_andThen]
  apply bind_congr
  intro _
  rw [dialogue_andThen, dialogue_askScript]
  rfl

/-- No check of arguments finds that there is no replica. -/
theorem check_ne_noReplica (f : Fetch) :
  f.check ≠ .error .noReplica
  := fun h => nomatch isInvalidArgument_of_check h

/-- Nor does the look at an answer. -/
theorem value_ne_noReplica (s : Session) (f : Fetch) (content : f.Content) :
  f.value s content ≠ .error .noReplica
  := fun h => nomatch unfit_of_value h

/-- A fetch picks a replica exactly if its arguments pass their check, and it has one. -/
theorem ends_script {paths : List String} {result : Except QueryError f.Value}
    (h : (f.script s).Ends paths result) :
  paths = ([f].filter passes).map path ∧ result ≠ .error .noReplica
  := by
  have hcheck := check_ne_noReplica f
  obtain ⟨e, hfirst, rfl⟩ | ⟨first, later, _, hfirst, hlater, rfl⟩ := ends_andThen h
  · obtain ⟨rfl, hrefused⟩ := ends_done hfirst
    have hfails : ¬ f.passes = true := by simp [passes, hrefused, Except.isOk, Except.toBool]
    rw [List.filter_cons_of_neg hfails]
    rw [hrefused] at hcheck
    exact ⟨rfl, error_ne_error hcheck⟩
  · obtain ⟨rfl, haccepted⟩ := ends_done hfirst
    have hpasses : f.passes = true := by simp [passes, haccepted, Except.isOk, Except.toBool]
    rw [List.filter_cons_of_pos hpasses]
    obtain ⟨e, hasked, rfl⟩ | ⟨asked, looked, content, hasked, hlooked, rfl⟩ := ends_andThen hlater
    · obtain ⟨rfl, hreplica⟩ := ends_askScript hasked
      exact ⟨rfl, error_ne_error hreplica⟩
    · obtain ⟨rfl, -⟩ := ends_askScript hasked
      obtain ⟨rfl, rfl⟩ := ends_done hlooked
      exact ⟨rfl, value_ne_noReplica s f content⟩

end Fetch

/-! ### Operations of the ledger -/

/-- The fetch of a part of a full proof. -/
def FullProof.Part.fetch (receipt : TxReceipt) (anchor : BlockHeader) : FullProof.Part → Fetch
  | .inclusion => .txProof receipt.blockNumber receipt.index
  | .toGenesis => .ledgerPath Session.genesis receipt.blockNumber
  | .fromAnchor => .ledgerPath receipt.blockNumber anchor.number

namespace Operation

open Session
open FullProof (Part)

/-- The queries of an operation, in order: one, or one for each part of a full proof that is due. -/
def queries : Operation → List Fetch
  | .blockHeader number => [.blockHeader number]
  | .lastBlockHeader => [.lastBlockHeader]
  | .ledgerPath first last => [.ledgerPath first last]
  | .txProof block index => [.txProof block index]
  | .txReceipt txId => [.txReceipt txId]
  | .dataProof block database key isDeleted => [.dataProof block database key isDeleted]
  | .verifyValue header database key value isDeleted =>
    [.verifyValue header database key value isDeleted]
  | .fullProof receipt anchor _ =>
    if receipt.blockNumber ≤ anchor.number then
      (Part.due receipt anchor).map (Part.fetch receipt anchor)
    else []

/-- Why an operation makes none of its queries. -/
def refusal? : Operation → Option QueryError
  | .fullProof receipt anchor _ =>
    if receipt.blockNumber ≤ anchor.number then none
    else some (.anchorBeforeTx anchor.number receipt.blockNumber)
  | _ => none

/-- What an operation evaluates of what a query gave. -/
def look (s : Session) : Operation → (f : Fetch) → f.Value → Except ProofError Unit
  | .fullProof receipt _ envelope, .txProof _ _, inclusion =>
    (InclusionProof.verify inclusion s.scheme receipt envelope).map fun _ => ()
  | .fullProof _ _ _, .ledgerPath _ _, path => (LedgerPath.verify path s.scheme).map fun _ => ()
  | _, _, _ => .ok ()

/-- The script of queries that are made one after the other, up to the first error. -/
def inTurn (s : Session) (look : (f : Fetch) → f.Value → Except ProofError Unit) :
    List Fetch → Script (Except QueryError Unit)
  | [] => .done (.ok ())
  | f :: fs =>
    (f.script s).andThen fun v =>
      (Script.done ((look f v).mapError .proof)).andThen fun _ => inTurn s look fs

/-- The script of an operation. -/
def script (s : Session) (op : Operation) : Script (Except QueryError Unit) :=
  match op.refusal? with
  | some e => .done (.error e)
  | none => inTurn s (op.look s) op.queries

variable {s : Session} {op : Operation} {receipt : TxReceipt} {anchor : BlockHeader}
  {envelope : Envelope}

theorem dialogue_inTurn (look : (f : Fetch) → f.Value → Except ProofError Unit) (f : Fetch)
    (fs : List Fetch) :
  (inTurn s look (f :: fs)).dialogue s
    = (do
        let v ← f.dialogue s
        given ((look f v).mapError .proof)
        (inTurn s look fs).dialogue s)
  := by
  rw [inTurn, dialogue_andThen, Fetch.dialogue_script]
  apply bind_congr
  intro v
  rw [dialogue_andThen]
  rfl

/-- An evaluation of which only the error is used. -/
theorem evaluated_forget (result : Except ProofError Bool) :
  (do
    let _ ← evaluated result
    return () : Dialogue Unit) = given ((result.map fun _ => ()).mapError .proof)
  := by
  cases result with
  | ok verified => rfl
  | error cause => rfl

/-- A path of headers is evaluated, whatever its verdict is. -/
theorem path_forget {lower upper : UInt64} {verdict : LedgerPath → Bool → Bool} :
  (do
    let path ← s.ledgerPath lower upper
    let isLinked ← evaluated (path.verify s.scheme)
    let _ ← pure (some path, verdict path isLinked)
    return () : Dialogue Unit)
    = (do
        let path ← s.ledgerPath lower upper
        given (((path.verify s.scheme).map fun _ => ()).mapError .proof))
  := by
  apply bind_congr
  intro path
  rw [← evaluated_forget]
  rfl

/-- A part that is due is fetched and evaluated. -/
theorem gather_eq {part : Part} (hdue : part.isDue receipt anchor = true) :
  s.gather receipt anchor envelope part
    = (do
        let v ← (part.fetch receipt anchor).dialogue s
        given (((fullProof receipt anchor envelope).look s _ v).mapError .proof))
  := by
  cases part with
  | inclusion =>
    apply bind_congr
    intro inclusion
    apply evaluated_forget
  | toGenesis =>
    have hlt : genesis < receipt.header.number := of_decide_eq_true hdue
    simp only [gather, pathToGenesis, if_pos hlt, bind_assoc]
    apply path_forget
  | fromAnchor =>
    have hlt : receipt.header.number < anchor.number := of_decide_eq_true hdue
    simp only [gather, pathFromAnchor, if_pos hlt, bind_assoc]
    apply path_forget

/-- Parts that are due are gathered by their queries in turn. -/
theorem dialogue_inTurn_parts {parts : List Part}
    (hdue : ∀ part ∈ parts, part.isDue receipt anchor = true) :
  (inTurn s ((fullProof receipt anchor envelope).look s)
      (parts.map (Part.fetch receipt anchor))).dialogue s
    = s.gatherAll receipt anchor envelope parts
  := by
  induction parts with
  | nil => rfl
  | cons part parts ih =>
    rw [List.map_cons, dialogue_inTurn, gatherAll, gather_eq (hdue part List.mem_cons_self),
      bind_assoc, ih fun part hp => hdue part (List.mem_cons_of_mem _ hp)]

/-- The script of an operation is its dialogue, if it is played without others. -/
theorem dialogue_script (s : Session) (op : Operation) :
  (op.script s).dialogue s = op.dialogue s
  := by
  cases op with
  | fullProof receipt anchor envelope =>
    unfold script
    by_cases hle : receipt.blockNumber ≤ anchor.number
    · rw [refusal?, if_pos hle]
      simp only [queries, if_pos hle]
      rw [dialogue_inTurn_parts fun _ => isDue_of_mem_due]
      funext l
      apply gatherAll_due hle
    · rw [refusal?, if_neg hle]
      funext l
      rw [Operation.dialogue, Dialogue.bind_apply, fullProof_of_not_le hle]
      rfl
  -- Every other operation is one query, and what it gave is not looked at again.
  | _ => exact dialogue_inTurn _ _ []

/-- Paths are those of the queries of an operation that are made and pass their check: the first
query is made, each other one only after those before it, and all of them if the operation ends
well. -/
def Queries (op : Operation) (paths : List String) (result : Except QueryError Unit) : Prop :=
  ∃ made, made <+: op.queries ∧ (op.queries ≠ [] → made ≠ [])
    ∧ (result = .ok () → made = op.queries) ∧ paths = (made.filter Fetch.passes).map Fetch.path

theorem ends_inTurn {look : (f : Fetch) → f.Value → Except ProofError Unit} {fs : List Fetch}
    {paths : List String} {result : Except QueryError Unit}
    (h : (inTurn s look fs).Ends paths result) :
  result ≠ .error .noReplica
    ∧ ∃ made, made <+: fs ∧ (fs ≠ [] → made ≠ []) ∧ (result = .ok () → made = fs)
      ∧ paths = (made.filter Fetch.passes).map Fetch.path
  := by
  induction fs generalizing paths with
  | nil =>
    obtain ⟨rfl, rfl⟩ := ends_done h
    exact ⟨nofun, [], List.prefix_rfl, fun hne => hne, fun _ => rfl, rfl⟩
  | cons f fs ih =>
    have hone : [f] <+: f :: fs := ⟨fs, rfl⟩
    obtain ⟨e, hfirst, rfl⟩ | ⟨first, later, v, hfirst, hlater, rfl⟩ := ends_andThen h
    · obtain ⟨rfl, hreplica⟩ := Fetch.ends_script hfirst
      exact ⟨error_ne_error hreplica, [f], hone, fun _ => List.cons_ne_nil f [], nofun, rfl⟩
    · obtain ⟨rfl, -⟩ := Fetch.ends_script hfirst
      obtain ⟨e, hlooked, rfl⟩ | ⟨looked, rest, _, hlooked, hrest, rfl⟩ :=
        ends_andThen hlater
      · obtain ⟨rfl, hlook⟩ := ends_done hlooked
        rw [List.append_nil, ← hlook]
        refine ⟨proof_ne_noReplica _, [f], hone, fun _ => List.cons_ne_nil f [], ?_, rfl⟩
        rw [hlook]
        nofun
      · obtain ⟨rfl, -⟩ := ends_done hlooked
        obtain ⟨hreplica, made, hprefix, -, hall, rfl⟩ := ih hrest
        use hreplica, f :: made, (List.prefix_cons_inj f).2 hprefix
        refine ⟨fun _ => List.cons_ne_nil f made, fun hok => by rw [hall hok], ?_⟩
        rw [List.nil_append, ← List.map_append, ← List.filter_append, List.singleton_append]

theorem queries_of_refusal {e : QueryError} (h : op.refusal? = some e) :
  op.queries = [] ∧ e ≠ .noReplica
  := by
  cases op with
  | fullProof receipt anchor envelope =>
    rw [refusal?] at h
    rw [queries]
    split at h
    · cases h
    · next hnot =>
      cases h
      exact ⟨if_neg hnot, nofun⟩
  | _ => cases h

/-- An operation picks a replica for each of its queries that is made and passes its check, and has
one each time. -/
theorem ends_script {paths : List String} {result : Except QueryError Unit}
    (h : (op.script s).Ends paths result) :
  op.Queries paths result ∧ result ≠ .error .noReplica
  := by
  unfold script at h
  split at h
  · next e hrefusal =>
    obtain ⟨rfl, rfl⟩ := ends_done h
    obtain ⟨hnone, hreplica⟩ := queries_of_refusal hrefusal
    refine ⟨⟨[], List.nil_prefix, fun hne => absurd hnone hne, nofun, rfl⟩, ?_⟩
    exact fun hsame => hreplica (Except.error.inj hsame)
  · obtain ⟨hreplica, hqueries⟩ := ends_inTurn h
    exact ⟨hqueries, hreplica⟩

end Operation

/-! ### Calls -/

namespace Attempt

variable {s : Session} {a b : Attempt} {l : Link} {c : Call}

/-- The script of a submission, with the attempt after it and what it returns: a replica is picked
for it, and if there is something to submit to this replica, and the deadline is not missing, it is
sent and waited for. -/
def submitting (s : Session) (a : Attempt) (sync : Bool) (wait : Option Duration → Option Nat)
    (early : AttemptError → Option Return)
    (late : Submission → Option (Except TransportError Reply) → Attempt × Option Return) :
    Script (Attempt × Option Return) :=
  .pick a.kind.submitPath fun picked =>
    match a.submission s picked with
    | .error e => .done (a, early e)
    | .ok p =>
      match s.commitDeadline sync with
      | none => .done (a.dispatched p.envelope, none)
      | some deadline =>
        .exchange (s.submitRequest sync p) (wait deadline) fun reception => .done (late p reception)

/-- The script of a call, with the attempt after it and what it returns. -/
def script (s : Session) (a : Attempt) : Call → Script (Attempt × Option Return)
  | .operations kind => .done (a, some (.operations (a.draftOf kind)))
  | .edit e => .done ((a.edit e).toOption.getD a, some (.edit ((a.edit e).map fun _ => ())))
  | .commit sync =>
    if a.isSpent then .done (a, some (.commit (.error .alreadySpent)))
    else
      a.submitting s sync (Option.map Duration.length) (fun e => some (.commit (.error e)))
        fun p reception =>
          let result := s.verdict a.txId sync p.replica reception
          ((a.dispatched p.envelope).settled result, some (.commit result))
  | .abandon sync wait =>
    if a.isSpent then .done (a, none)
    else
      a.submitting s sync (fun _ => some wait) (fun _ => none)
        fun p _ => (a.dispatched p.envelope, none)
  | .abort => .done (a.abort.toOption.getD a, some (.abort (a.abort.map fun _ => ())))
  | .envelope => .done (a, some (.envelope a.submittedEnvelope))

/-- The script of a call is the call, if it is played without others. -/
theorem play_script (s : Session) (a : Attempt) (c : Call) (l : Link) :
  (a.script s c).play s l = (((a.after s l c).1, a.returned s l c), (a.after s l c).2)
  := by
  cases c with
  | commit sync =>
    rw [script, after, returned]
    split
    · next hspent => rw [commit_of_isSpent hspent]; rfl
    · next hspent =>
      have hopen := isSpent_eq_false_iff.1 (Bool.eq_false_iff.2 hspent)
      rw [submitting, play]
      cases h : a.submission s (l.select s).1 with
      | error e =>
        rw [commit_of_submission_error hopen sync h]
        rfl
      | ok p =>
        cases hdeadline : s.commitDeadline sync with
        | none =>
          rw [commit_of_no_deadline hopen hdeadline h]
          rfl
        | some deadline =>
          rw [commit_of_submission hopen hdeadline h]
          rfl
  | abandon sync wait =>
    rw [script, after, abandoned, returned]
    split
    · rfl
    · rw [submitting, play]
      cases a.submission s (l.select s).1 with
      | error e => rfl
      | ok p =>
        cases s.commitDeadline sync with
        | none => rfl
        | some deadline => rfl
  | _ => rfl

/-- The paths for which a call picks a replica: that of its submission, if it commits a draft. -/
def submitPaths (a : Attempt) : Call → List String
  | .commit _ => if a.phase = .drafting then [a.kind.submitPath] else []
  | .abandon _ _ => if a.phase = .drafting then [a.kind.submitPath] else []
  | _ => []

theorem submission_ne_noReplica (replica : Replica) :
  a.submission s (some replica) ≠ .error .noReplica
  := by
  intro h
  cases submission_eq_error_iff.1 h

theorem receiptVerdict_ne_noReplica (txId : String) (receipt? : Option TxReceipt) :
  Session.receiptVerdict txId receipt? ≠ .error .noReplica
  := by
  unfold Session.receiptVerdict
  split
  · nofun
  · split
    · nofun
    · nofun

/-- No end of a commit that submits says that there is no replica. -/
theorem verdict_ne_noReplica (txId : String) (sync : Bool) (replica : Replica)
    (reception : Option (Except TransportError Reply)) :
  s.verdict txId sync replica reception ≠ .error .noReplica
  := by
  unfold Session.verdict
  split
  · nofun
  · nofun
  · next reply =>
    unfold Session.replyVerdict
    split
    · split
      · nofun
      · split
        · exact receiptVerdict_ne_noReplica _ _
        · nofun
    · split
      · nofun
      · nofun

/-- A submission picks one replica. It ends early, but not for want of a replica, or without a
deadline, or late. -/
theorem ends_submitting {sync : Bool} {wait : Option Duration → Option Nat}
    {early : AttemptError → Option Return}
    {late : Submission → Option (Except TransportError Reply) → Attempt × Option Return}
    {paths : List String} {result : Attempt × Option Return}
    (h : (a.submitting s sync wait early late).Ends paths result) :
  paths = [a.kind.submitPath]
    ∧ ((∃ e, e ≠ .noReplica ∧ result.2 = early e) ∨ result.2 = none
      ∨ ∃ p reception, result = late p reception)
  := by
  cases h with
  | pick replica h =>
    dsimp only at h
    split at h
    · next e hearly =>
      obtain ⟨rfl, rfl⟩ := ends_done h
      refine ⟨rfl, .inl ⟨e, ?_, rfl⟩⟩
      rintro rfl
      exact submission_ne_noReplica replica hearly
    · next p hsubmission =>
      split at h
      · obtain ⟨rfl, rfl⟩ := ends_done h
        exact ⟨rfl, .inr (.inl rfl)⟩
      · cases h with
        | exchange reception h =>
          obtain ⟨rfl, rfl⟩ := ends_done h
          exact ⟨rfl, .inr (.inr ⟨p, reception, rfl⟩)⟩

/-- A call picks a replica exactly if it commits a draft, and then it has one. -/
theorem ends_script {paths : List String} {returned : Option Return}
    (h : (a.script s c).Ends paths (b, returned)) :
  paths = a.submitPaths c ∧ returned ≠ some (.commit (.error .noReplica))
  := by
  cases c with
  | commit sync =>
    rw [script] at h
    rw [submitPaths]
    split at h
    · next hspent =>
      obtain ⟨rfl, hresult⟩ := ends_done h
      cases hresult
      rw [if_neg (isSpent_iff.1 hspent)]
      exact ⟨rfl, nofun⟩
    · next hspent =>
      rw [if_pos (isSpent_eq_false_iff.1 (Bool.eq_false_iff.2 hspent))]
      obtain ⟨rfl, ⟨e, hreplica, hresult⟩ | hresult | ⟨p, reception, hresult⟩⟩ :=
        ends_submitting h
      · cases hresult
        refine ⟨rfl, ?_⟩
        rintro ⟨⟩
        exact hreplica rfl
      · cases hresult
        exact ⟨rfl, nofun⟩
      · cases hresult
        refine ⟨rfl, fun hsame => ?_⟩
        exact verdict_ne_noReplica _ _ _ _ (Return.commit.inj (Option.some.inj hsame))
  | abandon sync wait =>
    rw [script] at h
    rw [submitPaths]
    split at h
    · next hspent =>
      obtain ⟨rfl, hresult⟩ := ends_done h
      cases hresult
      rw [if_neg (isSpent_iff.1 hspent)]
      exact ⟨rfl, nofun⟩
    · next hspent =>
      rw [if_pos (isSpent_eq_false_iff.1 (Bool.eq_false_iff.2 hspent))]
      obtain ⟨rfl, ⟨e, -, hresult⟩ | hresult | ⟨p, reception, hresult⟩⟩ := ends_submitting h
      · cases hresult
        exact ⟨rfl, nofun⟩
      · cases hresult
        exact ⟨rfl, nofun⟩
      · cases hresult
        exact ⟨rfl, nofun⟩
  | _ =>
    obtain ⟨rfl, hresult⟩ := ends_done h
    cases hresult
    exact ⟨rfl, nofun⟩

end Attempt

end LedgerTrust
