import LedgerTrust.Proofs.Session.Opening
import LedgerTrust.Proofs.Session.Script
import Mathlib.Data.List.Rotate

/-!
# Traffic of a session

In a session any number of calls and operations are under way at once, and all of them use one
link. `Traffic` holds their scripts, and a list of moves is one way for them to come in between each
other: a move starts something, or lets one task use the link once. An attempt is lent to a call
until the call ends. Two invariants carry what is proved of every interleaving. Of each task, the
paths for which it has picked a replica and those for which its script still will are those of its
work, so a task that has ended picked one replica for a submission and one for each query with
sound arguments. And the replicas that have been picked are, in order, those that the turns from
zero on fall to; so as long as the turns do not run over, any `n` selections in a row pick each of
`n` replicas once.
-/

namespace LedgerTrust

namespace Session

open Attempt (Call Return)

/-! ### Tasks -/

/-- What a task is for. A call is made on the attempt as it is when the call starts. -/
inductive Work where
  | call (a : Attempt) (c : Call)
  | query (op : Operation)

/-- How a task ends: a call gives back the attempt with a number. -/
inductive Outcome where
  | call (number : Nat) (a : Attempt) (returned : Option Return)
  | query (result : Except QueryError Unit)

/-- Something that was started, and what is left to do of it. -/
structure Task where
  work : Work
  rest : Script Outcome

/-- A replica that was picked for a task and a path, if there was one. -/
structure Selection where
  task : Nat
  path : String
  replica : Option Replica

/-- The paths for which replicas are picked for the task with a number, in order. -/
def Selection.paths (selections : List Selection) (i : Nat) : List String :=
  (selections.filter (·.task = i)).map Selection.path

/-- The work could not be done for want of a replica. -/
def Outcome.LacksReplica : Outcome → Prop
  | .call _ _ returned => returned = some (.commit (.error .noReplica))
  | .query result => result = .error .noReplica

/-- For a work that ends so, replicas are picked for these paths. -/
def Work.Selects : Work → List String → Outcome → Prop
  | .call a c, paths, .call _ _ _ => paths = a.submitPaths c
  | .query op, paths, .query result => op.Queries paths result
  | _, _, _ => False

/-- However a task ends that has picked replicas for some paths so far, all the paths for which it
picks one are those of its work, and it has one each time. -/
def Task.Accounts (task : Task) (picked : List String) : Prop :=
  ∀ later outcome, task.rest.Ends later outcome →
    task.work.Selects (picked ++ later) outcome ∧ ¬ outcome.LacksReplica

/-! ### Interleavings -/

/-- What is under way in a session. -/
structure Traffic where
  /-- The attempts that were begun; one is missing while a call on it is under way. -/
  attempts : List (Option Attempt)
  /-- All tasks that were started, in order. -/
  tasks : List Task
  /-- All selections of replicas, in order. -/
  selections : List Selection
  link : Link

/-- A move of the traffic. -/
inductive Move where
  | begin (kind : TxKind) (nonce : Bytes)
  /-- A call on the attempt with a number starts, unless another call on it is under way. -/
  | call (number : Nat) (call : Call)
  | query (op : Operation)
  /-- The task with a number uses the link once. -/
  | proceed (task : Nat)

namespace Traffic

/-- A session in which nothing was done yet. -/
def start (deliveries : List Delivery) : Traffic := ⟨[], [], [], .start deliveries⟩

/-- The attempts when a script has come so far: a call that has ended gives its attempt back. -/
def givenBack (attempts : List (Option Attempt)) : Script Outcome → List (Option Attempt)
  | .done (.call n a _) => attempts.set n (some a)
  | _ => attempts

/-- The traffic after a task has started. -/
def started (t : Traffic) (work : Work) (script : Script Outcome) : Traffic :=
  { t with
    attempts := givenBack t.attempts script
    tasks := t.tasks ++ [⟨work, script⟩] }

/-- The traffic after a task has used the link. -/
def advanced (t : Traffic) (i : Nat) (task : Task) (rest : Script Outcome)
    (selections : List Selection) (link : Link) : Traffic :=
  ⟨givenBack t.attempts rest, t.tasks.set i { task with rest := rest }, selections, link⟩

/-- The traffic after a move. -/
def after (s : Session) (t : Traffic) : Move → Traffic
  | .begin kind nonce => { t with attempts := t.attempts ++ [some (Attempt.begin s kind nonce)] }
  | .call n c =>
    match t.attempts[n]? with
    | some (some a) =>
      { t with attempts := t.attempts.set n none }.started (.call a c)
        ((a.script s c).map fun (a, returned) => .call n a returned)
    | _ => t
  | .query op => t.started (.query op) ((op.script s).map .query)
  | .proceed i =>
    match t.tasks[i]? with
    | none => t
    | some task =>
      match task.rest with
      | .done _ => t
      | .pick path rest =>
        t.advanced i task (rest (t.link.select s).1)
          (t.selections ++ [⟨i, path, (t.link.select s).1⟩]) (t.link.select s).2
      | .exchange request deadline rest =>
        t.advanced i task (rest (t.link.exchange request deadline).1) t.selections
          (t.link.exchange request deadline).2

/-- The traffic after some moves. -/
def run (s : Session) (t : Traffic) : List Move → Traffic
  | [] => t
  | move :: moves => run s (t.after s move) moves

variable {s : Session} {t : Traffic}

/-- A script with which a task for a work starts. -/
inductive Starts (s : Session) : Work → Script Outcome → Prop
  | call (n : Nat) (a : Attempt) (c : Call) :
    Starts s (.call a c) ((a.script s c).map fun (a, returned) => .call n a returned)
  | query (op : Operation) : Starts s (.query op) ((op.script s).map .query)

/-- What a move can make of the traffic, whatever becomes of the attempts. -/
inductive Changes (s : Session) (t : Traffic) : Traffic → Prop
  | quiet (attempts : List (Option Attempt)) : Changes s t { t with attempts := attempts }
  | started (attempts : List (Option Attempt)) {work : Work} {script : Script Outcome}
      (h : Starts s work script) :
    Changes s t { t with attempts := attempts, tasks := t.tasks ++ [⟨work, script⟩] }
  | picked (attempts : List (Option Attempt)) {i : Nat} {work : Work} {path : String}
      {rest : Option Replica → Script Outcome} (hget : t.tasks[i]? = some ⟨work, .pick path rest⟩) :
    Changes s t
      ⟨attempts, t.tasks.set i ⟨work, rest (t.link.select s).1⟩,
        t.selections ++ [⟨i, path, (t.link.select s).1⟩], (t.link.select s).2⟩
  | exchanged (attempts : List (Option Attempt)) {i : Nat} {work : Work} {request : Request}
      {deadline : Option Nat} {rest : Option (Except TransportError Reply) → Script Outcome}
      (hget : t.tasks[i]? = some ⟨work, .exchange request deadline rest⟩) :
    Changes s t
      ⟨attempts, t.tasks.set i ⟨work, rest (t.link.exchange request deadline).1⟩, t.selections,
        (t.link.exchange request deadline).2⟩

theorem changes_after (s : Session) (t : Traffic) (move : Move) :
  Changes s t (t.after s move)
  := by
  cases move with
  | begin kind nonce => exact .quiet _
  | call n c =>
    rw [after]
    split
    · next a hget => exact .started _ (.call n a c)
    · exact .quiet t.attempts
  | query op => exact .started _ (.query op)
  | proceed i =>
    rw [after]
    split
    · exact .quiet t.attempts
    · next task hget =>
      obtain ⟨work, script⟩ := task
      cases script with
      | done outcome => exact .quiet t.attempts
      | pick path rest => exact .picked _ hget
      | exchange request deadline rest => exact .exchanged _ hget

/-! ### The selections of a task -/

/-- Every task accounts for its selections, and every selection is one of a task. -/
structure Accounted (t : Traffic) : Prop where
  tasks : ∀ (i : Nat) (task : Task), t.tasks[i]? = some task →
    task.Accounts (Selection.paths t.selections i)
  selections : ∀ x ∈ t.selections, x.task < t.tasks.length

theorem accounted_start (deliveries : List Delivery) :
  (start deliveries).Accounted
  := by
  constructor
  · intro i task hget
    cases hget
  · intro x hx
    cases hx

theorem accounts_of_starts {work : Work} {script : Script Outcome} (h : Starts s work script) :
  (Task.mk work script).Accounts []
  := by
  intro later outcome hends
  cases h with
  | call n a c =>
    obtain ⟨⟨b, returned⟩, hscript, rfl⟩ := Script.ends_map hends
    exact Attempt.ends_script hscript
  | query op =>
    obtain ⟨result, hscript, rfl⟩ := Script.ends_map hends
    exact Operation.ends_script hscript

/-- A task that starts has no selections yet. -/
theorem paths_of_le {selections : List Selection} {n i : Nat} (h : ∀ x ∈ selections, x.task < n)
    (hi : n ≤ i) :
  Selection.paths selections i = []
  := by
  rw [Selection.paths, List.map_eq_nil_iff, List.filter_eq_nil_iff]
  intro x hx hsame
  have hlt := h x hx
  have heq : x.task = i := of_decide_eq_true hsame
  omega

/-- A selection is one of its task and of no other. -/
theorem paths_append (selections : List Selection) (x : Selection) (i : Nat) :
  Selection.paths (selections ++ [x]) i
    = Selection.paths selections i ++ if x.task = i then [x.path] else []
  := by
  rw [Selection.paths, List.filter_append, List.map_append, ← Selection.paths,
    List.filter_singleton]
  by_cases h : x.task = i
  · simp [h]
  · simp [h]

/-- Where there are replicas, one is picked. -/
theorem exists_select (hne : s.replicas ≠ []) (l : Link) :
  ∃ replica, (l.select s).1 = some replica
  := by
  have hpicks := s.picks_select l
  generalize l.select s = p at hpicks ⊢
  cases hpicks with
  | none hnone => exact absurd hnone hne
  | first _ _ => exact ⟨_, rfl⟩
  | turn _ _ => exact ⟨_, rfl⟩

/-- The step lemma. -/
theorem Accounted.of_changes (hne : s.replicas ≠ []) (h : t.Accounted) {t' : Traffic}
    (hchanges : Changes s t t') :
  t'.Accounted
  := by
  cases hchanges with
  | quiet attempts => exact ⟨h.tasks, h.selections⟩
  | @started attempts work script hstarts =>
    constructor
    · intro i task hget
      rcases Nat.lt_or_ge i t.tasks.length with hlt | hge
      · rw [List.getElem?_append_left hlt] at hget
        exact h.tasks i task hget
      · rw [List.getElem?_append_right hge] at hget
        obtain rfl := List.mem_singleton.1 (List.mem_of_getElem? hget)
        rw [paths_of_le h.selections hge]
        exact accounts_of_starts hstarts
    · intro x hx
      rw [List.length_append]
      exact Nat.lt_add_right _ (h.selections x hx)
  | @picked attempts i work path rest hget =>
    obtain ⟨replica, hreplica⟩ := exists_select hne t.link
    obtain ⟨hi, -⟩ := List.getElem?_eq_some_iff.1 hget
    constructor
    -- Task `i` moves the path from what its script still picks to what it has picked.
    · intro j task hj
      rw [paths_append]
      rcases eq_or_ne i j with rfl | hother
      · rw [List.getElem?_set_self hi] at hj
        obtain rfl := Option.some.inj hj
        rw [if_pos rfl, hreplica]
        intro later outcome hends
        rw [List.append_assoc]
        exact h.tasks i _ hget _ outcome (.pick replica hends)
      · rw [List.getElem?_set_ne hother] at hj
        rw [if_neg hother, List.append_nil]
        exact h.tasks j task hj
    · intro x hx
      rw [List.length_set]
      rcases List.mem_append.1 hx with hold | hnew
      · exact h.selections x hold
      · obtain rfl := List.mem_singleton.1 hnew
        exact hi
  | @exchanged attempts i work request deadline rest hget =>
    obtain ⟨hi, -⟩ := List.getElem?_eq_some_iff.1 hget
    constructor
    · intro j task hj
      rcases eq_or_ne i j with rfl | hother
      · rw [List.getElem?_set_self hi] at hj
        obtain rfl := Option.some.inj hj
        intro later outcome hends
        exact h.tasks i _ hget _ outcome (.exchange _ hends)
      · rw [List.getElem?_set_ne hother] at hj
        exact h.tasks j task hj
    · intro x hx
      rw [List.length_set]
      exact h.selections x hx

/-- The run lemma. -/
theorem accounted_run (hne : s.replicas ≠ []) (h : t.Accounted) (moves : List Move) :
  (t.run s moves).Accounted
  := by
  induction moves generalizing t with
  | nil => exact h
  | cons move moves ih => exact ih (h.of_changes hne (changes_after s t move))

/-! ### The turns of the replicas -/

/-- As many turns have passed as there are selections, and each selection is the replica that its
turn falls to. -/
structure InTurn (s : Session) (t : Traffic) : Prop where
  turn : t.link.turn = UInt64.ofNat t.selections.length
  replicas : t.selections.map Selection.replica
    = (List.range t.selections.length).map fun k =>
        s.replicas[(UInt64.ofNat k).toNat % s.replicas.length]?

theorem select_of_roundRobin (hpolicy : s.policy = .roundRobin) (hne : s.replicas ≠ []) (l : Link) :
  l.select s
    = (s.replicas[l.turn.toNat % s.replicas.length]?, { l with turn := l.turn + 1 })
  := by
  have hpicks := s.picks_select l
  generalize l.select s = p at hpicks ⊢
  cases hpicks with
  | none hnone => exact absurd hnone hne
  | first _ hfirst => cases hpolicy.symm.trans hfirst
  | turn _ hturn => rw [hturn]

/-- The step lemma. -/
theorem InTurn.of_changes (hpolicy : s.policy = .roundRobin) (hne : s.replicas ≠ [])
    (h : t.InTurn s) {t' : Traffic} (hchanges : Changes s t t') :
  t'.InTurn s
  := by
  cases hchanges with
  | quiet attempts => exact ⟨h.turn, h.replicas⟩
  | started attempts hstarts => exact ⟨h.turn, h.replicas⟩
  | exchanged attempts hget => exact ⟨h.turn, h.replicas⟩
  | picked attempts hget =>
    have hselect := select_of_roundRobin hpolicy hne t.link
    constructor
    · rw [hselect, List.length_append, List.length_singleton, UInt64.ofNat_add, ← h.turn]
      rfl
    · rw [List.map_append, List.length_append, List.length_singleton, List.range_succ,
        List.map_append, h.replicas, hselect, h.turn]
      rfl

/-- The run lemma. -/
theorem inTurn_run (hpolicy : s.policy = .roundRobin) (hne : s.replicas ≠ []) (h : t.InTurn s)
    (moves : List Move) :
  (t.run s moves).InTurn s
  := by
  induction moves generalizing t with
  | nil => exact h
  | cons move moves ih => exact ih (h.of_changes hpolicy hne (changes_after s t move))

/-- As long as the turns do not run over, selections go round the replicas. -/
theorem InTurn.map_replica (h : t.InTurn s) (hfew : t.selections.length < 2 ^ 64) :
  t.selections.map Selection.replica
    = (List.range t.selections.length).map fun k => s.replicas[k % s.replicas.length]?
  := by
  rw [h.replicas]
  apply List.map_congr_left
  intro k hk
  have hlt : k < 2 ^ 64 := (List.mem_range.1 hk).trans hfew
  rw [UInt64.toNat_ofNat_of_lt' hlt]

/-- Going round a list, any window of its length is the list, rotated. -/
theorem window_eq_rotate {α : Type} (xs : List α) {m k : Nat} (h : k + xs.length ≤ m) :
  (((List.range m).map fun j => xs[j % xs.length]?).drop k).take xs.length
    = (xs.rotate k).map some
  := by
  apply List.ext_getElem
  · rw [List.length_take, List.length_drop, List.length_map, List.length_range, List.length_map,
      List.length_rotate]
    omega
  · intro i hi hi'
    rw [List.getElem_take, List.getElem_drop, List.getElem_map, List.getElem_range,
      List.getElem_map, List.getElem_rotate, Nat.add_comm k i]
    apply List.getElem?_eq_getElem

/-- While the turns do not run over, the selection with a number is the replica that this number
falls to. -/
theorem InTurn.replica_eq (h : t.InTurn s) (hfew : t.selections.length < 2 ^ 64) {k : Nat}
    {x : Selection} (hx : t.selections[k]? = some x) :
  x.replica = s.replicas[k % s.replicas.length]?
  := by
  have hk : k < t.selections.length := (List.getElem?_eq_some_iff.1 hx).1
  have hmap := congrArg (·[k]?) (h.map_replica hfew)
  simp only [List.getElem?_map, hx, List.getElem?_range hk, Option.map_some] at hmap
  exact Option.some.inj hmap

/-- While the turns do not run over, as many selections in a row as there are replicas pick each of
them once. -/
theorem InTurn.perm_window (h : t.InTurn s) (hfew : t.selections.length < 2 ^ 64) {k : Nat}
    (hk : k + s.replicas.length ≤ t.selections.length) :
  (((t.selections.drop k).take s.replicas.length).map Selection.replica).Perm
    (s.replicas.map some)
  := by
  rw [List.map_take, List.map_drop, h.map_replica hfew, window_eq_rotate _ hk]
  exact (List.rotate_perm s.replicas k).map some

end Traffic

/-- Of every session that is opened, whatever its replicas deliver, and however calls on any number
of attempts and operations of the ledger come in between each other: a task that nothing comes in
between does what its call or its operation does. Every selection of a replica is made for a task;
each task has made the first of the selections that its work makes, and all of them once it has
ended, that is one for its submission if it commits a draft, one for each query that it makes with
arguments that pass their check, and no other; and none ends for want of a replica. If the replicas
take turns and the turns do not run over, the selection with number `k` is replica `k` modulo their
number `n`, so that any `n` selections in a row pick each of the `n` different replicas once. -/
theorem selections_of_openedBy {s : Session} {connection : ConnectionConfig}
    (hopened : s.OpenedBy connection) (deliveries : List Delivery) (moves : List Move) :
  let t := (Traffic.start deliveries).run s moves
  let n := connection.replicas.length
  (∀ a c l, (Attempt.script s a c).play s l
      = (((a.after s l c).1, a.returned s l c), (a.after s l c).2))
    ∧ (∀ op : Operation, (op.script s).dialogue s = op.dialogue s)
    ∧ (∀ x ∈ t.selections, x.task < t.tasks.length)
    ∧ (∀ (i : Nat) (task : Task), t.tasks[i]? = some task →
        (∃ later outcome, task.work.Selects (Selection.paths t.selections i ++ later) outcome)
          ∧ ∀ outcome, task.rest = .done outcome →
            task.work.Selects (Selection.paths t.selections i) outcome ∧ ¬ outcome.LacksReplica)
    ∧ (s.replicas.map Replica.id = connection.replicas.map ReplicaConfig.id ∧ s.replicas.Nodup)
    ∧ (connection.policy = .roundRobin → t.selections.length < 2 ^ 64 →
        (∀ k x, t.selections[k]? = some x →
          ∃ replica, s.replicas[k % n]? = some replica ∧ x.replica = some replica)
        ∧ ∀ k, k + n ≤ t.selections.length →
          (((t.selections.drop k).take n).map Selection.replica).Perm (s.replicas.map some))
  := by
  intro t n
  have hne := hopened.replicas_ne_nil
  have hlength : s.replicas.length = n := by
    have hids := congrArg List.length hopened.ids
    rwa [List.length_map, List.length_map] at hids
  have haccounted : t.Accounted :=
    Traffic.accounted_run hne (Traffic.accounted_start deliveries) moves
  use Attempt.play_script s, Operation.dialogue_script s, haccounted.selections
  constructor
  · intro i task hget
    have haccounts := haccounted.tasks i task hget
    constructor
    · obtain ⟨later, outcome, hends⟩ := task.rest.exists_ends (s.replicas.head hne)
      exact ⟨later, outcome, (haccounts later outcome hends).1⟩
    · intro outcome hdone
      have hall := haccounts [] outcome (hdone ▸ .done outcome)
      rwa [List.append_nil] at hall
  use ⟨hopened.ids, hopened.nodup_replicas⟩
  intro hpolicy hfew
  have hturns : t.InTurn s :=
    Traffic.inTurn_run (hopened.policy.trans hpolicy) hne ⟨rfl, rfl⟩ moves
  rw [← hlength]
  constructor
  · intro k x hx
    have hlt : k % s.replicas.length < s.replicas.length :=
      Nat.mod_lt _ (List.length_pos_iff.2 hne)
    use s.replicas[k % s.replicas.length], List.getElem?_eq_getElem hlt
    rw [hturns.replica_eq hfew hx]
    exact List.getElem?_eq_getElem hlt
  · intro k hk
    exact hturns.perm_window hfew hk

namespace Sample

/-- Two replicas that take turns, one of which is trusted. -/
def connection : ConnectionConfig where
  replicas := [⟨"node1", "http://127.0.0.1:6001"⟩, ⟨"node2", "http://127.0.0.1:6002"⟩]
  trustedNodes := [⟨"node1", "ea4a6c63e29c520abef5507b132ec5f9954776aebebe7b92421eea691446d22c"⟩]
  policy := .roundRobin
  scheme := LedgerTrust.Sample.scheme

theorem exists_openedBy :
  ∃ s : Session, s.OpenedBy connection
  := by
  have h : (ofConfig connection (.new "alice" "key") ⟨"alice", List.replicate 32 1⟩).toOption.isSome
      = true := by
    decide +kernel
  obtain ⟨s, hopen⟩ := Option.isSome_iff_exists.1 h
  exact ⟨s, _, .inl ⟨_, toOption_eq_some_iff.1 hopen⟩⟩

/-- The commit of an empty draft comes in between two queries. -/
def moves : List Move :=
  [.begin .database [], .query .lastBlockHeader, .call 0 (.commit true), .proceed 0, .proceed 1,
    .query (.blockHeader 3), .proceed 2]

end Sample

/-- The first query goes to the first replica, the commit has the second one picked although it has
nothing to submit, and the second query goes to the first replica again. -/
theorem selections_of_openedBy_turns :
  ∃ s : Session, s.OpenedBy Sample.connection ∧ Sample.connection.policy = .roundRobin
    ∧ ((Traffic.start []).run s Sample.moves).selections.length < 2 ^ 64
    ∧ ((Traffic.start []).run s Sample.moves).selections.map
        (fun x => (x.task, x.path, x.replica.map Replica.id))
      = [(0, "/ledger/block/last", some "node1"), (1, "/db/tx", some "node2"),
          (2, "/ledger/block/3", some "node1")]
  := by
  obtain ⟨s, hs⟩ := Sample.exists_openedBy
  obtain ⟨-, -, -, -, ⟨hids, -⟩, hround⟩ := selections_of_openedBy hs [] Sample.moves
  have hlength : ((Traffic.start []).run s Sample.moves).selections.length = 3 := rfl
  have hfew : ((Traffic.start []).run s Sample.moves).selections.length < 2 ^ 64 := by
    rw [hlength]
    decide
  have hid {k : Nat} {replica : Replica} (h : s.replicas[k]? = some replica) :
      (Sample.connection.replicas.map ReplicaConfig.id)[k]? = some replica.id := by
    rw [← hids, List.getElem?_map, h]
    rfl
  obtain ⟨hturn, -⟩ := hround rfl hfew
  obtain ⟨first, hfirst, hpicked⟩ := hturn 0 _ rfl
  obtain ⟨second, hsecond, hpicked'⟩ := hturn 1 _ rfl
  obtain ⟨third, hthird, hpicked''⟩ := hturn 2 _ rfl
  use s, hs, rfl, hfew
  have hselections : ((Traffic.start []).run s Sample.moves).selections.map
      (fun x => (x.task, x.path, x.replica.map Replica.id))
      = [(0, "/ledger/block/last", (some first).map Replica.id),
          (1, "/db/tx", (some second).map Replica.id),
          (2, "/ledger/block/3", (some third).map Replica.id)] := by
    rw [← hpicked, ← hpicked', ← hpicked'']
    rfl
  rw [hselections, Option.map_some, Option.map_some, Option.map_some, ← hid hfirst, ← hid hsecond,
    ← hid hthird]
  rfl

end Session

end LedgerTrust
