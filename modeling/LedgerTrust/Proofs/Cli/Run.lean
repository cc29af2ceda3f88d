import LedgerTrust.Proofs.Cli.Checks
import LedgerTrust.Proofs.Ledger.Wire
import LedgerTrust.Proofs.Session.Refusal

/-!
# When a run sends its first request

Every command is made of three parts: files are read and looked at, something is asked for, and the
rest depends on the answer. The first part does not use the link, the second part is a fetch, and
the third part takes back nothing that was sent (`Starts.of_parts`).

So a run with a check that fails ends with the error of the first one that does, and its link is
what it was: no replica was picked and nothing was sent. Where all checks pass the run asks for
something, and its first request is the query for the path of that (`Invocation.run_checked`).
-/

namespace LedgerTrust.Cli

open Dialogue Session

variable {α β : Type} {s : Session} {l : Link} {path : String}

/-! ### Steps -/

/-- What is known without a use of the link. -/
theorem liftM_apply (result : Except RunError α) (l : Link) :
  (liftM result : Step α) l = (result, l)
  := rfl

theorem answer_apply (d : Dialogue α) (l : Link) :
  answer d l = ((d l).1.mapError .query, (d l).2)
  := rfl

/-- A step takes back nothing that was sent. -/
def Keeps (x : Step α) : Prop := ∀ l, l.line.sent <+: (x l).2.line.sent

theorem keeps_pure (a : α) :
  Keeps (pure a : Step α)
  := fun l => List.prefix_refl l.line.sent

theorem Keeps.bind {x : Step α} {f : α → Step β} (hx : Keeps x) (hf : ∀ a, Keeps (f a)) :
  Keeps (x >>= f)
  := by
  intro l
  have hfirst := hx l
  rw [bind_apply]
  cases hstep : x l with
  | mk result l₁ =>
    rw [hstep] at hfirst
    cases result with
    | error e => apply hfirst
    | ok a => apply hfirst.trans (hf a l₁)

/-- The answer to an operation of the ledger, which sends more or nothing. -/
theorem keeps_answer {d : Dialogue α} (op : Operation)
    (h : op.dialogue s = do
      let _ ← d
      return ()) :
  Keeps (answer d)
  := by
  intro l
  obtain ⟨requests, hsends, -⟩ := Operation.exchanges_dialogue s op l
  rw [h, sends_forget] at hsends
  use requests
  rw [answer_apply, hsends]

/-! ### The first query -/

/-- What comes of something that uses a link for the query for a path first: a request is sent,
which is the query signed by the user, or else the query goes nowhere and that is reported. -/
inductive Queries {ρ : Type} (s : Session) (path : String) (report : QueryError → ρ) (l : Link) :
    ρ × Link → Prop
  | sends {replica : Replica} {url : Url} {result : ρ} {l' : Link}
      (haddress : s.Addresses path l replica url)
      (hsent : l.line.sent ++ [s.queryRequest url path] <+: l'.line.sent) :
    Queries s path report l (result, l')
  | fails {e : QueryError} (hnowhere : s.GoesNowhere path l e) :
    Queries s path report l (report e, (l.select s).2)

/-- How a step reports a query. -/
def reported (e : QueryError) : Except RunError α := .error (.query e)

/-- A fetch whose arguments pass their check makes a query first of all. -/
theorem queries_fetch {f : Fetch} (hcheck : f.check = .ok ()) :
  Queries s f.path reported l (answer (f.dialogue s) l)
  := by
  have hdialogue : f.dialogue s = s.ask f.codec f.path >>= fun content =>
      Session.given (f.value s content) := by
    rw [Fetch.dialogue_eq, hcheck]
    rfl
  rw [answer_apply, hdialogue, bind_apply]
  obtain ⟨replica, url, haddress⟩ | ⟨e, hnowhere⟩ := s.exists_addresses_or_goesNowhere f.path l
  · rw [ask_of_addresses haddress]
    cases s.readReception f.codec replica _ with
    | ok content =>
      apply Queries.sends haddress
      rw [← sent_queried]
      rfl
    | error e =>
      apply Queries.sends haddress
      rw [← sent_queried]
  · rw [ask_of_goesNowhere hnowhere]
    apply Queries.fails hnowhere

theorem Queries.bind {x : Step α} {f : α → Step β} (hx : Queries s path reported l (x l))
    (hf : ∀ a, Keeps (f a)) :
  Queries s path reported l ((x >>= f) l)
  := by
  rw [bind_apply]
  generalize x l = outcome at hx
  cases hx with
  | @sends replica url result l' haddress hsent =>
    cases result with
    | error e => apply Queries.sends haddress hsent
    | ok a => apply Queries.sends haddress (hsent.trans (hf a l'))
  | fails hnowhere => apply Queries.fails hnowhere

/-! ### Commands -/

/-- What comes of something that makes checks and then the query for a path: if a check fails, the
error of the first one that does, and the link as it was. -/
structure Starts (s : Session) (checks : List (RunError → Prop)) (path : String) (l : Link)
    (outcome : Except RunError α × Link) : Prop where
  fault : ∀ e, FailsFirst checks e → outcome = (.error e, l)
  query : AllPass checks → Queries s path reported l outcome

/-- A step that is made of its parts: what is found in files, a fetch, and what depends on both. All
that the fetch may be have the path and the check of one fetch. -/
theorem Starts.of_parts {x : Except RunError β} {f : β → Fetch} {g : Fetch}
    {rest : (b : β) → (f b).Value → Step α} {checks : List (RunError → Prop)}
    (hx : ∀ e, x = .error e ↔ FailsFirst checks e)
    (hf : ∀ b, x = .ok b → (f b).path = g.path ∧ (f b).check = g.check)
    (hrest : ∀ b v, Keeps (rest b v)) :
  Starts s (checks ++ g.checks.map (Reported .query)) g.path l
    ((liftM x >>= fun b => answer ((f b).dialogue s) >>= rest b) l)
  := by
  have hpasses := exists_ok_iff_allPass hx
  constructor
  · intro e h
    rw [bind_apply, liftM_apply]
    rw [failsFirst_append_iff, failsFirst_map_reported_iff] at h
    obtain hfails | ⟨hall, cause, hcause, rfl⟩ := h
    · rw [(hx e).2 hfails]
    · obtain ⟨b, rfl⟩ := hpasses.2 hall
      obtain ⟨-, hcheck⟩ := hf b rfl
      rw [← g.check_eq_error_iff, ← hcheck] at hcause
      obtain ⟨hrefused, -⟩ := (f b).dialogue_refused_iff.2 ⟨hcause, rfl⟩
      dsimp only
      rw [bind_apply, answer_apply, hrefused]
      rfl
  · intro h
    rw [allPass_append_iff, allPass_map_reported_iff] at h
    obtain ⟨b, rfl⟩ := hpasses.2 h.1
    obtain ⟨_, haccepted⟩ := (exists_ok_iff_allPass fun e => g.check_eq_error_iff).2 h.2
    obtain ⟨hpath, hcheck⟩ := hf b rfl
    rw [bind_apply, liftM_apply, ← hpath]
    apply Queries.bind _ (hrest b)
    apply queries_fetch
    rw [hcheck, haccepted]

/-- A step without files. -/
theorem Starts.of_fetch {f : Fetch} {rest : f.Value → Step α} (hrest : ∀ v, Keeps (rest v)) :
  Starts s (f.checks.map (Reported .query)) f.path l ((answer (f.dialogue s) >>= rest) l)
  := by
  have hnone : ∀ e, (.ok () : Except RunError Unit) = .error e ↔ FailsFirst [] e :=
    fun e => ⟨nofun, fun h => absurd h not_failsFirst_nil⟩
  exact of_parts hnone (fun _ _ => ⟨rfl, rfl⟩) fun _ => hrest

namespace Command

/-- Of every command: its checks come first, and then the query of what it asks for first. -/
theorem starts_run (s : Session) (files : Files) (command : Command) (l : Link) :
  Starts s (command.checks files) command.firstFetch.path l (command.run s files l)
  := by
  cases command with
  | header block =>
    apply Starts.of_fetch (f := .blockHeader block)
    apply keeps_pure
  | lastHeader =>
    apply Starts.of_fetch (f := .lastBlockHeader)
    apply keeps_pure
  | path first last =>
    apply Starts.of_fetch (f := .ledgerPath first last)
    intro path
    split
    · apply keeps_pure
    · apply keeps_pure
  | receipt txId =>
    apply Starts.of_fetch (f := .txReceipt txId)
    apply keeps_pure
  | verifyTx txId envelope anchor =>
    apply Starts.of_parts (f := fun _ => .txReceipt txId) fun e => transactionInputs_eq_error_iff
    · exact fun _ _ => ⟨rfl, rfl⟩
    · rintro ⟨envelope, anchor⟩ receipt
      apply (keeps_answer (.fullProof receipt anchor envelope) rfl).bind
      intro proof
      apply keeps_pure
  | dataProof block database key value isDeleted header =>
    cases header with
    | none =>
      apply Starts.of_fetch (f := .blockHeader block)
      intro header
      let op : Operation := .verifyValue header database key (Bytes.ofText value) isDeleted
      apply (keeps_answer op rfl).bind
      intro isProved
      apply keeps_pure
    | some path =>
      apply Starts.of_parts (x := headerInput files block path)
        (f := fun header => .verifyValue header database key (Bytes.ofText value) isDeleted)
        fun e => headerInput_eq_error_iff
      · intro header hheader
        rw [← number_of_headerInput hheader]
        exact ⟨rfl, rfl⟩
      · intro header isProved
        apply keeps_pure

end Command

/-! ### Runs -/

/-- How a run ends with what comes of its command. -/
def finished : Except RunError Outcome × Link → Outcome × Link
  | (.ok o, l) => (o, l)
  | (.error e, l) => (⟨[], .error e⟩, l)

/-- How a run reports a query. -/
def ended (e : QueryError) : Outcome := ⟨[], .error (.query e)⟩

theorem Queries.finished {outcome : Except RunError Outcome × Link}
    (h : Queries s path reported l outcome) :
  Queries s path ended l (finished outcome)
  := by
  cases h with
  | @sends replica url result l' haddress hsent =>
    cases result with
    | ok o => apply Queries.sends haddress hsent
    | error e => apply Queries.sends haddress hsent
  | fails hnowhere => apply Queries.fails hnowhere

namespace Invocation

/-- With a session, a run carries out its command. -/
theorem run_of_session? {i : Invocation} {files : Files} (h : i.session? files = .ok s) (l : Link) :
  i.run files l = finished (i.command.run s files l)
  := by
  rw [run, h]
  rfl

/-- Of every run, whatever its files hold, on any link: if one of its checks fails, it ends with the
error of the first one that does and has done nothing; if all pass, it has a session and makes the
query of what its command asks for first; so it sends something only if all pass. -/
theorem run_checked (i : Invocation) (files : Files) (l : Link) :
  (∀ e, FailsFirst (i.checks files) e → i.run files l = (⟨[], .error e⟩, l))
    ∧ (AllPass (i.checks files) → ∃ s, i.session? files = .ok s
        ∧ Queries s i.command.firstFetch.path ended l (i.run files l))
    ∧ ((i.run files l).2.line.sent ≠ l.line.sent → AllPass (i.checks files))
  := by
  have hsession : (∃ s, i.session? files = .ok s) ↔ AllPass (i.sessionChecks files) :=
    exists_ok_iff_allPass fun e => session?_eq_error_iff
  have hfault : ∀ e, FailsFirst (i.checks files) e → i.run files l = (⟨[], .error e⟩, l) := by
    intro e h
    rw [checks, failsFirst_append_iff] at h
    obtain hclosed | ⟨hopen, hcommand⟩ := h
    · rw [run, session?_eq_error_iff.2 hclosed]
    · obtain ⟨s, hs⟩ := hsession.2 hopen
      rw [run_of_session? hs, (i.command.starts_run s files l).fault e hcommand]
      rfl
  use hfault
  constructor
  · intro h
    rw [checks, allPass_append_iff] at h
    obtain ⟨s, hs⟩ := hsession.2 h.1
    use s, hs
    rw [run_of_session? hs]
    apply ((i.command.starts_run s files l).query h.2).finished
  · intro hsent
    rw [allPass_iff]
    intro e he
    apply hsent
    rw [hfault e he]

/-! ### A proof of a transaction -/

namespace Sample

open LedgerTrust.Sample (envelope second)

def connection : ConnectionConfig :=
  ⟨[⟨"node1", "http://127.0.0.1:6001"⟩],
    [⟨"node1", "ea4a6c63e29c520abef5507b132ec5f9954776aebebe7b92421eea691446d22c"⟩],
    .firstAvailable, .version1⟩

def files : Files
  | "connection.json" => some (ConnectionConfig.codec.json connection)
  | "session.json" => some (SessionConfig.codec.json (.new "alice" "alice.key"))
  | "alice.key" => some (Bytes.ofText (Hex.text (List.replicate 32 1)))
  | "envelope.json" => some (Envelope.codec.json envelope)
  | "anchor.json" => some (BlockHeader.codec.json second)
  | _ => none

/-- The files hold the envelope of the transaction `tx`. -/
def proving (txId : String) : Invocation :=
  ⟨"connection.json", "session.json", "info", .verifyTx txId "envelope.json" "anchor.json"⟩

def link : Link := .start []

theorem exists_session :
  ∃ s replica url, (∀ txId, (proving txId).session? files = .ok s)
    ∧ s.Addresses (proving "tx").command.firstFetch.path link replica url
  := by
  have hopen : ((proving "tx").session? files).toOption.any (fun s =>
      (link.select s).1.any fun replica =>
        (replica.endpoint (proving "tx").command.firstFetch.path).toOption.isSome) = true := by
    decide +kernel
  obtain ⟨s, hs, hselect⟩ := (Option.any_eq_true _ _).1 hopen
  obtain ⟨replica, hreplica, hendpoint⟩ := (Option.any_eq_true _ _).1 hselect
  obtain ⟨url, hurl⟩ := Option.isSome_iff_exists.1 hendpoint
  rw [toOption_eq_some_iff] at hs hurl
  exact ⟨s, replica, url, fun _ => hs, hreplica, hurl⟩

theorem transactionInputs_files (txId : String) :
  transactionInputs files txId "envelope.json" "anchor.json"
    = if "tx" ≠ txId then .error (.otherTransaction "tx" txId) else .ok (envelope, second)
  := by
  have henvelope : input files Envelope.codec "envelope.json" = .ok envelope :=
    input_of_faithful Envelope.faithful_codec rfl
  have hanchor : input files BlockHeader.codec "anchor.json" = .ok second :=
    input_of_faithful BlockHeader.faithful_codec rfl
  rw [transactionInputs, henvelope, hanchor]
  show (if "tx" ≠ txId then _ else _) = _
  by_cases h : "tx" = txId
  · rw [if_neg (not_not_intro h), if_neg (not_not_intro h)]
    rfl
  · rw [if_pos h, if_pos h]
    rfl

end Sample

/-- With files that are in order, an envelope of another transaction ends the run before anything is
done; with the right one the receipt is asked for. -/
theorem run_checked_sample :
  (∃ e, FailsFirst ((Sample.proving "other").checks Sample.files) e
      ∧ (Sample.proving "other").run Sample.files Sample.link = (⟨[], .error e⟩, Sample.link)
      ∧ e = .otherTransaction "tx" "other")
    ∧ AllPass ((Sample.proving "tx").checks Sample.files)
    ∧ ((Sample.proving "tx").run Sample.files Sample.link).2.line.sent ≠ Sample.link.line.sent
  := by
  obtain ⟨s, replica, url, hs, haddress⟩ := Sample.exists_session
  have hsession : ∀ txId, AllPass ((Sample.proving txId).sessionChecks Sample.files) :=
    fun txId => (exists_ok_iff_allPass fun e => session?_eq_error_iff).1 ⟨s, hs txId⟩
  constructor
  · have hfails : FailsFirst ((Sample.proving "other").checks Sample.files)
        (.otherTransaction "tx" "other") := by
      rw [checks, failsFirst_append_of_allPass (hsession "other")]
      apply failsFirst_append_iff.2
      apply Or.inl
      apply transactionInputs_eq_error_iff.1
      rw [Sample.transactionInputs_files, if_pos (by decide)]
    obtain ⟨hfault, -⟩ := run_checked (Sample.proving "other") Sample.files Sample.link
    exact ⟨_, hfails, hfault _ hfails, rfl⟩
  · have hinputs : AllPass (transactionChecks Sample.files "tx" "envelope.json" "anchor.json") := by
      apply (exists_ok_iff_allPass fun e => transactionInputs_eq_error_iff).1
      rw [Sample.transactionInputs_files, if_neg (by decide)]
      exact ⟨_, rfl⟩
    have hall : AllPass ((Sample.proving "tx").checks Sample.files) := by
      apply allPass_append_iff.2
      use hsession "tx"
      apply allPass_append_iff.2
      use hinputs
      rw [allPass_map_reported_iff]
      apply (exists_ok_iff_allPass fun e => Fetch.check_eq_error_iff).1
      exact ⟨(), rfl⟩
    obtain ⟨-, hqueries, hneeded⟩ := run_checked (Sample.proving "tx") Sample.files Sample.link
    have hsends : ((Sample.proving "tx").run Sample.files Sample.link).2.line.sent
        ≠ Sample.link.line.sent := by
      obtain ⟨s', hs', hquery⟩ := hqueries hall
      cases (hs "tx").symm.trans hs'
      generalize (Sample.proving "tx").run Sample.files Sample.link = outcome at hquery
      cases hquery with
      | sends _ hsent =>
        intro hnothing
        rw [hnothing] at hsent
        cases hsent.length_le
      | fails hnowhere =>
        cases hnowhere with
        | noReplica hreplica => cases hreplica.symm.trans haddress.1
        | noEndpoint hreplica hurl =>
          cases hreplica.symm.trans haddress.1
          cases hurl.symm.trans haddress.2
    exact ⟨hneeded hsends, hsends⟩

end Invocation

end LedgerTrust.Cli
