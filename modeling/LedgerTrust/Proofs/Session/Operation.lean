import Mathlib.Tactic.Use
import LedgerTrust.Proofs.Session.Requests

/-!
# The operations of the ledger

An operation of the ledger is a dialogue. Whatever the replicas answer, each request that it sends
is the signed query for one of its paths, sent to the endpoint that a replica of the session has for
this path, and takes one delivery.
-/

namespace LedgerTrust

/-! ### Dialogues over a line -/

namespace Dialogue

variable {α β : Type} {P : Request → Prop} {x : Dialogue α} {f : α → Dialogue β} {l : Link}

/-- On a link the dialogue sends requests of one sort only, and takes one delivery for each. -/
def Exchanges (P : Request → Prop) (x : Dialogue α) (l : Link) : Prop :=
  ∃ requests, x.Sends l requests
    ∧ (x l).2.line.deliveries = l.line.deliveries.drop requests.length
    ∧ ∀ request ∈ requests, P request

/-- A dialogue that does not use the link. -/
theorem Exchanges.of_quiet (h : (x l).2 = l) :
  x.Exchanges P l
  := by
  use [], sends_of_quiet h
  rw [h]
  exact ⟨rfl, nofun⟩

theorem exchanges_pure (a : α) (l : Link) :
  (pure a : Dialogue α).Exchanges P l
  := .of_quiet rfl

theorem Exchanges.bind (hx : x.Exchanges P l)
    (hf : ∀ a l₁, x l = (.ok a, l₁) → (f a).Exchanges P l₁) :
  (x >>= f).Exchanges P l
  := by
  obtain ⟨requests, hsends, htakes, hall⟩ := hx
  unfold Exchanges Sends at *
  rw [bind_apply]
  cases hstep : x l with
  | mk result l₁ =>
    rw [hstep] at hsends htakes
    cases result with
    | error e => exact ⟨requests, hsends, htakes, hall⟩
    | ok a =>
      obtain ⟨later, hlater, hrest, hothers⟩ := hf a l₁ hstep
      use requests ++ later
      constructor
      · rw [hlater, hsends, List.append_assoc]
      constructor
      · rw [hrest, htakes, List.drop_drop, List.length_append]
      · intro request hrequest
        exact (List.mem_append.1 hrequest).elim (hall request) (hothers request)

end Dialogue

namespace Session

open Dialogue

variable {s : Session} {l : Link}

/-- A request is the signed query for a path, sent to the endpoint that a replica has for it. -/
def Asks (s : Session) (path : String) (request : Request) : Prop :=
  ∃ replica ∈ s.replicas, ∃ url, replica.endpoint path = .ok url
    ∧ request = s.queryRequest url path

/-- What the selection of a replica gives: the replica, if there is one, and the link after it. -/
inductive Picks (s : Session) (l : Link) : Option Replica × Link → Prop
  | none (hnone : s.replicas = []) : Picks s l (none, l)
  | first {replica : Replica} {rest : List Replica} (hreplicas : s.replicas = replica :: rest)
      (hpolicy : s.policy = .firstAvailable) :
    Picks s l (some replica, l)
  | turn {replica : Replica} (hpolicy : s.policy = .roundRobin)
      (hturn : s.replicas[l.turn.toNat % s.replicas.length]? = some replica) :
    Picks s l (some replica, { l with turn := l.turn + 1 })

theorem picks_select (s : Session) (l : Link) :
  s.Picks l (l.select s)
  := by
  unfold Link.select ReplicaPolicy.select
  cases hreplicas : s.replicas with
  | nil => exact .none hreplicas
  | cons r rs =>
    cases hpolicy : s.policy with
    | firstAvailable => exact .first hreplicas hpolicy
    | roundRobin =>
      have hlt : l.turn.toNat % (r :: rs).length < (r :: rs).length :=
        Nat.mod_lt _ (Nat.succ_pos rs.length)
      dsimp only
      rw [List.getElem?_eq_getElem hlt]
      apply Picks.turn hpolicy
      rw [hreplicas, List.getElem?_eq_getElem hlt]

theorem mem_of_select {replica : Replica} (h : (l.select s).1 = some replica) :
  replica ∈ s.replicas
  := by
  have hpicks := s.picks_select l
  generalize l.select s = p at hpicks h
  cases hpicks with
  | none _ => cases h
  | first hreplicas _ =>
    cases h
    rw [hreplicas]
    exact List.mem_cons_self
  | turn _ hturn =>
    cases h
    exact List.mem_of_getElem? hturn

theorem asks_of_addresses {path : String} {replica : Replica} {url : Url}
    (h : s.Addresses path l replica url) :
  s.Asks path (s.queryRequest url path)
  := ⟨replica, mem_of_select h.1, url, h.2, rfl⟩

theorem exchanges_ask {α : Type} {P : Request → Prop} (c : Codec (Response α)) {path : String}
    (h : ∀ request, s.Asks path request → P request) :
  (s.ask c path).Exchanges P l
  := by
  use (s.request? path l).toList, sends_ask c path
  obtain ⟨replica, url, haddress⟩ | ⟨e, hnowhere⟩ := s.exists_addresses_or_goesNowhere path l
  · rw [request?_of_addresses haddress, ask_of_addresses haddress]
    constructor
    · exact List.drop_one.symm
    · intro request hrequest
      obtain rfl := List.mem_singleton.1 hrequest
      exact h _ (asks_of_addresses haddress)
  · rw [request?_of_goesNowhere hnowhere, ask_of_goesNowhere hnowhere]
    exact ⟨rfl, nofun⟩

theorem exchanges_require {P : Request → Prop} (condition : Bool) (e : QueryError) (l : Link) :
  (require condition e).Exchanges P l
  := .of_quiet (link_require condition e l)

theorem exchanges_evaluated {P : Request → Prop} (result : Except ProofError Bool) (l : Link) :
  (evaluated result).Exchanges P l
  := .of_quiet (link_evaluated result l)

end Session

/-! ### Operations -/

/-- An operation of the ledger with its arguments. -/
inductive Operation where
  | blockHeader (number : UInt64)
  | lastBlockHeader
  | ledgerPath (first last : UInt64)
  | txProof (block index : UInt64)
  | txReceipt (txId : String)
  | dataProof (block : UInt64) (database key : String) (isDeleted : Bool)
  | verifyValue (header : BlockHeader) (database key : String) (value : Bytes) (isDeleted : Bool)
  | fullProof (receipt : TxReceipt) (anchor : BlockHeader) (envelope : Envelope)
  deriving DecidableEq

namespace Operation

open Dialogue Session

/-- The dialogue of an operation, without its result. -/
def dialogue (s : Session) : Operation → Dialogue Unit
  | .blockHeader number => do
    let _ ← s.blockHeader number
    return ()
  | .lastBlockHeader => do
    let _ ← s.lastBlockHeader
    return ()
  | .ledgerPath first last => do
    let _ ← s.ledgerPath first last
    return ()
  | .txProof block index => do
    let _ ← s.txProof block index
    return ()
  | .txReceipt txId => do
    let _ ← s.txReceipt txId
    return ()
  | .dataProof block database key isDeleted => do
    let _ ← s.dataProof block database key isDeleted
    return ()
  | .verifyValue header database key value isDeleted => do
    let _ ← s.verifyValue header database key value isDeleted
    return ()
  | .fullProof receipt anchor envelope => do
    let _ ← s.fullProof receipt anchor envelope
    return ()

/-- The path of the receipt of a transaction. -/
def receiptPath (txId : String) : String := "/ledger/tx/receipt/" ++ txId

/-- The paths that an operation may ask for; none if its arguments are refused. -/
def paths : Operation → List String
  | .blockHeader number => [blockPath number]
  | .lastBlockHeader => ["/ledger/block/last"]
  | .ledgerPath first last => [rangePath first last]
  | .txProof block index => [txProofPath block index]
  | .txReceipt txId => if isTxId txId then [receiptPath txId] else []
  | .dataProof block database key isDeleted =>
    if isDatabaseName database then [valuePath block database key isDeleted] else []
  | .verifyValue header database key _ isDeleted =>
    if isDatabaseName database then [valuePath header.number database key isDeleted] else []
  | .fullProof receipt anchor _ =>
    [txProofPath receipt.blockNumber receipt.index, rangePath genesis receipt.blockNumber,
      rangePath receipt.blockNumber anchor.number]

variable {s : Session} {l : Link} {P : Request → Prop}

theorem exchanges_ledgerPath {first last : UInt64}
    (h : ∀ request, s.Asks (rangePath first last) request → P request) :
  (s.ledgerPath first last).Exchanges P l
  := by
  apply (exchanges_require _ _ _).bind
  intro _ l₁ _
  apply (exchanges_ask _ h).bind
  intro headers l₂ _
  exact (exchanges_require _ _ _).bind fun _ l₃ _ => exchanges_pure _ l₃

theorem exchanges_dataProof {block : UInt64} {database key : String} {isDeleted : Bool}
    (h : isDatabaseName database = true →
      ∀ request, s.Asks (valuePath block database key isDeleted) request → P request) :
  (s.dataProof block database key isDeleted).Exchanges P l
  := by
  apply (exchanges_require _ _ _).bind
  intro _ l₁ hrequire
  obtain ⟨hname, -⟩ := require_eq_ok.1 hrequire
  exact (exchanges_ask _ (h hname)).bind fun _ l₂ _ => exchanges_pure _ l₂

/-- A path that is due is asked for, whatever the verdict on it. -/
theorem exchanges_path {lower upper : UInt64} {verdict : LedgerPath → Bool → Bool}
    {otherwise : Bool} (h : ∀ request, s.Asks (rangePath lower upper) request → P request) :
  (if lower < upper then do
      let path ← s.ledgerPath lower upper
      let isLinked ← evaluated (path.verify s.scheme)
      return (some path, verdict path isLinked)
    else return (none, otherwise) : Dialogue (Option LedgerPath × Bool)).Exchanges P l
  := by
  split
  · apply (exchanges_ledgerPath h).bind
    intro path l₁ _
    exact (exchanges_evaluated _ _).bind fun _ l₂ _ => exchanges_pure _ l₂
  · exact exchanges_pure _ l

theorem exchanges_fullProof {receipt : TxReceipt} {anchor : BlockHeader} {envelope : Envelope}
    (h : ∀ path ∈ (fullProof receipt anchor envelope).paths,
      ∀ request, s.Asks path request → P request) :
  (s.fullProof receipt anchor envelope).Exchanges P l
  := by
  simp only [paths, List.forall_mem_cons] at h
  obtain ⟨hinclusion, hgenesis, hanchor, -⟩ := h
  apply (exchanges_require _ _ _).bind
  intro _ l₁ _
  apply ((exchanges_ask _ hinclusion).bind fun _ l₂ _ => exchanges_pure _ l₂).bind
  intro inclusion l₃ _
  apply (exchanges_evaluated _ _).bind
  intro isIncluded l₄ _
  apply (exchanges_path hgenesis).bind
  intro toGenesis l₅ _
  apply (exchanges_path hanchor).bind
  intro fromAnchor l₆ _
  exact exchanges_pure _ l₆

/-- An operation asks for its paths, and does nothing else with the link. -/
theorem exchanges_dialogue (s : Session) (op : Operation) (l : Link) :
  (op.dialogue s).Exchanges (fun request => ∃ path ∈ op.paths, s.Asks path request) l
  := by
  have hpaths : ∀ path ∈ op.paths, ∀ request, s.Asks path request →
      ∃ path ∈ op.paths, s.Asks path request := fun path hpath request h => ⟨path, hpath, h⟩
  cases op with
  | blockHeader number =>
    apply Exchanges.bind _ fun _ l₁ _ => exchanges_pure _ l₁
    apply (exchanges_ask _ (hpaths _ List.mem_cons_self)).bind
    intro header l₁ _
    exact (exchanges_require _ _ _).bind fun _ l₂ _ => exchanges_pure _ l₂
  | lastBlockHeader =>
    exact (exchanges_ask _ (hpaths _ List.mem_cons_self)).bind fun _ l₁ _ => exchanges_pure _ l₁
  | ledgerPath first last =>
    exact (exchanges_ledgerPath (hpaths _ List.mem_cons_self)).bind
      fun _ l₁ _ => exchanges_pure _ l₁
  | txProof block index =>
    apply Exchanges.bind _ fun _ l₁ _ => exchanges_pure _ l₁
    exact (exchanges_ask _ (hpaths _ List.mem_cons_self)).bind fun _ l₁ _ => exchanges_pure _ l₁
  | txReceipt txId =>
    apply Exchanges.bind _ fun _ l₁ _ => exchanges_pure _ l₁
    apply (exchanges_require _ _ _).bind
    intro _ l₁ hrequire
    obtain ⟨hid, -⟩ := require_eq_ok.1 hrequire
    apply exchanges_ask
    apply hpaths
    rw [paths, if_pos hid]
    exact List.mem_cons_self
  | dataProof block database key isDeleted =>
    apply Exchanges.bind _ fun _ l₁ _ => exchanges_pure _ l₁
    apply exchanges_dataProof
    intro hname
    apply hpaths
    rw [paths, if_pos hname]
    exact List.mem_cons_self
  | verifyValue header database key value isDeleted =>
    apply Exchanges.bind _ fun _ l₁ _ => exchanges_pure _ l₁
    apply Exchanges.bind
    · apply exchanges_dataProof
      intro hname
      apply hpaths
      rw [paths, if_pos hname]
      exact List.mem_cons_self
    · intro proof l₁ _
      exact exchanges_evaluated (proof.verify s.scheme _ _ _) l₁
  | fullProof receipt anchor envelope =>
    exact (exchanges_fullProof hpaths).bind fun _ l₁ _ => exchanges_pure _ l₁

end Operation

end LedgerTrust
