import LedgerTrust.Proofs.Session.Dialogue
import LedgerTrust.Proofs.Session.Query

/-!
# What a full proof asks for

A query sends at most one request, and exactly one if it is answered. A full proof has at most
three parts that are asked for: the inclusion proof, the path to the first block unless this is
the block of the receipt, and the path from the anchor unless it is the header of this block. They
are gathered one after the other, and nothing more is asked for after the first error.
-/

namespace LedgerTrust

/-! ### Dialogues that send -/

namespace Dialogue

variable {α β : Type} {x : Dialogue α} {f : α → Dialogue β} {l : Link} {requests : List Request}

/-- On a link the dialogue sends the given requests, in order, and nothing else. -/
def Sends (x : Dialogue α) (l : Link) (requests : List Request) : Prop :=
  (x l).2.line.sent = l.line.sent ++ requests

/-- A dialogue that does not use the link sends nothing. -/
theorem sends_of_quiet (h : (x l).2 = l) :
  x.Sends l []
  := by
  rw [Sends, h, List.append_nil]

theorem sends_pure (a : α) :
  (pure a : Dialogue α).Sends l []
  := sends_of_quiet rfl

/-- What is sent after a step is sent only if the step ends well. -/
theorem Sends.bind {later : List Request} (hx : x.Sends l requests)
    (hok : ∀ a l₁, x l = (.ok a, l₁) → (f a).Sends l₁ later)
    (herror : ∀ e l₁, x l = (.error e, l₁) → later = []) :
  (x >>= f).Sends l (requests ++ later)
  := by
  unfold Sends at hx ⊢
  rw [bind_apply, ← List.append_assoc, ← hx]
  cases hstep : x l with
  | mk result l₁ =>
    cases result with
    | ok a => exact hok a l₁ hstep
    | error e => rw [herror e l₁ hstep, List.append_nil]

/-- Steps after which nothing is sent. -/
theorem Sends.bind_quiet (hx : x.Sends l requests) (hf : ∀ a l₁, (f a).Sends l₁ []) :
  (x >>= f).Sends l requests
  := by
  rw [← List.append_nil requests]
  apply hx.bind
  · exact fun a l₁ _ => hf a l₁
  · exact fun _ _ _ => rfl

/-- What a dialogue sends does not depend on whether its value is used. -/
theorem sends_forget :
  (do
    let _ ← x
    return () : Dialogue Unit).Sends l requests ↔ x.Sends l requests
  := by
  unfold Sends
  rw [bind_apply]
  cases x l with
  | mk result l₁ =>
    cases result with
    | ok a => exact Iff.rfl
    | error e => exact Iff.rfl

end Dialogue

open Dialogue

namespace Session

variable {s : Session} {l : Link}

/-- A condition is checked without a use of the link. -/
theorem link_require (condition : Bool) (e : QueryError) (l : Link) :
  (require condition e l).2 = l
  := by
  cases condition with
  | true => rfl
  | false => rfl

/-- A proof is evaluated without a use of the link. -/
theorem link_evaluated (result : Except ProofError Bool) (l : Link) :
  (evaluated result l).2 = l
  := by
  cases result with
  | ok verified => rfl
  | error cause => rfl

theorem sends_require (condition : Bool) (e : QueryError) (l : Link) :
  (require condition e).Sends l []
  := sends_of_quiet (link_require condition e l)

theorem sends_evaluated (result : Except ProofError Bool) (l : Link) :
  (evaluated result).Sends l []
  := sends_of_quiet (link_evaluated result l)

/-! ### Queries -/

/-- The query for a path to the replica whose turn it is, if there is a replica and it has an
endpoint for the path. -/
def request? (s : Session) (path : String) (l : Link) : Option Request := do
  let replica ← (l.select s).1
  let url ← (replica.endpoint path).toOption
  return s.queryRequest url path

theorem request?_of_addresses {path : String} {replica : Replica} {url : Url}
    (h : s.Addresses path l replica url) :
  s.request? path l = some (s.queryRequest url path)
  := by
  obtain ⟨hreplica, hurl⟩ := h
  rw [request?, hreplica, Option.bind_eq_bind, Option.bind_some, hurl]
  rfl

theorem request?_of_goesNowhere {path : String} {e : QueryError} (h : s.GoesNowhere path l e) :
  s.request? path l = none
  := by
  cases h with
  | noReplica hreplica =>
    rw [request?, hreplica]
    rfl
  | noEndpoint hreplica hurl =>
    rw [request?, hreplica, Option.bind_eq_bind, Option.bind_some, hurl]
    rfl

theorem sends_ask {α : Type} (c : Codec (Response α)) (path : String) :
  (s.ask c path).Sends l (s.request? path l).toList
  := by
  obtain ⟨replica, url, haddress⟩ | ⟨e, hnowhere⟩ := s.exists_addresses_or_goesNowhere path l
  · rw [request?_of_addresses haddress, Sends, ask_of_addresses haddress]
    rfl
  · rw [request?_of_goesNowhere hnowhere]
    rw [Sends, ask_of_goesNowhere hnowhere, Link.line_select]
    exact (List.append_nil _).symm

/-- A query that is answered was sent. -/
theorem exists_request?_of_ask {α : Type} {c : Codec (Response α)} {path : String} {v : α}
    {l' : Link} (h : s.ask c path l = (.ok v, l')) :
  ∃ request, s.request? path l = some request
  := by
  obtain ⟨replica, url, reply, haddress, -⟩ := receives_of_ask h
  exact ⟨_, request?_of_addresses haddress⟩

theorem sends_txProof (block index : UInt64) :
  (s.txProof block index).Sends l (s.request? (txProofPath block index) l).toList
  := (sends_ask _ _).bind_quiet fun _ _ => sends_pure _

/-- The query for a path of headers, if there can be such blocks. -/
def pathRequest? (s : Session) (first last : UInt64) (l : Link) : Option Request :=
  if isRange first last then s.request? (rangePath first last) l else none

theorem sends_ledgerPath (first last : UInt64) :
  (s.ledgerPath first last).Sends l (s.pathRequest? first last l).toList
  := by
  unfold ledgerPath
  rw [← List.nil_append (Option.toList _)]
  apply (sends_require _ _ l).bind
  · intro u l₁ hrequire
    obtain ⟨hrange, rfl⟩ := require_eq_ok.1 hrequire
    rw [pathRequest?, if_pos hrange]
    apply (sends_ask _ _).bind_quiet
    intro headers l₂
    exact (sends_require _ _ l₂).bind_quiet fun _ _ => sends_pure _
  · intro e l₁ hrequire
    obtain ⟨hrange, -, -⟩ := require_eq_error.1 hrequire
    rw [pathRequest?, if_neg (Bool.eq_false_iff.1 hrange)]
    rfl

theorem exists_pathRequest?_of_ledgerPath {first last : UInt64} {path : LedgerPath} {l' : Link}
    (h : s.ledgerPath first last l = (.ok path, l')) :
  ∃ request, s.pathRequest? first last l = some request
  := by
  obtain ⟨hrange, hask, -⟩ := ledgerPath_eq_ok.1 h
  rw [pathRequest?, if_pos hrange]
  exact exists_request?_of_ask hask

end Session

/-! ### Parts of a full proof -/

/-- The parts of a full proof. -/
inductive FullProof.Part where
  | inclusion
  | toGenesis
  | fromAnchor
  deriving DecidableEq

namespace FullProof.Part

open Session (genesis)

variable (receipt : TxReceipt) (anchor : BlockHeader)

/-- Whether the part belongs to the full proof. -/
def isDue : Part → Bool
  | .inclusion => true
  | .toGenesis => genesis < receipt.blockNumber
  | .fromAnchor => receipt.blockNumber < anchor.number

/-- The parts of a full proof against an anchor, in the order in which they are gathered. -/
def due : List Part := [inclusion, toGenesis, fromAnchor].filter (isDue receipt anchor)

end FullProof.Part

namespace Session

open FullProof (Part)

variable (s : Session) (receipt : TxReceipt) (anchor : BlockHeader) (envelope : Envelope)

/-- Fetches and evaluates a part. -/
def gather : Part → Dialogue Unit
  | .inclusion => do
    let inclusion ← s.txProof receipt.blockNumber receipt.index
    let _ ← evaluated (inclusion.verify s.scheme receipt envelope)
    return ()
  | .toGenesis => do
    let _ ← s.pathToGenesis receipt.header
    return ()
  | .fromAnchor => do
    let _ ← s.pathFromAnchor anchor receipt.header
    return ()

/-- Fetches and evaluates parts one after the other. -/
def gatherAll : List Part → Dialogue Unit
  | [] => return ()
  | part :: parts => do
    gather s receipt anchor envelope part
    gatherAll parts

/-- The request for a part, if there is one. -/
def partRequest? : Part → Link → Option Request
  | .inclusion => s.request? (txProofPath receipt.blockNumber receipt.index)
  | .toGenesis => s.pathRequest? genesis receipt.blockNumber
  | .fromAnchor => s.pathRequest? receipt.blockNumber anchor.number

/-- The requests for parts that are gathered one after the other, up to the first error. -/
def partRequests : List Part → Link → List Request
  | [], _ => []
  | part :: parts, l =>
    (s.partRequest? receipt anchor part l).toList
      ++ match s.gather receipt anchor envelope part l with
        | (.ok _, l₁) => partRequests parts l₁
        | (.error _, _) => []

/-- The requests for a full proof: for the parts that are due, unless the anchor is before the
block. -/
def fullProofRequests (l : Link) : List Request :=
  if receipt.blockNumber ≤ anchor.number then
    partRequests s receipt anchor envelope (Part.due receipt anchor) l
  else []

variable {s receipt anchor envelope}

/-- A path that is due sends its request, whatever the verdict on it. -/
theorem sends_path {lower upper : UInt64} {verdict : LedgerPath → Bool → Bool} {l : Link} :
  (do
    let path ← s.ledgerPath lower upper
    let isLinked ← evaluated (path.verify s.scheme)
    return (some path, verdict path isLinked) : Dialogue (Option LedgerPath × Bool)).Sends l
      (s.pathRequest? lower upper l).toList
  := by
  apply (sends_ledgerPath lower upper).bind_quiet
  intro path l₁
  exact (sends_evaluated _ l₁).bind_quiet fun _ _ => sends_pure _

theorem sends_gather {part : Part} (hdue : part.isDue receipt anchor = true) {l : Link} :
  (s.gather receipt anchor envelope part).Sends l (s.partRequest? receipt anchor part l).toList
  := by
  cases part with
  | inclusion =>
    apply (sends_txProof _ _).bind_quiet
    intro inclusion l₁
    exact (sends_evaluated _ l₁).bind_quiet fun _ _ => sends_pure _
  | toGenesis =>
    have hlt : genesis < receipt.header.number := of_decide_eq_true hdue
    apply Sends.bind_quiet _ fun _ _ => sends_pure _
    rw [pathToGenesis, if_pos hlt]
    exact sends_path
  | fromAnchor =>
    have hlt : receipt.header.number < anchor.number := of_decide_eq_true hdue
    apply Sends.bind_quiet _ fun _ _ => sends_pure _
    rw [pathFromAnchor, if_pos hlt]
    exact sends_path

/-- A part that is gathered was asked for. -/
theorem exists_partRequest?_of_gather {part : Part} (hdue : part.isDue receipt anchor = true)
    {u : Unit} {l l' : Link} (h : s.gather receipt anchor envelope part l = (.ok u, l')) :
  ∃ request, s.partRequest? receipt anchor part l = some request
  := by
  cases part with
  | inclusion =>
    obtain ⟨inclusion, l₁, hproof, -⟩ := bind_eq_ok.1 h
    exact exists_request?_of_ask (txProof_eq_ok.1 hproof)
  | toGenesis =>
    obtain ⟨⟨path?, right⟩, l₁, hpath, -⟩ := bind_eq_ok.1 h
    obtain ⟨-, path, isLinked, hledger, -⟩ | ⟨hnot, -⟩ := pathToGenesis_eq_ok.1 hpath
    · exact exists_pathRequest?_of_ledgerPath hledger
    · exact absurd (of_decide_eq_true hdue) hnot
  | fromAnchor =>
    obtain ⟨⟨path?, right⟩, l₁, hpath, -⟩ := bind_eq_ok.1 h
    obtain ⟨-, path, isLinked, hledger, -⟩ | ⟨hnot, -⟩ := pathFromAnchor_eq_ok.1 hpath
    · exact exists_pathRequest?_of_ledgerPath hledger
    · exact absurd (of_decide_eq_true hdue) hnot

/-- A part that is not due is gathered without asking for anything. -/
theorem gather_of_not_isDue {part : Part} (hdue : ¬ part.isDue receipt anchor = true) (l : Link) :
  s.gather receipt anchor envelope part l = (.ok (), l)
  := by
  cases part with
  | inclusion => exact absurd rfl hdue
  | toGenesis =>
    have hnot : ¬ genesis < receipt.header.number := fun h => hdue (decide_eq_true h)
    apply bind_eq_ok.2
    exact ⟨(none, true), l, pathToGenesis_eq_ok.2 (.inr ⟨hnot, rfl, rfl, rfl⟩), rfl⟩
  | fromAnchor =>
    have hnot : ¬ receipt.header.number < anchor.number := fun h => hdue (decide_eq_true h)
    apply bind_eq_ok.2
    exact ⟨_, l, pathFromAnchor_eq_ok.2 (.inr ⟨hnot, rfl, rfl, rfl⟩), rfl⟩

/-- It makes no difference whether parts that are not due are gathered. -/
theorem gatherAll_filter (parts : List Part) (l : Link) :
  s.gatherAll receipt anchor envelope (parts.filter (Part.isDue receipt anchor)) l
    = s.gatherAll receipt anchor envelope parts l
  := by
  induction parts generalizing l with
  | nil => rfl
  | cons part parts ih =>
    by_cases hdue : part.isDue receipt anchor = true
    · rw [List.filter_cons_of_pos hdue, gatherAll, gatherAll, bind_apply, bind_apply]
      simp only [ih]
    · rw [List.filter_cons_of_neg hdue, ih, gatherAll, bind_apply, gather_of_not_isDue hdue]

/-- Parts that are due send their requests, up to the first error. -/
theorem sends_gatherAll {parts : List Part}
    (hdue : ∀ part ∈ parts, part.isDue receipt anchor = true) (l : Link) :
  (s.gatherAll receipt anchor envelope parts).Sends l
    (s.partRequests receipt anchor envelope parts l)
  := by
  induction parts generalizing l with
  | nil => exact sends_pure ()
  | cons part parts ih =>
    apply (sends_gather (hdue part List.mem_cons_self)).bind
    · intro u l₁ hpart
      rw [hpart]
      exact ih (fun part hp => hdue part (List.mem_cons_of_mem _ hp)) l₁
    · intro e l₁ hpart
      rw [hpart]

/-- Parts that are all gathered have all been asked for. -/
theorem length_partRequests {parts : List Part}
    (hdue : ∀ part ∈ parts, part.isDue receipt anchor = true) {u : Unit} {l l' : Link}
    (h : s.gatherAll receipt anchor envelope parts l = (.ok u, l')) :
  (s.partRequests receipt anchor envelope parts l).length = parts.length
  := by
  induction parts generalizing l with
  | nil => rfl
  | cons part parts ih =>
    obtain ⟨_, l₁, hpart, hparts⟩ := bind_eq_ok.1 h
    obtain ⟨request, hrequest⟩ := exists_partRequest?_of_gather (hdue part List.mem_cons_self) hpart
    have hrest := ih (fun part hp => hdue part (List.mem_cons_of_mem _ hp)) hparts
    rw [partRequests, hrequest, hpart]
    simp [hrest]

/-- A full proof against a header that is not before the block gathers the parts that are due. -/
theorem gatherAll_due (hle : receipt.blockNumber ≤ anchor.number) (l : Link) :
  s.gatherAll receipt anchor envelope (Part.due receipt anchor) l
    = (do
        let _ ← s.fullProof receipt anchor envelope
        return () : Dialogue Unit) l
  := by
  have hrequire : require (receipt.blockNumber ≤ anchor.number)
      (.anchorBeforeTx anchor.number receipt.blockNumber) = pure () :=
    if_pos (decide_eq_true hle)
  rw [Part.due, gatherAll_filter]
  simp only [gatherAll, gather, fullProof, hrequire, bind_assoc, pure_bind]

/-- An anchor before the block is refused. -/
theorem fullProof_of_not_le (h : ¬ receipt.blockNumber ≤ anchor.number) (l : Link) :
  s.fullProof receipt anchor envelope l
    = (.error (.anchorBeforeTx anchor.number receipt.blockNumber), l)
  := bind_eq_error.2 (.inl (require_eq_error.2 ⟨decide_eq_false h, rfl, rfl⟩))

theorem isDue_of_mem_due {part : Part} (h : part ∈ Part.due receipt anchor) :
  part.isDue receipt anchor = true
  := (List.mem_filter.1 h).2

theorem sends_fullProof (l : Link) :
  (s.fullProof receipt anchor envelope).Sends l (s.fullProofRequests receipt anchor envelope l)
  := by
  unfold fullProofRequests
  split
  · next hle =>
    apply sends_forget.1
    rw [Sends, ← gatherAll_due hle]
    exact sends_gatherAll (fun _ => isDue_of_mem_due) l
  · next hnot =>
    rw [Sends, fullProof_of_not_le hnot, List.append_nil]

/-- A full proof that is had took one query for each part that was due. -/
theorem length_fullProofRequests {p : FullProof} {l l' : Link}
    (h : s.fullProof receipt anchor envelope l = (.ok p, l')) :
  (s.fullProofRequests receipt anchor envelope l).length = (Part.due receipt anchor).length
  := by
  have hle := (fullProof_eq_ok.1 h).1
  have hparts : s.gatherAll receipt anchor envelope (Part.due receipt anchor) l = (.ok (), l') := by
    rw [gatherAll_due hle, bind_apply, h]
    rfl
  rw [fullProofRequests, if_pos hle]
  exact length_partRequests (fun _ => isDue_of_mem_due) hparts

end Session

end LedgerTrust
