import LedgerTrust.Proofs.Ledger.Chain
import LedgerTrust.Proofs.Session.Dialogue
import LedgerTrust.Proofs.Session.Query

/-!
# Full proofs are complete

If each query of a full proof is answered by what the chain holds, the full proof is verified: the
tree of a block gives a right proof of each of its transactions, the headers along a walk of skip
links are linked and end where they should, and what an honest replica writes is read back. A path
is missing exactly if it would run between equal blocks.
-/

namespace LedgerTrust

namespace Session

variable {s : Session} {l : Link}

/-! ### Queries that are answered -/

/-- The next query, for a path, is answered in time by the replica whose turn it is, with status
200 and a body that carries a content and an accepted signature. -/
def Answers {α : Type} (s : Session) (c : Codec (Response α)) (path : String) (content : α)
    (l : Link) : Prop :=
  ∃ replica url reply, (l.select s).1 = some replica
    ∧ replica.endpoint path = .ok url
    ∧ l.line.next.outcome = .ok reply
    ∧ Line.inTime l.line.next.delay (s.queryTimeout.map Duration.length) = true
    ∧ reply.status = 200
    ∧ Carries s.trusted.verify replica.id c content reply.body

/-- A query that is answered gives the content of the answer. -/
theorem ask_of_answers {α : Type} {fields : Fields (α × Unit)} (hfields : fields.Faithful)
    (hname : "header" ∉ fields.names) {path : String} {content : α}
    (h : s.Answers (Response.codec fields) path content l) :
  s.ask (Response.codec fields) path l
    = (.ok content, (s.ask (Response.codec fields) path l).2)
  := by
  obtain ⟨replica, url, reply, hreplica, hurl, houtcome, htime, hstatus, hcarries⟩ := h
  have hreceives : s.Receives l.line.next reply := ⟨houtcome, inTime_query_iff.1 htime⟩
  rw [ask_of_receives ⟨hreplica, hurl⟩ hreceives]
  congr 1
  exact readReply_eq_ok_iff.2 ⟨hstatus, _, authenticate_of_carries hfields hname hcarries, rfl⟩

/-- A query that is answered takes one delivery off the line. -/
theorem deliveries_ask_of_answers {α : Type} {c : Codec (Response α)} {path : String} {content : α}
    (h : s.Answers c path content l) :
  (s.ask c path l).2.line.deliveries = l.line.deliveries.tail
  := by
  obtain ⟨replica, url, reply, hreplica, hurl, -⟩ := h
  rw [ask_of_addresses ⟨hreplica, hurl⟩]
  rfl

theorem ask_inclusionProof {path : String} {hashes : List Digest}
    (h : s.Answers Response.inclusionProofCodec path hashes l) :
  s.ask Response.inclusionProofCodec path l
    = (.ok hashes, (s.ask Response.inclusionProofCodec path l).2)
  := by
  apply ask_of_answers _ (by decide) h
  exact .required Codec.faithful_digest.list Fields.faithful_done (by decide)

theorem ask_path {path : String} {headers : List BlockHeader}
    (h : s.Answers Response.pathCodec path headers l) :
  s.ask Response.pathCodec path l = (.ok headers, (s.ask Response.pathCodec path l).2)
  := by
  apply ask_of_answers _ (by decide) h
  exact .required BlockHeader.faithful_codec.list Fields.faithful_done (by decide)

/-! ### Paths that are answered -/

section Paths

variable {c : Chain s.scheme} {first last : BlockHeader}

/-- The path between two blocks that an honest replica gives is accepted and right. -/
theorem ledgerPath_of_answers (hskips : c.Skips) (hfirst : first ∈ c.headers)
    (hlast : last ∈ c.headers) (h : first.number < last.number)
    (hanswers : s.Answers Response.pathCodec (rangePath first.number last.number)
      (c.pathHeaders first.number last.number) l) :
  ∃ path l', s.ledgerPath first.number last.number l = (.ok path, l')
    ∧ path.verify s.scheme = .ok true
    ∧ path.newest? = some last ∧ path.oldest? = some first
  := by
  obtain ⟨hlinks, hhead, hend⟩ := hskips.pathHeaders_spec hfirst hlast (UInt64.le_of_lt h)
  use ⟨c.pathHeaders first.number last.number⟩,
    (s.ask Response.pathCodec (rangePath first.number last.number) l).2
  constructor
  · apply ledgerPath_eq_ok.2
    constructor
    · simp [isRange, Chain.one_le_number hfirst, UInt64.le_of_lt h]
    constructor
    · exact ask_path hanswers
    · simp [LedgerPath.newest?, LedgerPath.oldest?, hhead, hend]
  constructor
  · unfold LedgerPath.verify
    split
    · next hnil =>
      have hnil : c.pathHeaders first.number last.number = [] := hnil
      rw [hnil] at hhead
      cases hhead
    · next header hsingle =>
      exact absurd hsingle (hskips.pathHeaders_ne_singleton hfirst hlast h header)
    · rw [hlinks]
  · exact ⟨hhead, hend⟩

end Paths

/-! ### Full proofs that are answered -/

section FullProofs

variable {c : Chain s.scheme} {b : Block} {anchor : BlockHeader} {index : UInt64}

/-- The queries of a full proof are answered by what the chain holds, each on the link that the
part before it leaves. -/
structure AnswersFullProof (s : Session) (c : Chain s.scheme) (b : Block) (index : UInt64)
    (anchor : BlockHeader) (l : Link) : Prop where
  inclusion : s.Answers Response.inclusionProofCodec (txProofPath b.header.number index)
    (b.proofHashes s.scheme index.toNat) l
  toGenesis : genesis < b.header.number →
    s.Answers Response.pathCodec (rangePath genesis b.header.number)
      (c.pathHeaders genesis b.header.number) (s.txProof b.header.number index l).2
  fromAnchor : b.header.number < anchor.number →
    s.Answers Response.pathCodec (rangePath b.header.number anchor.number)
      (c.pathHeaders b.header.number anchor.number)
      (s.pathToGenesis b.header (s.txProof b.header.number index l).2).2

theorem pathToGenesis_of_answers (hskips : c.Skips) (hb : b ∈ c.blocks)
    (hanswers : genesis < b.header.number →
      s.Answers Response.pathCodec (rangePath genesis b.header.number)
        (c.pathHeaders genesis b.header.number) l) :
  ∃ path? l', s.pathToGenesis b.header l = (.ok (path?, true), l')
    ∧ (path? = none ↔ b.header.number = 1)
  := by
  have hheader := Chain.mem_headers hb
  have hone := Chain.one_le_number hheader
  by_cases h : genesis < b.header.number
  · obtain ⟨first, hfirst⟩ := Chain.exists_header? hheader (UInt64.le_refl 1) hone
    obtain ⟨hmem, hnumber⟩ := Chain.number_of_header? hfirst
    have hgenesis : genesis = first.number := hnumber.symm
    have hbefore := h
    have hanswered := hanswers h
    rw [hgenesis] at hbefore hanswered
    obtain ⟨path, l', hpath, hverify, hnewest, holdest⟩ :=
      ledgerPath_of_answers hskips hmem hheader hbefore hanswered
    rw [← hgenesis] at hpath
    use some path, l'
    constructor
    · apply pathToGenesis_eq_ok.2
      refine .inl ⟨h, path, true, hpath, hverify, rfl, ?_⟩
      rw [hnewest, holdest, hgenesis]
      simp [hasHash]
    · constructor
      · nofun
      · intro hn
        rw [hn] at h
        exact absurd h (UInt64.lt_irrefl _)
  · use none, l
    constructor
    · exact pathToGenesis_eq_ok.2 (.inr ⟨h, rfl, rfl, rfl⟩)
    · constructor
      · exact fun _ => UInt64.le_antisymm (UInt64.not_lt.1 h) hone
      · exact fun _ => rfl

theorem pathFromAnchor_of_answers (hskips : c.Skips) (hb : b ∈ c.blocks)
    (hanchor : anchor ∈ c.headers) (hle : b.header.number ≤ anchor.number)
    (hanswers : b.header.number < anchor.number →
      s.Answers Response.pathCodec (rangePath b.header.number anchor.number)
        (c.pathHeaders b.header.number anchor.number) l) :
  ∃ path? l', s.pathFromAnchor anchor b.header l = (.ok (path?, true), l')
    ∧ (path? = none ↔ anchor.number = b.header.number)
  := by
  have hheader := Chain.mem_headers hb
  by_cases h : b.header.number < anchor.number
  · obtain ⟨path, l', hpath, hverify, hnewest, holdest⟩ :=
      ledgerPath_of_answers hskips hheader hanchor h (hanswers h)
    use some path, l'
    constructor
    · apply pathFromAnchor_eq_ok.2
      refine .inl ⟨h, path, true, hpath, hverify, rfl, ?_⟩
      rw [hnewest, holdest]
      simp [hasHash]
    · constructor
      · nofun
      · intro hn
        rw [hn] at h
        exact absurd h (UInt64.lt_irrefl _)
  · have hn : anchor.number = b.header.number := UInt64.le_antisymm (UInt64.not_lt.1 h) hle
    have hsame := Chain.eq_of_number_eq hanchor hheader hn
    use none, l
    constructor
    · apply pathFromAnchor_eq_ok.2
      refine .inr ⟨h, rfl, ?_, rfl⟩
      rw [hsame]
      simp
    · exact ⟨fun _ => hn, fun _ => rfl⟩

theorem txProof_of_answers {block : UInt64} {hashes : List Digest}
    (h : s.Answers Response.inclusionProofCodec (txProofPath block index) hashes l) :
  s.txProof block index l
    = (.ok ⟨hashes⟩, (s.ask Response.inclusionProofCodec (txProofPath block index) l).2)
  := txProof_eq_ok.2 (ask_inclusionProof h)

/-- The full proof of a transaction of a chain that skips, against a header that is not before its
block: if its queries are answered by what the chain holds, it is verified; the path to the first
block is missing exactly for the first block, and the path from the anchor exactly if the anchor is
the header of the block. -/
theorem fullProof_complete (hskips : c.Skips) (hb : b ∈ c.blocks) {envelope : Envelope}
    (he : b.envelopes[index.toNat]? = some envelope)
    (hindex : TxTree.HasProof s.scheme index.toNat) (hanchor : anchor ∈ c.headers)
    (hle : b.header.number ≤ anchor.number) (hanswers : s.AnswersFullProof c b index anchor l) :
  ∃ p l', s.fullProof ⟨b.header, index⟩ anchor envelope l = (.ok p, l')
    ∧ p.verified = true
    ∧ (p.toGenesis = none ↔ b.header.number = 1)
    ∧ (p.fromAnchor = none ↔ anchor.number = b.header.number)
  := by
  have hfilled : b.envelopes ≠ [] := by
    intro hempty
    rw [hempty] at he
    cases he
  have hverify := (c.committed b hb hfilled).verify_proofHashes hindex he
  have hinclusion := txProof_of_answers hanswers.inclusion
  obtain ⟨toGenesis, l₂, hgenesis, hfirst⟩ :=
    pathToGenesis_of_answers hskips hb hanswers.toGenesis
  have hlast := hanswers.fromAnchor
  rw [hgenesis] at hlast
  rw [hinclusion] at hgenesis
  obtain ⟨fromAnchor, l', hpath, hsame⟩ := pathFromAnchor_of_answers hskips hb hanchor hle hlast
  use ⟨true, ⟨b.proofHashes s.scheme index.toNat⟩, toGenesis, fromAnchor⟩, l'
  constructor
  · apply fullProof_eq_ok.2
    exact ⟨hle, _, l₂, true, true, true, hinclusion, hverify, hgenesis, hpath, rfl⟩
  · exact ⟨rfl, hfirst, hsame⟩

end FullProofs

end Session

/-! ### A chain of two blocks -/

namespace Sample

def scheme : Scheme := ⟨.sha256, .json, .indexBits⟩

def envelope : Envelope := .database ⟨⟨"alice", "tx", ["db"], []⟩, []⟩

def zero : Digest := ⟨List.replicate 32 0, List.length_replicate⟩

/-- The header of the first block, which has no transactions. -/
def first : BlockHeader := ⟨⟨1, zero, zero, 0⟩, [], zero, zero, []⟩

/-- The header of the second block, which has one transaction. -/
def second : BlockHeader :=
  ⟨⟨2, zero, zero, 1⟩, [first.hash scheme], leafHash scheme envelope .valid, zero, [.valid]⟩

theorem commits_second :
  Block.Commits scheme ⟨second, [envelope]⟩
  := by
  constructor
  · rfl
  · show some (TxTree.rootOver scheme (leafHash scheme envelope .valid) []) = _
    rw [TxTree.rootOver]
    rfl

def chain : Chain scheme where
  blocks := [⟨first, []⟩, ⟨second, [envelope]⟩]
  numbered k b h := by
    match k with
    | 0 =>
      cases h
      rfl
    | 1 =>
      cases h
      rfl
  committed b hb hfilled := by
    simp only [List.mem_cons, List.not_mem_nil, or_false] at hb
    rcases hb with rfl | rfl
    · exact absurd rfl hfilled
    · exact commits_second

theorem skips_chain :
  chain.Skips
  := by
  have htargets : SkipList.targets 1 = [] ∧ SkipList.targets 2 = [1] := by decide +kernel
  have hfirst : chain.header? 1 = some first := rfl
  intro h hh
  simp only [Chain.headers, chain, List.map_cons, List.map_nil, List.mem_cons, List.not_mem_nil,
    or_false] at hh
  rcases hh with rfl | rfl
  · rw [show first.number = 1 from rfl, htargets.1]
    rfl
  · rw [show second.number = 2 from rfl, htargets.2, List.filterMap_cons, hfirst]
    rfl

theorem pathHeaders_chain :
  chain.pathHeaders 1 2 = [second, first]
  := by
  have hpath : SkipList.path 1 2 = [2, 1] := by decide +kernel
  rw [Chain.pathHeaders, hpath]
  rfl

theorem proofHashes_second :
  Block.proofHashes scheme ⟨second, [envelope]⟩ 0 = [leafHash scheme envelope .valid]
  := by
  have hleaf : (Block.leaves scheme ⟨second, [envelope]⟩) = [leafHash scheme envelope .valid] := rfl
  rw [Block.proofHashes, Block.tree?, hleaf]
  simp only [TxTree.build?, Option.bind_some, TxTree.proof?, TxTree.leaves]
  rw [TxTree.siblings?]
  rfl

/-! ### A replica that answers -/

/-- The bytes that a text of hexadecimal digits stands for. -/
def ofHex (t : String) : Bytes := (Hex.decode? (Bytes.ofText t)).getD []

def key : PublicKey := ⟨ofHex "ea4a6c63e29c520abef5507b132ec5f9954776aebebe7b92421eea691446d22c"⟩

def replica : Replica :=
  ⟨"node1", ⟨"http", some ⟨"", "", "127.0.0.1", some 6001⟩, .segments [""], none, none⟩⟩

abbrev session : Session where
  signer := ⟨"alice", List.replicate 32 1⟩
  replicas := [replica]
  policy := .firstAvailable
  trusted := ⟨TextMap.empty.insert "node1" key⟩
  commitTimeout := .ofSeconds 1
  queryTimeout := none
  scheme := scheme

def proofText : Bytes :=
  Response.inclusionProofCodec.json ⟨"node1", [leafHash scheme envelope .valid]⟩

def pathText : Bytes := Response.pathCodec.json ⟨"node1", [second, first]⟩

def proofSignature : Bytes :=
  ofHex ("6068ca95dd4aba5bf964b378543d1112005be0f0a0b227f4d820ada74432dc07"
    ++ "62600b843294b996172da097030982add61e169383c8391d353e7f323f78be01")

def pathSignature : Bytes :=
  ofHex ("3017be2ea511cb2427983bc9a83504b9f12b4b6dc8c999363ba604fb96046b43"
    ++ "332153133669c8b02224bbb9e519087452fd8d1b7f8550db31d2e693e0049b07")

/-- The delivery of a signed text. -/
def delivery (text signature : Bytes) : Delivery :=
  ⟨.ok ⟨200, SignedReply.codec.json ⟨text, signature⟩⟩, 5⟩

/-- A link with the deliveries of the proof of a transaction and of a path. -/
def link : Link :=
  .start [delivery proofText proofSignature, delivery pathText pathSignature]

theorem verify_of_signature {text signature : Bytes} (hlength : signature.length = 64)
    (h : Ed25519.verify key.bytes text signature = true) :
  session.trusted.verify "node1" text signature = .ok ()
  := by
  have hkey : session.trusted.keys.get? "node1" = some key := rfl
  rw [KeyTable.verify, hkey]
  simp only [hlength, ne_eq, not_true_eq_false, if_false, h, if_true]

theorem verify_proofText :
  session.trusted.verify "node1" proofText proofSignature = .ok ()
  := verify_of_signature (by decide +kernel) (by decide +kernel)

theorem verify_pathText :
  session.trusted.verify "node1" pathText pathSignature = .ok ()
  := verify_of_signature (by decide +kernel) (by decide +kernel)

/-- The replica has an endpoint for a path that can be joined to its URL. -/
theorem exists_endpoint {path : String} (h : (replica.endpoint path).toOption.isSome = true) :
  ∃ url, replica.endpoint path = .ok url
  := by
  cases he : replica.endpoint path with
  | ok url => exact ⟨url, rfl⟩
  | error cause =>
    rw [he] at h
    cases h

theorem answers_of_delivery {α : Type} {c : Codec (Response α)} {path : String} {content : α}
    {signature : Bytes} {l : Link} {r : List Delivery}
    (hurl : (replica.endpoint path).toOption.isSome = true)
    (hdelivery : l.line.deliveries = delivery (c.json ⟨"node1", content⟩) signature :: r)
    (hsigned : session.trusted.verify "node1" (c.json ⟨"node1", content⟩) signature = .ok ()) :
  session.Answers c path content l
  := by
  obtain ⟨url, hurl⟩ := exists_endpoint hurl
  have hnext : l.line.next = delivery (c.json ⟨"node1", content⟩) signature := by
    rw [Line.next, hdelivery]
    rfl
  use replica, url, ⟨200, SignedReply.codec.json ⟨c.json ⟨"node1", content⟩, signature⟩⟩
  rw [hnext]
  exact ⟨rfl, hurl, rfl, rfl, rfl, .written signature rfl hsigned⟩

theorem answers_inclusion :
  session.Answers Response.inclusionProofCodec (Session.txProofPath 2 0)
    [leafHash scheme envelope .valid] link
  := answers_of_delivery (by decide +kernel) rfl verify_proofText

theorem answersFullProof :
  session.AnswersFullProof chain ⟨second, [envelope]⟩ 0 second link
  where
  inclusion := by
    rw [show (0 : UInt64).toNat = 0 from rfl, proofHashes_second]
    exact answers_inclusion
  toGenesis _ := by
    have hrest := Session.deliveries_ask_of_answers answers_inclusion
    show session.Answers Response.pathCodec (Session.rangePath 1 2) (chain.pathHeaders 1 2)
      (session.txProof 2 0 link).2
    rw [pathHeaders_chain, Session.txProof_of_answers answers_inclusion]
    exact answers_of_delivery (by decide +kernel) hrest verify_pathText
  fromAnchor h := absurd h (UInt64.lt_irrefl _)

end Sample

theorem Session.fullProof_complete_sample :
  ∃ p l', Sample.session.fullProof ⟨Sample.second, 0⟩ Sample.second Sample.envelope Sample.link
      = (.ok p, l')
    ∧ p.verified = true
    ∧ (p.toGenesis = none ↔ Sample.second.number = 1)
    ∧ (p.fromAnchor = none ↔ Sample.second.number = Sample.second.number)
  := by
  have hb : ⟨Sample.second, [Sample.envelope]⟩ ∈ Sample.chain.blocks :=
    List.mem_cons_of_mem _ List.mem_cons_self
  apply fullProof_complete (s := Sample.session) (c := Sample.chain) Sample.skips_chain hb
  · rfl
  · exact .inl rfl
  · exact Chain.mem_headers hb
  · exact UInt64.le_refl _
  · exact Sample.answersFullProof

end LedgerTrust
