import Mathlib.Tactic.Use
import LedgerTrust.Proofs.Ledger.Response

/-!
# What is authenticated

A body holds a signed reply if it is an object with exactly one member for the response and one for
the signature, in any order and with any other members, or an array of the two. The response is the
text of a value, byte for byte as it stands in the body. `SignedReply.codec` reads exactly what a
body holds, so what `authenticate` answers is settled by the text that the body holds: whether it
names a node, whether this is the node that was asked, whether the verifier accepts the signature of
this text, and only then whether a response can be read from it. Whatever members a response has and
however it is written, the node it is read with is the one that was checked.
-/

namespace LedgerTrust

open Codec Fields

/-! ### Members by their names -/

namespace Json

/-- The values of the members with a name. -/
def Member.valuesOf (name : String) (ms : List Member) : List Bytes :=
  (ms.filter fun m => text? m.key = some name).map value

/-- The name of each key can be read. -/
theorem exists_gives_iff {ms : List Member} :
  (∃ ns, List.Forall₂ Member.Gives ms ns) ↔ ∀ m ∈ ms, ∃ name, text? m.key = some name
  := by
  constructor
  · rintro ⟨ns, h⟩
    induction h with
    | nil => nofun
    | cons hm _ ih => exact List.forall_mem_cons.2 ⟨⟨_, hm.1⟩, ih⟩
  · intro h
    induction ms with
    | nil => exact ⟨[], .nil⟩
    | cons m ms ih =>
      obtain ⟨⟨name, hname⟩, hms⟩ := List.forall_mem_cons.1 h
      obtain ⟨ns, hns⟩ := ih hms
      exact ⟨(name, m.value) :: ns, .cons ⟨hname, rfl⟩ hns⟩

theorem textsOf_eq_valuesOf {ms : List Member} {ns : List (String × Bytes)}
    (h : List.Forall₂ Member.Gives ms ns) (name : String) :
  textsOf name ns = Member.valuesOf name ms
  := by
  induction h with
  | nil => rfl
  | @cons m n ms ns hm _ ih =>
    obtain ⟨hname, hvalue⟩ := hm
    simp only [textsOf, Member.valuesOf] at ih ⊢
    by_cases hn : n.1 = name
    · rw [List.filter_cons_of_pos (by simpa using hn),
        List.filter_cons_of_pos (by simpa [hname] using hn), List.map_cons, List.map_cons, ih,
        hvalue]
    · rw [List.filter_cons_of_neg (by simpa using hn),
        List.filter_cons_of_neg (by simpa [hname] using hn), ih]

end Json

/-! ### What a body holds -/

namespace SignedReply

/-- The body holds the response, the text of a value as it stands, and a string with the base64
form of the signature. -/
inductive Holds (r : SignedReply) : Bytes → Prop
  /-- The body is an object with one member for each, in any order and whatever its other members
  are. A name may be written with escapes; each key stands for some text. -/
  | object {ms : List Json.Member} {a t b signature : Bytes} (ha : Json.Blank a)
      (hb : Json.Blank b) (hobject : Json.ObjectOf ms t)
      (hnames : ∀ m ∈ ms, ∃ name, Json.text? m.key = some name)
      (hresponse : Json.Member.valuesOf "response" ms = [r.response])
      (hsignature : Json.Member.valuesOf "signature" ms = [signature])
      (htext : Bytes.IsText r.response)
      (hbytes : base64Bytes.json? signature = some r.signature) : Holds r (a ++ (t ++ b))
  /-- The body is an array of the two. -/
  | array {a t b signature : Bytes} (ha : Json.Blank a) (hb : Json.Blank b)
      (harray : Json.ArrayOf [r.response, signature] t) (htext : Bytes.IsText r.response)
      (hbytes : base64Bytes.json? signature = some r.signature) : Holds r (a ++ (t ++ b))

theorem verbatim_json?_iff {t u : Bytes} :
  verbatim.json? t = some u ↔ Bytes.IsText t ∧ t = u
  := by
  have htext : (Bytes.toText? t).isSome = true ↔ Bytes.IsText t := by
    constructor
    · intro h
      obtain ⟨s, hs⟩ := Option.isSome_iff_exists.1 h
      exact ⟨s, Bytes.eq_ofText_of_toText? hs⟩
    · exact Bytes.IsText.isSome_toText?
  simp [verbatim, htext]

/-- A signed reply is read exactly from the bodies that hold it. -/
theorem ofJson?_eq_some_iff {r : SignedReply} {body : Bytes} :
  codec.ofJson? body = some r ↔ r.Holds body
  := by
  rw [codec, ofJson?_record_iff]
  constructor
  · rintro ⟨d, ⟨response, bytes, u⟩, hd, rfl, hread⟩
    obtain ⟨-, a, b, ha, hb, rfl⟩ := Json.document?_eq_some_iff.1 hd
    rcases json?_product_iff.1 hread with ⟨ns, hns, hfields⟩ | ⟨ts, hts, hfields⟩
    · obtain ⟨ms, hobject, hgives⟩ := Json.members?_eq_some_iff.1 hns
      obtain ⟨⟨t, htexts, ht⟩, hfields⟩ := ofMembers?_required_iff.1 hfields
      obtain ⟨⟨signature, htexts', hbytes⟩, -⟩ := ofMembers?_required_iff.1 hfields
      obtain ⟨htext, rfl⟩ := verbatim_json?_iff.1 ht
      rw [Json.textsOf_eq_valuesOf hgives] at htexts htexts'
      exact .object ha hb hobject (Json.exists_gives_iff.1 ⟨ns, hgives⟩) htexts htexts' htext
        hbytes
    · obtain ⟨t, ts, rfl, ht, hfields⟩ := ofElements?_required_iff.1 hfields
      obtain ⟨signature, ts, rfl, hbytes, hfields⟩ := ofElements?_required_iff.1 hfields
      obtain ⟨htext, rfl⟩ := verbatim_json?_iff.1 ht
      cases ofElements?_done_iff.1 hfields
      exact .array ha hb (Json.elements?_eq_some_iff.1 hts) htext hbytes
  · intro h
    cases h with
    | @object ms a t b signature ha hb hobject hnames hresponse hsignature htext hbytes =>
      use t, (r.response, r.signature, ())
      constructor
      · exact Json.document?_eq_some_iff.2 ⟨hobject.value, a, b, ha, hb, rfl⟩
      constructor
      · rfl
      obtain ⟨ns, hgives⟩ := Json.exists_gives_iff.2 hnames
      rw [← Json.textsOf_eq_valuesOf hgives] at hresponse hsignature
      have hverbatim := verbatim_json?_iff.2 ⟨htext, rfl⟩
      apply json?_product_iff.2
      left
      use ns, Json.members?_eq_some_iff.2 ⟨ms, hobject, hgives⟩
      apply ofMembers?_required_iff.2 ⟨⟨_, hresponse, hverbatim⟩, _⟩
      exact ofMembers?_required_iff.2 ⟨⟨_, hsignature, hbytes⟩, rfl⟩
    | @array a t b signature ha hb harray htext hbytes =>
      use t, (r.response, r.signature, ())
      constructor
      · exact Json.document?_eq_some_iff.2 ⟨harray.value, a, b, ha, hb, rfl⟩
      constructor
      · rfl
      have hverbatim := verbatim_json?_iff.2 ⟨htext, rfl⟩
      apply json?_product_iff.2
      right
      use [r.response, signature], Json.elements?_eq_some_iff.2 harray
      apply ofElements?_required_iff.2 ⟨_, _, rfl, hverbatim, _⟩
      exact ofElements?_required_iff.2 ⟨_, _, rfl, hbytes, rfl⟩

end SignedReply

/-! ### The verdict on a body -/

section

variable {α : Type} (verify : Verifier) (node : String) (c : Codec (Response α)) (body : Bytes)

/-- The verdict on a body that holds a reply is that of the first check that fails: the response
names a node, this is the node that was asked, the verifier accepts the signature of the response
byte for byte, and only then is the response read. A body that holds no reply is not readable; this
is so in particular if a key of the object stands for no text. -/
theorem authenticate_verdict :
  (∀ reply : SignedReply, reply.Holds body →
    (Response.nodeCodec.ofJson? reply.response = none →
      authenticate verify node c body = .error .unreadable)
    ∧ (∀ declared, Response.nodeCodec.ofJson? reply.response = some declared →
      declared ≠ node →
      authenticate verify node c body = .error (.unexpectedNode node declared))
    ∧ (∀ cause, Response.nodeCodec.ofJson? reply.response = some node →
      verify node reply.response reply.signature = .error cause →
      authenticate verify node c body = .error (.untrusted node cause))
    ∧ (∀ response, Response.nodeCodec.ofJson? reply.response = some node →
      verify node reply.response reply.signature = .ok () →
      c.ofJson? reply.response = some response →
      authenticate verify node c body = .ok response)
    ∧ (Response.nodeCodec.ofJson? reply.response = some node →
      verify node reply.response reply.signature = .ok () →
      c.ofJson? reply.response = none →
      authenticate verify node c body = .error .unreadable))
  ∧ ((∀ reply : SignedReply, ¬ reply.Holds body) →
    authenticate verify node c body = .error .unreadable)
  := by
  constructor
  · intro reply hreply
    have hread := SignedReply.ofJson?_eq_some_iff.2 hreply
    constructor
    · intro hnode
      simp only [authenticate, hread, hnode]
    constructor
    · intro declared hnode hne
      simp only [authenticate, hread, hnode, if_pos hne]
    constructor
    · intro cause hnode hsigned
      simp [authenticate, hread, hnode, hsigned]
    constructor
    · intro response hnode hsigned hresponse
      exact authenticate_eq_ok_iff.2 ⟨reply, hread, hnode, hsigned, hresponse⟩
    · intro hnode hsigned hresponse
      simp [authenticate, hread, hnode, hsigned, hresponse]
  · intro hnone
    have hread : SignedReply.codec.ofJson? body = none := by
      apply Option.eq_none_iff_forall_ne_some.2
      intro reply hreply
      exact hnone reply (SignedReply.ofJson?_eq_some_iff.1 hreply)
    simp only [authenticate, hread]

end

namespace SignedReply.Sample

/-- A response with white space and with its members in an order that is not that of the fields. -/
def response : Bytes :=
  Bytes.ofText "\x7b \"receipt\": null,  \"header\": \x7b\"node_id\": \"node1\"\x7d \x7d"

/-- A body with the response between white space, after the signature and another member. -/
def body : Bytes :=
  Bytes.ofText "\x7b\"x\": [1, \x7b\x7d], \"signature\":\"AQ==\", \"response\" :  " ++ response
    ++ Bytes.ofText "\n\x7d "

/-- The only signature of the response that is accepted is the byte one, by the first node. -/
def verifier : Verifier := fun node text signature =>
  if node = "node1" ∧ text = response ∧ signature = [1] then .ok ()
  else .error (.invalidSignature node)

theorem holds_body :
  Holds ⟨response, [1]⟩ body
  := by
  apply ofJson?_eq_some_iff.1
  decide +kernel

/-- A body with a response that names no node. -/
def nameless : Bytes := Bytes.ofText "[ null,\"AQ==\"]"

theorem holds_nameless :
  Holds ⟨Json.nullWord, [1]⟩ nameless
  := by
  apply ofJson?_eq_some_iff.1
  decide +kernel

end SignedReply.Sample

/-- Each verdict is given on some body. -/
theorem authenticate_verdict_sample :
  SignedReply.Holds ⟨Json.nullWord, [1]⟩ SignedReply.Sample.nameless
    ∧ authenticate SignedReply.Sample.verifier "node1" Response.submissionCodec
        SignedReply.Sample.nameless = .error .unreadable
    ∧ SignedReply.Holds ⟨SignedReply.Sample.response, [1]⟩ SignedReply.Sample.body
    ∧ authenticate SignedReply.Sample.verifier "node2" Response.submissionCodec
        SignedReply.Sample.body = .error (.unexpectedNode "node2" "node1")
    ∧ authenticate (fun node _ _ => .error (.unknownNode node)) "node1" Response.submissionCodec
        SignedReply.Sample.body = .error (.untrusted "node1" (.unknownNode "node1"))
    ∧ authenticate SignedReply.Sample.verifier "node1" Response.submissionCodec
        SignedReply.Sample.body = .ok ⟨"node1", none⟩
    ∧ authenticate SignedReply.Sample.verifier "node1" Response.blockCodec
        SignedReply.Sample.body = .error .unreadable
    ∧ authenticate SignedReply.Sample.verifier "node1" Response.submissionCodec []
        = .error .unreadable
  := by
  have hnode : Response.nodeCodec.ofJson? SignedReply.Sample.response = some "node1" := by decide +kernel
  have hsigned : SignedReply.Sample.verifier "node1" SignedReply.Sample.response [1] = .ok () :=
    if_pos ⟨rfl, rfl, rfl⟩
  have hverdict := fun verify node {α : Type} (c : Codec (Response α)) =>
    (authenticate_verdict verify node c SignedReply.Sample.body).1 _ SignedReply.Sample.holds_body
  constructor
  · exact SignedReply.Sample.holds_nameless
  constructor
  · apply ((authenticate_verdict _ _ _ _).1 _ SignedReply.Sample.holds_nameless).1
    decide +kernel
  constructor
  · exact SignedReply.Sample.holds_body
  constructor
  · exact (hverdict _ _ _).2.1 "node1" hnode (by decide)
  constructor
  · exact (hverdict _ _ _).2.2.1 _ hnode rfl
  constructor
  · apply (hverdict _ _ _).2.2.2.1 _ hnode hsigned
    decide +kernel
  constructor
  · apply (hverdict _ _ _).2.2.2.2 hnode hsigned
    decide +kernel
  · apply (authenticate_verdict _ _ _ _).2
    intro reply hreply
    cases SignedReply.ofJson?_eq_some_iff.2 hreply

/-! ### The node of a response -/

/-- The codec of one of the types of responses that nodes give. -/
inductive Response.IsServed : {α : Type} → Codec (Response α) → Prop
  | submission : IsServed submissionCodec
  | block : IsServed blockCodec
  | path : IsServed pathCodec
  | inclusionProof : IsServed inclusionProofCodec
  | receipt : IsServed receiptCodec
  | dataProof : IsServed dataProofCodec

/-- All of them read the header and one field more. -/
theorem Response.IsServed.exists_content {α : Type} {c : Codec (Response α)}
    (h : Response.IsServed c) :
  ∃ content : Fields (α × Unit), c = Response.codec content
  := by
  cases h with
  | submission => exact ⟨_, rfl⟩
  | block => exact ⟨_, rfl⟩
  | path => exact ⟨_, rfl⟩
  | inclusionProof => exact ⟨_, rfl⟩
  | receipt => exact ⟨_, rfl⟩
  | dataProof => exact ⟨_, rfl⟩

/-- The node of a response that is accepted is the node that was asked, and it is the node that was
read on its own from the same bytes and whose signature of these bytes the verifier accepted. -/
theorem nodeId_of_authenticate {α : Type} {verify : Verifier} {node : String}
    {c : Codec (Response α)} (hc : Response.IsServed c) {body : Bytes} {response : Response α}
    (h : authenticate verify node c body = .ok response) :
  response.nodeId = node ∧ ∃ reply : SignedReply, reply.Holds body
    ∧ Response.nodeCodec.ofJson? reply.response = some response.nodeId
    ∧ verify response.nodeId reply.response reply.signature = .ok ()
    ∧ c.ofJson? reply.response = some response
  := by
  obtain ⟨content, rfl⟩ := hc.exists_content
  obtain ⟨reply, hread, hnode, hsigned, hresponse⟩ := authenticate_eq_ok_iff.1 h
  have hholds := SignedReply.ofJson?_eq_some_iff.1 hread
  obtain rfl := Response.nodeId_eq hnode hresponse
  exact ⟨rfl, reply, hholds, hnode, hsigned, hresponse⟩

/-- A body in the form of an array, with a response that has an escaped name, a header in the form
of an array and a member of another name. -/
def SignedReply.Sample.mixed : Bytes :=
  Bytes.ofText "[\x7b\"h\\u0065ader\": [\"node1\"], \"x\": 0\x7d, \"\"]"

theorem nodeId_of_authenticate_mixed :
  ∃ response, authenticate (fun _ _ _ => .ok ()) "node1" Response.submissionCodec
      SignedReply.Sample.mixed = .ok response
    ∧ response.nodeId = "node1"
  := by
  have h : authenticate (fun _ _ _ => .ok ()) "node1" Response.submissionCodec
      SignedReply.Sample.mixed = .ok ⟨"node1", none⟩ := by
    decide +kernel
  exact ⟨_, h, (nodeId_of_authenticate .submission h).1⟩

end LedgerTrust
