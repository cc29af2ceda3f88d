import LedgerTrust.Net.SignedReply
import LedgerTrust.Proofs.Codec.Record
import LedgerTrust.Proofs.Ledger.Block

/-!
# Responses are read back

The codecs of responses are faithful, and the name of the node that is read before the signature
is checked is that of the response. So a body is accepted that carries a response of the node
asked, with a signature that the verifier accepts: as it is written in canonical form, or in any
form of an object that is read as this response.
-/

namespace LedgerTrust

open Codec Fields

theorem Response.faithful_headerCodec :
  Response.headerCodec.Faithful
  := by
  apply faithful_record _ fun _ => rfl
  exact .required faithful_text faithful_done (by decide)

/-- Responses are read back if their content is. -/
theorem Response.faithful_codec {α : Type} {content : Fields (α × Unit)}
    (hcontent : content.Faithful) (hname : "header" ∉ content.names) :
  (Response.codec content).Faithful
  := by
  apply faithful_record _ fun _ => rfl
  exact .required Response.faithful_headerCodec hcontent hname

/-- Responses are written as objects. -/
theorem Response.members?_json {α : Type} {content : Fields (α × Unit)}
    (hcontent : content.Faithful) (hname : "header" ∉ content.names) (response : Response α) :
  ∃ ms, Json.members? ((Response.codec content).json response) = some ms
  := ⟨_, members?_product (.required Response.faithful_headerCodec hcontent hname) _⟩

/-! ### The name of the node -/

/-- The text of one value, an object. -/
def Json.IsObject (t : Bytes) : Prop := ∃ ms, (Json.document? t).bind Json.members? = some ms

/-- The node that a response in the form of an object names is read on its own. -/
theorem Response.nodeCodec_ofJson? {α : Type} {content : Fields (α × Unit)} {t : Bytes}
    {response : Response α} (hobject : Json.IsObject t)
    (h : (Response.codec content).ofJson? t = some response) :
  Response.nodeCodec.ofJson? t = some response.nodeId
  := by
  obtain ⟨ms, hms⟩ := hobject
  obtain ⟨d, hd, hmembers⟩ := Option.bind_eq_some_iff.1 hms
  obtain ⟨d', ⟨node, others⟩, hd', rfl, hread⟩ := ofJson?_record_iff.1 h
  cases hd.symm.trans hd'
  rcases json?_product_iff.1 hread with ⟨ms', hms', hfields⟩ | ⟨ts, hts, -⟩
  · obtain ⟨hheader, -⟩ := ofMembers?_required_iff.1 hfields
    have hnode : (product (required "header" Response.headerCodec done)).json? d
        = some (node, ()) :=
      json?_product_iff.2 (.inl ⟨ms', hms', ofMembers?_required_iff.2 ⟨hheader, rfl⟩⟩)
    exact ofJson?_record_iff.2 ⟨d, _, hd, rfl, hnode⟩
  · cases (Json.elements?_of_members? hmembers).symm.trans hts

/-- The node that is read on its own is the node of the response, whatever form the response has. -/
theorem Response.nodeId_eq {α : Type} {content : Fields (α × Unit)} {t : Bytes} {declared : String}
    {response : Response α} (hnode : Response.nodeCodec.ofJson? t = some declared)
    (h : (Response.codec content).ofJson? t = some response) :
  response.nodeId = declared
  := by
  obtain ⟨d, ⟨first, u⟩, hd, rfl, hread⟩ := ofJson?_record_iff.1 hnode
  obtain ⟨d', ⟨first', others⟩, hd', rfl, hread'⟩ := ofJson?_record_iff.1 h
  cases hd.symm.trans hd'
  rcases json?_product_iff.1 hread with ⟨ms, hms, hfields⟩ | ⟨ts, hts, hfields⟩
  · rcases json?_product_iff.1 hread' with ⟨ms', hms', hfields'⟩ | ⟨ts', hts', -⟩
    · cases hms.symm.trans hms'
      obtain ⟨⟨w, hw, hfirst⟩, -⟩ := ofMembers?_required_iff.1 hfields
      obtain ⟨⟨w', hw', hfirst'⟩, -⟩ := ofMembers?_required_iff.1 hfields'
      cases hw.symm.trans hw'
      exact Option.some.inj (hfirst'.symm.trans hfirst)
    · cases (Json.elements?_of_members? hms).symm.trans hts'
  · rcases json?_product_iff.1 hread' with ⟨ms', hms', -⟩ | ⟨ts', hts', hfields'⟩
    · cases (Json.elements?_of_members? hms').symm.trans hts
    · cases hts.symm.trans hts'
      obtain ⟨w, r, rfl, hfirst, -⟩ := ofElements?_required_iff.1 hfields
      obtain ⟨w', r', he, hfirst', -⟩ := ofElements?_required_iff.1 hfields'
      cases he
      exact Option.some.inj (hfirst'.symm.trans hfirst)

/-! ### Signed replies -/

/-- A signed reply is read back, if what is signed is one value of JSON. -/
theorem SignedReply.ofJson?_json {t : Bytes} (ht : Json.Delimited t) (htext : Bytes.IsText t)
    (signature : Bytes) :
  SignedReply.codec.ofJson? (SignedReply.codec.json ⟨t, signature⟩) = some ⟨t, signature⟩
  := by
  have hsignature := faithful_base64Bytes.delimited signature
  have hparts : ∀ m ∈ [("response", t), ("signature", base64Bytes.json signature)],
      Json.Delimited m.2 := by
    simp [ht, hsignature]
  have hjson : SignedReply.codec.json ⟨t, signature⟩
      = Json.object [("response", t), ("signature", base64Bytes.json signature)] := rfl
  have hfirst : textsOf "response" [("response", t), ("signature", base64Bytes.json signature)]
      = [t] := rfl
  have hsecond : textsOf "signature" [("response", t), ("signature", base64Bytes.json signature)]
      = [base64Bytes.json signature] := rfl
  have hverbatim : SignedReply.verbatim.json? t = some t := if_pos htext.isSome_toText?
  rw [hjson, ofJson?, (Json.delimited_object hparts).document?_eq, Option.bind_some]
  simp only [SignedReply.codec, record, viaMap, product, Json.members?_object hparts]
  simp only [required, field, done, hfirst, hsecond, hverbatim, faithful_base64Bytes.json?_json]
  rfl

/-- The body of a reply carries a response of a node with the given content, and a signature of
it that the verifier accepts. -/
inductive Carries {α : Type} (verify : Verifier) (node : String) (c : Codec (Response α))
    (content : α) (body : Bytes) : Prop
  /-- The response and the signature are written in canonical form. -/
  | written (signature : Bytes)
      (hbody : body = SignedReply.codec.json ⟨c.json ⟨node, content⟩, signature⟩)
      (hsigned : verify node (c.json ⟨node, content⟩) signature = .ok ())
  /-- The response is an object that is read as such. -/
  | read (reply : SignedReply) (hbody : SignedReply.codec.ofJson? body = some reply)
      (hobject : Json.IsObject reply.response)
      (hresponse : c.ofJson? reply.response = some ⟨node, content⟩)
      (hsigned : verify node reply.response reply.signature = .ok ())

/-- A response is accepted exactly if the parts of the reply are. -/
theorem authenticate_eq_ok_iff {α : Type} {verify : Verifier} {expected : String}
    {c : Codec (Response α)} {body : Bytes} {response : Response α} :
  authenticate verify expected c body = .ok response
    ↔ ∃ reply, SignedReply.codec.ofJson? body = some reply
      ∧ Response.nodeCodec.ofJson? reply.response = some expected
      ∧ verify expected reply.response reply.signature = .ok ()
      ∧ c.ofJson? reply.response = some response
  := by
  constructor
  · intro h
    unfold authenticate at h
    split at h
    · cases h
    next reply hreply =>
    split at h
    · cases h
    next declared hnode =>
    split at h
    · cases h
    next hne =>
    obtain rfl := not_not.1 hne
    split at h
    · cases h
    next hsigned =>
    split at h
    · cases h
    next hresponse =>
    cases h
    exact ⟨reply, hreply, hnode, hsigned, hresponse⟩
  · rintro ⟨reply, hreply, hnode, hsigned, hresponse⟩
    simp [authenticate, hreply, hnode, hsigned, hresponse]

/-- A body that carries a response is accepted. -/
theorem authenticate_of_carries {α : Type} {verify : Verifier} {node : String}
    {content : Fields (α × Unit)} (hcontent : content.Faithful)
    (hname : "header" ∉ content.names) {value : α} {body : Bytes}
    (h : Carries verify node (Response.codec content) value body) :
  authenticate verify node (Response.codec content) body = .ok ⟨node, value⟩
  := by
  cases h with
  | written signature hbody hsigned =>
    have hfaithful := Response.faithful_codec hcontent hname
    have hresponse := hfaithful.ofJson?_json ⟨node, value⟩
    have hdelimited := hfaithful.delimited ⟨node, value⟩
    have hread := SignedReply.ofJson?_json hdelimited (hfaithful.isText _) signature
    rw [← hbody] at hread
    have hobject : Json.IsObject ((Response.codec content).json ⟨node, value⟩) := by
      obtain ⟨ms, hms⟩ := Response.members?_json hcontent hname ⟨node, value⟩
      use ms
      rw [hdelimited.document?_eq, Option.bind_some, hms]
    have hnode := Response.nodeCodec_ofJson? hobject hresponse
    exact authenticate_eq_ok_iff.2 ⟨_, hread, hnode, hsigned, hresponse⟩
  | read reply hbody hobject hresponse hsigned =>
    have hnode := Response.nodeCodec_ofJson? hobject hresponse
    exact authenticate_eq_ok_iff.2 ⟨reply, hbody, hnode, hsigned, hresponse⟩

end LedgerTrust
