import LedgerTrust.Proofs.Ledger.Response
import LedgerTrust.Session.Query

/-!
# What a query gives

A query either has nowhere to go, and then it fails before anything is sent, or it goes to one
replica. A content comes out of it exactly if this replica replies in time with status 200 and its
signature covers the content.
-/

namespace LedgerTrust

namespace Session

variable {α : Type} {s : Session} {c : Codec (Response α)} {path : String} {l l' : Link}

/-! ### Where a query goes -/

/-- The next query for a path goes to a URL, that of the endpoint that the replica whose turn it is
has for it. -/
def Addresses (s : Session) (path : String) (l : Link) (replica : Replica) (url : Url) : Prop :=
  (l.select s).1 = some replica ∧ replica.endpoint path = .ok url

/-- The next query for a path goes nowhere, and so fails: there is no replica, or the one whose turn
it is has no endpoint for the path. -/
inductive GoesNowhere (s : Session) (path : String) (l : Link) : QueryError → Prop
  | noReplica (hreplica : (l.select s).1 = none) : GoesNowhere s path l .noReplica
  | noEndpoint {replica : Replica} {cause : TransportError}
      (hreplica : (l.select s).1 = some replica) (hurl : replica.endpoint path = .error cause) :
    GoesNowhere s path l (.transport cause)

theorem exists_addresses_or_goesNowhere (s : Session) (path : String) (l : Link) :
  (∃ replica url, s.Addresses path l replica url) ∨ ∃ e, s.GoesNowhere path l e
  := by
  cases hreplica : (l.select s).1 with
  | none => exact .inr ⟨_, .noReplica hreplica⟩
  | some replica =>
    cases hurl : replica.endpoint path with
    | error cause => exact .inr ⟨_, .noEndpoint hreplica hurl⟩
    | ok url => exact .inl ⟨replica, url, hreplica, hurl⟩

theorem ask_of_goesNowhere {e : QueryError} (h : s.GoesNowhere path l e) :
  s.ask c path l = (.error e, (l.select s).2)
  := by
  cases h with
  | noReplica hreplica => simp only [ask, hreplica]
  | noEndpoint hreplica hurl => simp only [ask, hreplica, hurl]

/-! ### What comes back -/

/-- By the deadline of queries, a reply is delivered. -/
def Receives (s : Session) (d : Delivery) (reply : Reply) : Prop :=
  d.outcome = .ok reply ∧ ∀ deadline, s.queryTimeout = some deadline → d.delay ≤ deadline.length

/-- The link after the query for a path was sent to a URL. -/
def queried (s : Session) (path : String) (l : Link) (url : Url) : Link :=
  ((l.select s).2.exchange (s.queryRequest url path) (s.queryTimeout.map Duration.length)).2

theorem inTime_query_iff {d : Delivery} :
  Line.inTime d.delay (s.queryTimeout.map Duration.length) = true
    ↔ ∀ deadline, s.queryTimeout = some deadline → d.delay ≤ deadline.length
  := by
  cases s.queryTimeout with
  | none => simp [Line.inTime]
  | some deadline => simp [Line.inTime]

/-- The reading of what a query that was sent leads to: what is delivered, if that is in time. -/
theorem ask_of_addresses {replica : Replica} {url : Url} (h : s.Addresses path l replica url) :
  s.ask c path l
    = (s.readReception c replica
        (if Line.inTime l.line.next.delay (s.queryTimeout.map Duration.length) then
          some l.line.next.outcome
        else none),
      s.queried path l url)
  := by
  obtain ⟨hreplica, hurl⟩ := h
  simp only [ask, hreplica, hurl]
  rfl

/-- A query that was sent and is answered gives what the reply is read as. -/
theorem ask_of_receives {replica : Replica} {url : Url} {reply : Reply}
    (haddress : s.Addresses path l replica url) (h : s.Receives l.line.next reply) :
  s.ask c path l = (s.readReply c replica reply, s.queried path l url)
  := by
  obtain ⟨houtcome, htime⟩ := h
  rw [ask_of_addresses haddress, if_pos (inTime_query_iff.2 htime), houtcome]
  rfl

/-- A query gives something only if it was sent and a reply to it was received. -/
theorem receives_of_ask {content : α} (h : s.ask c path l = (.ok content, l')) :
  ∃ replica url reply, s.Addresses path l replica url ∧ s.Receives l.line.next reply
    ∧ s.readReply c replica reply = .ok content ∧ l' = s.queried path l url
  := by
  obtain ⟨replica, url, haddress⟩ | ⟨e, hnowhere⟩ := s.exists_addresses_or_goesNowhere path l
  · rw [ask_of_addresses haddress] at h
    split at h
    · next htime =>
      cases houtcome : l.line.next.outcome with
      | error cause =>
        rw [houtcome] at h
        cases h
      | ok reply =>
        rw [houtcome] at h
        obtain ⟨hread, hlink⟩ := Prod.mk.inj h
        exact ⟨replica, url, reply, haddress, ⟨houtcome, inTime_query_iff.1 htime⟩, hread,
          hlink.symm⟩
    · cases h
  · rw [ask_of_goesNowhere hnowhere] at h
    cases h

/-- Why a query that was sent has no answer. -/
inductive Unanswered : QueryError → Prop
  | timedOut (deadline : Duration) : Unanswered (.timedOut deadline)
  | transport (cause : TransportError) : Unanswered (.transport cause)
  | rejected (status : Nat) (message : String) : Unanswered (.rejected status message)
  | unauthenticated (cause : AuthenticationError) : Unanswered (.unauthenticated cause)

theorem unanswered_of_readReply {replica : Replica} {reply : Reply} {e : QueryError}
    (h : s.readReply c replica reply = .error e) :
  Unanswered e
  := by
  unfold readReply at h
  split at h
  · cases h
    apply Unanswered.rejected
  · split at h
    · cases h
      apply Unanswered.unauthenticated
    · cases h

theorem unanswered_of_readReception {replica : Replica}
    {reception : Option (Except TransportError Reply)} {e : QueryError}
    (h : s.readReception c replica reception = .error e) :
  Unanswered e
  := by
  unfold readReception at h
  split at h
  · cases h
    apply Unanswered.timedOut
  · cases h
    apply Unanswered.transport
  · apply unanswered_of_readReply h

/-! ### Answers -/

/-- An answer to a query: where it was sent, the reply, what is signed in its body, and what that is
read as. -/
structure Answer (α : Type) where
  replica : Replica
  url : Url
  reply : Reply
  signed : SignedReply
  response : Response α

/-- An answer to the next query for a path is trusted. It comes in time from the replica whose turn
it is and has status 200; its body is accepted as one of this very replica, that is, the signature in
it is one of the replica; and the response is what the signed bytes stand for. -/
structure Trusts (s : Session) (c : Codec (Response α)) (path : String) (l : Link)
    (a : Answer α) : Prop where
  addressed : s.Addresses path l a.replica a.url
  received : s.Receives l.line.next a.reply
  status : a.reply.status = 200
  authenticated : authenticate s.trusted.verify a.replica.id c a.reply.body = .ok a.response
  body : SignedReply.codec.ofJson? a.reply.body = some a.signed
  verified : s.trusted.verify a.replica.id a.signed.response a.signed.signature = .ok ()
  decoded : c.ofJson? a.signed.response = some a.response

theorem readReply_eq_ok_iff {replica : Replica} {reply : Reply} {content : α} :
  s.readReply c replica reply = .ok content
    ↔ reply.status = 200 ∧ ∃ response,
      authenticate s.trusted.verify replica.id c reply.body = .ok response
        ∧ response.content = content
  := by
  constructor
  · intro h
    unfold readReply at h
    split at h
    · cases h
    next hstatus =>
    split at h
    · cases h
    next response hresponse =>
    cases h
    exact ⟨not_not.1 hstatus, response, hresponse, rfl⟩
  · rintro ⟨hstatus, response, hresponse, rfl⟩
    have hok : ¬ reply.status ≠ Reply.okStatus := not_not_intro hstatus
    rw [readReply, if_neg hok, hresponse]

theorem readReply_of_status {replica : Replica} {reply : Reply} (h : reply.status ≠ 200) :
  s.readReply c replica reply = .error (.rejected reply.status (rejectionMessage reply.body))
  := if_pos h

/-- A query gives exactly the contents of the answers that are trusted. -/
theorem ask_eq_ok_iff {content : α} :
  s.ask c path l = (.ok content, l')
    ↔ ∃ a : Answer α, s.Trusts c path l a ∧ a.response.content = content
      ∧ l' = s.queried path l a.url
  := by
  constructor
  · intro h
    obtain ⟨replica, url, reply, haddress, hreceives, hread, hlink⟩ := receives_of_ask h
    obtain ⟨hstatus, response, hresponse, hcontent⟩ := readReply_eq_ok_iff.1 hread
    obtain ⟨signed, hbody, -, hverified, hdecoded⟩ := authenticate_eq_ok_iff.1 hresponse
    use ⟨replica, url, reply, signed, response⟩
    exact ⟨⟨haddress, hreceives, hstatus, hresponse, hbody, hverified, hdecoded⟩, hcontent, hlink⟩
  · rintro ⟨a, ha, hcontent, rfl⟩
    rw [ask_of_receives ha.addressed ha.received]
    congr 1
    exact readReply_eq_ok_iff.2 ⟨ha.status, a.response, ha.authenticated, hcontent⟩

end Session

end LedgerTrust
