import LedgerTrust.Proofs.Session.Completeness
import LedgerTrust.Proofs.Session.Operation
import LedgerTrust.Proofs.Url.Join

/-!
# The paths of queries

The path of a query is made of words, which are letters, digits and a few marks, and perhaps of the
name of a database. Joined to a URL of the web it is the path of the request, unless the name is
one that a path does not hold just as it is written.
-/

namespace LedgerTrust

namespace Url

/-! ### Words -/

/-- The characters of words. -/
def isWordChar (c : Char) : Bool := c.isAlphanum || c == '-' || c == '_'

/-- A text of letters, digits, and a few marks. -/
def IsWord (t : String) : Prop := t.toList.all isWordChar = true

theorem isWordChar_spec {c : Char} (h : isWordChar c = true) :
  isVerbatim c = true ∧ specialQuerySet c = false ∧ c.toLower ≠ '.' ∧ c.toLower ≠ '%'
  := by
  have hascii : ∀ n < 128, isWordChar (Char.ofNat n) = true →
      isVerbatim (Char.ofNat n) = true ∧ specialQuerySet (Char.ofNat n) = false
        ∧ (Char.ofNat n).toLower ≠ '.' ∧ (Char.ofNat n).toLower ≠ '%' := by
    decide +kernel
  have hupper : c.isUpper = decide ('A'.val ≤ c.val ∧ c.val ≤ 'Z'.val) := rfl
  have hlower : c.isLower = (decide ('a'.val ≤ c.val) && decide (c.val ≤ 'z'.val)) := rfl
  have hdigit : c.isDigit = (decide ('0'.val ≤ c.val) && decide (c.val ≤ '9'.val)) := rfl
  have hc : c.toNat < 128 := by
    have hcases : (c.isUpper || c.isLower || c.isDigit || c == '-' || c == '_') = true := h
    simp only [hupper, hlower, hdigit, Bool.or_eq_true, Bool.and_eq_true, decide_eq_true_eq,
      beq_iff_eq, UInt32.le_iff_toNat_le] at hcases
    obtain ((((⟨-, hle⟩ | ⟨-, hle⟩) | ⟨-, hle⟩) | rfl) | rfl) := hcases
    · exact Nat.lt_of_le_of_lt hle (by decide)
    · exact Nat.lt_of_le_of_lt hle (by decide)
    · exact Nat.lt_of_le_of_lt hle (by decide)
    · decide
    · decide
  rw [← Char.ofNat_toNat c] at h ⊢
  exact hascii c.toNat hc h

theorem IsWord.isPlain {t : String} (h : IsWord t) :
  IsPlain t
  := by
  have hchars := List.all_eq_true.1 h
  use fun c hc => (isWordChar_spec (hchars c hc)).1
  intro hdot
  have hforms : ∀ f ∈ dotForms, ∃ d ∈ f, d = '.' ∨ d = '%' := by simp [dotForms]
  obtain ⟨d, hd, hmark⟩ := hforms _ (isDot_iff.1 hdot)
  obtain ⟨c, hc, rfl⟩ := List.mem_map.1 hd
  obtain ⟨-, -, hpoint, hpercent⟩ := isWordChar_spec (hchars c hc)
  exact hmark.elim hpoint hpercent

theorem isWord_toString (n : Nat) :
  IsWord (toString n)
  := by
  apply List.all_eq_true.2
  intro c hc
  have hdigit : c.isDigit = true := by
    apply @Nat.isDigit_of_mem_toDigits 10 n c (by decide) (by decide)
    rwa [← Nat.toList_repr]
  rw [isWordChar, Char.isAlphanum, hdigit, Bool.or_true]
  rfl

theorem isWord_hex (b : Bytes) :
  IsWord (Hex.text b)
  := by
  have hdigit : ∀ n : UInt8, n < 16 → isWordChar (Char.ofNat (Hex.digit n).toNat) = true := by
    apply Bytes.forall_byte
    decide +kernel
  apply List.all_eq_true.2
  intro c hc
  obtain ⟨n, hn, rfl⟩ := Hex.exists_digit_of_mem_text hc
  exact hdigit n hn

/-! ### Queries -/

def isQueryChar (c : Char) : Bool := isWordChar c || c == '=' || c == '&'

/-- A text of words and the marks of a query. -/
def IsQuery (t : String) : Prop := t.toList.all isQueryChar = true

theorem IsWord.isQuery {t : String} (h : IsWord t) :
  IsQuery t
  := by
  apply List.all_eq_true.2
  intro c hc
  rw [isQueryChar, List.all_eq_true.1 h c hc]
  rfl

theorem IsQuery.append {t u : String} (ht : IsQuery t) (hu : IsQuery u) :
  IsQuery (t ++ u)
  := by
  rw [IsQuery, String.toList_append, List.all_append, ht, hu]
  rfl

theorem IsQuery.verbatim {t : String} (h : IsQuery t) :
  ∀ c ∈ t.toList, specialQuerySet c = false ∧ c.toNat ≤ 0x7f
  := by
  intro c hc
  have hmark := List.all_eq_true.1 h c hc
  simp only [isQueryChar, Bool.or_eq_true, beq_iff_eq] at hmark
  obtain (hword | rfl) | rfl := hmark
  · obtain ⟨hverbatim, hquery, -⟩ := isWordChar_spec hword
    exact ⟨hquery, (isVerbatim_iff.1 hverbatim).1⟩
  · decide
  · decide

theorem forall_mem_none (P : String → Prop) :
  ∀ t ∈ (none : Option String), P t
  := by
  rintro t ⟨⟩

/-! ### Paths of words and names -/

/-- A path is written by words, by the given names, and by a query. -/
def WrittenBy (path : String) (names : List String) : Prop :=
  ∃ ts q, path = (Path.segments ("ledger" :: ts)).text ++ partAfter "?" q
    ∧ (∀ t ∈ ts, IsWord t ∨ t ∈ names) ∧ (∀ t ∈ names, t ∈ ts) ∧ ∀ t ∈ q, IsQuery t

/-- Joined to a URL of the web, a path that is written by words and names is the path of a request
exactly if the names are plain. -/
theorem WrittenBy.requestPath_eq_iff {path : String} {names : List String} {base u : Url}
    (h : WrittenBy path names) (hweb : base.kind = .web)
    (hnames : ∀ t ∈ names, ∀ c ∈ t.toList, c ≠ '/' ∧ endsPath c = false)
    (hu : base.join path = .ok u) :
  u.requestPath = path ↔ ∀ t ∈ names, IsPlain t
  := by
  obtain ⟨ts, q, rfl, hts, hmem, hq⟩ := h
  have hfirst : IsWord "ledger" := rfl
  have hmarks : ∀ t ∈ ts, ∀ c ∈ t.toList, c ≠ '/' ∧ endsPath c = false := by
    intro t ht
    obtain hword | hname := hts t ht
    · exact fun c hc => not_mark_of_isVerbatim (hword.isPlain.1 c hc)
    · exact hnames t hname
  rw [Url.requestPath_eq_iff hweb (by decide) hfirst.isPlain hmarks
    (fun t ht => (hq t ht).verbatim) hu]
  constructor
  · exact fun h t ht => h t (hmem t ht)
  · exact fun h t ht => (hts t ht).elim IsWord.isPlain (h t)

end Url

open Url

/-! ### Paths of the operations -/

namespace Operation

open Dialogue Session

/-- The name of a database that an operation puts into its paths. -/
def database? : Operation → Option String
  | .dataProof _ database _ _ => some database
  | .verifyValue _ database _ _ _ => some database
  | _ => none

theorem writtenBy_blockPath (number : UInt64) :
  WrittenBy (blockPath number) []
  := by
  have hnumber := isWord_toString number.toNat
  unfold blockPath
  generalize toString number.toNat = n at hnumber ⊢
  refine ⟨["block", n], none, ?_, ?_, List.forall_mem_nil _, forall_mem_none _⟩
  · rw [← String.toList_inj]
    simp [toList_text_segments, partAfter]
  · simp only [List.forall_mem_cons]
    exact ⟨.inl rfl, .inl hnumber, List.forall_mem_nil _⟩

theorem writtenBy_rangePath (first last : UInt64) :
  WrittenBy (rangePath first last) []
  := by
  have hfirst := (isWord_toString first.toNat).isQuery
  have hlast := (isWord_toString last.toNat).isQuery
  unfold rangePath
  generalize toString first.toNat = a at hfirst ⊢
  generalize toString last.toNat = b at hlast ⊢
  refine ⟨["path"], some ("start=" ++ a ++ "&end=" ++ b), ?_, ?_, List.forall_mem_nil _, ?_⟩
  · rw [← String.toList_inj]
    simp [toList_text_segments, partAfter]
  · simp only [List.forall_mem_cons]
    exact ⟨.inl rfl, List.forall_mem_nil _⟩
  · rintro t ⟨⟩
    have hstart : IsQuery "start=" := rfl
    have hend : IsQuery "&end=" := rfl
    exact ((hstart.append hfirst).append hend).append hlast

theorem writtenBy_txProofPath (block index : UInt64) :
  WrittenBy (txProofPath block index) []
  := by
  have hblock := isWord_toString block.toNat
  have hindex := (isWord_toString index.toNat).isQuery
  unfold txProofPath
  generalize toString block.toNat = b at hblock ⊢
  generalize toString index.toNat = i at hindex ⊢
  refine ⟨["proof", "tx", b], some ("idx=" ++ i), ?_, ?_, List.forall_mem_nil _, ?_⟩
  · rw [← String.toList_inj]
    simp [toList_text_segments, partAfter]
  · simp only [List.forall_mem_cons]
    exact ⟨.inl rfl, .inl rfl, .inl hblock, List.forall_mem_nil _⟩
  · rintro t ⟨⟩
    have hmark : IsQuery "idx=" := rfl
    exact hmark.append hindex

theorem writtenBy_receiptPath {txId : String} (h : isTxId txId = true) :
  WrittenBy (receiptPath txId) []
  := by
  have hid : IsWord txId := (Bool.and_eq_true_iff.1 h).2
  unfold receiptPath
  refine ⟨["tx", "receipt", txId], none, ?_, ?_, List.forall_mem_nil _, forall_mem_none _⟩
  · rw [← String.toList_inj]
    simp [toList_text_segments, partAfter]
  · simp only [List.forall_mem_cons]
    exact ⟨.inl rfl, .inl rfl, .inl hid, List.forall_mem_nil _⟩

theorem writtenBy_lastPath :
  WrittenBy "/ledger/block/last" []
  := by
  refine ⟨["block", "last"], none, ?_, ?_, List.forall_mem_nil _, forall_mem_none _⟩
  · rw [← String.toList_inj]
    simp [toList_text_segments, partAfter]
  · simp only [List.forall_mem_cons]
    exact ⟨.inl rfl, .inl rfl, List.forall_mem_nil _⟩

theorem writtenBy_valuePath (block : UInt64) (database key : String) (isDeleted : Bool) :
  WrittenBy (valuePath block database key isDeleted) [database]
  := by
  have hblock := (isWord_toString block.toNat).isQuery
  have hkey := isWord_hex (Bytes.ofText key)
  have hdeleted : IsQuery (if isDeleted then "true" else "false") := by
    cases isDeleted with
    | true => exact rfl
    | false => exact rfl
  unfold valuePath
  generalize toString block.toNat = b at hblock ⊢
  generalize Hex.text (Bytes.ofText key) = k at hkey ⊢
  generalize (if isDeleted then "true" else "false") = d at hdeleted ⊢
  refine ⟨["proof", "data", database, k], some ("block=" ++ b ++ "&deleted=" ++ d), ?_, ?_, ?_, ?_⟩
  · rw [← String.toList_inj]
    simp [toList_text_segments, partAfter]
  · simp only [List.forall_mem_cons]
    exact ⟨.inl rfl, .inl rfl, .inr List.mem_cons_self, .inl hkey, List.forall_mem_nil _⟩
  · simp
  · rintro t ⟨⟩
    have hblockMark : IsQuery "block=" := rfl
    have hdeletedMark : IsQuery "&deleted=" := rfl
    exact ((hblockMark.append hblock).append hdeletedMark).append hdeleted

/-- The paths of an operation are written by words and by the name of its database, which has
passed its check. -/
theorem writtenBy_of_mem_paths {op : Operation} {path : String} (h : path ∈ op.paths) :
  WrittenBy path op.database?.toList
    ∧ ∀ database ∈ op.database?, isDatabaseName database = true
  := by
  cases op with
  | blockHeader number =>
    obtain rfl := List.mem_singleton.1 h
    exact ⟨writtenBy_blockPath number, forall_mem_none _⟩
  | lastBlockHeader =>
    obtain rfl := List.mem_singleton.1 h
    exact ⟨writtenBy_lastPath, forall_mem_none _⟩
  | ledgerPath first last =>
    obtain rfl := List.mem_singleton.1 h
    exact ⟨writtenBy_rangePath first last, forall_mem_none _⟩
  | txProof block index =>
    obtain rfl := List.mem_singleton.1 h
    exact ⟨writtenBy_txProofPath block index, forall_mem_none _⟩
  | txReceipt txId =>
    obtain ⟨hid, h⟩ := List.mem_ite_nil_right.1 h
    obtain rfl := List.mem_singleton.1 h
    exact ⟨writtenBy_receiptPath hid, forall_mem_none _⟩
  | dataProof block database key isDeleted =>
    obtain ⟨hname, h⟩ := List.mem_ite_nil_right.1 h
    obtain rfl := List.mem_singleton.1 h
    use writtenBy_valuePath block database key isDeleted
    rintro _ ⟨⟩
    exact hname
  | verifyValue header database key value isDeleted =>
    obtain ⟨hname, h⟩ := List.mem_ite_nil_right.1 h
    obtain rfl := List.mem_singleton.1 h
    use writtenBy_valuePath header.number database key isDeleted
    rintro _ ⟨⟩
    exact hname
  | fullProof receipt anchor envelope =>
    simp only [paths, List.mem_cons, List.not_mem_nil, or_false] at h
    rcases h with rfl | rfl | rfl
    · exact ⟨writtenBy_txProofPath _ _, forall_mem_none _⟩
    · exact ⟨writtenBy_rangePath _ _, forall_mem_none _⟩
    · exact ⟨writtenBy_rangePath _ _, forall_mem_none _⟩

/-! ### The path of the request -/

theorem not_mark_of_isDatabaseName {database : String} (h : isDatabaseName database = true) :
  ∀ c ∈ database.toList, c ≠ '/' ∧ endsPath c = false
  := by
  intro c hc
  have hmarks := List.all_eq_true.1 (Bool.and_eq_true_iff.1 h).2 c hc
  simp only [Bool.and_eq_true, bne_iff_ne, ne_eq] at hmarks
  obtain ⟨⟨⟨hslash, hquestion⟩, hhash⟩, -⟩ := hmarks
  use hslash
  rw [endsPath, Bool.or_eq_false_iff, beq_eq_false_iff_ne, beq_eq_false_iff_ne]
  exact ⟨hquestion, hhash⟩

/-- Over the web, each request of an operation is the query for one of its paths, and the signed
path is the path of the request unless it has the name of a database in it that is not plain. Only
then the two differ: where a character is encoded, dropped or read as a slash, or where the name is
a dot segment. -/
theorem requestPath_eq_signed_iff (s : Session)
    (hweb : ∀ replica ∈ s.replicas, replica.url.scheme = "http" ∨ replica.url.scheme = "https")
    (op : Operation) (l : Link) :
  ∃ requests, (op.dialogue s).Sends l requests
    ∧ ∀ request ∈ requests, ∃ path ∈ op.paths, ∃ url, request = s.queryRequest url path
      ∧ (url.requestPath = path ↔ ∀ database ∈ op.database?, IsPlain database)
  := by
  obtain ⟨requests, hsends, -, hall⟩ := exchanges_dialogue s op l
  use requests, hsends
  intro request hrequest
  obtain ⟨path, hpath, replica, hreplica, url, hurl, he⟩ := hall request hrequest
  use path, hpath, url, he
  obtain ⟨hwritten, hname⟩ := writtenBy_of_mem_paths hpath
  have hjoin := Replica.endpoint_eq_ok_iff.1 hurl
  rw [hwritten.requestPath_eq_iff (kind_eq_web (hweb replica hreplica)) _ hjoin]
  · simp only [Option.mem_toList, Option.mem_def]
  · intro t ht
    exact not_mark_of_isDatabaseName (hname t (Option.mem_toList.1 ht))

/-- The proof of a value in a database with a plain name. -/
theorem requestPath_eq_signed_iff_database :
  (∀ replica ∈ Sample.session.replicas,
      replica.url.scheme = "http" ∨ replica.url.scheme = "https")
    ∧ ∃ requests,
      ((dataProof 1 "db" "k" false).dialogue Sample.session).Sends Sample.link requests
        ∧ ∀ request ∈ requests, ∃ path ∈ (dataProof 1 "db" "k" false).paths, ∃ url,
          request = Sample.session.queryRequest url path
            ∧ (url.requestPath = path
              ↔ ∀ database ∈ (dataProof 1 "db" "k" false).database?, IsPlain database)
  := by
  have hweb : ∀ replica ∈ Sample.session.replicas,
      replica.url.scheme = "http" ∨ replica.url.scheme = "https" := by
    intro replica hreplica
    obtain rfl := List.mem_singleton.1 hreplica
    exact .inl rfl
  exact ⟨hweb, requestPath_eq_signed_iff Sample.session hweb (dataProof 1 "db" "k" false) Sample.link⟩

/-- The path of the proof of a value in a database whose name is two points. -/
def strayPath : String := "/ledger/proof/data/../6b?block=1&deleted=false"

/-- The URL that this path leads to, which has no database in it. -/
def strayUrl : Url :=
  ⟨"http", Sample.replica.url.authority, .segments ["ledger", "proof", "6b"],
    some "block=1&deleted=false", none⟩

/-- A name of two points passes its check, and then the path that is signed is not the path that is
requested. -/
theorem requestPath_ne_signed :
  ((dataProof 1 ".." "k" false).dialogue Sample.session).Sends Sample.link
      [Sample.session.queryRequest strayUrl strayPath]
    ∧ strayUrl.requestPath = "/ledger/proof/6b?block=1&deleted=false"
    ∧ strayUrl.requestPath ≠ strayPath
  := by
  have hpath : valuePath 1 ".." "k" false = strayPath := by decide +kernel
  have hjoin : Sample.replica.url.join strayPath = .ok strayUrl := by
    have hsome : (Sample.replica.url.join strayPath).toOption = some strayUrl := by decide +kernel
    cases h : Sample.replica.url.join strayPath with
    | ok u =>
      rw [h] at hsome
      cases hsome
      rfl
    | error e =>
      rw [h] at hsome
      cases hsome
  have hrequest : Sample.session.request? strayPath Sample.link
      = some (Sample.session.queryRequest strayUrl strayPath) := by
    have hreplica : (Sample.link.select Sample.session).1 = some Sample.replica := rfl
    unfold request? Replica.endpoint
    rw [hreplica, Option.bind_eq_bind, Option.bind_some, hjoin]
    rfl
  have hrequire : require (isDatabaseName "..") (.invalidDatabase "..") = pure () :=
    if_pos (by decide)
  constructor
  · apply sends_forget.2
    simp only [Session.dataProof, hrequire, pure_bind, hpath]
    have hask := sends_ask (l := Sample.link) (s := Sample.session) Response.dataProofCodec strayPath
    rw [hrequest] at hask
    exact hask.bind_quiet fun _ _ => sends_pure _
  · decide +kernel

end Operation

end LedgerTrust
