import LedgerTrust.Proofs.Ledger.Compact

/-!
# Kinds of envelopes in binary

The codecs of transactions are compact, so in binary the canonical bytes of an envelope determine
it among the envelopes of its kind. They do not tell the kind: there is no tag in front and fields
have no names, and any two kinds have envelopes with the same canonical bytes.
-/

namespace LedgerTrust

open Codec Fields

/-! ### Envelopes of one kind -/

/-- In binary, envelopes of one kind with the same content are equal, if its length fits. -/
theorem Envelope.eq_of_content_binary {e e' : Envelope} (hkind : e.kind = e'.kind)
    (hlength : (e.content .binary).length < UInt64.size)
    (h : e.content .binary = e'.content .binary) :
  e = e'
  := by
  have hread := ofNumbered?_content (fits_of_length_content hlength) []
  have hread' := ofNumbered?_content (fits_of_length_content (h ▸ hlength)) []
  rw [hkind, h, hread'] at hread
  cases hread
  rfl

/-! ### Envelopes of two kinds -/

namespace Sample

/-- The text of bytes below 128. -/
def asciiText (b : Bytes) : String := String.ofList (b.map fun x => Char.ofNat x.toNat)

/-- The text of as many bytes zero. -/
def zeros (n : Nat) : String := asciiText (List.replicate n 0)

/-- A transaction that sets a configuration; of the number of the block in the version it read only
the last byte is not zero. -/
def setting (n : UInt64) (admins : List Admin) : Envelope :=
  .config ⟨⟨"", "", some ⟨n <<< 56, 0⟩, ⟨[], admins⟩⟩, []⟩

/-- The last byte of a version and a configuration with one administrator, up to the administrator's
name, taken for a text. -/
def adminText : String :=
  asciiText (0 :: (ClusterConfig.codec.binary ⟨[], [⟨zeros 16, []⟩]⟩).take 24)

/-- A transaction on data, signed by one user. -/
def signedData : Envelope := .data ⟨⟨[], "tx-1", []⟩, TextMap.empty.insert "bdb" [7, 7, 7]⟩

/-- A transaction that deletes the database with the name of that user. -/
def signedDatabase : Envelope := .database ⟨⟨"", "tx-1", [], ["bdb"]⟩, [7, 7, 7]⟩

/-- Envelopes of each two kinds that are written alike in binary. -/
def twins : List (Envelope × Envelope) :=
  [(signedData, signedDatabase),
    -- From here on, a count of one is also the byte that a version follows, and seven bytes of the
    -- number of its block; the length of a text is the last byte of this number and seven bytes of
    -- the number after it. What is left is to have as many bytes zero on both sides.
    (.data ⟨⟨[], "", [⟨"bdb", [⟨"", none⟩], [], []⟩]⟩, .empty⟩,
      .user ⟨⟨"", "", [⟨"bdb", some ⟨0, 0⟩⟩], [], []⟩, []⟩),
    (.data ⟨⟨[], "", [⟨adminText, [], [], []⟩]⟩, .empty⟩, setting 25 [⟨zeros 16, []⟩]),
    (.database ⟨⟨"", "", ["bdb"], [zeros 17]⟩, []⟩,
      .user ⟨⟨"", "", [⟨"bdb", some ⟨(17 : UInt64) <<< 56, 0⟩⟩], [], []⟩, []⟩),
    (.database ⟨⟨"", "", [zeros 9], []⟩, []⟩, setting 9 []),
    (.user ⟨⟨"", "", [⟨"", none⟩], [], []⟩, []⟩, setting 0 [])]

theorem content_twins :
  ∀ p ∈ twins, p.1.content .binary = p.2.content .binary
  := by decide +kernel

/-- Each two kinds have their twins. -/
theorem exists_twins {k k' : TxKind} (h : k ≠ k') :
  ∃ p ∈ twins, (p.1.kind = k ∧ p.2.kind = k') ∨ (p.1.kind = k' ∧ p.2.kind = k)
  := by
  cases k <;> cases k' <;> revert h <;> decide

/-- A transaction on data with the given signatures. -/
def signedBy (signatures : List (String × Bytes)) : Envelope :=
  .data ⟨⟨["alice", "bob"], "tx-2", []⟩, TextMap.ofList signatures⟩

def compactScheme : Scheme := ⟨.sha256, .binary, .indexBits⟩

end Sample

theorem TxKind.exists_envelope (k : TxKind) :
  ∃ e : Envelope, e.kind = k
  := by
  cases k with
  | data => exact ⟨Sample.signedData, rfl⟩
  | database => exact ⟨Sample.signedDatabase, rfl⟩
  | user => exact ⟨.user ⟨⟨"", "", [], [], []⟩, []⟩, rfl⟩
  | config => exact ⟨Sample.setting 0 [], rfl⟩

/-- Any two kinds have envelopes with the same content in binary. -/
theorem TxKind.exists_content_eq (k k' : TxKind) :
  ∃ e e' : Envelope, e.kind = k ∧ e'.kind = k' ∧ e.content .binary = e'.content .binary
  := by
  by_cases h : k = k'
  · obtain ⟨e, he⟩ := k.exists_envelope
    exact ⟨e, e, he, h ▸ he, rfl⟩
  · obtain ⟨p, hp, hkinds⟩ := Sample.exists_twins h
    have hcontent := Sample.content_twins p hp
    rcases hkinds with ⟨hk, hk'⟩ | ⟨hk', hk⟩
    · exact ⟨p.1, p.2, hk, hk', hcontent⟩
    · exact ⟨p.2, p.1, hk, hk', hcontent.symm⟩

/-! ### Canonical bytes -/

namespace Envelope

theorem canonicalBytes_of_binary {s : Scheme} (hs : s.encoding = .binary) (e : Envelope) :
  e.canonicalBytes s = e.content .binary
  := by
  rw [canonicalBytes, hs]

/-- In binary the canonical bytes of an envelope determine it among the envelopes of its kind, if
their length fits, as it does on a machine of words of 64 bits. They tell nothing of the kind: any
two kinds have envelopes with the same canonical bytes. -/
theorem canonicalBytes_binary {s : Scheme} (hs : s.encoding = .binary) :
  (∀ e e' : Envelope, e.kind = e'.kind → (e.canonicalBytes s).length < UInt64.size
      → e.canonicalBytes s = e'.canonicalBytes s → e = e')
    ∧ ∀ k k' : TxKind, ∃ e e' : Envelope, e.kind = k ∧ e'.kind = k'
      ∧ e.canonicalBytes s = e'.canonicalBytes s
  := by
  constructor
  · intro e e' hkind hlength h
    simp only [canonicalBytes_of_binary hs] at hlength h
    exact eq_of_content_binary hkind hlength h
  · intro k k'
    obtain ⟨e, e', he, he', hcontent⟩ := TxKind.exists_content_eq k k'
    use e, e', he, he'
    rw [canonicalBytes_of_binary hs, canonicalBytes_of_binary hs, hcontent]

/-- The order in which two users sign leaves no trace. -/
theorem canonicalBytes_binary_signedBy :
  Sample.compactScheme.encoding = .binary
    ∧ (Sample.signedBy [("alice", [1]), ("bob", [2])]).canonicalBytes Sample.compactScheme
      = (Sample.signedBy [("bob", [2]), ("alice", [1])]).canonicalBytes Sample.compactScheme
    ∧ Sample.signedBy [("alice", [1]), ("bob", [2])] = Sample.signedBy [("bob", [2]), ("alice", [1])]
  := by
  have h : ((Sample.signedBy [("alice", [1]), ("bob", [2])]).canonicalBytes
          Sample.compactScheme).length < UInt64.size
      ∧ (Sample.signedBy [("alice", [1]), ("bob", [2])]).canonicalBytes Sample.compactScheme
        = (Sample.signedBy [("bob", [2]), ("alice", [1])]).canonicalBytes Sample.compactScheme := by
    decide +kernel
  exact ⟨rfl, h.2, (canonicalBytes_binary rfl).1 _ _ rfl h.1 h.2⟩

/-- A transaction on data and one on databases have the same canonical bytes in binary. -/
theorem canonicalBytes_binary_twins :
  Sample.signedData.canonicalBytes Sample.compactScheme
      = Sample.signedDatabase.canonicalBytes Sample.compactScheme
    ∧ Sample.signedData ≠ Sample.signedDatabase
  := by
  constructor
  · exact Sample.content_twins _ List.mem_cons_self
  · nofun

end Envelope

end LedgerTrust
