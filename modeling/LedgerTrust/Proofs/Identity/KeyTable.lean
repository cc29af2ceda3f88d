import LedgerTrust.Identity.KeyTable
import LedgerTrust.Proofs.Data.Checks
import LedgerTrust.Proofs.Data.TextMap

/-!
# What a table of trusted keys accepts

A table is made of a list of nodes with texts of keys if all texts are keys and no node is listed
twice. Otherwise the first text that is no key is reported, even behind a repetition, and only then
the first node that is repeated. The table has as many keys as the list has entries, each under its
node (`KeyTable.Holds`), so it judges the signature of a listed node under the one key that is listed
for this node, and it knows no other node.
-/

namespace LedgerTrust

namespace KeyTable

/-! ### The keys of different nodes -/

section Extend

variable {keys : TextMap PublicKey} {seen : List String} {entries : List (String × PublicKey)}

/-- An extension fails for the first node that is there already. -/
theorem extend_eq_error_iff {e : SignatureError} (hseen : seen.Nodup)
    (hkeys : ∀ node, node ∈ keys.keys ↔ node ∈ seen) :
  extend keys entries = .error e
    ↔ ∃ node, FirstRepeated seen (entries.map Prod.fst) node ∧ e = .duplicateIdentity node
  := by
  induction entries generalizing keys seen with
  | nil => simp [extend, not_firstRepeated_nil]
  | cons entry entries ih =>
    obtain ⟨node, key⟩ := entry
    rw [extend, List.map_cons]
    by_cases hnode : node ∈ seen
    · rw [if_pos (TextMap.contains_iff.2 ((hkeys node).2 hnode))]
      simp [firstRepeated_cons_of_mem hseen hnode, eq_comm]
    · rw [if_neg fun hcontains => hnode ((hkeys node).1 (TextMap.contains_iff.1 hcontains))]
      simp only [firstRepeated_cons_of_not_mem hnode]
      apply ih
      · exact hseen.append (List.nodup_singleton node) (by simpa using hnode)
      · intro node'
        rw [TextMap.mem_keys_insert, hkeys, List.mem_append, List.mem_singleton, or_comm]

/-- An extension has the new entries and those that were there. -/
theorem perm_of_extend {keys' : TextMap PublicKey} (h : extend keys entries = .ok keys') :
  keys'.entries.Perm (entries ++ keys.entries)
  := by
  induction entries generalizing keys with
  | nil =>
    cases h
    exact .refl _
  | cons entry entries ih =>
    obtain ⟨node, key⟩ := entry
    rw [extend] at h
    split at h
    · cases h
    · next hnode =>
      rw [TextMap.contains_iff] at hnode
      apply (ih h).trans
      apply ((TextMap.perm_insert hnode key).append_left entries).trans
      exact List.perm_middle

theorem ofKeys_eq_error_iff {e : SignatureError} :
  ofKeys entries = .error e
    ↔ ∃ node, FirstRepeated [] (entries.map Prod.fst) node ∧ e = .duplicateIdentity node
  := by
  have hextend := @extend_eq_error_iff .empty [] entries e List.nodup_nil (by simp)
  rw [← hextend, ofKeys]
  cases extend .empty entries with
  | error cause => simp [Except.map]
  | ok keys => simp [Except.map]

/-- A table has the entries that it is made of. -/
theorem perm_of_ofKeys {t : KeyTable} (h : ofKeys entries = .ok t) :
  t.keys.entries.Perm entries
  := by
  unfold ofKeys at h
  cases hextend : extend .empty entries with
  | error cause =>
    rw [hextend] at h
    cases h
  | ok keys =>
    rw [hextend] at h
    cases h
    have hperm := perm_of_extend hextend
    rwa [show TextMap.empty.entries = ([] : List (String × PublicKey)) from rfl,
      List.append_nil] at hperm

end Extend

/-! ### The keys that are listed -/

variable {entries : List (String × String)} {t : KeyTable}

/-- The key of an entry with its node, or why its text is no key. -/
def parseEntry (entry : String × String) : Except SignatureError (String × PublicKey) :=
  match PublicKey.parse entry.2 with
  | .ok key => .ok (entry.1, key)
  | .error cause => .error (.invalidKey cause)

theorem parseEntries_eq_mapM (entries : List (String × String)) :
  parseEntries entries = entries.mapM parseEntry
  := rfl

theorem parseEntry_eq_error_iff {entry : String × String} {e : SignatureError} :
  parseEntry entry = .error e
    ↔ ∃ cause, PublicKey.parse entry.2 = .error cause ∧ e = .invalidKey cause
  := by
  unfold parseEntry
  cases PublicKey.parse entry.2 with
  | error cause => simp [eq_comm]
  | ok key => simp

theorem parseEntry_eq_ok_iff {entry : String × String} {v : String × PublicKey} :
  parseEntry entry = .ok v ↔ PublicKey.parse entry.2 = .ok v.2 ∧ v.1 = entry.1
  := by
  unfold parseEntry
  cases PublicKey.parse entry.2 with
  | error cause => simp
  | ok key => simp [Prod.ext_iff, and_comm, eq_comm]

/-- The nodes of a list with keys are those of the list with texts. -/
theorem map_fst_of_parseEntries {keys : List (String × PublicKey)}
    (h : parseEntries entries = .ok keys) :
  keys.map Prod.fst = entries.map Prod.fst
  := by
  rw [parseEntries_eq_mapM, mapM_eq_ok_iff] at h
  induction h with
  | nil => rfl
  | cons hentry _ ih => rw [List.map_cons, List.map_cons, (parseEntry_eq_ok_iff.1 hentry).2, ih]

/-- The keys of a list are those that its texts stand for. -/
theorem mem_iff_of_parseEntries {keys : List (String × PublicKey)}
    (h : parseEntries entries = .ok keys) {node : String} {key : PublicKey} :
  (node, key) ∈ keys ↔ ∃ text, (node, text) ∈ entries ∧ PublicKey.parse text = .ok key
  := by
  rw [parseEntries_eq_mapM] at h
  rw [mem_iff_of_mapM_eq_ok h]
  constructor
  · rintro ⟨⟨_, text⟩, hlisted, hentry⟩
    obtain ⟨hkey, rfl⟩ := parseEntry_eq_ok_iff.1 hentry
    exact ⟨text, hlisted, hkey⟩
  · rintro ⟨text, hlisted, hkey⟩
    exact ⟨(node, text), hlisted, parseEntry_eq_ok_iff.2 ⟨hkey, rfl⟩⟩

/-- The checks of a list: its texts are keys, and its nodes are different. -/
def checks (entries : List (String × String)) : List (SignatureError → Prop) :=
  [fun e => ∃ entry cause,
      FirstError (fun entry => PublicKey.parse entry.2) entries entry cause ∧ e = .invalidKey cause,
    fun e => ∃ node, FirstRepeated [] (entries.map Prod.fst) node ∧ e = .duplicateIdentity node]

theorem parseEntries_eq_error_iff {e : SignatureError} :
  parseEntries entries = .error e ↔ ∃ entry cause,
    FirstError (fun entry => PublicKey.parse entry.2) entries entry cause ∧ e = .invalidKey cause
  := by
  rw [parseEntries_eq_mapM, mapM_eq_error_iff]
  apply exists_congr
  intro entry
  exact firstError_iff_of_reports fun entry e => parseEntry_eq_error_iff

/-- There is no table if a check of the list fails. -/
theorem ofTexts_eq_error_iff {e : SignatureError} :
  ofTexts entries = .error e ↔ FailsFirst (checks entries) e
  := by
  rw [checks, ← List.singleton_append]
  apply failsFirst_bind
  · intro e
    rw [failsFirst_singleton_iff, parseEntries_eq_error_iff]
  · intro keys hkeys
    rw [failsFirst_singleton_iff, ofKeys_eq_error_iff, map_fst_of_parseEntries hkeys]

theorem allPass_checks_iff :
  AllPass (checks entries) ↔ (∀ entry ∈ entries, ∃ key, PublicKey.parse entry.2 = .ok key)
    ∧ (entries.map Prod.fst).Nodup
  := by
  simp only [checks, allPass_cons_iff, forall_not_report₂_iff, forall_not_report_iff,
    forall_exists_ok_iff, nodup_iff, allPass_nil, and_true]

/-! ### The table of a list -/

/-- A table holds a list of nodes with texts of keys: these are all keys of different nodes, and it
has as many keys as entries are listed, each under its node. -/
structure Holds (t : KeyTable) (entries : List (String × String)) : Prop where
  parses : ∀ entry ∈ entries, ∃ key, PublicKey.parse entry.2 = .ok key
  nodup : (entries.map Prod.fst).Nodup
  size : t.size = entries.length
  get? : ∀ node key, t.keys.get? node = some key
    ↔ ∃ text, (node, text) ∈ entries ∧ PublicKey.parse text = .ok key

theorem holds_of_ofTexts (h : ofTexts entries = .ok t) :
  t.Holds entries
  := by
  obtain ⟨hparses, hnodup⟩ :=
    allPass_checks_iff.1 ((exists_ok_iff_allPass fun e => ofTexts_eq_error_iff).1 ⟨t, h⟩)
  obtain ⟨keys, hkeys, h⟩ := bind_eq_ok_iff.1 h
  have hperm := perm_of_ofKeys h
  use hparses, hnodup
  · calc t.size
      _ = keys.length := hperm.length_eq
      _ = (keys.map Prod.fst).length := by rw [List.length_map]
      _ = entries.length := by rw [map_fst_of_parseEntries hkeys, List.length_map]
  · intro node key
    rw [TextMap.get?_eq_some_iff, hperm.mem_iff]
    exact mem_iff_of_parseEntries hkeys

/-- What is said of a signature of a node by the key that is listed for this node. -/
inductive Judges (entries : List (String × String)) (node : String) (payload signature : Bytes) :
    Except SignatureError Unit → Prop
  /-- The node is not listed. -/
  | unknown (hunlisted : ∀ text, (node, text) ∉ entries) :
    Judges entries node payload signature (.error (.unknownNode node))
  /-- The node is listed, and the signature has not 64 bytes. -/
  | malformed {text : String} (hlisted : (node, text) ∈ entries) (hlength : signature.length ≠ 64) :
    Judges entries node payload signature (.error (.malformedSignature signature.length))
  /-- The signature is one of the payload under the key of the node. -/
  | valid {text : String} {key : PublicKey} (hlisted : (node, text) ∈ entries)
      (hkey : PublicKey.parse text = .ok key) (hlength : signature.length = 64)
      (hverify : Ed25519.verify key.bytes payload signature = true) :
    Judges entries node payload signature (.ok ())
  /-- It is none. -/
  | invalid {text : String} {key : PublicKey} (hlisted : (node, text) ∈ entries)
      (hkey : PublicKey.parse text = .ok key) (hlength : signature.length = 64)
      (hverify : Ed25519.verify key.bytes payload signature = false) :
    Judges entries node payload signature (.error (.invalidSignature node))

theorem Holds.judges (h : t.Holds entries) (node : String) (payload signature : Bytes) :
  Judges entries node payload signature (t.verify node payload signature)
  := by
  unfold verify
  cases hget : t.keys.get? node with
  | none =>
    apply Judges.unknown
    intro text hlisted
    obtain ⟨key, hkey⟩ := h.parses _ hlisted
    cases hget.symm.trans ((h.get? node key).2 ⟨text, hlisted, hkey⟩)
  | some key =>
    obtain ⟨text, hlisted, hkey⟩ := (h.get? node key).1 hget
    simp only
    split
    · next hlength => exact .malformed hlisted hlength
    · next hlength =>
      rw [not_not] at hlength
      split
      · next hverify => exact .valid hlisted hkey hlength hverify
      · next hverify => exact .invalid hlisted hkey hlength (Bool.not_eq_true _ ▸ hverify)

/-- What becomes of a list of nodes with texts of keys. -/
inductive Built (entries : List (String × String)) : Except SignatureError KeyTable → Prop
  /-- The first text that is no key is reported, whatever the nodes are. -/
  | invalidKey {entry : String × String} {cause : KeyError}
      (h : FirstError (fun entry => PublicKey.parse entry.2) entries entry cause) :
    Built entries (.error (.invalidKey cause))
  /-- All texts are keys, and the first node that was there before is reported. -/
  | duplicateIdentity {node : String}
      (hparses : ∀ entry ∈ entries, ∃ key, PublicKey.parse entry.2 = .ok key)
      (h : FirstRepeated [] (entries.map Prod.fst) node) :
    Built entries (.error (.duplicateIdentity node))
  /-- All texts are keys of different nodes, and the table judges signatures under them. -/
  | table {t : KeyTable} (hparses : ∀ entry ∈ entries, ∃ key, PublicKey.parse entry.2 = .ok key)
      (hnodup : (entries.map Prod.fst).Nodup) (hsize : t.size = entries.length)
      (hjudges : ∀ node payload signature,
        Judges entries node payload signature (t.verify node payload signature)) :
    Built entries (.ok t)

/-- A table trusts what is listed, and nothing else: the first text that is no key is reported, then
the first node that is repeated, and else a signature is judged under the key of its node. -/
theorem built_ofTexts (entries : List (String × String)) :
  Built entries (ofTexts entries)
  := by
  cases h : ofTexts entries with
  | error e =>
    rw [ofTexts_eq_error_iff, checks, failsFirst_cons_iff, failsFirst_singleton_iff] at h
    obtain ⟨entry, cause, hfirst, rfl⟩ | ⟨hparses, node, hrepeated, rfl⟩ := h
    · exact .invalidKey hfirst
    · apply Built.duplicateIdentity _ hrepeated
      apply forall_exists_ok_iff.2
      intro entry cause hfirst
      exact hparses _ ⟨entry, cause, hfirst, rfl⟩
  | ok t =>
    have hholds := holds_of_ofTexts h
    exact .table hholds.parses hholds.nodup hholds.size hholds.judges

end KeyTable

end LedgerTrust
