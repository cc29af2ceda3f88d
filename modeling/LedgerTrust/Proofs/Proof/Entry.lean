import LedgerTrust.Proofs.Data.Text
import LedgerTrust.Proofs.Proof.State
import LedgerTrust.Session.Query

/-!
# What the bytes of an entry tell

A zero byte stands between the database and the key of an entry, and nothing between the key and the
value. So the bytes tell the database, as long as its name has no zero byte, and they tell the key and
the value put together; where the one ends and the other starts they do not tell. Two entries of one
database with keys of the same length have different bytes.
-/

namespace LedgerTrust

namespace Bytes

/-- The form of a text has a zero byte only where the text has a zero character. -/
theorem zero_notMem_ofText {s : String} (h : '\x00' ∉ s.toList) :
  0 ∉ ofText s
  := by
  intro hzero
  obtain ⟨c, hc, hval⟩ := exists_char_of_mem_ofText (by decide) hzero
  obtain rfl : c = '\x00' := Char.ext (UInt32.toNat_inj.1 hval)
  exact h hc

/-- Nothing but the first zero byte ends a byte string without one. -/
theorem eq_nil_of_cons_zero_eq {b x y : Bytes} (hb : 0 ∉ b) (h : 0 :: x = b ++ 0 :: y) :
  b = []
  := by
  cases b with
  | nil => rfl
  | cons z b =>
    obtain ⟨rfl, -⟩ := List.cons.inj h
    exact absurd List.mem_cons_self hb

/-- A byte string is cut at its first zero byte in one way. -/
theorem append_zero_inj {a b x y : Bytes} (ha : 0 ∉ a) (hb : 0 ∉ b)
    (h : a ++ 0 :: x = b ++ 0 :: y) :
  a = b ∧ x = y
  := by
  obtain ⟨c, rfl, hc⟩ | ⟨c, rfl, hc⟩ := List.append_eq_append_iff.1 h
  · obtain rfl := eq_nil_of_cons_zero_eq (fun hzero => hb (List.mem_append_right a hzero)) hc
    cases hc
    simp
  · obtain rfl := eq_nil_of_cons_zero_eq (fun hzero => ha (List.mem_append_right b hzero)) hc
    cases hc
    simp

end Bytes

/-! ### Entries with the same bytes -/

theorem entryBytes_eq_append (database key : String) (value : Bytes) :
  entryBytes database key value = Bytes.ofText database ++ 0 :: (Bytes.ofText key ++ value)
  := List.append_assoc (Bytes.ofText database) (0 :: Bytes.ofText key) value

section

variable {database database' key key' : String} {value value' : Bytes}

theorem entryBytes_eq_iff (h : '\x00' ∉ database.toList) (h' : '\x00' ∉ database'.toList) :
  entryBytes database key value = entryBytes database' key' value'
    ↔ database = database' ∧ Bytes.ofText key ++ value = Bytes.ofText key' ++ value'
  := by
  rw [entryBytes_eq_append, entryBytes_eq_append]
  constructor
  · intro heq
    obtain ⟨hdatabase, hrest⟩ :=
      Bytes.append_zero_inj (Bytes.zero_notMem_ofText h) (Bytes.zero_notMem_ofText h') heq
    exact ⟨Bytes.ofText_injective hdatabase, hrest⟩
  · rintro ⟨rfl, hrest⟩
    rw [hrest]

/-- Where no name of a database has a zero byte, entries have the same bytes exactly if they are of
one database and their keys, each with its value behind it, are the same. So entries with the same
bytes are the same if their keys have the same length, and entries with the same digest differ in no
more than where the key ends, unless their bytes collide. -/
theorem entry_of_entryBytes (s : Scheme) (h : '\x00' ∉ database.toList)
    (h' : '\x00' ∉ database'.toList) :
  (entryBytes database key value = entryBytes database' key' value'
      ↔ database = database' ∧ Bytes.ofText key ++ value = Bytes.ofText key' ++ value')
    ∧ ((Bytes.ofText key).length = (Bytes.ofText key').length →
        entryBytes database key value = entryBytes database' key' value' →
        database = database' ∧ key = key' ∧ value = value')
    ∧ (entryHash s database key value = entryHash s database' key' value' →
        s.Collision [entryBytes database key value, entryBytes database' key' value']
          ∨ database = database' ∧ Bytes.ofText key ++ value = Bytes.ofText key' ++ value')
  := by
  use entryBytes_eq_iff h h'
  constructor
  · intro hlength heq
    obtain ⟨hdatabase, hrest⟩ := (entryBytes_eq_iff h h').1 heq
    obtain ⟨hkey, hvalue⟩ := List.append_inj hrest hlength
    exact ⟨hdatabase, Bytes.ofText_injective hkey, hvalue⟩
  · intro hdigest
    obtain hcollision | hseparates := s.collision_or_separates
      [entryBytes database key value, entryBytes database' key' value']
    · exact .inl hcollision
    · apply Or.inr
      apply (entryBytes_eq_iff h h').1
      apply hseparates
      · simp
      · simp
      · apply hdigest

end

/-- Two databases and two keys of the same length. -/
theorem entry_of_entryBytes_letters :
  entryBytes "a" "bc" [0] ≠ entryBytes "ab" "cd" [0]
    ∧ (entryHash .version1 "a" "bc" [0] = entryHash .version1 "ab" "cd" [0] →
        Scheme.version1.Collision [entryBytes "a" "bc" [0], entryBytes "ab" "cd" [0]])
  := by
  have h : '\x00' ∉ "a".toList := by decide
  have h' : '\x00' ∉ "ab".toList := by decide
  obtain ⟨hiff, -, hdigest⟩ := @entry_of_entryBytes "a" "ab" "bc" "cd" [0] [0] .version1 h h'
  have hne : ¬ ("a" = "ab" ∧ Bytes.ofText "bc" ++ [0] = Bytes.ofText "cd" ++ [0]) := by
    rintro ⟨hname, -⟩
    exact absurd hname (by decide)
  constructor
  · intro heq
    exact hne (hiff.1 heq)
  · intro heq
    apply (hdigest heq).resolve_right hne

/-- The bytes of an entry do not tell where its key ends, and a name that is accepted may have a
zero byte, so that they do not tell the database either: a proof of an entry proves another one. -/
theorem entryBytes_not_injective :
  (Session.isDatabaseName "bdb" = true ∧ "key1" ≠ "key1va"
      ∧ entryBytes "bdb" "key1" (Bytes.ofText "value1")
        = entryBytes "bdb" "key1va" (Bytes.ofText "lue1"))
    ∧ (Session.isDatabaseName "a" = true ∧ Session.isDatabaseName "a\x00b" = true
      ∧ entryBytes "a" "b\x00c" [] = entryBytes "a\x00b" "c" [])
    ∧ let node : TrieNode := ⟨[entryHash .version1 "bdb" "key1" (Bytes.ofText "value1")]⟩
      let proof : DataProof := ⟨[node]⟩
      proof.verify .version1 (entryHash .version1 "bdb" "key1va" (Bytes.ofText "lue1"))
        (node.hash .version1) false = .ok true
  := by
  have heq : entryBytes "bdb" "key1" (Bytes.ofText "value1")
      = entryBytes "bdb" "key1va" (Bytes.ofText "lue1") := rfl
  refine ⟨⟨by decide, by decide, heq⟩, ⟨by decide, by decide, rfl⟩, ?_⟩
  intro node proof
  have hlive : tombstone .version1 ∉ node.hashes := by decide +kernel
  have hlisted : entryHash .version1 "bdb" "key1va" (Bytes.ofText "lue1") ∈ node.hashes := by
    apply List.mem_singleton.2
    exact congrArg Scheme.version1.digest heq.symm
  apply DataProof.verify_eq_ok_true_iff.2
  use node, [], rfl
  constructor
  · simp [hlive]
  · apply DataProof.climbs_cons_iff.2
    exact ⟨hlisted, DataProof.climbs_nil_iff.2 rfl⟩

end LedgerTrust
