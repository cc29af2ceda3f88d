import LedgerTrust.Draft.Data
import LedgerTrust.Proofs.Data.TextOrder
import LedgerTrust.Proofs.Draft.History

/-!
# What data transactions record

The edits of a data transaction form a history. Of a key that is read there is a last read, of one
that is put or deleted a last change; a delete stands until the key is put again, and of the deletes
that stand the first one counts. After each edit the draft lists, database by database, exactly
these in the order of their times. So a transaction is composed exactly if a database is touched,
and then it records what lasts.
-/

namespace LedgerTrust

/-! ### What an edit does -/

namespace DataEdit

/-- The database that an edit touches, if it touches one. -/
def database? : DataEdit → Option String
  | .read database _ _ => some database
  | .put database _ _ _ => some database
  | .delete database _ => some database
  | .mustSign _ => none

/-- A key of a database is read. -/
def Reads (database key : String) : DataEdit → Prop
  | .read database' key' _ => database' = database ∧ key' = key
  | _ => False

/-- A key of a database is put. -/
def Puts (database key : String) : DataEdit → Prop
  | .put database' key' _ _ => database' = database ∧ key' = key
  | _ => False

/-- A key of a database is put or deleted. -/
def Changes (database key : String) : DataEdit → Prop
  | .put database' key' _ _ => database' = database ∧ key' = key
  | .delete database' key' => database' = database ∧ key' = key
  | _ => False

variable {database key : String} {e : DataEdit}

theorem Puts.changes (h : e.Puts database key) :
  e.Changes database key
  := by
  cases e with
  | put => exact h
  | _ => cases h

theorem database?_eq_some_iff :
  e.database? = some database ↔ ∃ key, e.Reads database key ∨ e.Changes database key
  := by
  cases e with
  | _ => simp [database?, Reads, Changes]

end DataEdit

/-! ### What lasts in a history -/

section History

variable (edits : List DataEdit) (database : String)

/-- A read that no read of the same key follows. -/
def LastRead : Nat → DataRead → Prop :=
  Lasts edits (fun r => .read database r.key r.version) fun r => DataEdit.Reads database r.key

/-- A put that no put or delete of the same key follows. -/
def LastPut : Nat → DataWrite → Prop :=
  Lasts edits (fun w => .put database w.key w.value w.acl) fun w => DataEdit.Changes database w.key

/-- A delete that no put or delete of the same key follows. -/
def LastDelete : Nat → DataDelete → Prop :=
  Lasts edits (fun d => .delete database d.key) fun d => DataEdit.Changes database d.key

/-- A delete that no put of the same key follows. -/
def StandingDelete : Nat → DataDelete → Prop :=
  Lasts edits (fun d => .delete database d.key) fun d => DataEdit.Puts database d.key

end History

variable {edits : List DataEdit} {database : String}

/-- A key whose deletes stand is one whose last change is a delete. -/
theorem exists_standingDelete_iff {d : DataDelete} :
  (∃ t, StandingDelete edits database t d) ↔ ∃ t, LastDelete edits database t d
  := by
  constructor
  · rintro ⟨t, hdelete, hstands⟩
    have hchanged : ∃ x ∈ edits, x.Changes database d.key :=
      ⟨_, List.mem_of_getElem? hdelete, rfl, rfl⟩
    obtain ⟨t', x, hx, hchanges, hlast⟩ := exists_last hchanged
    use t'
    refine ⟨?_, hlast⟩
    cases x with
    | delete database' key =>
      obtain ⟨rfl, rfl⟩ := hchanges
      apply hx
    | put =>
      -- The put would be after the delete or before it.
      obtain hlt | rfl | hgt := Nat.lt_trichotomy t t'
      · exact absurd hchanges (hstands t' _ hlt hx)
      · rw [hx] at hdelete
        cases hdelete
      · exact absurd ⟨rfl, rfl⟩ (hlast t _ hgt hdelete)
    | _ => cases hchanges
  · rintro ⟨t, hdelete, hlast⟩
    use t, hdelete
    intro t' x hlt hx hputs
    apply hlast t' x hlt hx hputs.changes

/-! ### The draft of one database -/

theorem DatabaseDraft.any_deletes_iff {d : DatabaseDraft} {key : String} :
  d.deletes.any (·.key = key) = true ↔ ⟨key⟩ ∈ d.deletes
  := by
  rw [List.any_eq_true]
  constructor
  · rintro ⟨x, hx, hkey⟩
    obtain rfl := of_decide_eq_true hkey
    exact hx
  · intro hx
    use ⟨key⟩, hx
    simp

/-- A draft lists what lasts in a database, of the deletes that stand the first one of each key. -/
structure DatabaseDraft.Collects (edits : List DataEdit) (database : String) (d : DatabaseDraft) :
    Prop where
  reads : InOrder (LastRead edits database) d.reads
  writes : InOrder (LastPut edits database) d.writes
  deletes : InOrder (First (StandingDelete edits database)) d.deletes

namespace DatabaseDraft.Collects

variable {d : DatabaseDraft} {e : DataEdit} {key : String}

theorem empty : Collects [] database .empty where
  reads := InOrder.nil (by simp [LastRead, Lasts])
  writes := InOrder.nil (by simp [LastPut, Lasts])
  deletes := InOrder.nil (by simp [First, StandingDelete, Lasts])

/-- An edit that does not touch the database changes nothing there. -/
theorem untouched (h : d.Collects edits database) (he : e.database? ≠ some database) :
  d.Collects (edits ++ [e]) database
  := by
  have hreads (key : String) : ¬ e.Reads database key :=
    fun hr => he (DataEdit.database?_eq_some_iff.2 ⟨key, .inl hr⟩)
  have hchanges (key : String) : ¬ e.Changes database key :=
    fun hc => he (DataEdit.database?_eq_some_iff.2 ⟨key, .inr hc⟩)
  constructor
  · apply h.reads.lasts_unrelated (fun r => hreads r.key)
    rintro r rfl
    exact he rfl
  · apply h.writes.lasts_unrelated (fun w => hchanges w.key)
    rintro w rfl
    exact he rfl
  · apply h.deletes.first_lasts_unrelated (fun d hp => hchanges d.key hp.changes)
    rintro d rfl
    exact he rfl

theorem read (h : d.Collects edits database) (key : String) (version : Option Version) :
  (d.read key version).Collects (edits ++ [.read database key version]) database
  := by
  constructor
  · apply ((h.reads.filter (·.key ≠ key)).concat (fun t r hr => hr.1.lt_length) _).congr
    intro t r
    cases r
    simp [LastRead, lasts_concat_iff, DataEdit.Reads, @eq_comm _ key, @eq_comm _ version]
  · apply h.writes.lasts_unrelated
    · simp [DataEdit.Changes]
    · simp
  · apply h.deletes.first_lasts_unrelated
    · simp [DataEdit.Puts]
    · simp

theorem put (h : d.Collects edits database) (key : String) (value : Bytes)
    (acl : Option AccessControl) :
  (d.put key value acl).Collects (edits ++ [.put database key value acl]) database
  := by
  constructor
  · apply h.reads.lasts_unrelated
    · simp [DataEdit.Reads]
    · simp
  · apply ((h.writes.filter (·.key ≠ key)).concat (fun t w hw => hw.1.lt_length) _).congr
    intro t w
    cases w
    simp [LastPut, lasts_concat_iff, DataEdit.Changes, @eq_comm _ key, @eq_comm _ value,
      @eq_comm _ acl]
  · apply (h.deletes.filter (·.key ≠ key)).congr
    intro t d
    rw [StandingDelete, first_lasts_concat_iff (by simp)]
    simp [DataEdit.Puts, StandingDelete, @eq_comm _ key]

theorem delete (h : d.Collects edits database) (key : String) :
  (d.delete key).Collects (edits ++ [.delete database key]) database
  := by
  constructor
  · apply h.reads.lasts_unrelated
    · simp [DataEdit.Reads]
    · simp
  · apply (h.writes.filter (·.key ≠ key)).congr
    intro t w
    simp [LastPut, lasts_concat_iff, DataEdit.Changes, @eq_comm _ key]
  · have hmade (x : DataDelete) :
        DataEdit.delete database key = .delete database x.key ↔ x = ⟨key⟩ := by
      cases x
      simp [eq_comm]
    have hputs (x : DataDelete) : ¬ (DataEdit.delete database key).Puts database x.key := id
    unfold DatabaseDraft.delete
    dsimp only
    split
    · next hany =>
      apply h.deletes.first_lasts_made_of_mem hputs hmade (any_deletes_iff.1 hany)
    · next hany =>
      apply h.deletes.first_lasts_made_of_not_mem hputs hmade (mt any_deletes_iff.2 hany)

end DatabaseDraft.Collects

/-! ### What a transaction records -/

/-- The operations on a database record what lasts there: once each key that is read, with the
version of its last read, and once each key that is put or deleted, as its last change has it. -/
structure DatabaseOperations.Records (edits : List DataEdit) (ops : DatabaseOperations) : Prop where
  reads : InOrder (LastRead edits ops.database) ops.reads
  nodup_reads : (ops.reads.map (·.key)).Nodup
  mem_reads : ∀ key, key ∈ ops.reads.map (·.key) ↔ ∃ e ∈ edits, e.Reads ops.database key
  writes : InOrder (LastPut edits ops.database) ops.writes
  deletes : InOrder (First (StandingDelete edits ops.database)) ops.deletes
  mem_deletes : ∀ d, d ∈ ops.deletes ↔ ∃ t, LastDelete edits ops.database t d
  nodup_changes : (ops.writes.map (·.key) ++ ops.deletes.map (·.key)).Nodup
  mem_changes : ∀ key, key ∈ ops.writes.map (·.key) ++ ops.deletes.map (·.key)
    ↔ ∃ e ∈ edits, e.Changes ops.database key

namespace DatabaseDraft

variable {d : DatabaseDraft}

namespace Collects

theorem nodup_reads (h : d.Collects edits database) :
  (d.reads.map (·.key)).Nodup
  := by
  apply h.reads.nodup_map
  intro t r t' r' hr hr' hkey
  apply hr.not_lt hr'.1
  exact ⟨rfl, hkey.symm⟩

theorem mem_reads (h : d.Collects edits database) (key : String) :
  key ∈ d.reads.map (·.key) ↔ ∃ e ∈ edits, e.Reads database key
  := by
  constructor
  · intro hkey
    obtain ⟨r, hr, rfl⟩ := List.mem_map.1 hkey
    obtain ⟨t, hread, -⟩ := h.reads.mem_iff.1 hr
    exact ⟨_, List.mem_of_getElem? hread, rfl, rfl⟩
  · intro hread
    obtain ⟨t, x, hx, hreads, hlast⟩ := exists_last hread
    cases x with
    | read database' key' version =>
      obtain ⟨rfl, rfl⟩ := hreads
      apply List.mem_map.2
      use ⟨key', version⟩, h.reads.mem_iff.2 ⟨t, hx, hlast⟩
    | _ => cases hreads

theorem mem_deletes (h : d.Collects edits database) (x : DataDelete) :
  x ∈ d.deletes ↔ ∃ t, LastDelete edits database t x
  := by rw [h.deletes.mem_iff, exists_first_iff, exists_standingDelete_iff]

/-- A key has one last change. -/
theorem nodup_changes (h : d.Collects edits database) :
  (d.writes.map (·.key) ++ d.deletes.map (·.key)).Nodup
  := by
  apply List.Nodup.append
  · apply h.writes.nodup_map
    intro t w t' w' hw hw' hkey
    apply hw.not_lt hw'.1
    exact ⟨rfl, hkey.symm⟩
  · apply h.deletes.nodup_map
    rintro t ⟨key⟩ t' ⟨key'⟩ hx hx' rfl hlt
    apply hx'.2 t hlt hx.1
  · intro key hput hdelete
    obtain ⟨w, hw, rfl⟩ := List.mem_map.1 hput
    obtain ⟨x, hx, hkey⟩ := List.mem_map.1 hdelete
    obtain ⟨t, hlast⟩ := h.writes.mem_iff.1 hw
    obtain ⟨t', hlast'⟩ := (h.mem_deletes x).1 hx
    obtain hlt | rfl | hgt := Nat.lt_trichotomy t t'
    · exact hlast.not_lt hlast'.1 ⟨rfl, hkey⟩ hlt
    · have heq := hlast.1.symm.trans hlast'.1
      cases heq
    · exact hlast'.not_lt hlast.1 ⟨rfl, hkey.symm⟩ hgt

theorem mem_changes (h : d.Collects edits database) (key : String) :
  key ∈ d.writes.map (·.key) ++ d.deletes.map (·.key) ↔ ∃ e ∈ edits, e.Changes database key
  := by
  constructor
  · intro hkey
    obtain hkey | hkey := List.mem_append.1 hkey
    · obtain ⟨w, hw, rfl⟩ := List.mem_map.1 hkey
      obtain ⟨t, hput, -⟩ := h.writes.mem_iff.1 hw
      exact ⟨_, List.mem_of_getElem? hput, rfl, rfl⟩
    · obtain ⟨x, hx, rfl⟩ := List.mem_map.1 hkey
      obtain ⟨t, hdelete, -⟩ := (h.mem_deletes x).1 hx
      exact ⟨_, List.mem_of_getElem? hdelete, rfl, rfl⟩
  · intro hchange
    obtain ⟨t, x, hx, hchanges, hlast⟩ := exists_last hchange
    apply List.mem_append.2
    cases x with
    | put database' key' value acl =>
      obtain ⟨rfl, rfl⟩ := hchanges
      apply Or.inl
      apply List.mem_map.2
      use ⟨key', value, acl⟩, h.writes.mem_iff.2 ⟨t, hx, hlast⟩
    | delete database' key' =>
      obtain ⟨rfl, rfl⟩ := hchanges
      apply Or.inr
      apply List.mem_map.2
      use ⟨key'⟩, (h.mem_deletes _).2 ⟨t, hx, hlast⟩
    | _ => cases hchanges

theorem records (h : d.Collects edits database) :
  (d.operations database).Records edits
  where
  reads := h.reads
  nodup_reads := h.nodup_reads
  mem_reads := h.mem_reads
  writes := h.writes
  deletes := h.deletes
  mem_deletes := h.mem_deletes
  nodup_changes := h.nodup_changes
  mem_changes := h.mem_changes

end Collects

theorem isEmpty_eq_false_iff :
  d.isEmpty = false
    ↔ ∃ key, key ∈ d.reads.map (·.key) ∨ key ∈ d.writes.map (·.key) ++ d.deletes.map (·.key)
  := by
  obtain ⟨reads, writes, deletes⟩ := d
  cases reads with
  | cons r _ => simpa [isEmpty] using ⟨r.key, .inl (.inl rfl)⟩
  | nil =>
    cases writes with
    | cons w _ => simp [isEmpty]
    | nil =>
      cases deletes with
      | cons x _ => simp [isEmpty]
      | nil => simp [isEmpty]

/-- A draft has something in it if and only if the database is touched. -/
theorem Collects.isEmpty_eq_false_iff (h : d.Collects edits database) :
  d.isEmpty = false ↔ ∃ e ∈ edits, e.database? = some database
  := by
  simp only [DatabaseDraft.isEmpty_eq_false_iff, h.mem_reads, h.mem_changes,
    DataEdit.database?_eq_some_iff]
  grind

end DatabaseDraft

/-- A data transaction of a user records the edits of a history: the user and all who must sign, and
the touched databases, each of the two in byte order. -/
structure DataTx.Records (edits : List DataEdit) (userId : String) (tx : DataTx) : Prop where
  mustSign : InByteOrder tx.mustSign
  mem_mustSign : ∀ user, user ∈ tx.mustSign ↔ user = userId ∨ .mustSign user ∈ edits
  databases : InByteOrder (tx.operations.map (·.database))
  mem_databases : ∀ database, database ∈ tx.operations.map (·.database)
    ↔ ∃ e ∈ edits, e.database? = some database
  operations : ∀ ops ∈ tx.operations, ops.Records edits

/-! ### The drafts of all databases -/

namespace DataDraft

/-- What is done to a database. -/
def draftFor (d : DataDraft) (database : String) : DatabaseDraft :=
  (d.databases.get? database).getD .empty

theorem draftFor_onDatabase (d : DataDraft) (database database' : String)
    (f : DatabaseDraft → DatabaseDraft) :
  (d.onDatabase database f).draftFor database'
    = if database' = database then f (d.draftFor database) else d.draftFor database'
  := by
  unfold draftFor onDatabase
  rw [TextMap.get?_insert]
  split
  · rfl
  · rfl

/-- The entries of the databases that something is done to. -/
theorem mem_entries_iff (d : DataDraft) {database : String} {draft : DatabaseDraft} :
  (database, draft) ∈ d.databases.entries ∧ draft.isEmpty = false
    ↔ d.draftFor database = draft ∧ draft.isEmpty = false
  := by
  rw [← TextMap.get?_eq_some_iff]
  apply and_congr_left
  intro hdraft
  unfold draftFor
  cases d.databases.get? database with
  | some _ => simp
  | none =>
    have hne : DatabaseDraft.empty ≠ draft := by
      rintro rfl
      cases hdraft
    simpa using hne

/-- A draft collects what lasts in each database, and who must sign. -/
structure Collects (edits : List DataEdit) (d : DataDraft) : Prop where
  databases : ∀ database, (d.draftFor database).Collects edits database
  mustSign : ∀ user, user ∈ d.mustSign.keys ↔ .mustSign user ∈ edits

namespace Collects

variable {d : DataDraft}

theorem onDatabase (h : d.Collects edits) (f : DatabaseDraft → DatabaseDraft) {e : DataEdit}
    {database : String} (he : e.database? = some database)
    (hf : (f (d.draftFor database)).Collects (edits ++ [e]) database) :
  (d.onDatabase database f).Collects (edits ++ [e])
  := by
  constructor
  · intro database'
    rw [draftFor_onDatabase]
    split
    · next heq =>
      subst heq
      exact hf
    · next hne =>
      apply (h.databases database').untouched
      rw [he]
      simpa using Ne.symm hne
  · intro user
    have hmem : .mustSign user ∈ edits ++ [e] ↔ .mustSign user ∈ edits := by
      cases e with
      | mustSign => cases he
      | _ => simp
    rw [hmem]
    exact h.mustSign user

/-- After an edit, a draft collects the edits that it collected and this one. -/
theorem apply (h : d.Collects edits) (e : DataEdit) :
  (d.apply e).Collects (edits ++ [e])
  := by
  cases e with
  | read database key version =>
    exact h.onDatabase (·.read key version) rfl ((h.databases database).read key version)
  | put database key value acl =>
    exact h.onDatabase (·.put key value acl) rfl ((h.databases database).put key value acl)
  | delete database key =>
    exact h.onDatabase (·.delete key) rfl ((h.databases database).delete key)
  | mustSign user =>
    constructor
    · intro database
      apply (h.databases database).untouched
      simp [DataEdit.database?]
    · intro user'
      rw [DataDraft.apply, TextSet.mem_keys_add, h.mustSign]
      simp [or_comm]

/-- Something is done to the databases that are touched. -/
theorem exists_mem_entries_iff (h : d.Collects edits) (database : String) :
  (∃ draft, (database, draft) ∈ d.databases.entries ∧ draft.isEmpty = false)
    ↔ ∃ e ∈ edits, e.database? = some database
  := by
  rw [← (h.databases database).isEmpty_eq_false_iff]
  simp only [mem_entries_iff]
  simp

/-- A draft has nothing in it if and only if no database is touched. -/
theorem isEmpty_iff (h : d.Collects edits) :
  d.isEmpty = true ↔ ∀ e ∈ edits, e.database? = none
  := by
  unfold isEmpty
  rw [List.all_eq_true]
  constructor
  · intro hempty e he
    cases hdatabase : e.database? with
    | none => rfl
    | some database =>
      obtain ⟨draft, hentry, hdraft⟩ := (h.exists_mem_entries_iff database).2 ⟨e, he, hdatabase⟩
      have htrue := hempty draft (List.mem_map.2 ⟨_, hentry, rfl⟩)
      rw [hdraft] at htrue
      cases htrue
  · intro huntouched draft hvalue
    obtain ⟨⟨database, draft⟩, hentry, rfl⟩ := List.mem_map.1 hvalue
    cases hdraft : draft.isEmpty with
    | true => rfl
    | false =>
      obtain ⟨e, he, hdatabase⟩ := (h.exists_mem_entries_iff database).1 ⟨draft, hentry, hdraft⟩
      rw [huntouched e he] at hdatabase
      cases hdatabase

/-- The payload of a draft records what the draft collects. -/
theorem records (h : d.Collects edits) {txId userId : String} {tx : DataTx}
    (hpayload : d.payload txId userId = .ok tx) :
  tx.Records edits userId
  := by
  unfold payload at hpayload
  split at hpayload
  · cases hpayload
  cases hpayload
  constructor
  case mustSign => apply TextMap.inByteOrder_keys
  case mem_mustSign =>
    intro user
    rw [TextSet.mem_keys_add, h.mustSign]
  case databases =>
    rw [List.map_map]
    apply List.Pairwise.sublist (List.filter_sublist.map _) (TextMap.inByteOrder_keys _)
  case mem_databases =>
    intro database
    rw [← h.exists_mem_entries_iff]
    simp [DatabaseDraft.operations]
  case operations =>
    intro ops hops
    obtain ⟨⟨database, draft⟩, hentry, rfl⟩ := List.mem_map.1 hops
    obtain ⟨hmem, hdraft⟩ := List.mem_filter.1 hentry
    obtain ⟨rfl, -⟩ := d.mem_entries_iff.1 ⟨hmem, by simpa using hdraft⟩
    apply (h.databases database).records

end Collects

/-! ### What is signed -/

/-- The draft after edits of a fresh one. -/
def ofEdits (edits : List DataEdit) : DataDraft := edits.foldl apply empty

theorem collects_ofEdits (edits : List DataEdit) :
  (ofEdits edits).Collects edits
  := by
  have hempty : empty.Collects [] := by
    constructor
    · exact fun _ => .empty
    · simp [empty]
  exact foldl_induction hempty (fun _ _ e h => h.apply e) edits

/-- What comes out of composing after a history: an error if it touches no database, else the signed
transaction that records it. -/
inductive Composes (edits : List DataEdit) (scheme : Scheme) (signer : Signer) (txId : String) :
    Except ComposeError Envelope → Prop
  | noOperations (huntouched : ∀ e ∈ edits, e.database? = none) :
    Composes edits scheme signer txId (.error .noOperations)
  | signed {tx : DataTx} (htouched : ∃ e ∈ edits, e.database? ≠ none) (htx : tx.txId = txId)
      (hrecords : tx.Records edits signer.userId) :
    Composes edits scheme signer txId (.ok (.data ⟨tx, TextMap.empty.insert signer.userId
      (signer.signValue scheme DataTx.codec tx)⟩))

/-- After edits of a fresh draft of a data transaction, composing gives what their history tells. -/
theorem composes_ofEdits (edits : List DataEdit) (scheme : Scheme) (signer : Signer)
    (txId : String) :
  Composes edits scheme signer txId ((ofEdits edits).envelope scheme signer txId)
  := by
  have h := collects_ofEdits edits
  unfold envelope
  by_cases hempty : (ofEdits edits).isEmpty = true
  · have hpayload : (ofEdits edits).payload txId signer.userId = .error .noOperations :=
      if_pos hempty
    rw [hpayload]
    exact .noOperations (h.isEmpty_iff.1 hempty)
  · have hpayload : (ofEdits edits).payload txId signer.userId = .ok _ := if_neg hempty
    rw [hpayload]
    rw [h.isEmpty_iff] at hempty
    exact .signed (by simpa using hempty) rfl (h.records hpayload)

example :
  (ofEdits [.delete "b" "k", .put "b" "k" [1] none, .read "a" "k" none, .delete "b" "l",
    .delete "b" "k", .mustSign "c", .put "b" "l" [2] none, .put "b" "m" [3] none,
    .delete "b" "k"]).payload "t" "b"
    = .ok ⟨["b", "c"], "t", [⟨"a", [⟨"k", none⟩], [], []⟩,
      ⟨"b", [], [⟨"l", [2], none⟩, ⟨"m", [3], none⟩], [⟨"k"⟩]⟩]⟩
  := by decide

end DataDraft

end LedgerTrust
