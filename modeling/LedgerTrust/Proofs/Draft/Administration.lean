import LedgerTrust.Draft.Database
import LedgerTrust.Draft.User
import LedgerTrust.Proofs.Data.TextOrder
import LedgerTrust.Proofs.Draft.History

/-!
# What administrative transactions record

Drafts of administration are made of maps and sets, so they remember of their edits less than the
order in which they were made. A draft of user administration is determined by the last read and the
last change of each user, one of database administration by the set of its edits. Histories that
agree on these have the same draft, and so the same signed transaction.
-/

namespace LedgerTrust

/-! ### The reads and changes of users -/

namespace UserTxEdit

/-- The version with which a user is read, if the user is. -/
def readOf? (id : String) : UserTxEdit → Option (Option Version)
  | .read id' version => if id = id' then some version else none
  | _ => none

/-- What becomes of a user, if the user is changed: a write, or nothing after a delete. -/
def changeOf? (id : String) : UserTxEdit → Option (Option UserWrite)
  | .put user acl => if id = user.id then some (some ⟨user, acl⟩) else none
  | .delete id' => if id = id' then some none else none
  | .read _ _ => none

/-- The version with which a user is read last. -/
def lastRead? (edits : List UserTxEdit) (id : String) : Option (Option Version) :=
  lastOf? (readOf? id) edits

/-- What becomes of a user by the last change. -/
def lastChange? (edits : List UserTxEdit) (id : String) : Option (Option UserWrite) :=
  lastOf? (changeOf? id) edits

variable {edits : List UserTxEdit} {e : UserTxEdit} {id : String} {w : UserWrite}

/-- A user is written under the own identifier. -/
theorem id_of_lastChange? (h : lastChange? edits id = some (some w)) :
  w.user.id = id
  := by
  obtain ⟨e, -, he⟩ := exists_of_lastOf? h
  cases e with
  | put user acl =>
    simp only [changeOf?, Option.ite_none_right_eq_some, Option.some.injEq] at he
    obtain ⟨rfl, rfl⟩ := he
    rfl
  | delete => simp [changeOf?] at he
  | read => cases he

/-- No user is changed if and only if all edits are reads. -/
theorem forall_lastChange?_eq_none_iff :
  (∀ id, lastChange? edits id = none) ↔ ∀ e ∈ edits, ∃ id version, e = .read id version
  := by
  simp only [lastChange?, lastOf?_eq_none_iff]
  constructor
  · intro h e he
    cases e with
    | read id version => exact ⟨id, version, rfl⟩
    | put user acl => simpa [changeOf?] using h user.id _ he
    | delete id => simpa [changeOf?] using h id _ he
  · intro h id e he
    obtain ⟨_, _, rfl⟩ := h e he
    rfl

end UserTxEdit

open UserTxEdit (lastRead? lastChange?)

/-! ### Drafts of user administration -/

/-- A draft has the last read and the last change of each user. -/
structure UserTxDraft.Collects (edits : List UserTxEdit) (d : UserTxDraft) : Prop where
  reads : ∀ id, d.reads.get? id = lastRead? edits id
  writes : ∀ id, d.writes.get? id = (lastChange? edits id).join
  deletes : ∀ id, id ∈ d.deletes.keys ↔ lastChange? edits id = some none

namespace UserTxDraft

variable {edits edits' : List UserTxEdit} {d d' : UserTxDraft}

/-- The draft after edits of a fresh one. -/
def ofEdits (edits : List UserTxEdit) : UserTxDraft := edits.foldl apply empty

theorem Collects.apply (h : d.Collects edits) (e : UserTxEdit) :
  (d.apply e).Collects (edits ++ [e])
  := by
  constructor
  · intro id
    rw [lastRead?, lastOf?_concat, ← lastRead?, ← h.reads]
    cases e with
    | read id' version =>
      rw [UserTxDraft.apply, TextMap.get?_insert, UserTxEdit.readOf?]
      split
      · rfl
      · rfl
    | _ => rfl
  · intro id
    rw [lastChange?, lastOf?_concat, ← lastChange?]
    cases e with
    | read => exact h.writes id
    | put user acl =>
      rw [UserTxDraft.apply, TextMap.get?_insert, UserTxEdit.changeOf?]
      split
      · rfl
      · exact h.writes id
    | delete id' =>
      rw [UserTxDraft.apply, TextMap.get?_erase, UserTxEdit.changeOf?]
      split
      · rfl
      · exact h.writes id
  · intro id
    rw [lastChange?, lastOf?_concat, ← lastChange?]
    cases e with
    | read => exact h.deletes id
    | put user acl =>
      rw [UserTxDraft.apply, TextSet.mem_keys_erase, UserTxEdit.changeOf?]
      split
      · next heq => simp [heq]
      · next hne => simp [hne, h.deletes]
    | delete id' =>
      rw [UserTxDraft.apply, TextSet.mem_keys_add, UserTxEdit.changeOf?]
      split
      · next heq => simp [heq]
      · next hne => simp [hne, h.deletes]

theorem collects_ofEdits (edits : List UserTxEdit) :
  (ofEdits edits).Collects edits
  := by
  have hempty : empty.Collects [] := by
    constructor
    · exact fun _ => rfl
    · exact fun _ => rfl
    · simp [empty, lastChange?, lastOf?]
  exact foldl_induction hempty (fun _ _ e h => h.apply e) edits

/-- Drafts of histories that agree on what comes last are equal. -/
theorem Collects.eq (h : d.Collects edits) (h' : d'.Collects edits')
    (hreads : ∀ id, lastRead? edits id = lastRead? edits' id)
    (hchanges : ∀ id, lastChange? edits id = lastChange? edits' id) :
  d = d'
  := by
  obtain ⟨reads, writes, deletes⟩ := d
  obtain ⟨reads', writes', deletes'⟩ := d'
  obtain rfl : reads = reads' := TextMap.ext_get? fun id => by rw [h.reads, h'.reads, hreads]
  obtain rfl : writes = writes' := TextMap.ext_get? fun id => by rw [h.writes, h'.writes, hchanges]
  obtain rfl : deletes = deletes' :=
    TextSet.ext_keys fun id => by rw [h.deletes, h'.deletes, hchanges]
  rfl

end UserTxDraft

/-- A transaction on the users records the edits of a history: the last read of each user who is
read, and what becomes of each user by the last change, a write or a delete. -/
structure UserTx.Records (edits : List UserTxEdit) (tx : UserTx) : Prop where
  reads : InByteOrder (tx.reads.map (·.userId))
  mem_reads : ∀ r, r ∈ tx.reads ↔ lastRead? edits r.userId = some r.version
  writes : InByteOrder (tx.writes.map (·.user.id))
  mem_writes : ∀ w, w ∈ tx.writes ↔ lastChange? edits w.user.id = some (some w)
  deletes : InByteOrder (tx.deletes.map (·.userId))
  mem_deletes : ∀ x, x ∈ tx.deletes ↔ lastChange? edits x.userId = some none
  disjoint : ∀ w ∈ tx.writes, ∀ x ∈ tx.deletes, w.user.id ≠ x.userId

namespace UserTxDraft

variable {edits : List UserTxEdit} {d : UserTxDraft}

theorem Collects.mem_entries_iff (h : d.Collects edits) {id : String} {w : UserWrite} :
  (id, w) ∈ d.writes.entries ↔ lastChange? edits id = some (some w)
  := by rw [← TextMap.get?_eq_some_iff, h.writes, Option.join_eq_some_iff]

theorem Collects.mem_keys_iff (h : d.Collects edits) {id : String} :
  id ∈ d.writes.keys ↔ ∃ w, lastChange? edits id = some (some w)
  := by simp only [TextMap.mem_keys_iff, h.writes, Option.join_eq_some_iff]

/-- Nothing is written or deleted if and only if all edits are reads. -/
theorem Collects.isEmpty_iff (h : d.Collects edits) :
  d.writes.keys.isEmpty ∧ d.deletes.keys.isEmpty
    ↔ ∀ e ∈ edits, ∃ id version, e = .read id version
  := by
  rw [← UserTxEdit.forall_lastChange?_eq_none_iff, List.isEmpty_iff, List.isEmpty_iff,
    List.eq_nil_iff_forall_not_mem, List.eq_nil_iff_forall_not_mem]
  constructor
  · rintro ⟨hwrites, hdeletes⟩ id
    cases hlast : lastChange? edits id with
    | none => rfl
    | some change =>
      cases change with
      | none => exact absurd ((h.deletes id).2 hlast) (hdeletes id)
      | some w => exact absurd (h.mem_keys_iff.2 ⟨w, hlast⟩) (hwrites id)
  · intro hnone
    constructor
    · intro id hid
      obtain ⟨w, hlast⟩ := h.mem_keys_iff.1 hid
      cases (hnone id).symm.trans hlast
    · intro id hid
      cases (hnone id).symm.trans ((h.deletes id).1 hid)

theorem Collects.records (h : d.Collects edits) {txId userId : String} {tx : UserTx}
    (hpayload : d.payload txId userId = .ok tx) :
  tx.Records edits
  := by
  have hwritten (w : UserWrite) :
      w ∈ d.writes.values ↔ lastChange? edits w.user.id = some (some w) := by
    rw [← h.mem_entries_iff]
    constructor
    · intro hw
      obtain ⟨⟨id, w⟩, hentry, rfl⟩ := List.mem_map.1 hw
      have hid := UserTxEdit.id_of_lastChange? (h.mem_entries_iff.1 hentry)
      rw [hid]
      exact hentry
    · exact fun hentry => List.mem_map.2 ⟨_, hentry, rfl⟩
  have hdeleted (x : UserDelete) :
      x ∈ d.deletes.keys.map UserDelete.mk ↔ lastChange? edits x.userId = some none := by
    rw [← h.deletes]
    constructor
    · intro hx
      obtain ⟨id, hid, rfl⟩ := List.mem_map.1 hx
      exact hid
    · exact fun hid => List.mem_map.2 ⟨_, hid, rfl⟩
  unfold payload at hpayload
  split at hpayload
  · cases hpayload
  cases hpayload
  constructor
  case reads =>
    rw [List.map_map]
    apply TextMap.inByteOrder_keys
  case mem_reads =>
    intro r
    rw [← h.reads, TextMap.get?_eq_some_iff]
    constructor
    · intro hr
      obtain ⟨⟨id, version⟩, hentry, rfl⟩ := List.mem_map.1 hr
      exact hentry
    · exact fun hentry => List.mem_map.2 ⟨_, hentry, rfl⟩
  case writes =>
    have hkeys : d.writes.values.map (·.user.id) = d.writes.keys := by
      rw [TextMap.values, List.map_map]
      apply List.map_congr_left
      rintro ⟨id, w⟩ hentry
      exact UserTxEdit.id_of_lastChange? (h.mem_entries_iff.1 hentry)
    rw [hkeys]
    apply TextMap.inByteOrder_keys
  case mem_writes => exact hwritten
  case deletes =>
    rw [List.map_map]
    show InByteOrder (d.deletes.keys.map id)
    rw [List.map_id]
    apply TextMap.inByteOrder_keys
  case mem_deletes => exact hdeleted
  case disjoint =>
    intro w hw x hx heq
    have hput := (hwritten w).1 hw
    rw [heq, (hdeleted x).1 hx] at hput
    cases hput

/-- What comes out of composing after a history: an error if it has reads only, else the signed
transaction that records it. -/
inductive Composes (edits : List UserTxEdit) (scheme : Scheme) (signer : Signer) (txId : String) :
    Except ComposeError Envelope → Prop
  | noUsers (hreads : ∀ e ∈ edits, ∃ id version, e = .read id version) :
    Composes edits scheme signer txId (.error .noUsers)
  | signed {tx : UserTx} (hchanged : ∃ e ∈ edits, ∀ id version, e ≠ .read id version)
      (huser : tx.userId = signer.userId) (htx : tx.txId = txId) (hrecords : tx.Records edits) :
    Composes edits scheme signer txId (.ok (.user (.signed scheme signer UserTx.codec tx)))

theorem composes_envelope (edits : List UserTxEdit) (scheme : Scheme) (signer : Signer)
    (txId : String) :
  Composes edits scheme signer txId ((ofEdits edits).envelope scheme signer txId)
  := by
  have h := collects_ofEdits edits
  unfold envelope
  by_cases hempty : (ofEdits edits).writes.keys.isEmpty ∧ (ofEdits edits).deletes.keys.isEmpty
  · have hpayload : (ofEdits edits).payload txId signer.userId = .error .noUsers := if_pos hempty
    rw [hpayload]
    exact .noUsers (h.isEmpty_iff.1 hempty)
  · have hpayload : (ofEdits edits).payload txId signer.userId = .ok _ := if_neg hempty
    rw [hpayload]
    rw [h.isEmpty_iff] at hempty
    exact .signed (by simpa using hempty) rfl rfl (h.records hpayload)

end UserTxDraft

/-! ### Drafts of database administration -/

/-- A draft has the databases that are created, and those that are deleted. -/
structure DatabaseTxDraft.Collects (edits : List DatabaseTxEdit) (d : DatabaseTxDraft) : Prop where
  create : ∀ database, database ∈ d.create.keys ↔ .create database ∈ edits
  delete : ∀ database, database ∈ d.delete.keys ↔ .delete database ∈ edits

/-- A transaction on the databases records the edits of a history: the databases that are created
and those that are deleted. -/
structure DatabaseTx.Records (edits : List DatabaseTxEdit) (tx : DatabaseTx) : Prop where
  create : InByteOrder tx.create
  mem_create : ∀ database, database ∈ tx.create ↔ .create database ∈ edits
  delete : InByteOrder tx.delete
  mem_delete : ∀ database, database ∈ tx.delete ↔ .delete database ∈ edits

namespace DatabaseTxDraft

variable {edits edits' : List DatabaseTxEdit} {d d' : DatabaseTxDraft}

/-- The draft after edits of a fresh one. -/
def ofEdits (edits : List DatabaseTxEdit) : DatabaseTxDraft := edits.foldl apply empty

theorem Collects.apply (h : d.Collects edits) (e : DatabaseTxEdit) :
  (d.apply e).Collects (edits ++ [e])
  := by
  cases e with
  | create database' =>
    constructor
    · intro database
      rw [DatabaseTxDraft.apply, TextSet.mem_keys_add, h.create]
      simp [or_comm]
    · intro database
      rw [DatabaseTxDraft.apply, h.delete]
      simp
  | delete database' =>
    constructor
    · intro database
      rw [DatabaseTxDraft.apply, h.create]
      simp
    · intro database
      rw [DatabaseTxDraft.apply, TextSet.mem_keys_add, h.delete]
      simp [or_comm]

theorem collects_ofEdits (edits : List DatabaseTxEdit) :
  (ofEdits edits).Collects edits
  := by
  have hempty : empty.Collects [] := by
    constructor
    · simp [empty]
    · simp [empty]
  exact foldl_induction hempty (fun _ _ e h => h.apply e) edits

/-- Drafts of histories with the same edits are equal. -/
theorem Collects.eq (h : d.Collects edits) (h' : d'.Collects edits')
    (hedits : ∀ e, e ∈ edits ↔ e ∈ edits') :
  d = d'
  := by
  obtain ⟨create, delete⟩ := d
  obtain ⟨create', delete'⟩ := d'
  obtain rfl : create = create' :=
    TextSet.ext_keys fun database => by rw [h.create, h'.create, hedits]
  obtain rfl : delete = delete' :=
    TextSet.ext_keys fun database => by rw [h.delete, h'.delete, hedits]
  rfl

theorem Collects.of_conflict? (h : d.Collects edits) {database : String}
    (hconflict : d.conflict? = some database) :
  .create database ∈ edits ∧ .delete database ∈ edits
  := by
  constructor
  · exact (h.create database).1 (List.mem_of_find?_eq_some hconflict)
  · exact (h.delete database).1 (TextMap.contains_iff.1 (List.find?_some hconflict))

theorem Collects.not_both (h : d.Collects edits) (hconflict : d.conflict? = none)
    (database : String) :
  ¬ (.create database ∈ edits ∧ .delete database ∈ edits)
  := by
  rintro ⟨hcreate, hdelete⟩
  apply List.find?_eq_none.1 hconflict database ((h.create database).2 hcreate)
  exact TextMap.contains_iff.2 ((h.delete database).2 hdelete)

theorem Collects.isEmpty_iff (h : d.Collects edits) :
  d.create.keys.isEmpty ∧ d.delete.keys.isEmpty ↔ edits = []
  := by
  simp only [List.isEmpty_iff, List.eq_nil_iff_forall_not_mem, h.create, h.delete]
  constructor
  · rintro ⟨hcreate, hdelete⟩ e
    cases e with
    | create database => exact hcreate database
    | delete database => exact hdelete database
  · intro hedits
    exact ⟨fun database => hedits _, fun database => hedits _⟩

/-- What comes out of composing after a history: an error if a database is both created and deleted
or if there are no edits, else the signed transaction that records it. -/
inductive Composes (edits : List DatabaseTxEdit) (scheme : Scheme) (signer : Signer)
    (txId : String) : Except ComposeError Envelope → Prop
  | createdAndDeleted {database : String} (hcreate : .create database ∈ edits)
      (hdelete : .delete database ∈ edits) :
    Composes edits scheme signer txId (.error (.createdAndDeleted database))
  | noDatabases (hnone : edits = []) : Composes edits scheme signer txId (.error .noDatabases)
  | signed {tx : DatabaseTx}
      (hdisjoint : ∀ database, ¬ (.create database ∈ edits ∧ .delete database ∈ edits))
      (hsome : edits ≠ []) (huser : tx.userId = signer.userId) (htx : tx.txId = txId)
      (hrecords : tx.Records edits) :
    Composes edits scheme signer txId
      (.ok (.database (.signed scheme signer DatabaseTx.codec tx)))

theorem composes_envelope (edits : List DatabaseTxEdit) (scheme : Scheme) (signer : Signer)
    (txId : String) :
  Composes edits scheme signer txId ((ofEdits edits).envelope scheme signer txId)
  := by
  have h := collects_ofEdits edits
  unfold envelope payload
  cases hconflict : (ofEdits edits).conflict? with
  | some database =>
    obtain ⟨hcreate, hdelete⟩ := h.of_conflict? hconflict
    exact .createdAndDeleted hcreate hdelete
  | none =>
    dsimp only
    by_cases hempty : (ofEdits edits).create.keys.isEmpty ∧ (ofEdits edits).delete.keys.isEmpty
    · rw [if_pos hempty]
      exact .noDatabases (h.isEmpty_iff.1 hempty)
    · rw [if_neg hempty]
      refine .signed (h.not_both hconflict) (mt h.isEmpty_iff.2 hempty) rfl rfl ?_
      constructor
      · apply TextMap.inByteOrder_keys
      · exact h.create
      · apply TextMap.inByteOrder_keys
      · exact h.delete

end DatabaseTxDraft

/-! ### What is signed -/

/-- After edits of fresh drafts of administration, composing gives what their histories tell. On the
users, what is signed depends on the last read and the last change of each user only; on the
databases, it depends on the set of the edits only. -/
theorem administration_envelope_ofEdits (scheme : Scheme) (signer : Signer) (txId : String) :
  (∀ edits : List UserTxEdit, UserTxDraft.Composes edits scheme signer txId
    ((UserTxDraft.ofEdits edits).envelope scheme signer txId))
  ∧ (∀ edits edits' : List UserTxEdit,
    (∀ id, lastRead? edits id = lastRead? edits' id) →
    (∀ id, lastChange? edits id = lastChange? edits' id) →
    (UserTxDraft.ofEdits edits).envelope scheme signer txId
      = (UserTxDraft.ofEdits edits').envelope scheme signer txId)
  ∧ (∀ edits : List DatabaseTxEdit, DatabaseTxDraft.Composes edits scheme signer txId
    ((DatabaseTxDraft.ofEdits edits).envelope scheme signer txId))
  ∧ (∀ edits edits' : List DatabaseTxEdit, (∀ e, e ∈ edits ↔ e ∈ edits') →
    (DatabaseTxDraft.ofEdits edits).envelope scheme signer txId
      = (DatabaseTxDraft.ofEdits edits').envelope scheme signer txId)
  := by
  constructor
  · intro edits
    apply UserTxDraft.composes_envelope
  constructor
  · intro edits edits' hreads hchanges
    have h := UserTxDraft.collects_ofEdits edits
    rw [h.eq (UserTxDraft.collects_ofEdits edits') hreads hchanges]
  constructor
  · intro edits
    apply DatabaseTxDraft.composes_envelope
  · intro edits edits' hedits
    have h := DatabaseTxDraft.collects_ofEdits edits
    rw [h.eq (DatabaseTxDraft.collects_ofEdits edits') hedits]

/-- Two histories of users and two of databases with the same effects in other orders. -/
theorem administration_envelope_ofEdits_reordered :
  (UserTxDraft.ofEdits [.read "c" none, .put ⟨"a", [], .empty, true⟩ none, .delete "b"]).envelope
      .version1 ⟨"a", []⟩ "t"
    = (UserTxDraft.ofEdits [.delete "a", .put ⟨"b", [], .empty, false⟩ none, .delete "b",
      .put ⟨"a", [], .empty, true⟩ none, .read "c" none]).envelope .version1 ⟨"a", []⟩ "t"
  ∧ (DatabaseTxDraft.ofEdits [.create "a", .delete "b"]).envelope .version1 ⟨"a", []⟩ "t"
    = (DatabaseTxDraft.ofEdits [.delete "b", .create "a", .delete "b"]).envelope
      .version1 ⟨"a", []⟩ "t"
  := by
  obtain ⟨-, husers, -, hdatabases⟩ := administration_envelope_ofEdits .version1 ⟨"a", []⟩ "t"
  constructor
  · apply husers
    · intro id
      rfl
    · intro id
      by_cases ha : id = "a"
      · subst ha
        rfl
      · by_cases hb : id = "b"
        · subst hb
          rfl
        · simp [lastChange?, lastOf?, UserTxEdit.changeOf?, List.filterMap, ha, hb]
  · apply hdatabases
    simp [or_comm]

end LedgerTrust
