import LedgerTrust.Draft.Config
import LedgerTrust.Proofs.Draft.History

/-!
# What configuration transactions record

The nodes of a configuration and its administrators are two lists that are edited in the same three
ways: a list is loaded, a member is added in place of the one with its name, or a name is removed.
Such a list has first what was loaded last and is not dropped since, in the order of that list, and
then what was added and is not dropped since, in the order of the times (`IsRoster`). A configuration
is composed exactly if both lists have a member, and then it records both, and the version of the
configuration that was loaded last.
-/

namespace LedgerTrust

/-! ### Lists of members -/

/-- A change to a list of members that have names. -/
inductive RosterEdit (α : Type) where
  | load (members : List α)
  /-- The member takes the place of the one with the same name. -/
  | add (member : α)
  | remove (name : String)

namespace RosterEdit

variable {α : Type}

/-- A member that is in the list does not stay there: another list is loaded, or a member with its
name is added, or the name is removed. -/
def Drops (name : α → String) (a : α) : RosterEdit α → Prop
  | .load _ => True
  | .add b => name a = name b
  | .remove n => name a = n

/-- The list that is loaded, if one is. -/
def loaded? : RosterEdit α → Option (List α)
  | .load members => some members
  | _ => none

end RosterEdit

section Roster

variable {α : Type} (name : α → String) (edits : List (RosterEdit α))

/-- A member of a list that was loaded at a time, and dropped by no later change. -/
def StaysLoaded (t : Nat) (a : α) : Prop :=
  ∃ members, a ∈ members ∧ Lasts edits (fun _ => .load members) (RosterEdit.Drops name) t a

/-- A member that was added at a time, and dropped by no later change. -/
def StaysAdded : Nat → α → Prop := Lasts edits .add (RosterEdit.Drops name)

/-- A member that was loaded or added, and dropped by no later change. -/
def Remains (a : α) : Prop :=
  (∃ t, StaysLoaded name edits t a) ∨ ∃ t, StaysAdded name edits t a

/-- The list that was loaded last; before the first one, nothing is. -/
def lastLoaded : List α := (lastOf? RosterEdit.loaded? edits).getD []

/-- What stays of the list that was loaded last, in its order. -/
structure IsKept (kept : List α) : Prop where
  sublist : kept.Sublist (lastLoaded edits)
  mem_iff : ∀ a, a ∈ kept ↔ ∃ t, StaysLoaded name edits t a

/-- A list of members with different names: those that stay of the list that was loaded last, and
behind them those that were added and stay, in the order of the times. -/
def IsRoster (l : List α) : Prop :=
  (l.map name).Nodup ∧ ∃ kept added, l = kept ++ added ∧ IsKept name edits kept
    ∧ InOrder (StaysAdded name edits) added

end Roster

variable {α : Type} {name : α → String} {edits : List (RosterEdit α)} {l : List α}

/-- After a change that loads nothing there stays what stayed and is not dropped by it. -/
theorem IsKept.filter (h : IsKept name edits l) {e : RosterEdit α} (he : e.loaded? = none)
    {p : α → Bool} (hp : ∀ a, p a = true ↔ ¬ e.Drops name a) :
  IsKept name (edits ++ [e]) (l.filter p)
  := by
  have hload (members : List α) : e ≠ .load members := by
    rintro rfl
    cases he
  constructor
  · rw [lastLoaded, lastOf?_concat, he]
    apply List.filter_sublist.trans h.sublist
  · intro a
    rw [List.mem_filter, h.mem_iff, hp]
    simp only [StaysLoaded, lasts_concat_iff, hload, and_false, or_false, ← and_assoc,
      exists_and_right]

namespace IsRoster

theorem mem_iff {a : α} (h : IsRoster name edits l) :
  a ∈ l ↔ Remains name edits a
  := by
  obtain ⟨-, kept, added, rfl, hkept, hadded⟩ := h
  rw [List.mem_append, hkept.mem_iff, hadded.mem_iff]
  exact Iff.rfl

theorem isEmpty_iff (h : IsRoster name edits l) :
  l.isEmpty = true ↔ ∀ a, ¬ Remains name edits a
  := by
  rw [List.isEmpty_iff, List.eq_nil_iff_forall_not_mem]
  simp only [h.mem_iff]

theorem nil :
  IsRoster name [] ([] : List α)
  := by
  use List.nodup_nil, [], [], rfl
  constructor
  · use List.Sublist.slnil
    simp [StaysLoaded, Lasts]
  · apply InOrder.nil
    simp [StaysAdded, Lasts]

/-- A list that is loaded replaces everything. -/
theorem load {members : List α} (h : (members.map name).Nodup) :
  IsRoster name (edits ++ [.load members]) members
  := by
  use h, members, [], (List.append_nil members).symm
  constructor
  · constructor
    · rw [lastLoaded, lastOf?_concat]
      apply List.Sublist.refl
    · simp [StaysLoaded, lasts_concat_iff, RosterEdit.Drops]
  · apply InOrder.nil
    simp [StaysAdded, lasts_concat_iff, RosterEdit.Drops]

/-- A name that is removed is taken out of both parts of the list. -/
theorem remove (h : IsRoster name edits l) (n : String) :
  IsRoster name (edits ++ [.remove n]) (l.filter (name · ≠ n))
  := by
  obtain ⟨hnodup, kept, added, rfl, hkept, hadded⟩ := h
  use hnodup.sublist (List.filter_sublist.map name)
  use kept.filter (name · ≠ n), added.filter (name · ≠ n), List.filter_append ..
  constructor
  · apply hkept.filter rfl
    simp [RosterEdit.Drops]
  · apply (hadded.filter (name · ≠ n)).congr
    intro t a
    simp [StaysAdded, lasts_concat_iff, RosterEdit.Drops]

/-- A member that is added stands behind all others, and none of them has its name. -/
theorem add (h : IsRoster name edits l) (b : α) :
  IsRoster name (edits ++ [.add b]) (l.filter (name · ≠ name b) ++ [b])
  := by
  obtain ⟨hnodup, kept, added, rfl, hkept, hadded⟩ := h
  constructor
  · rw [List.map_append, List.nodup_append]
    use hnodup.sublist (List.filter_sublist.map name), List.nodup_singleton _
    intro n hn _ hb
    obtain rfl := List.mem_singleton.1 hb
    obtain ⟨a, ha, rfl⟩ := List.mem_map.1 hn
    exact of_decide_eq_true (List.mem_filter.1 ha).2
  use kept.filter (name · ≠ name b), added.filter (name · ≠ name b) ++ [b]
  constructor
  · rw [List.filter_append, List.append_assoc]
  constructor
  · apply hkept.filter rfl
    simp [RosterEdit.Drops]
  · apply ((hadded.filter (name · ≠ name b)).concat (fun t a ha => ha.1.lt_length) b).congr
    intro t a
    simp [StaysAdded, lasts_concat_iff, RosterEdit.Drops, @eq_comm _ b]

end IsRoster

/-! ### What an edit does -/

namespace ConfigTxEdit

/-- What an edit does to the nodes, if it does anything. -/
def onNodes? : ConfigTxEdit → Option (RosterEdit NodeConfig)
  | .load config _ => some (.load config.nodes)
  | .addNode node => some (.add node)
  | .removeNode id => some (.remove id)
  | _ => none

/-- What an edit does to the administrators, if it does anything. -/
def onAdmins? : ConfigTxEdit → Option (RosterEdit Admin)
  | .load config _ => some (.load config.admins)
  | .addAdmin admin => some (.add admin)
  | .removeAdmin id => some (.remove id)
  | _ => none

/-- The version of a configuration that is loaded. -/
def version? : ConfigTxEdit → Option Version
  | .load _ version => some version
  | _ => none

/-- In a configuration that is loaded, all nodes and all administrators have different names. -/
def LoadsDistinct : ConfigTxEdit → Prop
  | .load config _ => (config.nodes.map (·.id)).Nodup ∧ (config.admins.map (·.id)).Nodup
  | _ => True

end ConfigTxEdit

/-! ### Drafts of configuration -/

/-- A draft has the nodes and the administrators of a history, and the version that was loaded
last. -/
structure ConfigTxDraft.Collects (edits : List ConfigTxEdit) (d : ConfigTxDraft) : Prop where
  version : d.readVersion = lastOf? ConfigTxEdit.version? edits
  nodes : IsRoster NodeConfig.id (edits.filterMap ConfigTxEdit.onNodes?) d.config.nodes
  admins : IsRoster Admin.id (edits.filterMap ConfigTxEdit.onAdmins?) d.config.admins

/-- A configuration transaction records a history: the version that was loaded last, the nodes and
the administrators. -/
structure ConfigTx.Records (edits : List ConfigTxEdit) (tx : ConfigTx) : Prop where
  version : tx.readVersion = lastOf? ConfigTxEdit.version? edits
  nodes : IsRoster NodeConfig.id (edits.filterMap ConfigTxEdit.onNodes?) tx.newConfig.nodes
  admins : IsRoster Admin.id (edits.filterMap ConfigTxEdit.onAdmins?) tx.newConfig.admins

namespace ConfigTxDraft

variable {edits : List ConfigTxEdit} {d : ConfigTxDraft}

/-- The draft after edits of a fresh one. -/
def ofEdits (edits : List ConfigTxEdit) : ConfigTxDraft := edits.foldl apply empty

theorem Collects.apply (h : d.Collects edits) {e : ConfigTxEdit} (he : e.LoadsDistinct) :
  (d.apply e).Collects (edits ++ [e])
  := by
  constructor
  case version =>
    rw [lastOf?_concat, ← h.version]
    cases e with
    | _ => rfl
  all_goals rw [List.filterMap_append]
  case nodes =>
    cases e with
    | load config version => exact .load he.1
    | addNode node => exact h.nodes.add node
    | removeNode id => exact h.nodes.remove id
    | _ =>
      rw [List.filterMap_cons_none rfl, List.filterMap_nil, List.append_nil]
      exact h.nodes
  case admins =>
    cases e with
    | load config version => exact .load he.2
    | addAdmin admin => exact h.admins.add admin
    | removeAdmin id => exact h.admins.remove id
    | _ =>
      rw [List.filterMap_cons_none rfl, List.filterMap_nil, List.append_nil]
      exact h.admins

theorem collects_ofEdits (h : ∀ e ∈ edits, e.LoadsDistinct) :
  (ofEdits edits).Collects edits
  := by
  induction edits using List.reverseRecOn with
  | nil => exact ⟨rfl, .nil, .nil⟩
  | append_singleton edits e ih =>
    rw [List.forall_mem_append] at h
    rw [ofEdits, List.foldl_concat]
    apply (ih h.1).apply
    exact h.2 e List.mem_cons_self

/-! ### What is signed -/

/-- What comes out of composing after a history: an error if no node or no administrator remains,
else the signed transaction that records it. -/
inductive Composes (edits : List ConfigTxEdit) (scheme : Scheme) (signer : Signer)
    (txId : String) : Except ComposeError Envelope → Prop
  | noNodes (hnone : ∀ node, ¬ Remains NodeConfig.id (edits.filterMap ConfigTxEdit.onNodes?) node) :
    Composes edits scheme signer txId (.error .noNodes)
  | noAdmins (hnodes : ∃ node, Remains NodeConfig.id (edits.filterMap ConfigTxEdit.onNodes?) node)
      (hnone : ∀ admin, ¬ Remains Admin.id (edits.filterMap ConfigTxEdit.onAdmins?) admin) :
    Composes edits scheme signer txId (.error .noAdmins)
  | signed {tx : ConfigTx}
      (hnodes : ∃ node, Remains NodeConfig.id (edits.filterMap ConfigTxEdit.onNodes?) node)
      (hadmins : ∃ admin, Remains Admin.id (edits.filterMap ConfigTxEdit.onAdmins?) admin)
      (huser : tx.userId = signer.userId) (htx : tx.txId = txId) (hrecords : tx.Records edits) :
    Composes edits scheme signer txId (.ok (.config (.signed scheme signer ConfigTx.codec tx)))

theorem Collects.composes (h : d.Collects edits) (scheme : Scheme) (signer : Signer)
    (txId : String) :
  Composes edits scheme signer txId (d.envelope scheme signer txId)
  := by
  unfold envelope payload
  by_cases hnodes : d.config.nodes.isEmpty = true
  · rw [if_pos hnodes]
    exact .noNodes (h.nodes.isEmpty_iff.1 hnodes)
  rw [if_neg hnodes]
  rw [h.nodes.isEmpty_iff, not_forall_not] at hnodes
  by_cases hadmins : d.config.admins.isEmpty = true
  · rw [if_pos hadmins]
    exact .noAdmins hnodes (h.admins.isEmpty_iff.1 hadmins)
  rw [if_neg hadmins]
  rw [h.admins.isEmpty_iff, not_forall_not] at hadmins
  exact .signed hnodes hadmins rfl rfl ⟨h.version, h.nodes, h.admins⟩

/-- After edits of a fresh draft of configuration, where every configuration that is loaded has
different names: after each of the edits all nodes have different names, and so have all
administrators, and composing gives what the history tells. -/
theorem envelope_ofEdits (h : ∀ e ∈ edits, e.LoadsDistinct) (scheme : Scheme) (signer : Signer)
    (txId : String) :
  (∀ done, done <+: edits → ((ofEdits done).config.nodes.map (·.id)).Nodup
      ∧ ((ofEdits done).config.admins.map (·.id)).Nodup)
    ∧ Composes edits scheme signer txId ((ofEdits edits).envelope scheme signer txId)
  := by
  constructor
  · intro done hdone
    have hdone := collects_ofEdits fun e he => h e (hdone.subset he)
    exact ⟨hdone.nodes.1, hdone.admins.1⟩
  · apply (collects_ofEdits h).composes

/-- A configuration is loaded, one of its nodes is replaced and one removed, and a node that was added
before is gone. -/
theorem envelope_ofEdits_reloaded :
  let edits : List ConfigTxEdit := [.addNode ⟨"z", "h", 1, []⟩,
    .load ⟨[⟨"a", "h", 1, []⟩, ⟨"b", "h", 1, []⟩, ⟨"c", "h", 1, []⟩], [⟨"x", []⟩]⟩ ⟨7, 0⟩,
    .addNode ⟨"a", "h", 2, []⟩, .removeNode "b", .addAdmin ⟨"y", [1]⟩]
  (∀ e ∈ edits, e.LoadsDistinct)
    ∧ Composes edits .version1 ⟨"u", []⟩ "t" ((ofEdits edits).envelope .version1 ⟨"u", []⟩ "t")
    ∧ (ofEdits edits).payload "t" "u" = .ok ⟨"u", "t", some ⟨7, 0⟩,
      ⟨[⟨"c", "h", 1, []⟩, ⟨"a", "h", 2, []⟩], [⟨"x", []⟩, ⟨"y", [1]⟩]⟩⟩
  := by
  intro edits
  have hdistinct : ∀ e ∈ edits, e.LoadsDistinct := by simp [edits, ConfigTxEdit.LoadsDistinct]
  use hdistinct, (envelope_ofEdits hdistinct .version1 ⟨"u", []⟩ "t").2
  decide

end ConfigTxDraft

end LedgerTrust
