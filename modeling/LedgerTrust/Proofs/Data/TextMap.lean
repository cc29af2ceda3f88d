import Mathlib.Data.List.Nodup
import LedgerTrust.Data.TextMap

/-!
# Maps from their entries

The map of the list of entries of a map is this map: each entry is inserted behind those that are
there. So a map is read back from the list of its entries, and a set from the list of its texts.

What is found in a map under a key tells its entries, and so the map itself. An insertion changes
what is found under its key only, and so does an erasure.
-/

namespace LedgerTrust

namespace TextMap

variable {β : Type}

/-- A key above all others is inserted at the end. -/
theorem insertEntry_eq_append {k : String} {v : β} {l : List (String × β)}
    (h : ∀ e ∈ l, e.1 < k) :
  insertEntry k v l = l ++ [(k, v)]
  := by
  induction l with
  | nil => rfl
  | cons e r ih =>
    have he := h e List.mem_cons_self
    have hne : k ≠ e.1 := fun heq => String.lt_irrefl k (heq ▸ he)
    rw [insertEntry, if_neg (String.lt_asymm he), if_neg hne,
      ih fun f hf => h f (List.mem_cons_of_mem e hf)]
    rfl

theorem entries_foldl_insert (m : TextMap β) {l : List (String × β)}
    (h : (m.entries ++ l).Pairwise (·.1 < ·.1)) :
  (l.foldl (fun m e => m.insert e.1 e.2) m).entries = m.entries ++ l
  := by
  induction l generalizing m with
  | nil => exact (List.append_nil m.entries).symm
  | cons e r ih =>
    have hlast : (m.insert e.1 e.2).entries = m.entries ++ [e] := by
      apply insertEntry_eq_append
      intro f hf
      exact (List.pairwise_append.1 h).2.2 f hf e List.mem_cons_self
    have hsplit : m.entries ++ e :: r = (m.entries ++ [e]) ++ r := by simp
    rw [List.foldl_cons, ih]
    · rw [hlast, hsplit]
    · rwa [hlast, ← hsplit]

theorem ext {m n : TextMap β} (h : m.entries = n.entries) :
  m = n
  := by
  cases m
  cases n
  cases h
  rfl

/-- A map is read back from its entries. -/
theorem ofList_entries (m : TextMap β) :
  ofList m.entries = m
  := by
  apply ext
  rw [ofList, entries_foldl_insert]
  · rfl
  · exact m.sorted

/-! ### What is found under a key -/

variable {m n : TextMap β} {k k' : String} {v w : β}

theorem sorted_keys (m : TextMap β) :
  m.keys.Pairwise (· < ·)
  := List.pairwise_map.2 m.sorted

theorem nodup_keys (m : TextMap β) :
  m.keys.Nodup
  := by
  apply m.sorted_keys.imp
  rintro k _ hlt rfl
  exact String.lt_irrefl k hlt

/-- A map binds no key to two values. -/
theorem eq_of_mem_entries (hv : (k, v) ∈ m.entries) (hw : (k, w) ∈ m.entries) :
  v = w
  := congrArg Prod.snd (List.inj_on_of_nodup_map m.nodup_keys hv hw rfl)

theorem get?_eq_some_iff :
  m.get? k = some v ↔ (k, v) ∈ m.entries
  := by
  unfold get?
  constructor
  · intro h
    obtain ⟨⟨k', v'⟩, hfind, rfl⟩ := Option.map_eq_some_iff.1 h
    obtain rfl : k' = k := by simpa using List.find?_some hfind
    exact List.mem_of_find?_eq_some hfind
  · intro h
    cases hfind : m.entries.find? (·.1 = k) with
    | none =>
      have hne := List.find?_eq_none.1 hfind (k, v) h
      simp at hne
    | some e =>
      obtain ⟨k', v'⟩ := e
      obtain rfl : k' = k := by simpa using List.find?_some hfind
      rw [eq_of_mem_entries h (List.mem_of_find?_eq_some hfind)]
      rfl

theorem mem_keys_iff :
  k ∈ m.keys ↔ ∃ v, m.get? k = some v
  := by
  simp only [get?_eq_some_iff]
  simp [keys]

theorem contains_iff :
  m.contains k = true ↔ k ∈ m.keys
  := by simp [contains, keys]

/-- Maps in which the same is found under every key are equal. -/
theorem ext_get? (h : ∀ k, m.get? k = n.get? k) :
  m = n
  := by
  have hmem : ∀ e, e ∈ m.entries ↔ e ∈ n.entries := by
    rintro ⟨k, v⟩
    rw [← get?_eq_some_iff, h k, get?_eq_some_iff]
  apply ext
  apply List.Perm.eq_of_pairwise _ m.sorted n.sorted
  · apply (List.perm_ext_iff_of_nodup m.nodup_keys.of_map n.nodup_keys.of_map).2 hmem
  · intro e f _ _ hlt hgt
    exact absurd hgt (String.lt_asymm hlt)

/-! ### Insertion and erasure -/

theorem mem_insertEntry_iff {l : List (String × β)} (h : l.Pairwise (·.1 < ·.1))
    {e : String × β} :
  e ∈ insertEntry k v l ↔ e = (k, v) ∨ e.1 ≠ k ∧ e ∈ l
  := by
  induction l with
  | nil => simp [insertEntry]
  | cons f r ih =>
    obtain ⟨hf, hr⟩ := List.pairwise_cons.1 h
    simp only [insertEntry]
    split
    · next hlt =>
      have hne : ∀ g ∈ f :: r, g.1 ≠ k := by
        rintro g hg rfl
        obtain rfl | hg := List.mem_cons.1 hg
        · exact String.lt_irrefl _ hlt
        · exact String.lt_asymm hlt (hf g hg)
      rw [List.mem_cons]
      apply or_congr_right
      exact ⟨fun he => ⟨hne e he, he⟩, And.right⟩
    · split
      · next heq =>
        have hne : ∀ g ∈ r, g.1 ≠ k := by
          rintro g hg rfl
          exact String.lt_irrefl _ (heq ▸ hf g hg)
        rw [List.mem_cons, List.mem_cons]
        apply or_congr_right
        constructor
        · exact fun he => ⟨hne e he, .inr he⟩
        · rintro ⟨he, rfl | hmem⟩
          · exact absurd heq.symm he
          · exact hmem
      · next hne =>
        rw [List.mem_cons, ih hr, List.mem_cons]
        constructor
        · rintro (rfl | he | ⟨he, hmem⟩)
          · exact .inr ⟨Ne.symm hne, .inl rfl⟩
          · exact .inl he
          · exact .inr ⟨he, .inr hmem⟩
        · rintro (he | ⟨he, rfl | hmem⟩)
          · exact .inr (.inl he)
          · exact .inl rfl
          · exact .inr (.inr ⟨he, hmem⟩)

@[simp]
theorem keys_empty :
  (empty : TextMap β).keys = []
  := rfl

theorem get?_insert (m : TextMap β) (k k' : String) (v : β) :
  (m.insert k v).get? k' = if k' = k then some v else m.get? k'
  := by
  ext w
  rw [get?_eq_some_iff]
  show (k', w) ∈ insertEntry k v m.entries ↔ _
  rw [mem_insertEntry_iff m.sorted]
  split
  · next heq => simp [heq, eq_comm]
  · next hne => simp [hne, get?_eq_some_iff]

theorem mem_keys_insert :
  k' ∈ (m.insert k v).keys ↔ k' = k ∨ k' ∈ m.keys
  := by
  rw [mem_keys_iff, mem_keys_iff, get?_insert]
  split
  · next heq => simp [heq]
  · next hne => simp [hne]

/-- A value that is bound to a new key is one more entry. -/
theorem perm_insert (h : k ∉ m.keys) (v : β) :
  (m.insert k v).entries.Perm ((k, v) :: m.entries)
  := by
  have hnew : ∀ e ∈ m.entries, e.1 ≠ k := by
    rintro e he rfl
    exact h (List.mem_map_of_mem he)
  have hcons : ((k, v) :: m.entries).Nodup :=
    List.nodup_cons.2 ⟨fun he => hnew _ he rfl, m.nodup_keys.of_map⟩
  apply (List.perm_ext_iff_of_nodup (m.insert k v).nodup_keys.of_map hcons).2
  intro e
  show e ∈ insertEntry k v m.entries ↔ _
  rw [mem_insertEntry_iff m.sorted, List.mem_cons]
  apply or_congr_right
  exact ⟨And.right, fun he => ⟨hnew e he, he⟩⟩

theorem get?_erase (m : TextMap β) (k k' : String) :
  (m.erase k).get? k' = if k' = k then none else m.get? k'
  := by
  ext w
  rw [get?_eq_some_iff]
  show (k', w) ∈ m.entries.filter (·.1 ≠ k) ↔ _
  split
  · next heq => simp [heq]
  · next hne => simp [hne, get?_eq_some_iff]

end TextMap

namespace TextSet

variable {s t : TextSet} {k k' : String}

/-- Sets of the same texts are equal. -/
theorem ext_keys (h : ∀ k, k ∈ s.keys ↔ k ∈ t.keys) :
  s = t
  := by
  apply TextMap.ext_get?
  intro k
  ext v
  have hk := h k
  rw [TextMap.mem_keys_iff, TextMap.mem_keys_iff] at hk
  constructor
  · intro hv
    obtain ⟨_, hw⟩ := hk.1 ⟨v, hv⟩
    exact hw
  · intro hv
    obtain ⟨_, hw⟩ := hk.2 ⟨v, hv⟩
    exact hw

theorem mem_keys_add :
  k' ∈ (s.add k).keys ↔ k' = k ∨ k' ∈ s.keys
  := TextMap.mem_keys_insert

theorem mem_keys_erase :
  k' ∈ (s.erase k).keys ↔ k' ≠ k ∧ k' ∈ s.keys
  := by
  rw [TextMap.mem_keys_iff, TextMap.mem_keys_iff, TextMap.get?_erase]
  split
  · next heq => simp [heq]
  · next hne => simp [hne]

end TextSet

/-- A set is read back from its texts. -/
theorem TextSet.ofTexts_keys (s : TextSet) :
  ofTexts s.keys = s
  := by
  have h : s.keys.map (fun k => (k, ())) = s.entries := by
    rw [TextMap.keys, List.map_map]
    exact List.map_id _
  rw [ofTexts, h, TextMap.ofList_entries]

end LedgerTrust
