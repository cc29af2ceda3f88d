/-!
# Maps with texts as keys

A `TextMap β` lists its entries in the order of their keys, the order of code points, which is
also the order of the UTF-8 forms; no key occurs twice. So equal maps have equal lists of
entries. A `TextSet` is a map without values.
-/

namespace LedgerTrust

/-- A finite map from texts. -/
structure TextMap (β : Type) where
  entries : List (String × β)
  sorted : entries.Pairwise (·.1 < ·.1)
  deriving DecidableEq

namespace TextMap

variable {β : Type}

/-- The entries with the key `k` bound to `v`. -/
def insertEntry (k : String) (v : β) : List (String × β) → List (String × β)
  | [] => [(k, v)]
  | e :: r =>
    if k < e.1 then (k, v) :: e :: r
    else if k = e.1 then (k, v) :: r
    else e :: insertEntry k v r

theorem mem_insertEntry {k : String} {v : β} {l : List (String × β)} {e : String × β}
    (h : e ∈ insertEntry k v l) :
  e = (k, v) ∨ e ∈ l
  := by
  induction l with
  | nil => simpa [insertEntry] using h
  | cons f r ih =>
    simp only [insertEntry] at h
    split at h
    · simpa using h
    · split at h
      · rcases List.mem_cons.1 h with h | h
        · exact .inl h
        · exact .inr (List.mem_cons_of_mem f h)
      · rcases List.mem_cons.1 h with rfl | h
        · exact .inr List.mem_cons_self
        · exact (ih h).imp_right (List.mem_cons_of_mem f)

/-- A text that is neither below nor equal to another is above it. -/
theorem lt_of_not_lt_of_ne {s t : String} (h : ¬ s < t) (hne : s ≠ t) :
  t < s
  := by
  apply Decidable.byContradiction
  intro h'
  exact hne (String.le_antisymm (String.not_lt.1 h') (String.not_lt.1 h))

theorem sorted_insertEntry (k : String) (v : β) {l : List (String × β)}
    (h : l.Pairwise (·.1 < ·.1)) :
  (insertEntry k v l).Pairwise (·.1 < ·.1)
  := by
  induction l with
  | nil => simp [insertEntry]
  | cons e r ih =>
    obtain ⟨he, hr⟩ := List.pairwise_cons.1 h
    simp only [insertEntry]
    split
    · next hk =>
      apply List.pairwise_cons.2 ⟨?_, h⟩
      intro f hf
      rcases List.mem_cons.1 hf with rfl | hf
      · exact hk
      · exact String.lt_trans hk (he f hf)
    · next hk =>
      split
      · next heq =>
        apply List.pairwise_cons.2 ⟨?_, hr⟩
        intro f hf
        exact heq ▸ he f hf
      · next hne =>
        apply List.pairwise_cons.2 ⟨?_, ih hr⟩
        intro f hf
        rcases mem_insertEntry hf with rfl | hf
        · exact lt_of_not_lt_of_ne hk hne
        · exact he f hf

/-- The map without entries. -/
def empty : TextMap β := ⟨[], .nil⟩

/-- The map with the key `k` bound to `v`. -/
def insert (m : TextMap β) (k : String) (v : β) : TextMap β :=
  ⟨insertEntry k v m.entries, sorted_insertEntry k v m.sorted⟩

/-- The map without the key `k`. -/
def erase (m : TextMap β) (k : String) : TextMap β :=
  ⟨m.entries.filter (·.1 ≠ k), m.sorted.filter _⟩

/-- The value of the key `k`. -/
def get? (m : TextMap β) (k : String) : Option β := (m.entries.find? (·.1 = k)).map (·.2)

/-- Whether `k` is a key. -/
def contains (m : TextMap β) (k : String) : Bool := m.entries.any (·.1 = k)

/-- The keys in their order. -/
def keys (m : TextMap β) : List String := m.entries.map (·.1)

/-- The values in the order of their keys. -/
def values (m : TextMap β) : List β := m.entries.map (·.2)

/-- The number of keys. -/
def size (m : TextMap β) : Nat := m.entries.length

/-- The map of a list of entries, of which the last one of a key counts. -/
def ofList (l : List (String × β)) : TextMap β := l.foldl (fun m e => m.insert e.1 e.2) empty

end TextMap

/-- A finite set of texts. -/
abbrev TextSet := TextMap Unit

namespace TextSet

/-- The set with the text `k`. -/
def add (s : TextSet) (k : String) : TextSet := s.insert k ()

/-- The set of the texts of a list. -/
def ofTexts (l : List String) : TextSet := TextMap.ofList (l.map fun k => (k, ()))

end TextSet

end LedgerTrust
