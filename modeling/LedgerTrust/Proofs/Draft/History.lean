import Mathlib.Data.List.Induction
import Mathlib.Data.List.Nodup
import Mathlib.Data.Nat.Find
import Mathlib.Tactic.Use

/-!
# Histories

`InOrder occurs l` says that the list `l` has what occurs, each time that it does, in the order of
the times. The edits of a draft form a history, and the time of an edit is its position: `Lasts` says
that something is made at a time and not undone later, `First` that something occurs for the first
time, `lastOf?` is what the last of the edits tells that tells something. All of this is told of a
history with one more edit by what this edit does, and so it is followed edit by edit.
-/

namespace LedgerTrust

variable {α κ ε : Type}

/-- What occurs, in the order of the times at which it does; `occurs t a` says that `a` occurs at
the time `t`. -/
def InOrder (occurs : Nat → α → Prop) (l : List α) : Prop :=
  ∃ log : List (Nat × α), log.Pairwise (·.1 < ·.1) ∧ (∀ t a, (t, a) ∈ log ↔ occurs t a)
    ∧ log.map Prod.snd = l

namespace InOrder

variable {occurs occurs' : Nat → α → Prop} {l : List α} {a : α}

theorem nil (h : ∀ t a, ¬ occurs t a) :
  InOrder occurs []
  := by
  use [], List.Pairwise.nil
  constructor
  · intro t a
    simp [h]
  · rfl

theorem mem_iff (h : InOrder occurs l) :
  a ∈ l ↔ ∃ t, occurs t a
  := by
  obtain ⟨log, -, hmem, rfl⟩ := h
  simp [hmem]

theorem congr (h : InOrder occurs l) (hiff : ∀ t a, occurs' t a ↔ occurs t a) :
  InOrder occurs' l
  := by
  obtain ⟨log, hsorted, hmem, hl⟩ := h
  use log, hsorted
  constructor
  · intro t a
    rw [hmem, hiff]
  · apply hl

theorem filter (h : InOrder occurs l) (p : α → Bool) :
  InOrder (fun t a => occurs t a ∧ p a = true) (l.filter p)
  := by
  obtain ⟨log, hsorted, hmem, rfl⟩ := h
  use log.filter (p ∘ Prod.snd), hsorted.filter _
  constructor
  · intro t a
    simp [hmem]
  · rw [List.filter_map]

/-- What occurs after everything else is listed at the end. -/
theorem concat (h : InOrder occurs l) {n : Nat} (hn : ∀ t a, occurs t a → t < n) (x : α) :
  InOrder (fun t a => occurs t a ∨ t = n ∧ a = x) (l ++ [x])
  := by
  obtain ⟨log, hsorted, hmem, rfl⟩ := h
  use log ++ [(n, x)]
  constructor
  · apply List.pairwise_append.2
    use hsorted, List.pairwise_singleton _ _
    rintro ⟨t, a⟩ he _ hx
    obtain rfl := List.mem_singleton.1 hx
    apply hn t a ((hmem t a).1 he)
  · constructor
    · intro t a
      simp [hmem]
    · simp

/-- A list that never has the same key twice: no key occurs after it did. -/
theorem nodup_map (h : InOrder occurs l) {key : α → κ}
    (hkey : ∀ t a t' a', occurs t a → occurs t' a' → key a = key a' → ¬ t < t') :
  (l.map key).Nodup
  := by
  obtain ⟨log, hsorted, hmem, rfl⟩ := h
  rw [List.map_map, List.Nodup, List.pairwise_map]
  apply hsorted.imp_of_mem
  rintro ⟨t, a⟩ ⟨t', a'⟩ ha ha' hlt heq
  exact hkey t a t' a' ((hmem t a).1 ha) ((hmem t' a').1 ha') heq hlt

end InOrder

/-! ### The first time -/

/-- Something occurs at a time, and not before. -/
def First (occurs : Nat → α → Prop) (t : Nat) (a : α) : Prop :=
  occurs t a ∧ ∀ t' < t, ¬ occurs t' a

theorem exists_first_iff {occurs : Nat → α → Prop} {a : α} :
  (∃ t, First occurs t a) ↔ ∃ t, occurs t a
  := by
  constructor
  · rintro ⟨t, h, -⟩
    exact ⟨t, h⟩
  · intro h
    classical
    use Nat.find h, Nat.find_spec h
    intro t' ht'
    apply Nat.find_min h ht'

/-! ### Edits at their times -/

variable {edits : List ε} {e x : ε} {t : Nat} {P : ε → Prop}

/-- What holds at first and is kept by each edit holds after a history. -/
theorem foldl_induction {δ : Type} {apply : δ → ε → δ} {d : δ} {motive : List ε → δ → Prop}
    (hempty : motive [] d)
    (hstep : ∀ edits d e, motive edits d → motive (edits ++ [e]) (apply d e)) (edits : List ε) :
  motive edits (edits.foldl apply d)
  := by
  induction edits using List.reverseRecOn with
  | nil => exact hempty
  | append_singleton edits e ih =>
    rw [List.foldl_concat]
    apply hstep _ _ _ ih

theorem lt_length_of_getElem? (h : edits[t]? = some x) :
  t < edits.length
  := (List.getElem?_eq_some_iff.1 h).1

theorem getElem?_concat_eq_some_iff :
  (edits ++ [e])[t]? = some x ↔ edits[t]? = some x ∨ t = edits.length ∧ e = x
  := by
  obtain hlt | rfl | hgt := Nat.lt_trichotomy t edits.length
  · rw [List.getElem?_append_left hlt]
    simp [Nat.ne_of_lt hlt]
  · simp
  · rw [List.getElem?_eq_none (by simp; omega), List.getElem?_eq_none (by omega)]
    simp [Nat.ne_of_gt hgt]

/-- No edit after a time is of a sort. -/
def NoneAfter (edits : List ε) (t : Nat) (P : ε → Prop) : Prop :=
  ∀ t' x, t < t' → edits[t']? = some x → ¬ P x

theorem noneAfter_concat_of_lt (h : t < edits.length) :
  NoneAfter (edits ++ [e]) t P ↔ NoneAfter edits t P ∧ ¬ P e
  := by
  constructor
  · intro hnone
    constructor
    · intro t' x hlt hx
      apply hnone t' x hlt
      exact getElem?_concat_eq_some_iff.2 (.inl hx)
    · apply hnone edits.length e h
      exact getElem?_concat_eq_some_iff.2 (.inr ⟨rfl, rfl⟩)
  · rintro ⟨hnone, he⟩ t' x hlt hx
    obtain hx | ⟨-, rfl⟩ := getElem?_concat_eq_some_iff.1 hx
    · apply hnone t' x hlt hx
    · apply he

theorem noneAfter_concat_length :
  NoneAfter (edits ++ [e]) edits.length P
  := by
  intro t' x hlt hx
  obtain hx | ⟨rfl, -⟩ := getElem?_concat_eq_some_iff.1 hx
  · exact absurd (lt_length_of_getElem? hx) (Nat.lt_asymm hlt)
  · exact absurd hlt (Nat.lt_irrefl _)

/-- Of the edits of a sort there is a last one. -/
theorem exists_last (h : ∃ x ∈ edits, P x) :
  ∃ t x, edits[t]? = some x ∧ P x ∧ NoneAfter edits t P
  := by
  induction edits using List.reverseRecOn with
  | nil => simp at h
  | append_singleton edits e ih =>
    by_cases he : P e
    · use edits.length, e, getElem?_concat_eq_some_iff.2 (.inr ⟨rfl, rfl⟩), he
      apply noneAfter_concat_length
    · obtain ⟨y, hy, hP⟩ := h
      obtain hy | hy := List.mem_append.1 hy
      · obtain ⟨t, x, hx, hP, hnone⟩ := ih ⟨y, hy, hP⟩
        use t, x, getElem?_concat_eq_some_iff.2 (.inl hx), hP
        exact (noneAfter_concat_of_lt (lt_length_of_getElem? hx)).2 ⟨hnone, he⟩
      · obtain rfl := List.mem_singleton.1 hy
        exact absurd hP he

/-! ### The last of what edits tell -/

/-- What the last of those edits tells that tell something. -/
def lastOf? (tells : ε → Option α) (edits : List ε) : Option α := (edits.filterMap tells).getLast?

theorem lastOf?_concat (tells : ε → Option α) (edits : List ε) (e : ε) :
  lastOf? tells (edits ++ [e]) = (tells e).or (lastOf? tells edits)
  := by
  rw [lastOf?, List.filterMap_append, List.getLast?_append]
  congr 1
  cases h : tells e with
  | _ => simp [h]

theorem lastOf?_eq_none_iff {tells : ε → Option α} :
  lastOf? tells edits = none ↔ ∀ e ∈ edits, tells e = none
  := by rw [lastOf?, List.getLast?_eq_none_iff, List.filterMap_eq_nil_iff]

theorem exists_of_lastOf? {tells : ε → Option α} {a : α} (h : lastOf? tells edits = some a) :
  ∃ e ∈ edits, tells e = some a
  := List.mem_filterMap.1 (List.mem_of_getLast? h)

/-! ### What lasts -/

variable {made : α → ε} {undoes : α → ε → Prop} {a : α}

/-- Something is made at a time and not undone later. -/
def Lasts (edits : List ε) (made : α → ε) (undoes : α → ε → Prop) (t : Nat) (a : α) : Prop :=
  edits[t]? = some (made a) ∧ NoneAfter edits t (undoes a)

theorem Lasts.lt_length (h : Lasts edits made undoes t a) :
  t < edits.length
  := lt_length_of_getElem? h.1

theorem Lasts.not_lt {t' : Nat} (h : Lasts edits made undoes t a) (hx : edits[t']? = some x)
    (hundoes : undoes a x) :
  ¬ t < t'
  := fun hlt => h.2 t' x hlt hx hundoes

/-- After one more edit there lasts what lasted and is not undone by it, and what it makes. -/
theorem lasts_concat_iff :
  Lasts (edits ++ [e]) made undoes t a
    ↔ Lasts edits made undoes t a ∧ ¬ undoes a e ∨ t = edits.length ∧ e = made a
  := by
  unfold Lasts
  constructor
  · rintro ⟨hmade, hnone⟩
    obtain hmade | hlast := getElem?_concat_eq_some_iff.1 hmade
    · obtain ⟨hnone, he⟩ := (noneAfter_concat_of_lt (lt_length_of_getElem? hmade)).1 hnone
      exact .inl ⟨⟨hmade, hnone⟩, he⟩
    · exact .inr hlast
  · rintro (⟨⟨hmade, hnone⟩, he⟩ | ⟨rfl, he⟩)
    · use getElem?_concat_eq_some_iff.2 (.inl hmade)
      exact (noneAfter_concat_of_lt (lt_length_of_getElem? hmade)).2 ⟨hnone, he⟩
    · use getElem?_concat_eq_some_iff.2 (.inr ⟨rfl, he⟩)
      apply noneAfter_concat_length

/-- What is made for the first time by the last edit is what did not last before. -/
theorem first_lasts_concat_iff (hself : ∀ a, e = made a → ¬ undoes a e) :
  First (Lasts (edits ++ [e]) made undoes) t a
    ↔ First (Lasts edits made undoes) t a ∧ ¬ undoes a e
      ∨ (t = edits.length ∧ e = made a) ∧ ¬ ∃ t', Lasts edits made undoes t' a
  := by
  unfold First
  simp only [lasts_concat_iff]
  constructor
  · rintro ⟨⟨hlasts, he⟩ | ⟨rfl, rfl⟩, hfirst⟩
    · apply Or.inl
      use ⟨hlasts, fun t' ht' hlasts' => hfirst t' ht' (.inl ⟨hlasts', he⟩)⟩
    · apply Or.inr
      use ⟨rfl, rfl⟩
      rintro ⟨t', hlasts⟩
      exact hfirst t' hlasts.lt_length (.inl ⟨hlasts, hself a rfl⟩)
  · rintro (⟨⟨hlasts, hfirst⟩, he⟩ | ⟨⟨rfl, rfl⟩, hnone⟩)
    · use .inl ⟨hlasts, he⟩
      rintro t' ht' (⟨hlasts', -⟩ | ⟨rfl, -⟩)
      · apply hfirst t' ht' hlasts'
      · exact absurd hlasts.lt_length (Nat.lt_asymm ht')
    · use .inr ⟨rfl, rfl⟩
      rintro t' ht' (⟨hlasts', -⟩ | ⟨rfl, -⟩)
      · exact hnone ⟨t', hlasts'⟩
      · exact absurd ht' (Nat.lt_irrefl _)

namespace InOrder

variable {l : List α} {b : α}

theorem lasts_unrelated (h : InOrder (Lasts edits made undoes) l) (hundoes : ∀ a, ¬ undoes a e)
    (hmade : ∀ a, e ≠ made a) :
  InOrder (Lasts (edits ++ [e]) made undoes) l
  := by
  apply h.congr
  intro t a
  simp [lasts_concat_iff, hundoes, hmade]

theorem first_lasts_unrelated (h : InOrder (First (Lasts edits made undoes)) l)
    (hundoes : ∀ a, ¬ undoes a e) (hmade : ∀ a, e ≠ made a) :
  InOrder (First (Lasts (edits ++ [e]) made undoes)) l
  := by
  apply h.congr
  intro t a
  simp [First, lasts_concat_iff, hundoes, hmade]

section Made

variable (h : InOrder (First (Lasts edits made undoes)) l) (hundoes : ∀ a, ¬ undoes a e)
  (hmade : ∀ a, e = made a ↔ a = b)

include h hundoes hmade

theorem first_lasts_made_iff :
  First (Lasts (edits ++ [e]) made undoes) t a
    ↔ First (Lasts edits made undoes) t a ∨ (t = edits.length ∧ a = b) ∧ a ∉ l
  := by
  rw [first_lasts_concat_iff fun a _ => hundoes a, hmade, h.mem_iff, exists_first_iff,
    and_iff_left (hundoes a)]

/-- What is made again keeps its place. -/
theorem first_lasts_made_of_mem (hx : b ∈ l) :
  InOrder (First (Lasts (edits ++ [e]) made undoes)) l
  := by
  apply h.congr
  intro t a
  rw [h.first_lasts_made_iff hundoes hmade, or_iff_left]
  rintro ⟨⟨-, rfl⟩, ha⟩
  exact ha hx

theorem first_lasts_made_of_not_mem (hx : b ∉ l) :
  InOrder (First (Lasts (edits ++ [e]) made undoes)) (l ++ [b])
  := by
  apply (h.concat (fun t a ha => ha.1.lt_length) b).congr
  intro t a
  rw [h.first_lasts_made_iff hundoes hmade, and_iff_left_of_imp]
  rintro ⟨-, rfl⟩
  exact hx

end Made

end InOrder

end LedgerTrust
