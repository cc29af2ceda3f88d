import LedgerTrust.Data.TextMap
import Mathlib.Data.List.Forall2
import Mathlib.Data.List.Nodup
import Mathlib.Tactic.Use

/-!
# What fails first

Checks are made one after the other, and the error is the one of the first that fails. A check is
given by the errors that it fails with, so `FailsFirst` compares a chain of steps with a list of
checks, step by step (`failsFirst_bind`). Two checks are of all members of a list, and fail for the
first member that is at fault: `FirstError` where something cannot be made of it, `FirstRepeated`
where it was there before.
-/

namespace LedgerTrust

variable {α β ε κ : Type}

/-! ### Steps that may fail -/

section Bind

variable {x : Except ε α} {f : α → Except ε β}

/-- Steps that may fail end well exactly if each of them does. -/
theorem bind_eq_ok_iff {b : β} :
  (x >>= f) = .ok b ↔ ∃ a, x = .ok a ∧ f a = .ok b
  := by
  cases x with
  | ok a =>
    constructor
    · exact fun h => ⟨a, rfl, h⟩
    · rintro ⟨_, ⟨⟩, h⟩
      exact h
  | error e =>
    constructor
    · nofun
    · nofun

/-- They fail if the first one does, or the second one after the first ended well. -/
theorem bind_eq_error_iff {e : ε} :
  (x >>= f) = .error e ↔ x = .error e ∨ ∃ a, x = .ok a ∧ f a = .error e
  := by
  cases x with
  | ok a =>
    constructor
    · exact fun h => .inr ⟨a, rfl, h⟩
    · rintro (⟨⟨⟩⟩ | ⟨_, ⟨⟩, h⟩)
      exact h
  | error cause =>
    constructor
    · rintro ⟨⟩
      exact .inl rfl
    · rintro (⟨⟨⟩⟩ | ⟨_, ⟨⟩, -⟩)
      rfl

theorem mapError_eq_error_iff {η : Type} {report : ε → η} {e : η} :
  x.mapError report = .error e ↔ ∃ cause, x = .error cause ∧ e = report cause
  := by
  cases x with
  | ok a => simp [Except.mapError]
  | error cause => simp [Except.mapError, eq_comm]

theorem mapError_eq_ok_iff {η : Type} {report : ε → η} {a : α} :
  x.mapError report = .ok a ↔ x = .ok a
  := by
  cases x with
  | ok a => simp [Except.mapError]
  | error cause => simp [Except.mapError]

end Bind

theorem toOption_eq_some_iff {x : Except ε α} {a : α} :
  x.toOption = some a ↔ x = .ok a
  := by
  cases x with
  | ok b => simp [Except.toOption]
  | error e => simp [Except.toOption]

/-! ### Chains of checks -/

/-- An error is the one of the first check that fails. -/
def FailsFirst (checks : List (ε → Prop)) (e : ε) : Prop :=
  ∃ before check after, checks = before ++ check :: after ∧ check e
    ∧ ∀ earlier ∈ before, ∀ e', ¬ earlier e'

/-- No check fails. -/
def AllPass (checks : List (ε → Prop)) : Prop := ∀ check ∈ checks, ∀ e, ¬ check e

section Report

variable {ι : Type}

/-- A check that reports what is at fault passes if nothing is. -/
theorem forall_not_report_iff {p : ι → Prop} {report : ι → ε} :
  (∀ e, ¬ ∃ i, p i ∧ e = report i) ↔ ∀ i, ¬ p i
  := by
  constructor
  · exact fun h i hi => h (report i) ⟨i, hi, rfl⟩
  · rintro h _ ⟨i, hi, rfl⟩
    exact h i hi

theorem forall_not_report₂_iff {p : ι → κ → Prop} {report : ι → κ → ε} :
  (∀ e, ¬ ∃ i k, p i k ∧ e = report i k) ↔ ∀ i k, ¬ p i k
  := by
  constructor
  · exact fun h i k hik => h (report i k) ⟨i, k, hik, rfl⟩
  · rintro h _ ⟨i, k, hik, rfl⟩
    exact h i k hik

end Report

variable {check : ε → Prop} {checks later : List (ε → Prop)} {e : ε}

theorem not_failsFirst_nil :
  ¬ FailsFirst [] e
  := by
  rintro ⟨before, check, after, h, -⟩
  simp at h

theorem failsFirst_cons_iff :
  FailsFirst (check :: checks) e ↔ check e ∨ (∀ e', ¬ check e') ∧ FailsFirst checks e
  := by
  constructor
  · rintro ⟨before, failing, after, hsplit, hfails, hearlier⟩
    cases before with
    | nil =>
      cases hsplit
      exact .inl hfails
    | cons first before =>
      cases hsplit
      rw [List.forall_mem_cons] at hearlier
      exact .inr ⟨hearlier.1, before, failing, after, rfl, hfails, hearlier.2⟩
  · rintro (hfails | ⟨hpasses, before, failing, after, rfl, hfails, hearlier⟩)
    · exact ⟨[], check, checks, rfl, hfails, nofun⟩
    · use check :: before, failing, after, rfl, hfails
      exact List.forall_mem_cons.2 ⟨hpasses, hearlier⟩

theorem failsFirst_singleton_iff :
  FailsFirst [check] e ↔ check e
  := by simp [failsFirst_cons_iff, not_failsFirst_nil]

theorem allPass_append_iff :
  AllPass (checks ++ later) ↔ AllPass checks ∧ AllPass later
  := List.forall_mem_append

theorem allPass_cons_iff :
  AllPass (check :: checks) ↔ (∀ e, ¬ check e) ∧ AllPass checks
  := List.forall_mem_cons

theorem allPass_nil :
  AllPass ([] : List (ε → Prop))
  := nofun

/-- Later checks count where the earlier ones pass. -/
theorem failsFirst_append_iff :
  FailsFirst (checks ++ later) e ↔ FailsFirst checks e ∨ AllPass checks ∧ FailsFirst later e
  := by
  induction checks with
  | nil => simp [not_failsFirst_nil, AllPass]
  | cons check checks ih =>
    rw [List.cons_append, failsFirst_cons_iff, failsFirst_cons_iff, ih, allPass_cons_iff]
    tauto

theorem failsFirst_append_of_allPass (h : AllPass checks) :
  FailsFirst (checks ++ later) e ↔ FailsFirst later e
  := by
  rw [failsFirst_append_iff]
  constructor
  · rintro (⟨before, failing, after, rfl, hfails, -⟩ | ⟨-, hlater⟩)
    · exact absurd hfails (h failing (by simp) e)
    · exact hlater
  · exact fun hlater => .inr ⟨h, hlater⟩

/-- If a check fails, there is a first one that does. -/
theorem allPass_iff :
  AllPass checks ↔ ∀ e, ¬ FailsFirst checks e
  := by
  induction checks with
  | nil => simp [not_failsFirst_nil, AllPass]
  | cons check checks ih =>
    rw [allPass_cons_iff, ih]
    simp only [failsFirst_cons_iff, not_or, not_and, forall_and]
    apply and_congr_right
    intro hpasses
    simp only [hpasses, not_false_eq_true, implies_true, forall_const]

/-- A fault is looked for before others are. -/
theorem ite_eq_some_iff_failsFirst {p q : Prop} [Decidable p] {fault : ε} {others : Option ε}
    (hp : p ↔ q) (h : others = some e ↔ FailsFirst later e) :
  (if p then some fault else others) = some e ↔ FailsFirst ((fun e => q ∧ e = fault) :: later) e
  := by
  rw [failsFirst_cons_iff, ← h]
  by_cases hq : q
  · simp [hp, hq, eq_comm]
  · simp [hp, hq]

/-- Steps that make checks end well if all of them pass. -/
theorem exists_ok_iff_allPass {x : Except ε α} (hx : ∀ e, x = .error e ↔ FailsFirst checks e) :
  (∃ a, x = .ok a) ↔ AllPass checks
  := by
  rw [allPass_iff]
  cases x with
  | error cause => simpa using ⟨cause, (hx cause).1 rfl⟩
  | ok a => simpa using fun e he => nomatch (hx e).2 he

/-- Steps that make some checks and then others. -/
theorem failsFirst_bind {x : Except ε α} {f : α → Except ε β}
    (hx : ∀ e, x = .error e ↔ FailsFirst checks e)
    (hf : ∀ a, x = .ok a → (f a = .error e ↔ FailsFirst later e)) :
  (x >>= f) = .error e ↔ FailsFirst (checks ++ later) e
  := by
  rw [failsFirst_append_iff, bind_eq_error_iff, hx]
  apply or_congr_right
  rw [← exists_ok_iff_allPass hx]
  cases x with
  | error cause => simp
  | ok a => simp [hf]

/-! ### Errors that report others -/

section Reported

variable {η : Type} {report : ε → η}

/-- A check of which the errors are reported as others. -/
def Reported (report : ε → η) (check : ε → Prop) : η → Prop :=
  fun e => ∃ cause, check cause ∧ e = report cause

/-- What fails first is reported first. -/
theorem failsFirst_map_reported_iff {e : η} :
  FailsFirst (checks.map (Reported report)) e ↔ ∃ cause, FailsFirst checks cause ∧ e = report cause
  := by
  induction checks with
  | nil => simp [not_failsFirst_nil]
  | cons check checks ih =>
    simp only [List.map_cons, failsFirst_cons_iff, ih, Reported, forall_not_report_iff]
    constructor
    · rintro (⟨cause, hcheck, rfl⟩ | ⟨hpasses, cause, hlater, rfl⟩)
      · exact ⟨cause, .inl hcheck, rfl⟩
      · exact ⟨cause, .inr ⟨hpasses, hlater⟩, rfl⟩
    · rintro ⟨cause, hcheck | ⟨hpasses, hlater⟩, rfl⟩
      · exact .inl ⟨cause, hcheck, rfl⟩
      · exact .inr ⟨hpasses, cause, hlater, rfl⟩

theorem allPass_map_reported_iff :
  AllPass (checks.map (Reported report)) ↔ AllPass checks
  := by simp only [AllPass, List.forall_mem_map, Reported, forall_not_report_iff]

end Reported

/-! ### The first member of which nothing can be made -/

/-- A member is the first of a list for which a function fails, and this is the error. -/
def FirstError (f : α → Except ε β) (l : List α) (a : α) (e : ε) : Prop :=
  ∃ before after, l = before ++ a :: after ∧ f a = .error e ∧ ∀ b ∈ before, ∃ v, f b = .ok v

variable {f : α → Except ε β} {l : List α} {a b : α}

theorem firstError_cons_iff :
  FirstError f (b :: l) a e
    ↔ b = a ∧ f a = .error e ∨ (∃ v, f b = .ok v) ∧ FirstError f l a e
  := by
  constructor
  · rintro ⟨before, after, hsplit, herror, hearlier⟩
    cases before with
    | nil =>
      cases hsplit
      exact .inl ⟨rfl, herror⟩
    | cons first before =>
      cases hsplit
      rw [List.forall_mem_cons] at hearlier
      exact .inr ⟨hearlier.1, before, after, rfl, herror, hearlier.2⟩
  · rintro (⟨rfl, herror⟩ | ⟨hvalue, before, after, rfl, herror, hearlier⟩)
    · exact ⟨[], l, rfl, herror, nofun⟩
    · use b :: before, after, rfl, herror
      exact List.forall_mem_cons.2 ⟨hvalue, hearlier⟩

theorem mapM_eq_error_iff :
  l.mapM f = .error e ↔ ∃ a, FirstError f l a e
  := by
  induction l with
  | nil => simp [FirstError, pure, Except.pure]
  | cons b l ih =>
    have hpure (v : β) (vs : List β) : (pure (v :: vs) : Except ε (List β)) ≠ .error e := nofun
    simp only [List.mapM_cons, bind_eq_error_iff, ih, hpure, and_false, exists_false, or_false,
      firstError_cons_iff, exists_or, exists_eq_left', exists_and_left, exists_and_right]

theorem mapM_eq_ok_iff {vs : List β} :
  l.mapM f = .ok vs ↔ List.Forall₂ (fun a v => f a = .ok v) l vs
  := by
  induction l generalizing vs with
  | nil => simp [pure, Except.pure, eq_comm]
  | cons b l ih =>
    simp only [List.mapM_cons, bind_eq_ok_iff, ih, List.forall₂_cons_left_iff]
    constructor
    · rintro ⟨v, hv, rest, hrest, ⟨⟩⟩
      exact ⟨v, rest, hv, hrest, rfl⟩
    · rintro ⟨v, rest, hv, hrest, rfl⟩
      exact ⟨v, hv, rest, hrest, rfl⟩

/-- What is made of the members of a list. -/
theorem mem_iff_of_mapM_eq_ok {vs : List β} (h : l.mapM f = .ok vs) {v : β} :
  v ∈ vs ↔ ∃ a ∈ l, f a = .ok v
  := by
  rw [mapM_eq_ok_iff] at h
  induction h with
  | nil => simp
  | cons ha _ ih => simp [ih, ha, eq_comm]

/-- Something is made of all members if none is the first of which nothing can be made. -/
theorem forall_exists_ok_iff :
  (∀ a ∈ l, ∃ v, f a = .ok v) ↔ ∀ a e, ¬ FirstError f l a e
  := by
  induction l with
  | nil => simp [FirstError]
  | cons b l ih =>
    rw [List.forall_mem_cons, ih]
    simp only [firstError_cons_iff, not_or, not_and, forall_and]
    cases hb : f b with
    | error cause => simp [hb]
    | ok v =>
      have hne : ∀ a e, b = a → ¬ f a = .error e := by
        rintro _ e rfl herror
        cases hb.symm.trans herror
      simpa using fun _ => hne

/-- Where the errors of one function are reports of the errors of another, the first member at fault
is the same. -/
theorem firstError_iff_of_reports {η γ : Type} {g : α → Except η γ} {report : α → ε → η} {a : α}
    {e' : η} (h : ∀ a e', g a = .error e' ↔ ∃ e, f a = .error e ∧ e' = report a e) :
  FirstError g l a e' ↔ ∃ e, FirstError f l a e ∧ e' = report a e
  := by
  have hok : ∀ b, (∃ v, g b = .ok v) ↔ ∃ v, f b = .ok v := by
    intro b
    have hb := h b
    cases hg : g b with
    | error e' =>
      obtain ⟨e, he, -⟩ := (hb e').1 hg
      simp [he]
    | ok w =>
      cases hf : f b with
      | error e => cases hg.symm.trans ((hb (report b e)).2 ⟨e, hf, rfl⟩)
      | ok v => simp
  simp only [FirstError, h, hok]
  constructor
  · rintro ⟨before, after, hsplit, ⟨e, he, rfl⟩, hbefore⟩
    exact ⟨e, ⟨before, after, hsplit, he, hbefore⟩, rfl⟩
  · rintro ⟨e, ⟨before, after, hsplit, he, hbefore⟩, rfl⟩
    exact ⟨before, after, hsplit, ⟨e, he, rfl⟩, hbefore⟩

/-! ### The first member that was there before -/

/-- A member is the first of a list that is there before, in the list or in what precedes it. -/
def FirstRepeated (seen l : List κ) (k : κ) : Prop :=
  ∃ before after, l = before ++ k :: after ∧ k ∈ seen ++ before ∧ (seen ++ before).Nodup

variable {seen ks : List κ} {j k : κ}

theorem not_firstRepeated_nil :
  ¬ FirstRepeated seen [] k
  := by
  rintro ⟨before, after, h, -⟩
  simp at h

theorem firstRepeated_cons_of_mem (hseen : seen.Nodup) (h : j ∈ seen) :
  FirstRepeated seen (j :: ks) k ↔ j = k
  := by
  constructor
  · rintro ⟨before, after, hsplit, -, hnodup⟩
    cases before with
    | nil =>
      cases hsplit
      rfl
    | cons first before =>
      cases hsplit
      exact absurd List.mem_cons_self (List.disjoint_of_nodup_append hnodup h)
  · rintro rfl
    exact ⟨[], ks, rfl, List.mem_append_left _ h, by rwa [List.append_nil]⟩

theorem firstRepeated_cons_of_not_mem (h : j ∉ seen) :
  FirstRepeated seen (j :: ks) k ↔ FirstRepeated (seen ++ [j]) ks k
  := by
  constructor
  · rintro ⟨before, after, hsplit, hmem, hnodup⟩
    cases before with
    | nil =>
      cases hsplit
      rw [List.append_nil] at hmem
      exact absurd hmem h
    | cons first before =>
      cases hsplit
      rw [← List.singleton_append, ← List.append_assoc] at hmem hnodup
      exact ⟨before, after, rfl, hmem, hnodup⟩
  · rintro ⟨before, after, rfl, hmem, hnodup⟩
    rw [List.append_assoc, List.singleton_append] at hmem hnodup
    exact ⟨j :: before, after, rfl, hmem, hnodup⟩

/-- All members are different if none is the first that was there before. -/
theorem nodup_append_iff (hseen : seen.Nodup) :
  (seen ++ ks).Nodup ↔ ∀ k, ¬ FirstRepeated seen ks k
  := by
  induction ks generalizing seen with
  | nil => simp [hseen, not_firstRepeated_nil]
  | cons j ks ih =>
    by_cases hj : j ∈ seen
    · have hdup : ¬ (seen ++ j :: ks).Nodup :=
        fun h => List.disjoint_of_nodup_append h hj List.mem_cons_self
      simp [hdup, firstRepeated_cons_of_mem hseen hj]
    · have hlast : (seen ++ [j]).Nodup :=
        hseen.append (List.nodup_singleton j) (by simpa using hj)
      rw [← List.singleton_append, ← List.append_assoc, ih hlast]
      simp only [List.singleton_append, firstRepeated_cons_of_not_mem hj]

theorem nodup_iff :
  ks.Nodup ↔ ∀ k, ¬ FirstRepeated [] ks k
  := nodup_append_iff List.nodup_nil

end LedgerTrust
