import Mathlib.Data.List.TakeWhile
import Mathlib.Tactic.Use
import Mathlib.Tactic.Tauto
import LedgerTrust.Url.Basic

/-!
# Paths joined to a URL of the web

A text that starts with one slash, joined to a URL of the web, gives the path of the new URL. This
is the path that was joined exactly if each of its characters stands for itself in a path and none
of its segments is a dot segment: all other characters are encoded, dropped or read as a slash, and
a dot segment makes the path shorter.
-/

namespace LedgerTrust.Url

/-! ### Characters -/

/-- The characters that stand for themselves in a segment of a path of the web: those of ASCII that
are neither encoded there nor read as a slash. -/
def isVerbatim (c : Char) : Bool := decide (c.toNat ≤ 0x7f) && !pathSet c && !isAnySlash c

theorem isVerbatim_iff {c : Char} :
  isVerbatim c = true ↔ c.toNat ≤ 0x7f ∧ pathSet c = false ∧ isAnySlash c = false
  := by
  simp [isVerbatim, and_assoc]

theorem toNat_of_isVerbatim {c : Char} (h : isVerbatim c = true) :
  0x20 < c.toNat
  := by
  obtain ⟨-, hset, -⟩ := isVerbatim_iff.1 h
  simp only [pathSet, fragmentSet, controlSet, Bool.or_eq_false_iff, decide_eq_false_iff_not,
    beq_eq_false_iff_ne, ne_eq] at hset
  obtain ⟨⟨⟨⟨⟨⟨⟨⟨⟨⟨hcontrol, -⟩, hspace⟩, -⟩, -⟩, -⟩, -⟩, -⟩, -⟩, -⟩, -⟩ := hset
  have hne : c.toNat ≠ 0x20 := fun h => hspace (Char.toNat_inj.1 h)
  omega

theorem not_mark_of_isVerbatim {c : Char} (h : isVerbatim c = true) :
  c ≠ '/' ∧ endsPath c = false
  := by
  constructor
  · rintro rfl
    cases h
  · rw [endsPath, Bool.or_eq_false_iff, beq_eq_false_iff_ne, beq_eq_false_iff_ne]
    constructor
    · rintro rfl
      cases h
    · rintro rfl
      cases h

theorem percentEncode_eq_self {set : EncodeSet} {t : List Char}
    (h : ∀ c ∈ t, set c = false ∧ c.toNat ≤ 0x7f) :
  percentEncode set t = t
  := by
  induction t with
  | nil => rfl
  | cons c t ih =>
    obtain ⟨hset, hascii⟩ := h c List.mem_cons_self
    have hc : percentChar set c = [c] := by
      rw [percentChar, hset, Bool.false_or, if_neg]
      simpa using hascii
    rw [percentEncode, List.flatMap_cons, hc]
    exact congrArg (c :: ·) (ih fun d hd => h d (List.mem_cons_of_mem c hd))

theorem isVerbatim_upperHex {n : Nat} (h : n < 16) :
  isVerbatim (upperHex n) = true
  := by
  revert n
  decide

theorem isVerbatim_of_mem_percentByte {b : UInt8} {c : Char} (h : c ∈ percentByte b) :
  isVerbatim c = true
  := by
  have hb := b.toNat_lt
  simp only [percentByte, List.mem_cons, List.not_mem_nil, or_false] at h
  rcases h with rfl | rfl | rfl
  · decide
  · exact isVerbatim_upperHex (by omega)
  · exact isVerbatim_upperHex (by omega)

/-- What is written for a text is its own characters outside the set and those of encoded bytes. -/
theorem mem_percentEncode {set : EncodeSet} {t : List Char} {c : Char}
    (h : c ∈ percentEncode set t) :
  isVerbatim c = true ∨ (c ∈ t ∧ set c = false ∧ c.toNat ≤ 0x7f)
  := by
  obtain ⟨d, hd, hc⟩ := List.mem_flatMap.1 h
  rw [percentChar] at hc
  split at hc
  · obtain ⟨b, -, hc⟩ := List.mem_flatMap.1 hc
    exact .inl (isVerbatim_of_mem_percentByte hc)
  · next hplain =>
    obtain rfl := List.mem_singleton.1 hc
    simp only [Bool.or_eq_true, decide_eq_true_eq, not_or, Bool.not_eq_true, Nat.not_lt] at hplain
    exact .inr ⟨hd, hplain⟩

/-- Whatever a text without slashes is, it stands in a path by characters that stand for
themselves. -/
theorem isVerbatim_of_mem_percentEncode {t : List Char} (h : ∀ c ∈ t, isAnySlash c = false)
    {c : Char} (hc : c ∈ percentEncode pathSet t) :
  isVerbatim c = true
  := by
  obtain hverbatim | ⟨hmem, hset, hascii⟩ := mem_percentEncode hc
  · exact hverbatim
  · exact isVerbatim_iff.2 ⟨hascii, hset, h c hmem⟩

/-! ### Parts -/

theorem forall_of_mem_partsAt {isSeparator : Char → Bool} {t part : List Char}
    (h : part ∈ Text.partsAt isSeparator t) :
  ∀ c ∈ part, c ∈ t ∧ isSeparator c = false
  := by
  induction t generalizing part with
  | nil =>
    obtain rfl := List.mem_singleton.1 h
    nofun
  | cons c r ih =>
    obtain ⟨first, others, hr⟩ := List.exists_cons_of_ne_nil (Text.partsAt_ne_nil isSeparator r)
    rw [hr] at ih
    have hrest : ∀ part ∈ first :: others, ∀ d ∈ part, d ∈ c :: r ∧ isSeparator d = false :=
      fun part hpart d hd => (ih hpart d hd).imp_left (List.mem_cons_of_mem c)
    simp only [Text.partsAt, hr] at h
    split at h
    · rcases List.mem_cons.1 h with rfl | h
      · nofun
      · exact hrest part h
    · next hc =>
      rcases List.mem_cons.1 h with rfl | h
      · intro d hd
        rcases List.mem_cons.1 hd with rfl | hd
        · exact ⟨List.mem_cons_self, Bool.eq_false_iff.2 hc⟩
        · exact hrest first List.mem_cons_self d hd
      · exact hrest part (List.mem_cons_of_mem first h)

theorem partsAt_of_forall {isSeparator : Char → Bool} {t : List Char}
    (h : ∀ c ∈ t, isSeparator c = false) :
  Text.partsAt isSeparator t = [t]
  := by
  induction t with
  | nil => rfl
  | cons c r ih =>
    obtain ⟨hc, hr⟩ := List.forall_mem_cons.1 h
    simp [Text.partsAt, ih hr, hc]

/-! ### Segments -/

/-- The written form of segments, each after a slash. -/
def segmentChars (l : List String) : List Char := l.flatMap fun t => '/' :: t.toList

@[simp]
theorem segmentChars_nil :
  segmentChars [] = []
  := rfl

@[simp]
theorem segmentChars_cons (t : String) (l : List String) :
  segmentChars (t :: l) = '/' :: (t.toList ++ segmentChars l)
  := by
  rw [segmentChars, List.flatMap_cons, List.cons_append]
  rfl

@[simp]
theorem segmentChars_append (l r : List String) :
  segmentChars (l ++ r) = segmentChars l ++ segmentChars r
  := List.flatMap_append

theorem mem_segmentChars {l : List String} {c : Char} :
  c ∈ segmentChars l ↔ ∃ t ∈ l, c = '/' ∨ c ∈ t.toList
  := by
  simp [segmentChars, List.mem_flatMap]

theorem toList_text_segments (l : List String) :
  (Path.segments l).text.toList = segmentChars l
  := by
  simp [Path.text, String.toList_join, segmentChars, List.flatMap_map, String.toList_append]

/-- A segment that stands for another one or for nothing. -/
def IsDot (t : String) : Prop := isParent t = true ∨ isCurrent t = true

/-- The ways to write a dot segment, in lower case. -/
def dotForms : List (List Char) :=
  [['.'], ['%', '2', 'e'], ['.', '.'], ['.', '%', '2', 'e'], ['%', '2', 'e', '.'],
    ['%', '2', 'e', '%', '2', 'e']]

theorem isDot_iff {t : String} :
  IsDot t ↔ t.toList.map Char.toLower ∈ dotForms
  := by
  have hlower : t.toLower = t.map Char.toLower := rfl
  simp only [IsDot, isParent, isCurrent, hlower, Bool.or_eq_true, beq_iff_eq,
    ← String.toList_inj, String.toList_map, dotForms, List.mem_cons, List.not_mem_nil, or_false]
  tauto

theorem length_pos_of_isDot {t : String} (h : IsDot t) :
  0 < t.toList.length
  := by
  have hforms : ∀ f ∈ dotForms, 0 < f.length := by decide
  have hlength := hforms _ (isDot_iff.1 h)
  rwa [List.length_map] at hlength

/-- A segment that a path holds just as it is written. -/
def IsPlain (t : String) : Prop := (∀ c ∈ t.toList, isVerbatim c = true) ∧ ¬ IsDot t

namespace Kind

theorem addSegment_of_not_isDot {t : String} (h : ¬ IsDot t) (l : List String) (isLast : Bool) :
  web.addSegment l t isLast = l ++ [t]
  := by
  obtain ⟨hparent, hcurrent⟩ := not_or.1 h
  rw [addSegment, if_neg hparent, if_neg hcurrent]
  rfl

theorem addSegments_of_not_isDot {ts : List String} (h : ∀ t ∈ ts, ¬ IsDot t) (l : List String) :
  web.addSegments l ts = l ++ ts
  := by
  fun_induction addSegments web l ts with
  | case1 l => exact (List.append_nil l).symm
  | case2 l t => exact addSegment_of_not_isDot (h t List.mem_cons_self) l true
  | case3 l t ts hts ih =>
    have hall := List.forall_mem_cons.1 h
    rw [ih hall.2, addSegment_of_not_isDot hall.1, List.append_assoc]
    rfl

/-- After a dot segment, the first of the segments are left, and perhaps an empty one. -/
theorem exists_addSegment_of_isDot {t : String} (h : IsDot t) (l : List String) (isLast : Bool) :
  ∃ l', l' <+: l ∧ web.addSegment l t isLast = l' ++ (if isLast then [""] else [])
  := by
  have hclosed : ∀ l' : List String,
      (if isLast then l' ++ [""] else l') = l' ++ (if isLast then [""] else []) := by
    intro l'
    split
    · rfl
    · exact (List.append_nil l').symm
  rw [addSegment]
  split
  · use web.shortened l, ?_, hclosed _
    rw [shortened, if_neg (by simp)]
    exact List.dropLast_prefix l
  · next hparent =>
    rw [if_pos (h.resolve_left hparent)]
    exact ⟨l, List.prefix_rfl, hclosed l⟩

/-- A dot segment adds less than its own length. -/
theorem length_addSegment_lt {t : String} (h : IsDot t) (l : List String) (isLast : Bool) :
  (segmentChars (web.addSegment l t isLast)).length
    < (segmentChars l).length + (t.toList.length + 1)
  := by
  obtain ⟨l', ⟨r, rfl⟩, he⟩ := exists_addSegment_of_isDot h l isLast
  have ht := length_pos_of_isDot h
  rw [he]
  cases isLast with
  | true => simp; omega
  | false => simp; omega

theorem length_addSegment_le (t : String) (l : List String) (isLast : Bool) :
  (segmentChars (web.addSegment l t isLast)).length
    ≤ (segmentChars l).length + (t.toList.length + 1)
  := by
  by_cases h : IsDot t
  · exact Nat.le_of_lt (length_addSegment_lt h l isLast)
  · rw [addSegment_of_not_isDot h]
    simp

theorem length_addSegments_le (l ts : List String) :
  (segmentChars (web.addSegments l ts)).length ≤ (segmentChars l).length + (segmentChars ts).length
  := by
  fun_induction addSegments web l ts with
  | case1 l => exact Nat.le_refl _
  | case2 l t =>
    have ht := length_addSegment_le t l true
    simpa using ht
  | case3 l t ts hts ih =>
    have ht := length_addSegment_le t l false
    rw [segmentChars_cons, List.length_cons, List.length_append]
    omega

/-- Segments with a dot segment among them add less than their length. -/
theorem length_addSegments_lt {l ts : List String} {t : String} (ht : t ∈ ts) (h : IsDot t) :
  (segmentChars (web.addSegments l ts)).length < (segmentChars l).length + (segmentChars ts).length
  := by
  fun_induction addSegments web l ts with
  | case1 l => cases ht
  | case2 l u =>
    obtain rfl := List.mem_singleton.1 ht
    have ht := length_addSegment_lt h l true
    simpa using ht
  | case3 l u ts hts ih =>
    rw [segmentChars_cons, List.length_cons, List.length_append]
    rcases List.mem_cons.1 ht with rfl | ht
    · have hfirst := length_addSegment_lt h l false
      have hrest := length_addSegments_le (web.addSegment l t false) ts
      omega
    · have hfirst := length_addSegment_le u l false
      have hrest := ih ht
      omega

theorem mem_addSegment {l : List String} {t u : String} {isLast : Bool}
    (h : t ∈ web.addSegment l u isLast) :
  t ∈ l ∨ t = u ∨ t = ""
  := by
  by_cases hu : IsDot u
  · obtain ⟨l', hinitial, he⟩ := exists_addSegment_of_isDot hu l isLast
    rw [he] at h
    rcases List.mem_append.1 h with h | h
    · exact .inl (hinitial.subset h)
    · cases isLast with
      | true => exact .inr (.inr (List.mem_singleton.1 h))
      | false => cases h
  · rw [addSegment_of_not_isDot hu] at h
    rcases List.mem_append.1 h with h | h
    · exact .inl h
    · exact .inr (.inl (List.mem_singleton.1 h))

/-- Nothing comes into a path but its segments and empty ones. -/
theorem mem_addSegments {l ts : List String} {t : String} (h : t ∈ web.addSegments l ts) :
  t ∈ l ∨ t ∈ ts ∨ t = ""
  := by
  fun_induction addSegments web l ts with
  | case1 l => exact .inl h
  | case2 l u => exact (mem_addSegment h).imp_right (Or.imp_left List.mem_singleton.2)
  | case3 l u ts hts ih =>
    obtain ht | ht | rfl := ih h
    · obtain ht | rfl | rfl := mem_addSegment ht
      · exact .inl ht
      · exact .inr (.inl List.mem_cons_self)
      · exact .inr (.inr rfl)
    · exact .inr (.inl (List.mem_cons_of_mem u ht))
    · exact .inr (.inr rfl)

theorem isSlash_web :
  web.isSlash = isAnySlash
  := by
  have hspecial : web.isSpecial = true := rfl
  funext c
  rw [isSlash, hspecial, Bool.true_and, isAnySlash, ← Bool.or_assoc, Bool.or_self]

/-- A written form is cut into its segments. -/
theorem partsAt_append_segmentChars {t : List Char} {ts : List String}
    (ht : ∀ c ∈ t, isVerbatim c = true) (hts : ∀ t ∈ ts, ∀ c ∈ t.toList, isVerbatim c = true) :
  Text.partsAt isAnySlash (t ++ segmentChars ts) = t :: ts.map String.toList
  := by
  have hcut : Text.partsAt isAnySlash t = [t] :=
    partsAt_of_forall fun c hc => (isVerbatim_iff.1 (ht c hc)).2.2
  induction ts generalizing t with
  | nil => rw [segmentChars_nil, List.append_nil, hcut, List.map_nil]
  | cons u ts ih =>
    obtain ⟨hu, hts⟩ := List.forall_mem_cons.1 hts
    have hrest := ih hu hts (partsAt_of_forall fun c hc => (isVerbatim_iff.1 (hu c hc)).2.2)
    rw [segmentChars_cons, Text.partsAt_append rfl, hcut, hrest]
    rfl

theorem exists_of_mem_parts {p : List Char} {t : String} (h : t ∈ web.parts p) :
  ∃ part ∈ Text.partsAt isAnySlash p, t.toList = percentEncode pathSet part
  := by
  rw [parts, isSlash_web] at h
  obtain ⟨part, hpart, rfl⟩ := List.mem_map.1 h
  exact ⟨part, hpart, String.toList_ofList⟩

/-- Segments whose characters stand for themselves are the parts of their written form. -/
theorem parts_of_segmentChars {ts : List String} {p : List Char}
    (h : ∀ t ∈ ts, ∀ c ∈ t.toList, isVerbatim c = true) (hp : '/' :: p = segmentChars ts) :
  web.parts p = ts
  := by
  cases ts with
  | nil => cases hp
  | cons t ts =>
    obtain ⟨ht, hts⟩ := List.forall_mem_cons.1 h
    rw [segmentChars_cons, List.cons.injEq] at hp
    have hself : ∀ u ∈ t :: ts, String.ofList (percentEncode pathSet u.toList) = u := by
      intro u hu
      rw [percentEncode_eq_self, String.ofList_toList]
      intro c hc
      obtain ⟨hascii, hset, -⟩ := isVerbatim_iff.1 (h u hu c hc)
      exact ⟨hset, hascii⟩
    rw [parts, isSlash_web, hp.2, partsAt_append_segmentChars ht hts, ← List.map_cons, List.map_map]
    exact (List.map_congr_left hself).trans (List.map_id _)

end Kind

/-- A path is written with slashes and characters that stand for themselves. -/
theorem isVerbatim_of_mem_resolve {p : List Char} {c : Char}
    (h : c ∈ segmentChars (Kind.web.resolve [] p)) :
  isVerbatim c = true ∨ c = '/'
  := by
  obtain ⟨t, ht, rfl | hc⟩ := mem_segmentChars.1 h
  · exact .inr rfl
  · obtain ht | ht | rfl := Kind.mem_addSegments ht
    · cases ht
    · obtain ⟨part, hpart, he⟩ := Kind.exists_of_mem_parts ht
      rw [he] at hc
      exact .inl (isVerbatim_of_mem_percentEncode
        (fun d hd => (forall_of_mem_partsAt hpart d hd).2) hc)
    · cases hc

/-- Segments resolve to themselves exactly if all of them are plain. -/
theorem segmentChars_resolve_eq_iff {ts : List String} {p : List Char}
    (hts : ∀ t ∈ ts, '/' ∉ t.toList) (hp : '/' :: p = segmentChars ts) :
  segmentChars (Kind.web.resolve [] p) = segmentChars ts ↔ ∀ t ∈ ts, IsPlain t
  := by
  constructor
  · intro h
    have hverbatim : ∀ t ∈ ts, ∀ c ∈ t.toList, isVerbatim c = true := by
      intro t ht c hc
      have hmem : c ∈ segmentChars (Kind.web.resolve [] p) := by
        rw [h]
        exact mem_segmentChars.2 ⟨t, ht, .inr hc⟩
      apply (isVerbatim_of_mem_resolve hmem).resolve_right
      rintro rfl
      exact hts t ht hc
    intro t ht
    use hverbatim t ht
    intro hdot
    rw [← Kind.parts_of_segmentChars hverbatim hp] at ht
    have hlength : (segmentChars (Kind.web.resolve [] p)).length
        < (segmentChars []).length + (segmentChars (Kind.web.parts p)).length :=
      Kind.length_addSegments_lt ht hdot
    rw [h, Kind.parts_of_segmentChars hverbatim hp, segmentChars_nil, List.length_nil,
      Nat.zero_add] at hlength
    exact Nat.lt_irrefl _ hlength
  · intro h
    have hparts := Kind.parts_of_segmentChars (fun t ht => (h t ht).1) hp
    have hresolve : Kind.web.resolve [] p = [] ++ Kind.web.parts p := by
      apply Kind.addSegments_of_not_isDot
      rw [hparts]
      exact fun t ht => (h t ht).2
    rw [hresolve, List.nil_append, hparts]

/-! ### Joining -/

theorem dropWhile_eq_self {isOuter : Char → Bool} {t : List Char}
    (h : ∀ c ∈ t, isOuter c = false) :
  t.dropWhile isOuter = t
  := by
  cases t with
  | nil => rfl
  | cons c r => rw [List.dropWhile_cons_of_neg (by simp [h c List.mem_cons_self])]

/-- Nothing is dropped but spaces and controls. -/
theorem cleaned_eq_self {s : String} (h : ∀ c ∈ s.toList, 0x20 < c.toNat) :
  cleaned s = s.toList
  := by
  have hstart : s.toList.dropWhile (fun c => c.toNat ≤ 0x20) = s.toList :=
    dropWhile_eq_self fun c hc => by simpa using h c hc
  have hend : s.toList.reverse.dropWhile (fun c => c.toNat ≤ 0x20) = s.toList.reverse :=
    dropWhile_eq_self fun c hc => by simpa using h c (List.mem_reverse.1 hc)
  rw [cleaned, hstart, hend, List.reverse_reverse, List.filter_eq_self]
  intro c hc
  have hc := h c hc
  simp only [Bool.and_eq_true, bne_iff_ne, ne_eq]
  omega

/-- The first characters of a text are not dropped if they are no spaces and no controls. -/
theorem exists_cleaned {s : String} {c d : Char} {t : List Char} (h : s.toList = c :: d :: t)
    (hc : 0x20 < c.toNat) (hd : 0x20 < d.toNat) :
  ∃ r, cleaned s = c :: d :: r
  := by
  have hstart : (c :: d :: t).dropWhile (fun c => c.toNat ≤ 0x20) = c :: d :: t := by
    rw [List.dropWhile_cons_of_neg (by simpa using hc)]
  have hend : [d, c].dropWhile (fun c => decide (c.toNat ≤ 0x20)) = [d, c] := by
    rw [List.dropWhile_cons_of_neg (by simpa using hd)]
  have hreverse : (c :: d :: t).reverse = t.reverse ++ [d, c] := by simp
  have hinner : ∃ r, ((c :: d :: t).reverse.dropWhile fun c => c.toNat ≤ 0x20).reverse
      = c :: d :: r := by
    rw [hreverse, List.dropWhile_append]
    split
    · exact ⟨[], congrArg List.reverse hend⟩
    · exact ⟨_, List.reverse_append⟩
  have hkept : ∀ e : Char, 0x20 < e.toNat →
      (e.toNat != 9 && e.toNat != 10 && e.toNat != 13) = true := by
    intro e he
    simp only [Bool.and_eq_true, bne_iff_ne, ne_eq]
    omega
  obtain ⟨r, hr⟩ := hinner
  use r.filter fun e => e.toNat != 9 && e.toNat != 10 && e.toNat != 13
  rw [cleaned, h, hstart, hr, List.filter_cons, if_pos (hkept c hc), List.filter_cons,
    if_pos (hkept d hd)]

/-- A text that starts with one slash, joined to a URL of the web, is the path of the new one. -/
theorem eq_of_join {base u : Url} (hweb : base.kind = .web) {s : String} {t : List Char} {c : Char}
    (hs : cleaned s = '/' :: t) (hhead : t.head? = some c) (hc : isAnySlash c = false)
    (h : base.join s = .ok u) :
  u = withPath base.scheme base.authority t fun p => .segments (Kind.web.resolve [] p)
  := by
  obtain ⟨r, rfl⟩ := List.head?_eq_some_iff.1 hhead
  have hslash : c ≠ '/' := by
    rintro rfl
    cases hc
  have hscheme : scheme? ('/' :: c :: r) = none := rfl
  have hfile : base.kind ≠ .file := by
    rw [hweb]
    nofun
  have hfirst : isAnySlash '/' = true := rfl
  have hrelative : relative base ('/' :: c :: r)
      = .ok (withPath base.scheme base.authority (c :: r) fun p =>
          .segments (Kind.web.resolve [] p)) := by
    simp [relative, hfirst, hweb, hc, hslash]
  cases hpath : base.path with
  | rootless t => simp [join, hs, hscheme, hpath] at h
  | segments l =>
    simp only [join, hs, hscheme, hpath, if_neg hfile, hrelative] at h
    cases h
    rfl

/-! ### Request paths -/

theorem toNat_of_specialQuerySet {c : Char} (h : specialQuerySet c = false) :
  0x20 < c.toNat
  := by
  simp only [specialQuerySet, querySet, controlSet, Bool.or_eq_false_iff, decide_eq_false_iff_not,
    beq_eq_false_iff_ne, ne_eq] at h
  obtain ⟨⟨⟨⟨⟨⟨⟨hcontrol, -⟩, hspace⟩, -⟩, -⟩, -⟩, -⟩, -⟩ := h
  have hne : c.toNat ≠ 0x20 := fun h => hspace (Char.toNat_inj.1 h)
  omega

theorem withPath_eq (scheme : String) (authority : Option Authority) (t : List Char)
    (path : List Char → Path) :
  withPath scheme authority t path
    = ⟨scheme, authority, path (t.takeWhile (!endsPath ·)),
      (tail (kindOf scheme) (t.dropWhile (!endsPath ·))).1,
      (tail (kindOf scheme) (t.dropWhile (!endsPath ·))).2⟩
  := rfl

/-- A query is written without spaces and controls. -/
theorem toNat_of_mem_tail {t : List Char} {q : String} (h : (tail .web t).1 = some q) :
  ∀ c ∈ q.toList, 0x20 < c.toNat
  := by
  intro c hc
  unfold tail at h
  split at h
  · simp only [Option.some.injEq] at h
    subst h
    rw [String.toList_ofList] at hc
    obtain hverbatim | ⟨-, hset, -⟩ := mem_percentEncode hc
    · exact toNat_of_isVerbatim hverbatim
    · exact toNat_of_specialQuerySet hset
  · cases h

theorem toNat_of_mem_partAfter {q : Option String} (h : ∀ t ∈ q, ∀ c ∈ t.toList, 0x20 < c.toNat)
    {c : Char} (hc : c ∈ (partAfter "?" q).toList) :
  0x20 < c.toNat
  := by
  cases q with
  | none => cases hc
  | some t =>
    rw [partAfter, String.toList_append] at hc
    rcases List.mem_append.1 hc with hc | hc
    · obtain rfl := List.mem_singleton.1 hc
      decide
    · exact h t rfl c hc

/-- The path and the query of a URL are written without spaces and controls. -/
theorem toNat_of_mem_requestPath {scheme : String} (hweb : kindOf scheme = .web)
    {authority : Option Authority} {t : List Char} {c : Char}
    (h : c ∈ (withPath scheme authority t fun p =>
      .segments (Kind.web.resolve [] p)).requestPath.toList) :
  0x20 < c.toNat
  := by
  rw [withPath_eq, requestPath, String.toList_append, List.mem_append, toList_text_segments,
    hweb] at h
  rcases h with h | h
  · obtain hverbatim | rfl := isVerbatim_of_mem_resolve h
    · exact toNat_of_isVerbatim hverbatim
    · decide
  · exact toNat_of_mem_partAfter (fun q hq => toNat_of_mem_tail hq) h

/-- A query whose characters stand for themselves is read as it is. -/
theorem tail_partAfter {q : Option String}
    (h : ∀ t ∈ q, ∀ c ∈ t.toList, specialQuerySet c = false ∧ c.toNat ≤ 0x7f) :
  tail .web (partAfter "?" q).toList = (q, none)
  := by
  cases q with
  | none => rfl
  | some t =>
    have ht := h t rfl
    have hmark : ∀ c ∈ t.toList, (c != '#') = true := by
      intro c hc
      rw [bne_iff_ne]
      rintro rfl
      cases (ht _ hc).1
    have htake : t.toList.takeWhile (· != '#') = t.toList := List.takeWhile_eq_self_iff.2 hmark
    have hdrop : t.toList.dropWhile (· != '#') = [] := List.dropWhile_eq_nil_iff.2 hmark
    rw [partAfter, String.toList_append]
    show tail .web ('?' :: t.toList) = _
    have hspecial : Kind.web.isSpecial = true := rfl
    simp only [tail, htake, hdrop, hspecial, if_pos, percentEncode_eq_self ht, String.ofList_toList]

/-- The parts of a text that has a path and a query. -/
theorem withPath_append {scheme : String} (hweb : kindOf scheme = .web)
    {authority : Option Authority} {p : List Char} {q : Option String}
    {path : List Char → Path} (hp : ∀ c ∈ p, endsPath c = false)
    (hq : ∀ t ∈ q, ∀ c ∈ t.toList, specialQuerySet c = false ∧ c.toNat ≤ 0x7f) :
  withPath scheme authority (p ++ (partAfter "?" q).toList) path
    = ⟨scheme, authority, path p, q, none⟩
  := by
  have hinside : ∀ c ∈ p, (!endsPath c) = true := by
    intro c hc
    rw [hp c hc]
    rfl
  have hquery : (partAfter "?" q).toList.takeWhile (!endsPath ·) = []
      ∧ (partAfter "?" q).toList.dropWhile (!endsPath ·) = (partAfter "?" q).toList := by
    cases q with
    | none => exact ⟨rfl, rfl⟩
    | some t =>
      rw [partAfter, String.toList_append]
      exact ⟨rfl, rfl⟩
  have htake : (p ++ (partAfter "?" q).toList).takeWhile (!endsPath ·) = p := by
    rw [List.takeWhile_append_of_pos hinside, hquery.1, List.append_nil]
  have hdrop : (p ++ (partAfter "?" q).toList).dropWhile (!endsPath ·)
      = (partAfter "?" q).toList := by
    rw [List.dropWhile_append_of_pos hinside, hquery.2]
  rw [withPath_eq, htake, hdrop, hweb, tail_partAfter hq]

theorem kind_eq_web {u : Url} (h : u.scheme = "http" ∨ u.scheme = "https") :
  u.kind = .web
  := by
  obtain h | h := h
  · rw [kind, h]
    rfl
  · rw [kind, h]
    rfl

/-- A path of segments with a query, joined to a URL of the web, is the path of a request exactly
if its segments are plain. -/
theorem requestPath_eq_iff {base u : Url} (hweb : base.kind = .web) {first : String}
    {ts : List String} {q : Option String} (hfirst : first ≠ "") (hplain : IsPlain first)
    (hts : ∀ t ∈ ts, ∀ c ∈ t.toList, c ≠ '/' ∧ endsPath c = false)
    (hq : ∀ t ∈ q, ∀ c ∈ t.toList, specialQuerySet c = false ∧ c.toNat ≤ 0x7f)
    (h : base.join ((Path.segments (first :: ts)).text ++ partAfter "?" q) = .ok u) :
  u.requestPath = (Path.segments (first :: ts)).text ++ partAfter "?" q ↔ ∀ t ∈ ts, IsPlain t
  := by
  obtain ⟨c, f, hf⟩ := List.exists_cons_of_ne_nil (mt String.toList_eq_nil_iff.1 hfirst)
  have hc : isVerbatim c = true := hplain.1 c (hf ▸ List.mem_cons_self)
  have hslash : isAnySlash c = false := (isVerbatim_iff.1 hc).2.2
  have hall : ∀ t ∈ first :: ts, ∀ c ∈ t.toList, c ≠ '/' ∧ endsPath c = false :=
    List.forall_mem_cons.2 ⟨fun c hc => not_mark_of_isVerbatim (hplain.1 c hc), hts⟩
  have hpath : '/' :: (first.toList ++ segmentChars ts) = segmentChars (first :: ts) :=
    (segmentChars_cons first ts).symm
  have hchars : ((Path.segments (first :: ts)).text ++ partAfter "?" q).toList
      = '/' :: (first.toList ++ segmentChars ts ++ (partAfter "?" q).toList) := by
    rw [String.toList_append, toList_text_segments, ← hpath, List.cons_append]
  have hinside : ∀ d ∈ first.toList ++ segmentChars ts, endsPath d = false := by
    intro d hd
    obtain ⟨t, ht, rfl | hd⟩ := mem_segmentChars.1 (hpath ▸ List.mem_cons_of_mem '/' hd)
    · rfl
    · exact (hall t ht d hd).2
  have hshort : (∀ d ∈ ((Path.segments (first :: ts)).text ++ partAfter "?" q).toList,
      0x20 < d.toNat) → (u.requestPath = (Path.segments (first :: ts)).text ++ partAfter "?" q
        ↔ ∀ t ∈ ts, IsPlain t) := by
    intro hshown
    have hurl := eq_of_join hweb ((cleaned_eq_self hshown).trans hchars) (by rw [hf]; rfl) hslash h
    rw [withPath_append hweb hinside hq] at hurl
    subst hurl
    rw [requestPath, String.append_left_inj, ← String.toList_inj, toList_text_segments,
      toList_text_segments, segmentChars_resolve_eq_iff _ hpath, List.forall_mem_cons]
    · exact and_iff_right hplain
    · exact fun t ht hmem => (hall t ht '/' hmem).1 rfl
  constructor
  · intro he
    apply (hshort _).1 he
    rw [hf, List.cons_append] at hchars
    obtain ⟨r, hr⟩ := exists_cleaned hchars (by decide) (toNat_of_isVerbatim hc)
    rw [← he, eq_of_join hweb hr rfl hslash h]
    exact fun d hd => toNat_of_mem_requestPath hweb hd
  · intro hrest
    apply (hshort _).2 hrest
    intro d hd
    rw [String.toList_append, toList_text_segments] at hd
    rcases List.mem_append.1 hd with hd | hd
    · obtain ⟨t, ht, rfl | hd⟩ := mem_segmentChars.1 hd
      · decide
      · exact toNat_of_isVerbatim ((List.forall_mem_cons.2 ⟨hplain, hrest⟩ t ht).1 d hd)
    · exact toNat_of_mem_partAfter (fun t ht c hc => toNat_of_specialQuerySet (hq t ht c hc).1) hd

end LedgerTrust.Url
