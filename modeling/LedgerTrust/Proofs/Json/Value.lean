import LedgerTrust.Proofs.Json.Container

/-!
# What is read is a value

The scanner passes over the values of the grammar and over nothing else: `Json.takeValue?` and
`Json.document?` cut values off, and `Json.elements?` and `Json.members?` take apart the arrays and
the objects of the grammar, with any white space. What is passed over is shown to be a value by
induction on the length of the text that is left, for values, members and the items of a container
in turn.
-/

namespace LedgerTrust.Json

/-- A value is delimited. -/
theorem Value.delimited {t : Bytes} (h : Value t) :
  Delimited t
  := by
  induction h with
  | null => exact delimited_nullWord
  | bool b => exact delimited_boolWord b
  | number h => exact h.delimited
  | string h => exact h.delimited
  | array h _ ih => exact h.delimited .array fun v hv => (ih v hv).item
  | object h hframed _ ih =>
    apply h.delimited .object
    intro t ht
    obtain ⟨m, hm, rfl⟩ := List.mem_map.1 ht
    exact (hframed m hm).item (ih m hm)

/-! ### The scanner in front of a byte -/

section

variable {bracket : Bracket} {stack : List Bracket} {t rest : Bytes}

/-- Where white space may stand, the scanner goes on to a byte that is none. -/
theorem exists_blank {mode : Mode} (hmode : mode.skipsBlank = true)
    (h : scan stack mode t = some rest) :
  ∃ a b r, Blank a ∧ t = a ++ b :: r ∧ isBlank b = false ∧ scan stack mode (b :: r) = some rest
  := by
  have hends : mode.endsNumber = false := by
    cases mode with
    | zero | whole | fraction | exponentDigits => cases hmode
    | _ => rfl
  obtain ⟨a, ha, ht⟩ := exists_skipBlank t
  rw [ht, scan_blank hmode ha] at h
  obtain ⟨b, r, hr⟩ := ne_nil_of_scan hends h
  rw [hr] at h ht
  exact ⟨a, b, r, ha, ht, isBlank_of_skipBlank hr, h⟩

/-- After an item there is a closing bracket or a comma. -/
theorem finish_eq_some {b : UInt8} (hb : isBlank b = false)
    (h : finish (bracket :: stack) (b :: t) = some rest) :
  b = bracket.closing ∧ finish stack t = some rest
    ∨ b = 0x2c ∧ scan (bracket :: stack) bracket.item t = some rest
  := by
  by_cases hclosing : b = bracket.closing
  · rw [hclosing, bracket.finish_closing] at h
    exact .inl ⟨hclosing, h⟩
  by_cases hcomma : b = 0x2c
  · rw [hcomma, bracket.finish_comma] at h
    exact .inr ⟨hcomma, h⟩
  · have hstep : step (bracket :: stack) .after b = .fail := by
      cases bracket with
      | object => simp_all [step, Step.follow, Step.close, Bracket.closing]
      | array => simp_all [step, Step.follow, Step.close, Bracket.closing]
    rw [finish, scan_fail hstep] at h
    cases h

/-- A byte that does not close a container starts its first item as it starts any other one. -/
theorem scan_first_cons {b : UInt8} (hb : isBlank b = false) (hclosing : b ≠ bracket.closing) :
  scan stack bracket.first (b :: t) = scan stack bracket.item (b :: t)
  := by
  have hstep : step stack bracket.first b = step stack bracket.item b := by
    cases bracket with
    | object => simp_all [step, Bracket.first, Bracket.item, Bracket.closing]
    | array => simp_all [step, Step.start, Bracket.first, Bracket.item, Bracket.closing]
  rw [scan, scan, hstep]

end

/-! ### What the scanner passes over is a value -/

/-- The text of an item of a container. -/
def Bracket.IsItem : Bracket → Bytes → Prop
  | array, t => Value t
  | object, t => ∃ m : Member, m.Framed ∧ Value m.value ∧ t = m.text

/-- A container of items is a value. -/
theorem Spaced.value {bracket : Bracket} {ts : List Bytes} {t : Bytes} (h : Spaced ts t)
    (hitems : ∀ v ∈ ts, bracket.IsItem v) :
  Value (bracket.opening :: t ++ [bracket.closing])
  := by
  cases bracket with
  | array => exact .array h hitems
  | object =>
    have hmembers : ∃ ms : List Member, ts = ms.map Member.text
        ∧ ∀ m ∈ ms, m.Framed ∧ Value m.value := by
      clear h
      induction ts with
      | nil => exact ⟨[], rfl, nofun⟩
      | cons v ts ih =>
        obtain ⟨m, hframed, hvalue, rfl⟩ := hitems v List.mem_cons_self
        obtain ⟨ms, rfl, hms⟩ := ih fun w hw => hitems w (List.mem_cons_of_mem _ hw)
        exact ⟨m :: ms, rfl, List.forall_mem_cons.2 ⟨⟨hframed, hvalue⟩, hms⟩⟩
    obtain ⟨ms, rfl, hms⟩ := hmembers
    exact .object h (fun m hm => (hms m hm).1) fun m hm => (hms m hm).2

/-- The scanner that is due to read a value in this text passes over a value. -/
def ScansValue (t : Bytes) : Prop :=
  ∀ (stack : List Bracket) (rest : Bytes), scan stack .value t = some rest →
    ∃ a v u, Blank a ∧ Value v ∧ t = a ++ (v ++ u) ∧ finish stack u = some rest

section

variable {bracket : Bracket} {stack : List Bracket} {t rest : Bytes} {n : Nat}

/-- The scanner passes over a string. -/
theorem exists_value_string (h : scan stack .value (quote :: t) = some rest) :
  ∃ v u, Value v ∧ quote :: t = v ++ u ∧ finish stack u = some rest
  := by
  have hopen : step stack .value quote = .next stack (.string false) := rfl
  rw [scan_next hopen] at h
  obtain ⟨s, u, hs, rfl, hu⟩ := exists_stringBody h
  rw [(scan_quote stack u).2] at hu
  exact ⟨quote :: s ++ [quote], u, .string (.quoted hs), by simp, hu⟩

/-- The scanner passes over a word. -/
theorem exists_value_word {b c : UInt8} {r : Bytes} (hv : Value (b :: c :: r))
    (hstep : step stack .value b = .next stack (.word (c :: r)))
    (h : scan stack .value (b :: t) = some rest) :
  ∃ v u, Value v ∧ b :: t = v ++ u ∧ finish stack u = some rest
  := by
  rw [scan_next hstep] at h
  obtain ⟨u, rfl, hu⟩ := exists_word h
  exact ⟨b :: c :: r, u, hv, rfl, hu⟩

variable (hvalue : ∀ u : Bytes, u.length ≤ n → ScansValue u)

include hvalue

/-- The scanner passes over a member. -/
theorem exists_member (ht : t.length ≤ n) (h : scan stack .key t = some rest) :
  ∃ a m u, Blank a ∧ Bracket.object.IsItem m ∧ t = a ++ (m ++ u)
    ∧ finish stack u = some rest
  := by
  obtain ⟨a, b, r, ha, rfl, hb, h⟩ := exists_blank rfl h
  by_cases hquote : b = quote
  · subst hquote
    have hopen : step stack .key quote = .next stack (.string true) := rfl
    rw [scan_next hopen] at h
    obtain ⟨s, r, hs, rfl, hcolon⟩ := exists_stringBody h
    rw [(scan_quote stack r).1] at hcolon
    obtain ⟨before, b, r, hbefore, rfl, hb, hscan⟩ := exists_blank rfl hcolon
    by_cases hcolon : b = 0x3a
    · subst hcolon
      have hnext : step stack .colon 0x3a = .next stack .value := rfl
      rw [scan_next hnext] at hscan
      have hr : r.length ≤ n := by
        simp only [List.length_append, List.length_cons] at ht
        omega
      obtain ⟨after, v, u, hafter, hv, rfl, hu⟩ := hvalue r hr stack rest hscan
      let m : Member := ⟨quote :: s ++ [quote], before, after, v⟩
      have hm : m.Framed := ⟨.quoted hs, hbefore, hafter⟩
      exact ⟨a, m.text, u, ha, ⟨m, hm, hv, rfl⟩, by simp [m, Member.text], hu⟩
    · rw [scan_fail (by simp [step, hb, hcolon])] at hscan
      cases hscan
  · have hquote : b ≠ 0x22 := hquote
    rw [scan_fail (by simp [step, hb, hquote])] at h
    cases h

theorem exists_item (ht : t.length ≤ n) (h : scan stack bracket.item t = some rest) :
  ∃ a v u, Blank a ∧ bracket.IsItem v ∧ t = a ++ (v ++ u) ∧ finish stack u = some rest
  := by
  cases bracket with
  | array => exact hvalue t ht stack rest h
  | object => exact exists_member hvalue ht h

/-- The scanner passes over the items of a container up to the closing bracket. -/
theorem exists_items (ht : t.length ≤ n)
    (h : scan (bracket :: stack) bracket.item t = some rest) :
  ∃ ts c u, Spaced ts c ∧ (∀ v ∈ ts, bracket.IsItem v) ∧ ts ≠ []
    ∧ t = c ++ bracket.closing :: u ∧ finish stack u = some rest
  := by
  obtain ⟨k, hk⟩ : ∃ k, t.length < k := ⟨_, Nat.lt_succ_self _⟩
  induction k generalizing t with
  | zero => cases hk
  | succ k ih =>
    obtain ⟨a, v, u, ha, hv, rfl, hu⟩ := exists_item hvalue ht h
    have hscan : scan (bracket :: stack) .after u = some rest := hu
    obtain ⟨b, c, r, hb, rfl, hc, hafter⟩ := exists_blank rfl hscan
    rcases finish_eq_some hc hafter with ⟨rfl, hr⟩ | ⟨rfl, hr⟩
    · exact ⟨[v], a ++ (v ++ b), r, .last ha hb, by simpa using hv, List.cons_ne_nil v [],
        by simp, hr⟩
    · simp only [List.length_append, List.length_cons] at ht hk
      obtain ⟨ts, c, w, hspaced, hitems, hne, rfl, hw⟩ := ih (by omega) hr (by omega)
      obtain ⟨u, ts, rfl⟩ := List.exists_cons_of_ne_nil hne
      exact ⟨v :: u :: ts, a ++ (v ++ (b ++ 0x2c :: c)), w, .cons ha hb hspaced,
        List.forall_mem_cons.2 ⟨hv, hitems⟩, List.cons_ne_nil v _, by simp, hw⟩

/-- The scanner passes over what stands between brackets. -/
theorem exists_container (ht : t.length ≤ n)
    (h : scan (bracket :: stack) bracket.first t = some rest) :
  ∃ c u, Value (bracket.opening :: c ++ [bracket.closing]) ∧ t = c ++ bracket.closing :: u
    ∧ finish stack u = some rest
  := by
  obtain ⟨a, b, r, ha, rfl, hb, h⟩ := exists_blank bracket.skipsBlank_item.2 h
  by_cases hclosing : b = bracket.closing
  · rw [hclosing, bracket.scan_first_closing] at h
    exact ⟨a, r, (Spaced.none ha).value nofun, by rw [hclosing], h⟩
  · rw [scan_first_cons hb hclosing] at h
    have hr : (b :: r).length ≤ n := by
      simp only [List.length_append] at ht
      omega
    obtain ⟨ts, c, u, hspaced, hitems, -, hc, hu⟩ := exists_items hvalue hr h
    exact ⟨a ++ c, u, (hspaced.blank_append ha).value hitems, by simp [hc], hu⟩

/-- The scanner passes over a container. -/
theorem exists_value_container (bracket : Bracket) (ht : t.length ≤ n)
    (h : scan stack .value (bracket.opening :: t) = some rest) :
  ∃ v u, Value v ∧ bracket.opening :: t = v ++ u ∧ finish stack u = some rest
  := by
  rw [bracket.scan_opening] at h
  obtain ⟨c, u, hc, rfl, hu⟩ := exists_container hvalue ht h
  exact ⟨_, u, hc, by simp, hu⟩

/-- The scanner passes over the value that starts with the next byte. -/
theorem exists_value_cons {b : UInt8} (hb : isBlank b = false) (ht : t.length ≤ n)
    (h : scan stack .value (b :: t) = some rest) :
  ∃ v u, Value v ∧ b :: t = v ++ u ∧ finish stack u = some rest
  := by
  by_cases hquote : b = quote
  · subst hquote
    exact exists_value_string h
  by_cases hobject : b = 0x7b
  · subst hobject
    exact exists_value_container hvalue .object ht h
  by_cases harray : b = 0x5b
  · subst harray
    exact exists_value_container hvalue .array ht h
  by_cases hminus : b = 0x2d
  · subst hminus
    obtain ⟨v, u, hv, he, hu⟩ := exists_number_minus h
    exact ⟨v, u, .number hv, he, hu⟩
  by_cases hdigit : isDigit b = true
  · obtain ⟨v, u, hv, he, hu⟩ := exists_number_digit hdigit h
    exact ⟨v, u, .number hv, he, hu⟩
  by_cases htrue : b = 0x74
  · subst htrue
    exact exists_value_word (.bool true) rfl h
  by_cases hfalse : b = 0x66
  · subst hfalse
    exact exists_value_word (.bool false) rfl h
  by_cases hnull : b = 0x6e
  · subst hnull
    exact exists_value_word .null rfl h
  · have hquote : b ≠ 0x22 := hquote
    have hzero : b ≠ 0x30 := by
      rintro rfl
      exact hdigit rfl
    have hstep : step stack .value b = .fail := by
      simp [step, Step.start, *]
    rw [scan_fail hstep] at h
    cases h

end

/-- The scanner passes over values and nothing else. -/
theorem scansValue (t : Bytes) :
  ScansValue t
  := by
  obtain ⟨n, hn⟩ : ∃ n, t.length < n := ⟨_, Nat.lt_succ_self _⟩
  induction n generalizing t with
  | zero => cases hn
  | succ n ih =>
    intro stack rest h
    obtain ⟨a, b, r, ha, rfl, hb, h⟩ := exists_blank rfl h
    have hr : ∀ u : Bytes, u.length ≤ r.length → ScansValue u := by
      intro u hu
      apply ih
      simp only [List.length_append, List.length_cons] at hn
      omega
    obtain ⟨v, u, hv, he, hu⟩ := exists_value_cons hr hb (Nat.le_refl _) h
    exact ⟨a, v, u, ha, hv, by rw [he], hu⟩

/-! ### Cutting off values -/

/-- What is cut off is a value, with the white space in front of it left out. -/
theorem exists_of_takeValue? {t v rest : Bytes} (h : takeValue? t = some (v, rest)) :
  ∃ a, Blank a ∧ Value v ∧ t = a ++ (v ++ rest)
  := by
  obtain ⟨r, hscan, he⟩ := Option.map_eq_some_iff.1 h
  obtain ⟨a, w, u, ha, hw, ht, hu⟩ := scansValue _ _ _ hscan
  obtain ⟨b, hb, hbt⟩ := exists_skipBlank t
  cases hu
  rw [ht, ← List.append_assoc] at hbt
  have hskip : skipBlank t = w ++ r := by
    rw [hbt, skipBlank_append_of_blank (hb.append ha), hw.delimited.skipBlank_append]
  rw [hskip, List.length_append, Nat.add_sub_cancel, List.take_left] at he
  cases he
  exact ⟨b ++ a, hb.append ha, hw, hbt⟩

/-- A document is a value with white space around it. -/
theorem document?_eq_some_iff {t v : Bytes} :
  document? t = some v ↔ Value v ∧ ∃ a b, Blank a ∧ Blank b ∧ t = a ++ (v ++ b)
  := by
  constructor
  · intro h
    unfold document? at h
    split at h
    · next value rest htake =>
      split at h
      · next hempty =>
        cases h
        obtain ⟨a, ha, hv, rfl⟩ := exists_of_takeValue? htake
        obtain ⟨b, hb, hrest⟩ := exists_skipBlank rest
        rw [List.isEmpty_iff.1 hempty, List.append_nil] at hrest
        exact ⟨hv, a, b, ha, hb, by rw [hrest]⟩
      · cases h
    · cases h
  · rintro ⟨hv, a, b, ha, hb, rfl⟩
    simp only [document?, hv.delimited.takeValue?_blank_append ha hb.stops,
      skipBlank_of_blank hb]
    rfl

/-! ### Taking containers apart -/

/-- What follows an item is the end of the container or a comma and more text. -/
theorem eq_of_afterItem? {close : UInt8} {t : Bytes} {o : Option Bytes}
    (h : afterItem? close t = some o) :
  ∃ b, Blank b ∧ (o = none ∧ t = b ++ [close] ∨ ∃ r, o = some r ∧ t = b ++ 0x2c :: r)
  := by
  obtain ⟨b, hb, ht⟩ := exists_skipBlank t
  unfold afterItem? at h
  split at h
  · cases h
  · next c r hr =>
    rw [hr] at ht
    split at h
    · next hclose =>
      split at h
      · next hempty =>
        cases h
        rw [hclose, List.isEmpty_iff.1 hempty] at ht
        exact ⟨b, hb, .inl ⟨rfl, ht⟩⟩
      · cases h
    · split at h
      · next hcomma =>
        cases h
        rw [hcomma] at ht
        exact ⟨b, hb, .inr ⟨r, rfl, ht⟩⟩
      · cases h

section

variable {α : Type} {bracket : Bracket} {take : Bytes → Option (α × Bytes)}
  {from? read? : Bytes → Option (List α)} {R : α → Bytes → Prop}

/-- The items found one after the other stand in the text with commas between them. -/
theorem ItemReader.exists_spaced_from? (h : ItemReader bracket take from? read?)
    (htake : ∀ t x r, take t = some (x, r) → ∃ a v, Blank a ∧ R x v ∧ t = a ++ (v ++ r))
    {t : Bytes} {xs : List α} (hfrom : from? t = some xs) :
  ∃ ts c, Spaced ts c ∧ List.Forall₂ R xs ts ∧ ts ≠ [] ∧ t = c ++ [bracket.closing]
  := by
  obtain ⟨n, hn⟩ : ∃ n, t.length < n := ⟨_, Nat.lt_succ_self _⟩
  induction n generalizing t xs with
  | zero => cases hn
  | succ n ih =>
    rw [h.from?_eq] at hfrom
    obtain ⟨⟨x, r⟩, hx, hitems⟩ := Option.bind_eq_some_iff.1 hfrom
    obtain ⟨a, v, ha, hv, rfl⟩ := htake t x r hx
    cases hafter : afterItem? bracket.closing r with
    | none => simp [hafter, itemsFrom?] at hitems
    | some o =>
      simp only [hafter] at hitems
      obtain ⟨b, hb, ⟨rfl, rfl⟩ | ⟨s, rfl, rfl⟩⟩ := eq_of_afterItem? hafter
      · cases hitems
        exact ⟨[v], a ++ (v ++ b), .last ha hb, .cons hv .nil, List.cons_ne_nil v [], by simp⟩
      · obtain ⟨ys, hs, rfl⟩ := Option.map_eq_some_iff.1 hitems
        simp only [List.length_append, List.length_cons] at hn
        obtain ⟨ts, c, hspaced, hys, hne, rfl⟩ := ih hs (by omega)
        obtain ⟨u, ts, rfl⟩ := List.exists_cons_of_ne_nil hne
        exact ⟨v :: u :: ts, a ++ (v ++ (b ++ 0x2c :: c)), .cons ha hb hspaced, .cons hv hys,
          List.cons_ne_nil v _, by simp⟩

/-- A container is taken apart into the items that stand in it, and into no others. -/
theorem ItemReader.read?_eq_some_iff_spaced (h : ItemReader bracket take from? read?)
    (htake : ∀ t x r, take t = some (x, r) → ∃ a v, Blank a ∧ R x v ∧ t = a ++ (v ++ r))
    (htaken : ∀ x v, R x v → TakenAs take x v) {t : Bytes} {xs : List α} :
  read? t = some xs ↔ ∃ ts c, Spaced ts c ∧ List.Forall₂ R xs ts
    ∧ t = bracket.opening :: c ++ [bracket.closing]
  := by
  constructor
  · intro hread
    obtain ⟨r, rfl, ⟨rfl, hempty⟩ | hfrom⟩ := h.read?_eq_some_iff.1 hread
    · obtain ⟨a, ha, hr⟩ := exists_skipBlank r
      rw [hempty] at hr
      exact ⟨[], a, .none ha, .nil, by rw [hr]; rfl⟩
    · obtain ⟨ts, c, hspaced, hitems, -, rfl⟩ := h.exists_spaced_from? htake hfrom
      exact ⟨ts, c, hspaced, hitems, rfl⟩
  · rintro ⟨ts, c, hspaced, hitems, rfl⟩
    exact h.read?_spaced hspaced (hitems.imp htaken)

end

/-- An array is taken apart into the values that stand in it. -/
theorem elements?_eq_some_iff {t : Bytes} {ts : List Bytes} :
  elements? t = some ts ↔ ArrayOf ts t
  := by
  have htake : ∀ t v r, takeValue? t = some (v, r) →
      ∃ a w, Blank a ∧ (Value v ∧ v = w) ∧ t = a ++ (w ++ r) := by
    intro t v r h
    obtain ⟨a, ha, hv, ht⟩ := exists_of_takeValue? h
    exact ⟨a, v, ha, ⟨hv, rfl⟩, ht⟩
  have htaken : ∀ v w, Value v ∧ v = w → TakenAs takeValue? v w := by
    rintro v w ⟨hv, rfl⟩
    exact hv.delimited.takenAs
  rw [elementReader.read?_eq_some_iff_spaced htake htaken]
  simp only [List.forall₂_and_left, List.forall₂_eq_eq_eq]
  constructor
  · rintro ⟨us, c, hspaced, ⟨hvalues, rfl⟩, ht⟩
    exact ⟨⟨c, hspaced, ht⟩, hvalues⟩
  · rintro ⟨⟨c, hspaced, ht⟩, hvalues⟩
    exact ⟨ts, c, hspaced, ⟨hvalues, rfl⟩, ht⟩

/-- The text of a member that gives the name and the value. -/
def ReadsMember (n : String × Bytes) (v : Bytes) : Prop :=
  ∃ m : Member, v = m.text ∧ (m.Framed ∧ Value m.value) ∧ m.Gives n

/-- A value that starts with a quote is a string. -/
theorem Value.isString {t : Bytes} (h : Value t) (hquote : t.head? = some quote) :
  IsString t
  := by
  cases h with
  | null => exact absurd hquote (by decide)
  | bool b =>
    cases b with
    | false => exact absurd hquote (by decide)
    | true => exact absurd hquote (by decide)
  | number h =>
    rcases isNumber_iff.1 h with ⟨n, rfl, -⟩ | h
    · exact absurd (Option.some.inj hquote) (by decide)
    · obtain ⟨r, rfl⟩ := List.head?_eq_some_iff.1 hquote
      rcases Mode.completedBy_minus_cons.1 h with ⟨hzero, -⟩ | ⟨-, hdigit, -⟩
      · exact absurd hzero (by decide)
      · exact absurd hdigit (by decide)
  | string h => exact h
  | array => exact absurd (Option.some.inj hquote) (by decide)
  | object => exact absurd (Option.some.inj hquote) (by decide)

theorem eq_of_afterColon? {t r : Bytes} (h : afterColon? t = some r) :
  ∃ b, Blank b ∧ t = b ++ 0x3a :: r
  := by
  obtain ⟨b, hb, ht⟩ := exists_skipBlank t
  unfold afterColon? at h
  split at h
  · next hr =>
    cases h
    rw [hr] at ht
    exact ⟨b, hb, ht⟩
  · cases h

/-- What is taken as a member is the text of one. -/
theorem exists_of_takeMember? {t rest : Bytes} {n : String × Bytes}
    (h : takeMember? t = some (n, rest)) :
  ∃ a v, Blank a ∧ ReadsMember n v ∧ t = a ++ (v ++ rest)
  := by
  simp only [takeMember?, bind, Option.bind_eq_some_iff] at h
  obtain ⟨⟨key, r⟩, htake, r', hcolon, name, hname, ⟨value, r''⟩, htake', he⟩ := h
  cases he
  obtain ⟨a, ha, hkey, rfl⟩ := exists_of_takeValue? htake
  obtain ⟨before, hbefore, rfl⟩ := eq_of_afterColon? hcolon
  obtain ⟨after, hafter, hvalue, rfl⟩ := exists_of_takeValue? htake'
  have hquote : key.head? = some quote := by
    unfold text? literal? at hname
    split at hname
    · next hkey => exact congrArg List.head? hkey
    · cases hname
  let m : Member := ⟨key, before, after, value⟩
  have hframed : m.Framed := ⟨hkey.isString hquote, hbefore, hafter⟩
  exact ⟨a, m.text, ha, ⟨m, rfl, ⟨hframed, hvalue⟩, hname, rfl⟩, by simp [m, Member.text]⟩

/-- An object is taken apart into the names and values of the members that stand in it. -/
theorem members?_eq_some_iff {t : Bytes} {ns : List (String × Bytes)} :
  members? t = some ns ↔ ∃ ms, ObjectOf ms t ∧ List.Forall₂ Member.Gives ms ns
  := by
  have htaken : ∀ n v, ReadsMember n v → TakenAs takeMember? n v := by
    rintro n v ⟨m, rfl, ⟨hframed, hvalue⟩, hgives⟩
    exact hframed.takenAs hvalue.delimited hgives
  rw [memberReader.read?_eq_some_iff_spaced (fun _ _ _ => exists_of_takeMember?) htaken]
  constructor
  · rintro ⟨ts, c, hspaced, hread, ht⟩
    have hmembers : ∃ ms : List Member, ts = ms.map Member.text
        ∧ List.Forall₂ (fun m n => (m.Framed ∧ Value m.value) ∧ m.Gives n) ms ns := by
      clear hspaced
      induction hread with
      | nil => exact ⟨[], rfl, .nil⟩
      | cons hm _ ih =>
        obtain ⟨m, rfl, hm⟩ := hm
        obtain ⟨ms, rfl, hms⟩ := ih
        exact ⟨m :: ms, rfl, .cons hm hms⟩
    obtain ⟨ms, rfl, hms⟩ := hmembers
    obtain ⟨hwell, hgives⟩ := (List.forall₂_and_left ms ns).1 hms
    have hobject : ObjectOf ms t :=
      ⟨⟨c, hspaced, ht⟩, fun m hm => (hwell m hm).1, fun m hm => (hwell m hm).2⟩
    exact ⟨ms, hobject, hgives⟩
  · rintro ⟨ms, ⟨⟨c, hspaced, ht⟩, hframed, hvalues⟩, hgives⟩
    refine ⟨ms.map Member.text, c, hspaced, ?_, ht⟩
    apply List.forall₂_map_right_iff.2
    have hmembers : ∀ m ∈ ms, m.Framed ∧ Value m.value := fun m hm =>
      ⟨hframed m hm, hvalues m hm⟩
    have hread := (List.forall₂_and_left ms ns).2 ⟨hmembers, hgives⟩
    exact hread.flip.imp fun n m h => ⟨m, rfl, h⟩

/-- What is an object is no array. -/
theorem elements?_of_members? {t : Bytes} {ns : List (String × Bytes)}
    (h : members? t = some ns) :
  elements? t = none
  := by
  obtain ⟨_, hobject, -⟩ := members?_eq_some_iff.1 h
  obtain ⟨c, -, rfl⟩ := hobject.text
  rfl

end LedgerTrust.Json
