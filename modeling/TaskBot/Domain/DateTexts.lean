import Mathlib.Data.String.Basic
import TaskBot.Domain.CivilDates

/-!
# Dates as SQLite compares them

The column of a date holds its text, and the statements compare dates as texts: letter by letter.

* `isoDate_inj`: the text tells the date;
* `isoDate_lt_iff`: the dates whose years have four digits come in their order;
* `isoDate_before_iff`: what a statement finds before a day.
-/

namespace TaskBot

/-! ## The text tells the date -/

theorem dash_not_mem_zeroPadded {width n : Nat} : ∀ c ∈ (zeroPadded width n).toList, (c != '-') = true := by
  intro c hc
  rw [bne_iff_ne]
  rintro rfl
  exact absurd (isDigit_of_mem_zeroPadded hc) (by decide)

/-- **A date is read back from its serialised form**: from its end, since a year may have a sign. -/
theorem isoDate_inj {date date' : NaiveDate} (h : isoDate date = isoDate date') : date = date' := by
  obtain ⟨year, month, day, hdate, -, hdays⟩ := civil_round_trip date
  obtain ⟨year', month', day', hdate', -, hdays'⟩ := civil_round_trip date'
  have htext := congrArg (fun s => s.toList.reverse) h
  unfold isoDate at htext
  simp only [hdate, hdate'] at htext
  have hdash : ("-").toList = ['-'] := by simp
  simp only [String.toList_append, hdash, List.reverse_append, List.reverse_singleton,
    List.singleton_append] at htext
  have hstop : ('-' != '-') = false := by decide
  have hback : ∀ width n : Nat, ∀ c ∈ (zeroPadded width n).toList.reverse, (c != '-') = true := by
    intro width n c hc
    exact dash_not_mem_zeroPadded c (List.mem_reverse.mp hc)
  obtain ⟨hday, htext⟩ := Fields.append_stop_inj (hback 2 day) (hback 2 day') hstop htext
  obtain ⟨hmonth, hyear⟩ := Fields.append_stop_inj (hback 2 month) (hback 2 month') hstop htext
  have hday := zeroPadded_inj (String.toList_inj.mp (List.reverse_inj.mp hday))
  have hmonth := zeroPadded_inj (String.toList_inj.mp (List.reverse_inj.mp hmonth))
  have hyear := formatYear_inj (String.toList_inj.mp (List.reverse_inj.mp hyear))
  rw [← hdays, ← hdays', hyear, Int.ofNat.inj hmonth, Int.ofNat.inj hday]

/-- Between a text and itself there is no other. -/
theorem isoDate_between (day date : NaiveDate) :
    (decide (isoDate day ≤ isoDate date) && decide (isoDate date ≤ isoDate day)) = decide (date = day) := by
  rw [← Bool.decide_and, decide_eq_decide]
  constructor
  · exact fun h => isoDate_inj (le_antisymm h.2 h.1)
  · rintro rfl
    exact ⟨le_refl _, le_refl _⟩

/-! ## The order of padded numbers -/

section

variable {l l' m m' : List Char}

/-- Two fields of the same length are compared before what follows them. -/
theorem field_lt_iff (c : Char) (h : l.length = l'.length) :
    l ++ c :: m < l' ++ c :: m' ↔ l < l' ∨ l = l' ∧ m < m' := by
  induction l generalizing l' with
  | nil =>
    rw [List.length_nil] at h
    rw [List.eq_nil_of_length_eq_zero h.symm]
    simp
  | cons d l ih =>
    cases l' with
    | nil => simp at h
    | cons d' l' =>
      rw [List.cons_append, List.cons_append, List.cons_lt_cons_iff, List.cons_lt_cons_iff,
        ih (Nat.succ.inj h), List.cons.injEq]
      tauto

/-- The number of a leading digit and of the digits behind it. -/
theorem ofDigitChars_digit (c : Char) (l : List Char) :
    Nat.ofDigitChars 10 (c :: l) 0 = 10 ^ l.length * (c.toNat - 48) + Nat.ofDigitChars 10 l 0 := by
  rw [Nat.ofDigitChars_cons, Nat.ofDigitChars_eq_ofDigitChars_zero]
  simp

theorem isDigit_bounds {c : Char} (h : c.isDigit = true) : 48 ≤ c.toNat ∧ c.toNat ≤ 57 := by
  simp only [Char.isDigit, Bool.and_eq_true, decide_eq_true_eq] at h
  exact ⟨h.1, h.2⟩

theorem ofDigitChars_lt (h : ∀ c ∈ l, c.isDigit = true) : Nat.ofDigitChars 10 l 0 < 10 ^ l.length := by
  induction l with
  | nil => simp
  | cons c l ih =>
    have hrest := ih fun d hd => h d (List.mem_cons_of_mem c hd)
    have hdigit := isDigit_bounds (h c List.mem_cons_self)
    have hplace : 10 ^ l.length * (c.toNat - 48) ≤ 10 ^ l.length * 9 := Nat.mul_le_mul_left _ (by omega)
    rw [ofDigitChars_digit, List.length_cons, Nat.pow_succ]
    omega

/-- Digits of the same number of places are in the order of the numbers. -/
theorem digits_lt_iff (hl : ∀ c ∈ l, c.isDigit = true) (hl' : ∀ c ∈ l', c.isDigit = true)
    (h : l.length = l'.length) : l < l' ↔ Nat.ofDigitChars 10 l 0 < Nat.ofDigitChars 10 l' 0 := by
  induction l generalizing l' with
  | nil =>
    rw [List.length_nil] at h
    rw [List.eq_nil_of_length_eq_zero h.symm]
    simp
  | cons c l ih =>
    cases l' with
    | nil => simp at h
    | cons c' l' =>
      obtain ⟨hc, hrest⟩ := List.forall_mem_cons.mp hl
      obtain ⟨hc', hrest'⟩ := List.forall_mem_cons.mp hl'
      have hlength := Nat.succ.inj h
      have hbound := ofDigitChars_lt hrest
      have hbound' := ofDigitChars_lt hrest'
      have hdigit := isDigit_bounds hc
      have hdigit' := isDigit_bounds hc'
      have hletter : c < c' ↔ c.toNat < c'.toNat := Iff.rfl
      rw [List.cons_lt_cons_iff, ih hrest hrest' hlength, ofDigitChars_digit, ofDigitChars_digit, ← hlength]
      rw [← hlength] at hbound'
      rcases Nat.lt_trichotomy c.toNat c'.toNat with hlt | heq | hgt
      · have hplace : 10 ^ l.length * (c.toNat - 48 + 1) ≤ 10 ^ l.length * (c'.toNat - 48) :=
          Nat.mul_le_mul_left _ (by omega)
        rw [Nat.mul_succ] at hplace
        exact iff_of_true (.inl (hletter.mpr hlt)) (by omega)
      · obtain rfl : c = c' := Char.toNat_inj.mp heq
        have hnot : ¬ c < c := by simp
        simp only [hnot, false_or, true_and]
        omega
      · have hplace : 10 ^ l.length * (c'.toNat - 48 + 1) ≤ 10 ^ l.length * (c.toNat - 48) :=
          Nat.mul_le_mul_left _ (by omega)
        rw [Nat.mul_succ] at hplace
        refine iff_of_false ?_ (by omega)
        rintro (hlt | ⟨rfl, -⟩)
        · have := hletter.mp hlt
          omega
        · omega

end

section

variable {width n n' : Nat}

/-- A number that fits has as many places as it is padded to. -/
theorem length_zeroPadded (hwidth : 0 < width) (h : n < 10 ^ width) : (zeroPadded width n).toList.length = width := by
  have hdigits := (Nat.length_toDigits_le_iff (b := 10) (by decide) hwidth).mpr h
  have htext : (toString (n : Int)).toList = Nat.toDigits 10 n := by
    have hid := idText_eq n
    rw [if_pos (by omega), Int.toNat_natCast] at hid
    exact hid
  unfold zeroPadded
  rw [String.toList_append, String.toList_ofList, List.length_append, List.length_replicate,
    ← String.length_toList, htext]
  omega

theorem ofDigitChars_zeroPadded (width n : Nat) : Nat.ofDigitChars 10 (zeroPadded width n).toList 0 = n := by
  obtain ⟨zeros, hzeros⟩ := toList_zeroPadded width n
  rw [hzeros, idText_eq, if_pos (by omega), Int.toNat_natCast, ofDigitChars_zeros]

theorem zeroPadded_lt_iff (hwidth : 0 < width) (h : n < 10 ^ width) (h' : n' < 10 ^ width) :
    (zeroPadded width n).toList < (zeroPadded width n').toList ↔ n < n' := by
  rw [digits_lt_iff (fun _ hc => isDigit_of_mem_zeroPadded hc) (fun _ hc => isDigit_of_mem_zeroPadded hc)
    (by rw [length_zeroPadded hwidth h, length_zeroPadded hwidth h']), ofDigitChars_zeroPadded,
    ofDigitChars_zeroPadded]

end

/-! ## The order of dates -/

/-- From the first day of the year 0 to the last one of the year 9999. -/
def HasFourDigits (date : Int) : Prop := -719528 ≤ date ∧ date ≤ 2932896

instance (date : Int) : Decidable (HasFourDigits date) := inferInstanceAs (Decidable (_ ∧ _))

section

variable {date date' : Int} {year : Int} {month day : Nat}

theorem year_of_fourDigits (hcivil : IsCivil year month day) (hdays : daysFromCivil year month day = date) :
    HasFourDigits date ↔ 0 ≤ year ∧ year ≤ 9999 := by
  have hyear := daysFromCivil_in_year hcivil
  have hends : marchStart (-1) = -366 ∧ marchStart 9999 = 3652059 := by decide
  unfold HasFourDigits
  constructor
  · intro h
    by_contra hnot
    by_cases hneg : year < 0
    · have hfirst := @marchStart_mono year (-1) (by omega)
      omega
    · have hlast := @marchStart_mono 9999 (year - 1) (by omega)
      omega
  · intro h
    have hfirst := @marchStart_mono (-1) (year - 1) (by omega)
    have hlast := @marchStart_mono year 9999 (by omega)
    omega

/-- The fields of such a text. -/
theorem toList_isoDate (h : HasFourDigits date) : ∃ year month day : Nat,
    (year < 10 ^ 4 ∧ month < 10 ^ 2 ∧ day < 10 ^ 2) ∧ IsCivil year month day ∧
      daysFromCivil year month day = date ∧ (isoDate date).toList =
        (zeroPadded 4 year).toList ++ '-' :: ((zeroPadded 2 month).toList ++ '-' :: (zeroPadded 2 day).toList) := by
  obtain ⟨year, month, day, hdate, hcivil, hdays⟩ := civil_round_trip date
  obtain ⟨hpos, hfour⟩ := (year_of_fourDigits hcivil hdays).mp h
  obtain ⟨n, rfl⟩ := Int.eq_ofNat_of_zero_le hpos
  have hmonth := hcivil.2.1
  have hday := hcivil.2.2.2.trans (length_of_month_le n month)
  refine ⟨n, month, day, ⟨by omega, by omega, by omega⟩, hcivil, hdays, ?_⟩
  have hdash : ("-").toList = ['-'] := by simp
  unfold isoDate formatYear
  simp only [hdate, if_pos (And.intro hpos hfour), String.toList_append, hdash, List.append_assoc,
    List.cons_append, List.nil_append]

/-- **The texts of years with four digits are in the order of the dates.** -/
theorem isoDate_lt_iff (h : HasFourDigits date) (h' : HasFourDigits date') :
    isoDate date < isoDate date' ↔ date < date' := by
  obtain ⟨year, month, day, ⟨hyear, hmonth, hday⟩, hcivil, hdays, htext⟩ := toList_isoDate h
  obtain ⟨year', month', day', ⟨hyear', hmonth', hday'⟩, hcivil', hdays', htext'⟩ := toList_isoDate h'
  have hlength : ∀ {width n n' : Nat}, 0 < width → n < 10 ^ width → n' < 10 ^ width →
      (zeroPadded width n).toList.length = (zeroPadded width n').toList.length := by
    intro width n n' hwidth hn hn'
    rw [length_zeroPadded hwidth hn, length_zeroPadded hwidth hn']
  have hsame : ∀ {width n n' : Nat}, (zeroPadded width n).toList = (zeroPadded width n').toList ↔ n = n' := by
    intro width n n'
    rw [String.toList_inj]
    exact ⟨fun hn => Int.ofNat.inj (zeroPadded_inj hn), fun hn => by rw [hn]⟩
  rw [String.lt_iff_toList_lt, htext, htext', field_lt_iff '-' (hlength (by decide) hyear hyear'),
    field_lt_iff '-' (hlength (by decide) hmonth hmonth'), zeroPadded_lt_iff (by decide) hyear hyear',
    zeroPadded_lt_iff (by decide) hmonth hmonth', zeroPadded_lt_iff (by decide) hday hday', hsame, hsame,
    ← hdays, ← hdays', daysFromCivil_date_lt_iff hcivil hcivil']
  omega

/-- **The text of any other date comes first**, since it starts with a sign: the date long past, or far ahead. -/
theorem isoDate_signed_lt (h : ¬ HasFourDigits date) (h' : HasFourDigits date') : isoDate date < isoDate date' := by
  obtain ⟨year, month, day, hdate, hcivil, hdays⟩ := civil_round_trip date
  obtain ⟨year', month', day', ⟨hyear', -⟩, -, -, htext'⟩ := toList_isoDate h'
  have hsigned : ¬ (0 ≤ year ∧ year ≤ 9999) := fun hfour => h ((year_of_fourDigits hcivil hdays).mpr hfour)
  have hlength := length_zeroPadded (by decide) hyear'
  rw [String.lt_iff_toList_lt, htext']
  unfold isoDate
  simp only [hdate, String.toList_append, toList_formatYear_signed hsigned, List.cons_append]
  cases hdigits : (zeroPadded 4 (year' : Int)).toList with
  | nil =>
    rw [hdigits] at hlength
    cases hlength
  | cons c digits =>
    have hdigit := isDigit_bounds (isDigit_of_mem_zeroPadded (c := c) (hdigits ▸ List.mem_cons_self))
    rw [List.cons_append, List.cons_lt_cons_iff]
    refine .inl ?_
    have hletter : ∀ sign : Char, sign.toNat < 48 → sign < c := by
      intro sign hsign
      show sign.toNat < c.toNat
      omega
    split
    · exact hletter '+' (by decide)
    · exact hletter '-' (by decide)

/-- What a statement finds before a day: the earlier dates, and those whose years have not four digits. -/
theorem isoDate_before_iff (h' : HasFourDigits date') :
    isoDate date < isoDate date' ↔ date < date' ∨ ¬ HasFourDigits date := by
  by_cases h : HasFourDigits date
  · rw [isoDate_lt_iff h h']
    tauto
  · exact iff_of_true (isoDate_signed_lt h h') (.inr h)

end

end TaskBot
