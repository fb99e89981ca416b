import TaskBot.Domain.Parsing

/-!
# Civil dates

`civilFromDays` and `daysFromCivil` count the years from March, so that the leap day is the last one:

    days  =  marchStart y + days of the months before + day        (daysFromCivil_eq)

They are inverse on the dates (`civil_round_trip`), and the dates are in the order of year, month and
day (`daysFromCivil_date_lt_iff`).  The label of a date tells the date (`formatDate_inj`).
-/

namespace TaskBot

/-- A month and a day of a year. -/
def IsCivil (year : Int) (month day : Nat) : Prop := 1 ≤ month ∧ month ≤ 12 ∧ 1 ≤ day ∧ day ≤ daysInMonth year month

theorem fromYmdOpt_some {year date : Int} {month day : Nat} (h : NaiveDate.fromYmdOpt year month day = some date) :
    IsCivil year month day ∧ daysFromCivil year month day = date := by
  unfold NaiveDate.fromYmdOpt at h
  split at h
  · next hvalid => exact ⟨hvalid.2.2, Option.some.inj h⟩
  · cases h

/-! ## Years from March -/

/-- The days before the 1st of March of a year, from that of the year 0 on. -/
def marchStart (year : Int) : Int := 365 * year + year / 4 - year / 100 + year / 400

theorem isLeapYear_iff (year : Int) :
    isLeapYear year = true ↔ year % 4 = 0 ∧ (year % 100 ≠ 0 ∨ year % 400 = 0) := by
  unfold isLeapYear
  simp only [Bool.and_eq_true, Bool.or_eq_true, decide_eq_true_eq]

theorem marchStart_succ (year : Int) :
    marchStart year = marchStart (year - 1) + if isLeapYear year then 366 else 365 := by
  unfold marchStart
  have hleap := isLeapYear_iff year
  split
  · next h =>
    have hfour := hleap.mp h
    omega
  · next h =>
    have hcommon : ¬ (year % 4 = 0 ∧ (year % 100 ≠ 0 ∨ year % 400 = 0)) := fun hc => h (hleap.mpr hc)
    omega

theorem daysFromCivil_eq (year : Int) (month day : Nat) : daysFromCivil year month day =
    marchStart (if month ≤ 2 then year - 1 else year) + (153 * (((month : Int) + 9) % 12) + 2) / 5 + day - 1 - 719468 := by
  unfold daysFromCivil marchStart
  generalize (if month ≤ 2 then year - 1 else year) = y
  have hera : y.fdiv 400 = y / 400 := Int.fdiv_eq_ediv_of_nonneg y (by decide)
  simp only [hera]
  omega

/-! ## The order within a year -/

section

variable {year : Int} {m m' d d' : Nat}

theorem daysFromCivil_day (year : Int) (m d : Nat) : daysFromCivil year m d = daysFromCivil year m 1 + d - 1 := by
  rw [daysFromCivil_eq, daysFromCivil_eq]
  omega

theorem daysFromCivil_next_month (hm : 1 ≤ m) (hm' : m ≤ 11) (hd : d ≤ daysInMonth year m) :
    daysFromCivil year m d < daysFromCivil year (m + 1) 1 := by
  rw [daysFromCivil_eq, daysFromCivil_eq]
  rcases Nat.lt_or_ge 2 m with hlater | hfirst
  · -- the months from March on, one after the other
    have hlength : (d : Int) ≤ (153 * (((m + 1 : Nat) : Int) + 9 - 12) + 2) / 5 - (153 * ((m : Int) + 9 - 12) + 2) / 5 := by
      have hcases : m = 3 ∨ m = 4 ∨ m = 5 ∨ m = 6 ∨ m = 7 ∨ m = 8 ∨ m = 9 ∨ m = 10 ∨ m = 11 := by omega
      rcases hcases with rfl | rfl | rfl | rfl | rfl | rfl | rfl | rfl | rfl <;> simp [daysInMonth] at hd ⊢ <;> omega
    have hmonth : ((m : Int) + 9) % 12 = m + 9 - 12 := by omega
    have hnext : (((m + 1 : Nat) : Int) + 9) % 12 = ((m + 1 : Nat) : Int) + 9 - 12 := by omega
    rw [if_neg (Nat.not_le.mpr hlater), if_neg (by omega), hmonth, hnext]
    omega
  · have hyear := marchStart_succ year
    obtain rfl | rfl : m = 1 ∨ m = 2 := by omega
    · have hd : d ≤ 31 := hd
      simp only [show (1 : Nat) ≤ 2 from by decide, show (1 : Nat) + 1 ≤ 2 from by decide, if_true]
      omega
    · have hd : d ≤ if isLeapYear year = true then 29 else 28 := hd
      simp only [show (2 : Nat) ≤ 2 from by decide, show ¬ (2 : Nat) + 1 ≤ 2 from by decide, if_true, if_false]
      split at hd <;> simp_all <;> omega

theorem daysFromCivil_month_lt (hd : IsCivil year m d) (hm : m < m') (hm' : m' ≤ 12) (hd' : 1 ≤ d') :
    daysFromCivil year m d < daysFromCivil year m' d' := by
  have hfirst : ∀ n : Nat, m + 1 + n ≤ 12 → daysFromCivil year (m + 1) 1 ≤ daysFromCivil year (m + 1 + n) 1 := by
    intro n hn
    induction n with
    | zero => exact Int.le_refl _
    | succ n ih =>
      have hone : ∀ k, 1 ≤ daysInMonth year k := by
        intro k
        unfold daysInMonth
        split <;> try split
        all_goals decide
      refine Int.le_trans (ih (by omega)) (Int.le_of_lt ?_)
      exact daysFromCivil_next_month (by omega) (by omega) (hone _)
  obtain ⟨n, rfl⟩ : ∃ n, m' = m + 1 + n := ⟨m' - (m + 1), by omega⟩
  have hnext := daysFromCivil_next_month hd.1 (by omega) hd.2.2.2
  have hday := daysFromCivil_day year (m + 1 + n) d'
  have := hfirst n hm'
  omega

/-- **Within a year the dates are in the order of month and day.** -/
theorem daysFromCivil_lt_iff (hd : IsCivil year m d) (hd' : IsCivil year m' d') :
    daysFromCivil year m d < daysFromCivil year m' d' ↔ m < m' ∨ m = m' ∧ d < d' := by
  rcases Nat.lt_trichotomy m m' with hlt | rfl | hgt
  · exact iff_of_true (daysFromCivil_month_lt hd hlt hd'.2.1 hd'.2.2.1) (.inl hlt)
  · rw [daysFromCivil_day year m d, daysFromCivil_day year m d']
    omega
  · have hlater := daysFromCivil_month_lt hd' hgt hd.2.1 hd.2.2.1
    refine iff_of_false (by omega) (by omega)

end

/-! ## The order of the years -/

theorem length_of_month_le (year : Int) (month : Nat) : daysInMonth year month ≤ 31 := by
  unfold daysInMonth
  split
  · split <;> omega
  all_goals omega

theorem marchStart_mono {year year' : Int} (h : year ≤ year') : marchStart year ≤ marchStart year' := by
  unfold marchStart
  omega

/-- A date lies between the first days of its year and of the next one. -/
theorem daysFromCivil_in_year {year : Int} {m d : Nat} (h : IsCivil year m d) :
    marchStart (year - 1) + 306 ≤ daysFromCivil year m d + 719468 ∧
      daysFromCivil year m d + 719468 < marchStart year + 306 := by
  obtain ⟨hm, hm', hd, hd'⟩ := h
  have hlength := hd'.trans (length_of_month_le year m)
  have hstart := marchStart_succ year
  have hyear : (365 : Int) ≤ if isLeapYear year then 366 else 365 := by split <;> omega
  rw [daysFromCivil_eq]
  by_cases hearly : m ≤ 2
  · rw [if_pos hearly]
    omega
  · rw [if_neg hearly]
    omega

theorem daysFromCivil_year_lt {year year' : Int} {m m' d d' : Nat} (hd : IsCivil year m d)
    (hd' : IsCivil year' m' d') (h : year < year') : daysFromCivil year m d < daysFromCivil year' m' d' := by
  have hfirst := daysFromCivil_in_year hd
  have hlast := daysFromCivil_in_year hd'
  have hyears := @marchStart_mono year (year' - 1) (by omega)
  omega

/-- **The dates are in the order of year, month and day.** -/
theorem daysFromCivil_date_lt_iff {year year' : Int} {m m' d d' : Nat} (hd : IsCivil year m d)
    (hd' : IsCivil year' m' d') : daysFromCivil year m d < daysFromCivil year' m' d' ↔
      year < year' ∨ year = year' ∧ (m < m' ∨ m = m' ∧ d < d') := by
  rcases Int.lt_trichotomy year year' with hlt | rfl | hgt
  · exact iff_of_true (daysFromCivil_year_lt hd hd' hlt) (.inl hlt)
  · rw [daysFromCivil_lt_iff hd hd']
    simp
  · have hlater := daysFromCivil_year_lt hd' hd hgt
    exact iff_of_false (by omega) (by omega)

/-! ## Round trip -/

/-- The parts of a day of an era: century, cycle of four years, year and day. -/
structure EraParts (doe k j i doy : Int) : Prop where
  sum : doe = 36524 * k + 1461 * j + 365 * i + doy
  century : 0 ≤ k ∧ k ≤ 3
  cycle : 0 ≤ j ∧ j ≤ 24
  year : 0 ≤ i ∧ i ≤ 3
  /-- A year has 366 days if it ends with the 29th of February. -/
  day : 0 ≤ doy ∧ (doy ≤ 364 ∨ doy = 365 ∧ i = 3 ∧ (j < 24 ∨ k = 3))

theorem exists_eraParts {doe : Int} (h : 0 ≤ doe) (h' : doe ≤ 146096) : ∃ k j i doy, EraParts doe k j i doy := by
  obtain ⟨k, hk⟩ : ∃ k, k = Min.min (doe / 36524) 3 := ⟨_, rfl⟩
  obtain ⟨r, hr⟩ : ∃ r, r = doe - 36524 * k := ⟨_, rfl⟩
  have hr' : 0 ≤ r ∧ (r ≤ 36523 ∨ k = 3 ∧ r ≤ 36524) := by omega
  obtain ⟨q, hq⟩ : ∃ q, q = r % 1461 := ⟨_, rfl⟩
  refine ⟨k, r / 1461, Min.min (q / 365) 3, q - 365 * Min.min (q / 365) 3, ?_, ?_, ?_, ?_, ?_⟩ <;> omega

namespace EraParts

variable {doe k j i doy : Int}

/-- The year of the era, as the code computes it. -/
theorem yearOfEra (h : EraParts doe k j i doy) :
    (doe - doe / 1460 + doe / 36524 - doe / 146096) / 365 = 100 * k + 4 * j + i := by
  obtain ⟨hsum, hk, hj, hi, hdoy⟩ := h
  have hcentury : doe / 36524 - doe / 146096 = k := by
    by_cases hlast : doe = 146096
    · omega
    · have hera : doe / 146096 = 0 := by omega
      have hk : doe / 36524 = k := by omega
      omega
  have hcycle : doe / 1460 = 25 * k + j + (24 * k + j + 365 * i + doy) / 1460 := by omega
  have hleap : 0 ≤ doy - (24 * k + j + 365 * i + doy) / 1460 ∧
      doy - (24 * k + j + 365 * i + doy) / 1460 ≤ 364 := by omega
  omega

theorem dayOfYear (h : EraParts doe k j i doy) :
    doe - (365 * (100 * k + 4 * j + i) + (100 * k + 4 * j + i) / 4 - (100 * k + 4 * j + i) / 100) = doy := by
  obtain ⟨hsum, hk, hj, hi, hdoy⟩ := h
  omega

/-- The 29th of February is in a leap year. -/
theorem leap (h : EraParts doe k j i doy) (hlong : doy = 365) (era : Int) :
    isLeapYear (100 * k + 4 * j + i + era * 400 + 1) = true := by
  obtain ⟨-, hk, hj, -, hday⟩ := h
  rw [isLeapYear_iff]
  omega

theorem marchStart_year (h : EraParts doe k j i doy) (era : Int) :
    marchStart (100 * k + 4 * j + i + era * 400) + doy = doe + era * 146097 := by
  obtain ⟨hsum, hk, hj, hi, -⟩ := h
  unfold marchStart
  omega

end EraParts

/-- The month that a day of a year from March is in. -/
theorem month_of_day {doy mp : Int} (h : 0 ≤ doy ∧ doy ≤ 365) (hmp : mp = (5 * doy + 2) / 153) :
    0 ≤ mp ∧ mp ≤ 11 ∧ 0 ≤ doy - (153 * mp + 2) / 5 ∧ doy + 1 ≤ (153 * (mp + 1) + 2) / 5 := by
  omega

theorem length_of_month {year mp : Int} {month : Nat} (h : 0 ≤ mp ∧ mp ≤ 10) (hmonth : (mp + 2) % 12 + 1 = month) :
    (153 * (mp + 1) + 2) / 5 - (153 * mp + 2) / 5 = daysInMonth year month := by
  obtain ⟨m, rfl⟩ : ∃ m : Nat, mp = m := ⟨mp.toNat, by omega⟩
  have hcases : m = 0 ∨ m = 1 ∨ m = 2 ∨ m = 3 ∨ m = 4 ∨ m = 5 ∨ m = 6 ∨ m = 7 ∨ m = 8 ∨ m = 9 ∨ m = 10 := by omega
  rcases hcases with rfl | rfl | rfl | rfl | rfl | rfl | rfl | rfl | rfl | rfl | rfl <;> cases hmonth <;> rfl

/-- The date of a day of a year from March. -/
theorem date_of_day {y doy mp : Int} (h : 0 ≤ doy ∧ (doy ≤ 364 ∨ doy = 365 ∧ isLeapYear (y + 1) = true))
    (hmp : mp = (5 * doy + 2) / 153) : ∃ month day : Nat, (if mp < 10 then mp + 3 else mp - 9) = month ∧
      doy - (153 * mp + 2) / 5 + 1 = day ∧ IsCivil (y + if (month : Int) ≤ 2 then 1 else 0) month day ∧
        daysFromCivil (y + if (month : Int) ≤ 2 then 1 else 0) month day = marchStart y + doy - 719468 := by
  obtain ⟨hmp0, hmp11, hday0, hday⟩ := month_of_day (by omega) hmp
  obtain ⟨month, hmonth⟩ : ∃ month : Nat, (mp + 2) % 12 + 1 = month := ⟨((mp + 2) % 12 + 1).toNat, by omega⟩
  obtain ⟨day, hd⟩ : ∃ day : Nat, doy - (153 * mp + 2) / 5 + 1 = day :=
    ⟨(doy - (153 * mp + 2) / 5 + 1).toNat, by omega⟩
  have hsame : (if mp < 10 then mp + 3 else mp - 9) = (month : Int) := by omega
  have hback : ((month : Int) + 9) % 12 = mp := by omega
  refine ⟨month, day, hsame, hd, ⟨by omega, by omega, by omega, ?_⟩, ?_⟩
  · rcases Int.lt_or_eq_of_le hmp11 with hlt | rfl
    · have hlength := @length_of_month (y + if (month : Int) ≤ 2 then 1 else 0) _ _ ⟨hmp0, by omega⟩ hmonth
      omega
    · -- February
      obtain rfl : month = 2 := by omega
      show day ≤ if isLeapYear (y + 1) = true then 29 else 28
      split
      · omega
      · next hleap =>
        have hless : doy ≤ 364 := h.2.resolve_right fun hlong => hleap hlong.2
        omega
  · rw [daysFromCivil_eq, hback]
    have hyear : (if month ≤ 2 then (y + if (month : Int) ≤ 2 then 1 else 0) - 1 else
        y + if (month : Int) ≤ 2 then 1 else 0) = y := by
      split <;> split <;> omega
    rw [hyear]
    omega

/-- **The date of a day number is the one with that number.** -/
theorem civil_round_trip (days : Int) : ∃ (year : Int) (month day : Nat),
    civilFromDays days = (year, (month : Int), (day : Int)) ∧ IsCivil year month day ∧
      daysFromCivil year month day = days := by
  obtain ⟨era, hera⟩ : ∃ era, era = (days + 719468) / 146097 := ⟨_, rfl⟩
  obtain ⟨doe, hdoe⟩ : ∃ doe, doe = days + 719468 - era * 146097 := ⟨_, rfl⟩
  have hfdiv : (days + 719468).fdiv 146097 = era := by
    rw [hera]
    exact Int.fdiv_eq_ediv_of_nonneg _ (by decide)
  obtain ⟨k, j, i, doy, hparts⟩ := @exists_eraParts doe (by omega) (by omega)
  obtain ⟨mp, hmp⟩ : ∃ mp, mp = (5 * doy + 2) / 153 := ⟨_, rfl⟩
  have hleap := fun hlong => hparts.leap hlong era
  have hlength := hparts.day
  obtain ⟨month, day, hmonth, hday, hcivil, hdays⟩ := @date_of_day (100 * k + 4 * j + i + era * 400) doy mp
    ⟨hlength.1, hlength.2.imp_right fun hlong => ⟨hlong.1, hleap hlong.1⟩⟩ hmp
  refine ⟨_, month, day, ?_, hcivil, ?_⟩
  · unfold civilFromDays
    simp only [hfdiv, ← hdoe, hparts.yearOfEra, hparts.dayOfYear, ← hmp, hmonth, hday]
  · have hstart := hparts.marchStart_year era
    omega

/-! ## Labels -/

/-- The letters of a padded number: zeros before it, and a sign before its digits if it is negative. -/
theorem toList_zeroPadded (width : Nat) (value : Int) : ∃ zeros,
    (zeroPadded width value).toList = List.replicate zeros '0' ++ idText value := by
  refine ⟨width - (toString value).length, ?_⟩
  unfold zeroPadded idText
  rw [String.toList_append, String.toList_ofList]

theorem ofDigitChars_zeros (zeros n : Nat) :
    Nat.ofDigitChars 10 (List.replicate zeros '0' ++ Nat.toDigits 10 n) 0 = n := by
  rw [Nat.ofDigitChars_append, Nat.ofDigitChars_replicate_zero]
  simp [Nat.ofDigitChars_ten_toDigits]

theorem isDigit_of_mem_zeros {zeros n : Nat} {c : Char}
    (h : c ∈ List.replicate zeros '0' ++ Nat.toDigits 10 n) : c.isDigit = true := by
  rcases List.mem_append.mp h with h | h
  · rw [List.eq_of_mem_replicate h]
    rfl
  · exact Nat.isDigit_of_mem_toDigits (by decide) (by decide) h

/-- Only a negative number has a sign. -/
theorem unsigned_ne_signed (zeros zeros' n : Nat) (digits : List Char) :
    List.replicate zeros '0' ++ Nat.toDigits 10 n ≠ List.replicate zeros' '0' ++ '-' :: digits := by
  intro h
  have hsign : '-' ∈ List.replicate zeros '0' ++ Nat.toDigits 10 n := by
    rw [h]
    exact List.mem_append_right _ List.mem_cons_self
  exact absurd (isDigit_of_mem_zeros hsign) (by decide)

theorem zeroPadded_inj {width : Nat} {value value' : Int} (h : zeroPadded width value = zeroPadded width value') :
    value = value' := by
  obtain ⟨zeros, hzeros⟩ := toList_zeroPadded width value
  obtain ⟨zeros', hzeros'⟩ := toList_zeroPadded width value'
  have hsame : List.replicate zeros '0' ++ idText value = List.replicate zeros' '0' ++ idText value' := by
    rw [← hzeros, ← hzeros', h]
  have hdigits : ∀ zeros : Nat, ∀ c ∈ List.replicate zeros '0', c.isDigit = true := by
    intro zeros c hc
    rw [List.eq_of_mem_replicate hc]
    rfl
  rw [idText_eq, idText_eq] at hsame
  split at hsame
  · next hpos =>
    split at hsame
    · next hpos' =>
      have hvalue := congrArg (Nat.ofDigitChars 10 · 0) hsame
      simp only [ofDigitChars_zeros] at hvalue
      omega
    · exact absurd hsame (unsigned_ne_signed _ _ _ _)
  · next hneg =>
    split at hsame
    · exact absurd hsame.symm (unsigned_ne_signed _ _ _ _)
    · next hneg' =>
      obtain ⟨-, hrest⟩ := Fields.append_stop_inj (hdigits zeros) (hdigits zeros') (by decide) hsame
      have hvalue := Fields.toDigits_inj hrest
      omega

/-- The digits of a padded number that has no sign. -/
theorem isDigit_of_mem_zeroPadded {width n : Nat} {c : Char} (h : c ∈ (zeroPadded width n).toList) :
    c.isDigit = true := by
  obtain ⟨zeros, hzeros⟩ := toList_zeroPadded width n
  rw [hzeros, idText_eq, if_pos (by omega)] at h
  exact isDigit_of_mem_zeros h

/-- A year with a sign is none with four digits. -/
theorem signed_ne_zeroPadded {width n : Nat} {sign : Char} (hsign : sign.isDigit = false) (digits : List Char) :
    sign :: digits ≠ (zeroPadded width n).toList := by
  intro h
  have hdigit := isDigit_of_mem_zeroPadded (c := sign) (h ▸ List.mem_cons_self)
  rw [hsign] at hdigit
  cases hdigit

/-- The letters of a year that has a sign. -/
theorem toList_formatYear_signed {year : Int} (h : ¬ (0 ≤ year ∧ year ≤ 9999)) :
    (formatYear year).toList = (if 0 ≤ year then '+' else '-') :: (zeroPadded 4 year.natAbs).toList := by
  unfold formatYear
  rw [if_neg h, String.toList_append]
  split <;> rfl

theorem formatYear_inj {year year' : Int} (h : formatYear year = formatYear year') : year = year' := by
  have hsign : ∀ year : Int, (if 0 ≤ year then '+' else '-').isDigit = false := by
    intro year
    split <;> rfl
  have hfour : ∀ year : Int, 0 ≤ year → year ≤ 9999 → formatYear year = zeroPadded 4 (year.toNat : Int) := by
    intro year hpos hle
    unfold formatYear
    rw [if_pos ⟨hpos, hle⟩, Int.toNat_of_nonneg hpos]
  by_cases hyear : 0 ≤ year ∧ year ≤ 9999
  · by_cases hyear' : 0 ≤ year' ∧ year' ≤ 9999
    · unfold formatYear at h
      rw [if_pos hyear, if_pos hyear'] at h
      exact zeroPadded_inj h
    · have htext := congrArg String.toList h
      rw [hfour year hyear.1 hyear.2, toList_formatYear_signed hyear'] at htext
      exact absurd htext.symm (signed_ne_zeroPadded (hsign year') _)
  · by_cases hyear' : 0 ≤ year' ∧ year' ≤ 9999
    · have htext := congrArg String.toList h
      rw [hfour year' hyear'.1 hyear'.2, toList_formatYear_signed hyear] at htext
      exact absurd htext (signed_ne_zeroPadded (hsign year) _)
    · have htext := congrArg String.toList h
      rw [toList_formatYear_signed hyear, toList_formatYear_signed hyear'] at htext
      obtain ⟨hsame, hdigits⟩ := List.cons.inj htext
      have habs := Int.ofNat.inj (zeroPadded_inj (String.toList_inj.mp hdigits))
      -- the signs are the same as well
      split at hsame <;> split at hsame <;> first | omega | cases hsame

theorem dot_not_mem_zeroPadded (width : Nat) (value : Int) :
    ∀ c ∈ (zeroPadded width value).toList, (c != '.') = true := by
  obtain ⟨zeros, hzeros⟩ := toList_zeroPadded width value
  intro c hc
  rw [hzeros] at hc
  rw [bne_iff_ne]
  rintro rfl
  rcases List.mem_append.mp hc with hc | hc
  · cases List.eq_of_mem_replicate hc
  · rcases isDigit_of_mem_idText hc with hdigit | hsign
    · revert hdigit
      decide
    · cases hsign

/-- **A date is read back from its label.** -/
theorem formatDate_inj {date date' : Int} (h : formatDate date = formatDate date') : date = date' := by
  obtain ⟨year, month, day, hdate, -, hdays⟩ := civil_round_trip date
  obtain ⟨year', month', day', hdate', -, hdays'⟩ := civil_round_trip date'
  have hlabel := congrArg String.toList h
  unfold formatDate at hlabel
  rw [hdate, hdate'] at hlabel
  have hdot : (".").toList = ['.'] := by simp
  simp only [String.toList_append, hdot, List.append_assoc, List.singleton_append] at hlabel
  have hstop : ('.' != '.') = false := by decide
  obtain ⟨hday, hlabel⟩ := Fields.append_stop_inj (dot_not_mem_zeroPadded 2 day) (dot_not_mem_zeroPadded 2 day')
    hstop hlabel
  obtain ⟨hmonth, hyear⟩ := Fields.append_stop_inj (dot_not_mem_zeroPadded 2 month)
    (dot_not_mem_zeroPadded 2 month') hstop hlabel
  have hday := zeroPadded_inj (String.toList_inj.mp hday)
  have hmonth := zeroPadded_inj (String.toList_inj.mp hmonth)
  have hyear := formatYear_inj (String.toList_inj.mp hyear)
  rw [← hdays, ← hdays', hyear, Int.ofNat.inj hmonth, Int.ofNat.inj hday]

end TaskBot
