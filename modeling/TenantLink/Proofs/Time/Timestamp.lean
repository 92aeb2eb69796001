import Mathlib.Algebra.Group.Nat.Defs
import TenantLink.Proofs.Text.Blank
import TenantLink.Proofs.Time.Calendar
import TenantLink.Time.Timestamp

/-!
# Reading back points in time

A point in time that is read from a text, however freely that is spelled, is legal: its date is on
the calendar, and a leap second ends a minute (`parse?_legal`). From the text that is written for it
a legal point in time is read back, in whatever year and with however many decimals: `parse?_text`.
-/

namespace TenantLink.Timestamp

variable {rest : List Char}

/-! ### Digits -/

theorem foldl_digits (ds : List Char) (n : Nat) :
    ds.foldl (fun n c => n * 10 + (c.toNat - 0x30)) n = Nat.ofDigitChars 10 ds n := by
  induction ds generalizing n with
  | nil => rfl
  | cons d ds ih =>
    rw [List.foldl_cons, Nat.ofDigitChars_cons, ih, Nat.mul_comm]
    rfl

theorem stops_at {c : Char} (other : c.isDigit = false) :
    ∀ d ∈ (c :: rest).head?, d.isDigit = false := by
  rintro d ⟨⟩
  exact other

/-- A run of digits is taken whole if it is as long as allowed, or if no digit follows it. -/
theorem digits?_append {ds : List Char} {most : Nat} (digits : ∀ c ∈ ds, c.isDigit = true)
    (present : ds ≠ []) (fits : ds.length ≤ most)
    (stops : ds.length = most ∨ ∀ c ∈ rest.head?, c.isDigit = false) :
    digits? most (ds ++ rest) = some (Nat.ofDigitChars 10 ds 0, rest) := by
  have taken : ((ds ++ rest).take most).takeWhile Char.isDigit = ds := by
    rw [List.take_append, List.take_of_length_le fits, List.takeWhile_append_of_pos digits]
    have none : (rest.take (most - ds.length)).takeWhile Char.isDigit = [] := by
      rcases stops with full | stops
      · rw [full, Nat.sub_self, List.take_zero, List.takeWhile_nil]
      · cases rest with
        | nil => simp
        | cons c rest =>
          cases most - ds.length with
          | zero => rfl
          | succ n => exact List.takeWhile_cons_of_neg (by simp [stops c rfl])
    rw [none, List.append_nil]
  rw [digits?, taken, if_neg present, foldl_digits, List.drop_left]

theorem isDigit_of_mem_padded {width n : Nat} {c : Char} (member : c ∈ padded width n) :
    c.isDigit = true := by
  rcases List.mem_append.mp member with zero | digit
  · rw [List.eq_of_mem_replicate zero]
    rfl
  · exact Nat.isDigit_of_mem_toDigits (by decide) (by decide) digit

theorem exists_padded (width n : Nat) : ∃ d ds, padded width n = d :: ds ∧ d.isDigit = true := by
  cases shape : padded width n with
  | nil => exact absurd (List.append_eq_nil_iff.mp shape).2 Nat.toDigits_ne_nil
  | cons d ds => exact ⟨d, ds, rfl, isDigit_of_mem_padded (shape ▸ List.mem_cons_self)⟩

theorem ofDigitChars_padded (width n : Nat) : Nat.ofDigitChars 10 (padded width n) 0 = n := by
  rw [padded, Nat.ofDigitChars_append, Nat.ofDigitChars_replicate_zero, Nat.mul_zero,
    Nat.ofDigitChars_ten_toDigits]

theorem length_padded {width n : Nat} (wide : 0 < width) (fits : n < 10 ^ width) :
    (padded width n).length = width := by
  have short := (Nat.length_toDigits_le_iff (by decide) wide).mpr fits
  rw [padded, List.length_append, List.length_replicate]
  omega

theorem digits?_padded {width n most : Nat} (fits : (padded width n).length ≤ most)
    (stops : (padded width n).length = most ∨ ∀ c ∈ rest.head?, c.isDigit = false) :
    digits? most (padded width n ++ rest) = some (n, rest) := by
  obtain ⟨d, ds, shape, -⟩ := exists_padded width n
  have present : padded width n ≠ [] := shape ▸ List.cons_ne_nil d ds
  rw [digits?_append (fun _ => isDigit_of_mem_padded) present fits stops, ofDigitChars_padded]

/-- A number in as many digits as are read. -/
theorem digits?_exact {width n : Nat} (wide : 0 < width) (fits : n < 10 ^ width) :
    digits? width (padded width n ++ rest) = some (n, rest) :=
  have length := length_padded wide fits
  digits?_padded (Nat.le_of_eq length) (.inl length)

/-! ### White space -/

theorem isBlank_of_isDigit {c : Char} (digit : c.isDigit = true) : Text.isBlank c = false := by
  have bounds : 0x30 ≤ c.toNat ∧ c.toNat ≤ 0x39 := Char.isDigit_iff_toNat.mp digit
  simp only [Text.isBlank, Text.inRanges, Text.blankRanges, List.any_cons, List.any_nil,
    Bool.or_false, Bool.or_eq_false_iff, Bool.and_eq_false_iff, decide_eq_false_iff_not]
  omega

theorem trimStart_cons {c : Char} (solid : Text.isBlank c = false) :
    Text.trimStart (c :: rest) = c :: rest :=
  List.dropWhile_cons_of_neg (by simp [solid])

theorem trimStart_padded (width n : Nat) :
    Text.trimStart (padded width n ++ rest) = padded width n ++ rest := by
  obtain ⟨d, ds, shape, digit⟩ := exists_padded width n
  rw [shape]
  exact trimStart_cons (isBlank_of_isDigit digit)

/-! ### The parts of a text -/

theorem field?_padded {n : Nat} (fits : n < 100) :
    field? 2 (padded 2 n ++ rest) = some (n, rest) := by
  rw [field?, trimStart_padded]
  exact digits?_exact (by decide) fits

theorem mark?_cons {c : Char} (solid : Text.isBlank c = false) :
    mark? c (c :: rest) = some rest := by
  rw [mark?, trimStart_cons solid]
  exact if_pos rfl

/-- As many digits as there are, which is what a year behind a sign may have. -/
theorem digits?_all (width n : Nat) (stops : ∀ c ∈ rest.head?, c.isDigit = false) :
    digits? (padded width n ++ rest).length (padded width n ++ rest) = some (n, rest) := by
  refine digits?_padded ?_ (.inr stops)
  rw [List.length_append]
  exact Nat.le_add_right _ _

theorem year?_unsigned {n : Nat} (fits : n < 10000) :
    year? (padded 4 n ++ rest) = some ((n : Int), rest) := by
  have read : digits? 4 (padded 4 n ++ rest) = some (n, rest) := digits?_exact (by decide) fits
  obtain ⟨d, ds, shape, digit⟩ := exists_padded 4 n
  rw [year?, trimStart_padded]
  rw [shape, List.cons_append] at read ⊢
  split
  next minus =>
    rw [(List.cons.inj minus).1] at digit
    cases digit
  next plus =>
    rw [(List.cons.inj plus).1] at digit
    cases digit
  next => rw [read, Option.map_some]

theorem year?_yearText (year : Int) (stops : ∀ c ∈ rest.head?, c.isDigit = false) :
    year? (yearText year ++ rest) = some (year, rest) := by
  unfold yearText
  split
  next unsigned =>
    rw [year?_unsigned (by omega), Int.natAbs_of_nonneg unsigned.1]
  next signed =>
    by_cases negative : year < 0
    · rw [if_pos negative, List.cons_append, year?, trimStart_cons (by decide)]
      simp only [digits?_all 4 year.natAbs stops, Option.map_some]
      rw [Int.ofNat_natAbs_of_nonpos (by omega), Int.neg_neg]
    · rw [if_neg negative, List.cons_append, year?, trimStart_cons (by decide)]
      simp only [digits?_all 4 year.natAbs stops, Option.map_some]
      rw [Int.natAbs_of_nonneg (by omega)]

theorem fraction?_point {width n : Nat} (wide : 0 < width) (most : width ≤ 9)
    (fits : n < 10 ^ width) (stops : ∀ c ∈ rest.head?, c.isDigit = false) :
    fraction? ('.' :: (padded width n ++ rest)) = some (n * 10 ^ (9 - width), rest) := by
  have length := length_padded wide fits
  have read : digits? 9 (padded width n ++ rest) = some (n, rest) :=
    digits?_padded (length.symm ▸ most) (.inr stops)
  have digits : (padded width n ++ rest).length - rest.length = width := by
    rw [List.length_append, length, Nat.add_sub_cancel]
  have whole : rest.dropWhile Char.isDigit = rest :=
    @Text.dropWhile_stops Char.isDigit [] rest (by simp) stops
  simp only [fraction?, read, digits, whole]
  rfl

theorem fraction?_fractionText {nanos : Nat} (fits : nanos < leapNanos) :
    fraction? (fractionText nanos ++ 'Z' :: rest) = some (nanos, 'Z' :: rest) := by
  have bound : nanos < 1000000000 := fits
  have stops : ∀ c ∈ ('Z' :: rest).head?, c.isDigit = false := stops_at (by decide)
  unfold fractionText
  split
  next zero =>
    rw [zero]
    rfl
  next =>
    split
    next millis =>
      have back : nanos / 1000000 * 10 ^ (9 - 3) = nanos := by omega
      rw [List.cons_append, fraction?_point (by decide) (by decide) (by omega) stops, back]
    next =>
      split
      next micros =>
        have back : nanos / 1000 * 10 ^ (9 - 6) = nanos := by omega
        rw [List.cons_append, fraction?_point (by decide) (by decide) (by omega) stops, back]
      next =>
        have back : nanos * 10 ^ (9 - 9) = nanos := Nat.mul_one nanos
        rw [List.cons_append, fraction?_point (by decide) (by decide) bound stops, back]

/-! ### Dates and times -/

theorem fields_short {date : Date} (valid : date.isValid = true) :
    date.month < 100 ∧ date.day < 100 := by
  have long : Date.daysInMonth date.year date.month ≤ 31 := by
    unfold Date.daysInMonth
    split
    · split <;> decide
    · split <;> decide
  simp only [Date.isValid, Bool.and_eq_true, decide_eq_true_eq] at valid
  omega

theorem date?_text {date : Date} (valid : date.isValid = true) :
    date? (yearText date.year ++
      '-' :: (padded 2 date.month ++ '-' :: (padded 2 date.day ++ rest))) = some (date, rest) := by
  obtain ⟨month, day⟩ := fields_short valid
  have year (later : List Char) :
      year? (yearText date.year ++ '-' :: later) = some (date.year, '-' :: later) :=
    year?_yearText date.year (stops_at (by decide))
  have dash : Text.isBlank '-' = false := by decide
  simp only [date?, year, mark?_cons dash, field?_padded month, field?_padded day,
    Option.bind_eq_bind, Option.bind_some, if_pos valid]

theorem time?_text {hour minute second nanos : Nat} (hours : hour < 24) (minutes : minute < 60)
    (seconds : second ≤ 60) (fits : nanos < leapNanos) :
    time? (padded 2 hour ++ ':' :: (padded 2 minute ++ ':' :: (padded 2 second ++
      (fractionText nanos ++ 'Z' :: rest)))) =
    if second = 60 then some (hour * 3600 + minute * 60 + 59, leapNanos + nanos, 'Z' :: rest)
    else some (hour * 3600 + minute * 60 + second, nanos, 'Z' :: rest) := by
  have colon : Text.isBlank ':' = false := by decide
  have inRange : hour < 24 ∧ minute < 60 ∧ second ≤ 60 := ⟨hours, minutes, seconds⟩
  simp only [time?, mark?_cons colon, field?_padded (show hour < 100 by omega),
    field?_padded (show minute < 100 by omega), field?_padded (show second < 100 by omega),
    fraction?_fractionText fits, Option.bind_eq_bind, Option.bind_some, if_pos inRange]

/-! ### Points in time -/

/-- A point in time that a text can name. -/
structure IsLegal (t : Timestamp) : Prop where
  onCalendar : (dateOf t.seconds).isValid = true
  nanos : t.nanos < 2 * leapNanos
  /-- A leap second is the last one of its minute. -/
  leap : leapNanos ≤ t.nanos → t.seconds % 60 = 59

def secondOfDay (t : Timestamp) : Nat := (t.seconds - t.seconds.fdiv 86400 * 86400).toNat

/-- What a text says behind the mark between date and time. -/
def timeChars (t : Timestamp) : List Char :=
  padded 2 (t.secondOfDay / 3600) ++ ':' :: (padded 2 (t.secondOfDay / 60 % 60) ++
    ':' :: (padded 2 (t.secondOfDay % 60 + if leapNanos ≤ t.nanos then 1 else 0) ++
      (fractionText (t.nanos % leapNanos) ++ ['Z'])))

theorem chars_eq (t : Timestamp) :
    t.chars = yearText (dateOf t.seconds).year ++ '-' :: (padded 2 (dateOf t.seconds).month ++
      '-' :: (padded 2 (dateOf t.seconds).day ++ 'T' :: t.timeChars)) := by
  simp only [chars, timeChars, secondOfDay, List.append_assoc, List.cons_append]

/-- A point in time is a second of a day that its date counts. -/
theorem seconds_eq (t : Timestamp) :
    (dateOf t.seconds).days * 86400 + t.secondOfDay = t.seconds ∧ t.secondOfDay < 86400 := by
  rw [dateOf, Date.days_ofDays, secondOfDay, Date.fdiv_literal _ (by decide)]
  omega

theorem time?_timeChars {t : Timestamp} (legal : t.IsLegal) :
    time? t.timeChars = some (t.secondOfDay, t.nanos, ['Z']) := by
  obtain ⟨whole, within⟩ := t.seconds_eq
  have fits : t.nanos % leapNanos < leapNanos := Nat.mod_lt _ (by decide)
  have hours : t.secondOfDay / 3600 < 24 := by omega
  have minutes : t.secondOfDay / 60 % 60 < 60 := by omega
  by_cases late : leapNanos ≤ t.nanos
  · have last : t.secondOfDay % 60 = 59 := by
      have last := legal.leap late
      omega
    have nanos : leapNanos + t.nanos % leapNanos = t.nanos := by
      rw [Nat.mod_eq_sub_mod late, Nat.mod_eq_of_lt (by have := legal.nanos; omega)]
      omega
    rw [timeChars, if_pos late, time?_text hours minutes (by omega) fits, if_pos (by omega), nanos]
    congr 2
    omega
  · have nanos : t.nanos % leapNanos = t.nanos := Nat.mod_eq_of_lt (Nat.not_le.mp late)
    rw [timeChars, if_neg late, time?_text hours minutes (by omega) fits, if_neg (by omega), nanos]
    congr 2
    omega

theorem parse?_text {t : Timestamp} (legal : t.IsLegal) : parse? t.text = some t := by
  obtain ⟨whole, -⟩ := t.seconds_eq
  have mark : timeMark? ('T' :: t.timeChars) = some t.timeChars := rfl
  have offset : offset? (Text.trimStart ['Z']) = some (0, []) := by decide
  have back : (dateOf t.seconds).days * 86400 + (t.secondOfDay : Int) - 0 = t.seconds := by
    rw [whole, Int.sub_zero]
  have zone : ¬ (Text.trimStart [] ≠ [] ∨ 86400 ≤ (0 : Int).natAbs) := by decide
  unfold text parse?
  rw [String.toList_ofList, chars_eq]
  simp only [date?_text legal.onCalendar, mark, time?_timeChars legal, offset, back, if_neg zone,
    if_pos legal.onCalendar, Option.bind_eq_bind, Option.bind_some]

/-! ### What is read -/

theorem ofDigitChars_lt {ds : List Char} (digits : ∀ c ∈ ds, c.isDigit = true) (n : Nat) :
    Nat.ofDigitChars 10 ds n < (n + 1) * 10 ^ ds.length := by
  induction ds generalizing n with
  | nil => simp
  | cons d ds ih =>
    have bounds : 0x30 ≤ d.toNat ∧ d.toNat ≤ 0x39 :=
      Char.isDigit_iff_toNat.mp (digits d List.mem_cons_self)
    have later := ih (fun c member => digits c (List.mem_cons_of_mem d member))
      (10 * n + (d.toNat - 0x30))
    rw [Nat.ofDigitChars_cons, List.length_cons, Nat.pow_succ', ← Nat.mul_assoc]
    refine Nat.lt_of_lt_of_le later (Nat.mul_le_mul_right _ ?_)
    omega

theorem digits?_eq_some {most n : Nat} {chars : List Char}
    (h : digits? most chars = some (n, rest)) :
    ∃ ds, chars = ds ++ rest ∧ ds.length ≤ most ∧ n < 10 ^ ds.length := by
  have shape : (chars.take most).takeWhile Char.isDigit <+: chars :=
    (List.takeWhile_prefix _).trans (List.take_prefix most chars)
  have short : ((chars.take most).takeWhile Char.isDigit).length ≤ most :=
    Nat.le_trans (List.takeWhile_sublist _).length_le (List.length_take_le most chars)
  have digits : ∀ c ∈ (chars.take most).takeWhile Char.isDigit, c.isDigit = true :=
    List.all_eq_true.mp List.all_takeWhile
  rw [digits?] at h
  generalize (chars.take most).takeWhile Char.isDigit = ds at *
  rcases Option.ite_none_left_eq_some.mp h with ⟨-, read⟩
  obtain ⟨rfl, rfl⟩ := Prod.mk.inj (Option.some.inj read)
  refine ⟨ds, (List.prefix_iff_eq_append.mp shape).symm, short, ?_⟩
  have bound := ofDigitChars_lt digits 0
  rwa [Nat.zero_add, Nat.one_mul, ← foldl_digits] at bound

theorem fraction?_lt {chars : List Char} {nanos : Nat} (h : fraction? chars = some (nanos, rest)) :
    nanos < leapNanos := by
  unfold fraction? at h
  split at h
  · split at h
    · cases h
    next n after read =>
      obtain ⟨ds, rfl, short, bound⟩ := digits?_eq_some read
      obtain ⟨rfl, -⟩ := Prod.mk.inj (Option.some.inj h)
      rw [List.length_append, Nat.add_sub_cancel]
      calc n * 10 ^ (9 - ds.length) < 10 ^ ds.length * 10 ^ (9 - ds.length) :=
            Nat.mul_lt_mul_of_pos_right bound (Nat.pow_pos (by decide))
        _ = leapNanos := by rw [← Nat.pow_add, Nat.add_sub_cancel' short]; rfl
  · obtain ⟨rfl, -⟩ := Prod.mk.inj (Option.some.inj h)
    decide

theorem time?_leap {chars : List Char} {second nanos : Nat}
    (h : time? chars = some (second, nanos, rest)) :
    nanos < 2 * leapNanos ∧ (leapNanos ≤ nanos → second % 60 = 59) := by
  simp only [time?, Option.bind_eq_bind, Option.bind_eq_some_iff, Prod.exists] at h
  obtain ⟨hour, _, -, _, -, minute, _, -, _, -, last, _, -, part, _, read, h⟩ := h
  have bound := fraction?_lt read
  obtain ⟨inRange, h⟩ := Option.ite_none_right_eq_some.mp h
  split at h
  · obtain ⟨rfl, same⟩ := Prod.mk.inj (Option.some.inj h)
    obtain ⟨rfl, -⟩ := Prod.mk.inj same
    omega
  · obtain ⟨rfl, same⟩ := Prod.mk.inj (Option.some.inj h)
    obtain ⟨rfl, -⟩ := Prod.mk.inj same
    omega

/-- An offset is a number of whole minutes. -/
theorem offset?_minutes {chars : List Char} {offset : Int}
    (h : offset? chars = some (offset, rest)) : offset % 60 = 0 := by
  unfold offset? at h
  split at h
  · obtain ⟨rfl, -⟩ := Prod.mk.inj (Option.some.inj h)
    rfl
  · unfold signedOffset? at h
    extract_lets signed at h
    have whole {sign : Int} {digits : List Char} (read : signed sign digits = some (offset, rest)) :
        offset % 60 = 0 := by
      dsimp only [signed] at read
      split at read
      · cases read
      · split at read
        · cases read
        next hours _ _ _ minutes _ _ =>
          obtain ⟨-, read⟩ := Option.ite_none_right_eq_some.mp read
          obtain ⟨rfl, -⟩ := Prod.mk.inj (Option.some.inj read)
          have seconds : (hours : Int) * 3600 + minutes * 60 = 60 * (hours * 60 + minutes) := by
            omega
          rw [seconds, Int.mul_left_comm]
          exact Int.mul_emod_right _ _
    split at h
    · exact whole h
    · exact whole h
    · split at h
      · obtain ⟨rfl, -⟩ := Prod.mk.inj (Option.some.inj h)
        rfl
      · exact whole (Option.ite_none_right_eq_some.mp h).2
    · cases h

theorem parse?_legal {source : String} {t : Timestamp} (h : parse? source = some t) :
    t.IsLegal := by
  simp only [parse?, Option.bind_eq_bind, Option.bind_eq_some_iff, Prod.exists] at h
  obtain ⟨date, _, -, _, -, second, nanos, _, time, offset, _, zone, h⟩ := h
  obtain ⟨-, h⟩ := Option.ite_none_left_eq_some.mp h
  obtain ⟨valid, h⟩ := Option.ite_none_right_eq_some.mp h
  obtain rfl := Option.some.inj h
  obtain ⟨bound, leap⟩ := time?_leap time
  have minutes := offset?_minutes zone
  refine ⟨valid, bound, fun late => ?_⟩
  have last := leap late
  show (date.days * 86400 + second - offset) % 60 = 59
  omega

end TenantLink.Timestamp
