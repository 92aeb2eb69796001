import TenantLink.Time.Calendar

/-!
# Days and dates

`Date.ofDays` finds the date of every day, in either direction from the epoch: the date that it
gives has that count of days (`days_ofDays`). It looks for the day in an era of 400 years, which has
a leap day in each of its hundred blocks of four years, but for the last of three centuries.
-/

namespace TenantLink.Date

theorem fdiv_literal (a : Int) {b : Int} (h : 0 ≤ b) : a.fdiv b = a / b :=
  Int.fdiv_eq_ediv_of_nonneg a h

/-! ### A day of an era -/

/-- A day of an era falls in a century and, counted as if no century lacked its leap day, in a block
of four years. -/
theorem exists_block {day : Int} (least : 0 ≤ day) (most : day < 146097) :
    ∃ century block rest : Int, day + century = 1461 * block + rest ∧
      (25 * century ≤ block ∧ block < 25 * century + 25) ∧ (0 ≤ rest ∧ rest ≤ 1460) ∧
      day / 36524 - day / 146096 = century ∧ 0 ≤ century ∧ century < 4 := by
  obtain ⟨century, centuryEq⟩ : ∃ c, c = day / 36524 - day / 146096 := ⟨_, rfl⟩
  refine ⟨century, (day + century) / 1461, (day + century) % 1461, ?_⟩
  omega

/-- The last day of a block is the leap day of its fourth year. -/
theorem yearOfEra_eq {century block rest day : Int} (whole : day + century = 1461 * block + rest)
    (blocks : 25 * century ≤ block ∧ block < 25 * century + 25)
    (bounds : 0 ≤ rest ∧ rest ≤ 1460) (centuries : 0 ≤ century ∧ century < 4) :
    (day - day / 1460 + century) / 365 = 4 * block + if rest = 1460 then 3 else rest / 365 := by
  split
  · have leaps : day / 1460 = block + 1 := by omega
    omega
  · -- Behind the first days of an era, `day / 1460` runs ahead of the blocks.
    by_cases ahead : 1460 ≤ block + rest - century
    · have leaps : day / 1460 = block + 1 := by omega
      omega
    · have leaps : day / 1460 = block := by omega
      omega

theorem dayOfYear_bounds {day year : Int} (least : 0 ≤ day) (most : day < 146097)
    (h : (day - day / 1460 + day / 36524 - day / 146096) / 365 = year) :
    (0 ≤ year ∧ year < 400) ∧ 0 ≤ day - (365 * year + year / 4 - year / 100) ∧
      day - (365 * year + year / 4 - year / 100) ≤ 365 := by
  obtain ⟨century, block, rest, whole, blocks, bounds, same, centuries⟩ := exists_block least most
  have found := yearOfEra_eq whole blocks bounds centuries
  rw [← same, ← Int.add_sub_assoc, h] at found
  clear same h
  have fours : year / 4 = block := by omega
  have hundreds : year / 100 = century := by omega
  omega

/-! ### Dates -/

/-- The days of a date by its month and day in a year that starts in March. -/
theorem days_of_march {year month day : Int} (months : 0 ≤ month ∧ month < 12) (first : 0 ≤ day) :
    (⟨if (if month < 10 then month + 3 else month - 9) ≤ 2 then year + 1 else year,
      (if month < 10 then month + 3 else month - 9).toNat, day.toNat⟩ : Date).days =
    year / 400 * 146097 + ((year - year / 400 * 400) * 365 + (year - year / 400 * 400) / 4 -
      (year - year / 400 * 400) / 100 + ((153 * month + 2) / 5 + day - 1)) - 719468 := by
  unfold days
  simp only [fdiv_literal, Int.reduceLE]
  by_cases inYear : month < 10
  · have late : ¬ month + 3 ≤ 2 := by omega
    have late' : ¬ (month + 3).toNat ≤ 2 := by omega
    have back : ((month + 3).toNat : Int) - 3 = month := by omega
    simp only [if_pos inYear, if_neg late, if_neg late', back, Int.toNat_of_nonneg first]
  · have early : month - 9 ≤ 2 := by omega
    have early' : (month - 9).toNat ≤ 2 := by omega
    have back : ((month - 9).toNat : Int) + 9 = month := by omega
    simp only [if_neg inYear, if_pos early, if_pos early', back, Int.toNat_of_nonneg first,
      Int.add_sub_cancel]

theorem days_ofDays (n : Int) : (ofDays n).days = n := by
  obtain ⟨era, eraEq⟩ : ∃ e, (n + 719468) / 146097 = e := ⟨_, rfl⟩
  obtain ⟨day, dayEq⟩ : ∃ d, n + 719468 - era * 146097 = d := ⟨_, rfl⟩
  obtain ⟨year, yearEq⟩ :
    ∃ y, (day - day / 1460 + day / 36524 - day / 146096) / 365 = y := ⟨_, rfl⟩
  obtain ⟨rest, restEq⟩ : ∃ r, day - (365 * year + year / 4 - year / 100) = r := ⟨_, rfl⟩
  obtain ⟨years, rests⟩ := dayOfYear_bounds (by omega) (by omega) yearEq
  rw [restEq] at rests
  unfold ofDays
  simp only [fdiv_literal, Int.reduceLE, eraEq, dayEq, yearEq, restEq]
  clear eraEq yearEq
  rw [days_of_march (by omega) (by omega)]
  have sameEra : (year + era * 400) / 400 = era := by omega
  rw [sameEra, Int.add_sub_cancel]
  omega

end TenantLink.Date
