import Mathlib.Tactic.IntervalCases
import Mathlib.Tactic.Linarith
import Mathlib.Tactic.Ring
import Governance.Ambient
import Governance.Time.Instant

/-!
# Days and their dates

Every day has one date, which the calendar has, and the date leads back to the day. An era of four
hundred years is divided into centuries, these into fours of years and these into years; of each
division the last part may be longer by the day that leap years add.
-/

namespace Governance.Time

/-- A day of an era, by its century, the four years of it, the year of these, and the day of that year,
counted from March on. Only the last year of four has a day more, unless it ends a century; the last
century of the era has it all the same. -/
structure EraDay (c q g r : Int) : Prop where
  century : 0 ≤ c ∧ c ≤ 3
  four : 0 ≤ q ∧ q ≤ 24
  year : 0 ≤ g ∧ g ≤ 3
  day : 0 ≤ r ∧ r ≤ 365
  last : r = 365 → g = 3 ∧ (q = 24 → c = 3)

theorem exists_eraDay {d : Int} (hd : 0 ≤ d) (hd' : d < 146097) :
    ∃ c q g r, EraDay c q g r ∧ d = 36524 * c + 1461 * q + 365 * g + r := by
  obtain ⟨c, e, hc, he, hlast, rfl⟩ : ∃ c e : Int, (0 ≤ c ∧ c ≤ 3) ∧ 0 ≤ e ∧
      (e < 36524 ∨ e = 36524 ∧ c = 3) ∧ d = 36524 * c + e := by
    by_cases hend : d = 146096
    · exact ⟨3, 36524, by omega⟩
    · exact ⟨d / 36524, d % 36524, by omega⟩
  obtain ⟨q, f, hq, hf, hf', hlast, rfl⟩ : ∃ q f : Int, (0 ≤ q ∧ q ≤ 24) ∧ 0 ≤ f ∧ f ≤ 1460 ∧
      (f = 1460 → q = 24 → c = 3) ∧ e = 1461 * q + f :=
    ⟨e / 1461, e % 1461, by omega⟩
  by_cases hend : f = 1460
  · exact ⟨c, q, 3, 365, ⟨hc, hq, by omega, by omega, by omega⟩, by omega⟩
  · exact ⟨c, q, f / 365, f % 365, ⟨hc, hq, by omega, by omega, by omega⟩, by omega⟩

namespace EraDay

variable {c q g r : Int}

theorem quarter (h : EraDay c q g r) : (100 * c + 4 * q + g) / 4 = 25 * c + q := by
  have := h.year
  omega

theorem hundredth (h : EraDay c q g r) : (100 * c + 4 * q + g) / 100 = c := by
  have := h.four
  have := h.year
  omega

/-- The year of an era, from the day of the era. -/
theorem yearOfEra (h : EraDay c q g r) {d : Int} (hd : d = 36524 * c + 1461 * q + 365 * g + r) :
    (d - d / 1460 + d / 36524 - d / 146096) / 365 = 100 * c + 4 * q + g := by
  obtain ⟨hc, hq, hg, hr, hlast⟩ := h
  have hera : d / 146096 = if c = 3 ∧ q = 24 ∧ g = 3 ∧ r = 365 then 1 else 0 := by
    split <;> omega
  have hcentury : d / 36524 = if c = 3 ∧ q = 24 ∧ g = 3 ∧ r = 365 then 4 else c := by
    split <;> omega
  have hfour : d / 1460 = 25 * c + q + if 1460 ≤ 24 * c + q + 365 * g + r then 1 else 0 := by
    split <;> omega
  rw [hera, hcentury, hfour]
  split <;> split <;> omega

theorem isLeapYear_of_last (h : EraDay c q g 365) (era : Int) :
    isLeapYear (100 * c + 4 * q + g + era * 400 + 1) = true := by
  obtain ⟨hc, hq, hg, -, hlast⟩ := h
  obtain ⟨rfl, hend⟩ := hlast rfl
  simp only [isLeapYear, Bool.and_eq_true, Bool.or_eq_true, decide_eq_true_eq, bne_iff_ne]
  omega

end EraDay

/-- The date of a day `r` of a year `y`, both counted from March on. -/
def Date.fromMarch (y r : Int) : Date :=
  let m := (5 * r + 2) / 153
  let month := if m < 10 then m + 3 else m - 9
  ⟨if month ≤ 2 then y + 1 else y, month.toNat, (r - (153 * m + 2) / 5 + 1).toNat⟩

/-- A year that is counted from March on, by its place in an era of four hundred years, and a day in it. -/
structure MarchDay (era y r days : Int) : Prop where
  year : 0 ≤ y ∧ y ≤ 399
  day : 0 ≤ r ∧ r ≤ 365
  last : r = 365 → isLeapYear (y + era * 400 + 1) = true
  days_eq : days = era * 146097 + (y * 365 + y / 4 - y / 100 + r) - 719468
  ofDays_eq : Date.ofDays days = .fromMarch (y + era * 400) r

theorem exists_marchDay (days : Int) : ∃ era y r, MarchDay era y r days := by
  have hera : (days + 719468).fdiv 146097 = (days + 719468) / 146097 :=
    Int.fdiv_eq_ediv_of_nonneg _ (by decide)
  have hinEra : 0 ≤ days + 719468 - (days + 719468) / 146097 * 146097 ∧
      days + 719468 - (days + 719468) / 146097 * 146097 < 146097 := by omega
  generalize hquotient : (days + 719468) / 146097 = era at *
  obtain ⟨c, q, g, r, h, hd⟩ := exists_eraDay hinEra.1 hinEra.2
  have hday : days + 719468 - era * 146097 - (365 * (100 * c + 4 * q + g) +
      (100 * c + 4 * q + g) / 4 - (100 * c + 4 * q + g) / 100) = r := by
    rw [hd, h.quarter, h.hundredth]
    ring
  refine ⟨era, 100 * c + 4 * q + g, r, ?_, h.day, ?_, by linarith, ?_⟩
  · obtain ⟨hc, hq, hg, -, -⟩ := h
    constructor <;> linarith
  · rintro rfl
    exact h.isLeapYear_of_last era
  · simp only [Date.ofDays, hera, h.yearOfEra hd, hday]
    rfl

section FromMarch

variable {era y r : Int}

theorem toDays_fromMarch (hy : 0 ≤ y ∧ y ≤ 399) (hr : 0 ≤ r ∧ r ≤ 365) :
    (Date.fromMarch (y + era * 400) r).toDays =
      era * 146097 + (y * 365 + y / 4 - y / 100 + r) - 719468 := by
  have hera : (y + era * 400).fdiv 400 = era := by
    rw [Int.fdiv_eq_ediv_of_nonneg _ (by decide)]
    omega
  have hm : 0 ≤ (5 * r + 2) / 153 ∧ (5 * r + 2) / 153 ≤ 11 := by omega
  have hstart : 0 ≤ r - (153 * ((5 * r + 2) / 153) + 2) / 5 := by omega
  generalize hmonth : (5 * r + 2) / 153 = m at hm hstart
  have hday : (((r - (153 * m + 2) / 5 + 1).toNat : Nat) : Int) = r - (153 * m + 2) / 5 + 1 :=
    Int.toNat_of_nonneg (by omega)
  by_cases hyear : m < 10
  · have hplace : ((((m + 3).toNat : Nat) : Int) + 9) % 12 = m := by omega
    have hafter : ¬ m + 3 ≤ 2 := by omega
    have hafter' : ¬ (m + 3).toNat ≤ 2 := by omega
    simp only [Date.fromMarch, hmonth, if_pos hyear, if_neg hafter, Date.toDays, if_neg hafter',
      hera, hplace, hday]
    ring_nf
  · have hplace : ((((m - 9).toNat : Nat) : Int) + 9) % 12 = m := by omega
    have hafter : m - 9 ≤ 2 := by omega
    have hafter' : (m - 9).toNat ≤ 2 := by omega
    have hback : y + era * 400 + 1 - 1 = y + era * 400 := by ring
    simp only [Date.fromMarch, hmonth, if_neg hyear, if_pos hafter, Date.toDays, if_pos hafter',
      hback, hera, hplace, hday]
    ring_nf

theorem Date.isValid_iff {d : Date} : d.isValid = true ↔
    1 ≤ d.month ∧ d.month ≤ 12 ∧ 1 ≤ d.day ∧ d.day ≤ daysInMonth d.year d.month := by
  simp [isValid, and_assoc]

/-- The calendar has the date of every day of a year that is counted from March on. -/
theorem isValid_fromMarch (hr : 0 ≤ r ∧ r ≤ 365) (hlast : r = 365 → isLeapYear (y + 1) = true) :
    (Date.fromMarch y r).isValid = true := by
  have hm : 0 ≤ (5 * r + 2) / 153 ∧ (5 * r + 2) / 153 ≤ 11 := by omega
  rw [Date.isValid_iff]
  generalize hmonth : (5 * r + 2) / 153 = m at hm
  rcases hm.2.eq_or_lt with rfl | hbefore
  · -- February is the last month, and the only one that depends on the year.
    have hday : r < 365 ∨ isLeapYear (y + 1) = true := by
      rcases hr.2.eq_or_lt with hend | hend
      · exact .inr (hlast hend)
      · exact .inl hend
    cases hleap : isLeapYear (y + 1) <;> simp [Date.fromMarch, hmonth, daysInMonth, hleap] at hday ⊢ <;>
      omega
  · obtain ⟨hm, -⟩ := hm
    interval_cases m <;> simp [Date.fromMarch, hmonth, daysInMonth] <;> omega

end FromMarch

/-! ### The date of a day -/

theorem toDays_ofDays (days : Int) : (Date.ofDays days).toDays = days := by
  obtain ⟨era, y, r, h⟩ := exists_marchDay days
  rw [h.ofDays_eq, toDays_fromMarch h.year h.day, ← h.days_eq]

theorem isValid_ofDays (days : Int) : (Date.ofDays days).isValid = true := by
  obtain ⟨era, y, r, h⟩ := exists_marchDay days
  rw [h.ofDays_eq]
  exact isValid_fromMarch h.day h.last

end Governance.Time

namespace Governance.Instant

/-!
## The order of instants

Instants are ordered by their seconds and then by the nanoseconds in them. The clock only goes forward:
whatever is read from it later is later.
-/

variable {a b c : Instant}

theorem le_iff : a.le b ↔ a.seconds < b.seconds ∨ a.seconds = b.seconds ∧ a.nanos ≤ b.nanos := by
  simp [le]

theorem lt_iff : a.lt b ↔ a.seconds < b.seconds ∨ a.seconds = b.seconds ∧ a.nanos < b.nanos := by
  simp [lt]

theorem le_refl (a : Instant) : a.le a := le_iff.2 (.inr ⟨rfl, Nat.le_refl _⟩)

theorem le_of_lt (hab : a.lt b) : a.le b := by
  rw [lt_iff] at hab
  rw [le_iff]
  omega

theorem le_trans (hab : a.le b) (hbc : b.le c) : a.le c := by
  rw [le_iff] at hab hbc ⊢
  omega

theorem le_antisymm (hab : a.le b) (hba : b.le a) : a = b := by
  rw [le_iff] at hab hba
  obtain ⟨hseconds, hnanos⟩ : a.seconds = b.seconds ∧ a.nanos = b.nanos := by omega
  cases a
  cases b
  exact congr (congrArg mk hseconds) hnanos

theorem le_total (a b : Instant) : a.le b ∨ b.le a := by
  rw [le_iff, le_iff]
  omega

theorem lt_of_lt_of_le (hab : a.lt b) (hbc : b.le c) : a.lt c := by
  rw [lt_iff] at hab ⊢
  rw [le_iff] at hbc
  omega

theorem not_le_of_lt (hab : a.lt b) : ¬ b.le a := by
  rw [lt_iff] at hab
  rw [le_iff]
  omega

theorem ne_of_lt (hab : a.lt b) : a ≠ b := by
  rintro rfl
  exact not_le_of_lt hab (le_refl a)

end Governance.Instant
