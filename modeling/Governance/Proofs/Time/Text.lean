import Mathlib.Data.List.Induction
import Mathlib.Data.List.TakeWhile
import Governance.Proofs.Time.Calendar
import Governance.Time.Instant

/-!
# Instants are read back

The text of an instant is read as that instant, whatever its year, with as many digits of a second as it
has, and also inside a second that was inserted. Nothing of the text is passed over: every number is
written with the width that its reader takes, or ends where a mark stands.
-/

namespace Governance.Instant

open Time Text

/-- An instant that a clock can show: its year is one that texts may name, and it has more nanoseconds
than a second only in one that was inserted, which is the last of its minute. -/
structure IsProper (t : Instant) : Prop where
  year : yearRange.1 ≤ (Date.ofDays (t.seconds.fdiv 86400)).year ∧
    (Date.ofDays (t.seconds.fdiv 86400)).year ≤ yearRange.2
  nanos : t.nanos < 1000000000 ∨ t.nanos < 2000000000 ∧ t.seconds % 60 = 59

/-! ### Digits -/

section Digits

variable {width n : Nat} {rest : List Char}

theorem naturalOf_eq (digits : List Char) : naturalOf digits = Nat.ofDigitChars 10 digits 0 := by
  simp only [naturalOf, Nat.ofDigitChars, Nat.mul_comm]

theorem naturalOf_padded (width n : Nat) : naturalOf (padded width n) = n := by
  rw [naturalOf_eq, padded, Nat.ofDigitChars_append, Nat.ofDigitChars_replicate_zero, Nat.mul_zero,
    Nat.ofDigitChars_ten_toDigits]

theorem isDigit_of_mem_padded {c : Char} (hc : c ∈ padded width n) : c.isDigit = true := by
  rcases List.mem_append.1 hc with hzero | hdigit
  · rw [List.eq_of_mem_replicate hzero]
    rfl
  · exact Nat.isDigit_of_mem_toDigits (by decide) (by decide) hdigit

theorem length_padded (hwidth : 0 < width) (hn : n < 10 ^ width) : (padded width n).length = width := by
  have hle := (Nat.length_toDigits_le_iff (by decide) hwidth).2 hn
  rw [padded, List.length_append, List.length_replicate]
  omega

theorem exists_padded_eq_cons (width n : Nat) :
    ∃ c cs, padded width n = c :: cs ∧ c.isDigit = true := by
  cases hpadded : padded width n with
  | nil =>
    have hdigits := (List.append_eq_nil_iff.1 hpadded).2
    exact absurd hdigits Nat.toDigits_ne_nil
  | cons c cs => exact ⟨c, cs, rfl, isDigit_of_mem_padded (hpadded ▸ List.mem_cons_self)⟩

theorem isBlankChar_of_isDigit {c : Char} (hc : c.isDigit = true) : isBlankChar c = false := by
  simp only [Char.isDigit, Bool.and_eq_true, decide_eq_true_eq, ge_iff_le, UInt32.le_iff_toNat_le] at hc
  have hcode : 48 ≤ c.toNat ∧ c.toNat ≤ 57 := hc
  simp only [isBlankChar, Bool.or_eq_false_iff, Bool.and_eq_false_iff, decide_eq_false_iff_not]
  omega

theorem trimStart_cons {c : Char} (hc : isBlankChar c = false) (rest : List Char) :
    trimStart (c :: rest) = c :: rest := by
  rw [trimStart, List.dropWhile_cons_of_neg (by simp [hc])]

theorem trimStart_padded (width n : Nat) (rest : List Char) :
    trimStart (padded width n ++ rest) = padded width n ++ rest := by
  obtain ⟨c, cs, hpadded, hc⟩ := exists_padded_eq_cons width n
  rw [hpadded, List.cons_append, trimStart_cons (isBlankChar_of_isDigit hc)]

theorem takeWhile_padded (width n : Nat) : (padded width n).takeWhile Char.isDigit = padded width n :=
  List.takeWhile_eq_self_iff.mpr fun _ hc => isDigit_of_mem_padded hc

theorem takeWhile_padded_append {c : Char} (hc : c.isDigit = false) (width n : Nat) (rest : List Char) :
    (padded width n ++ c :: rest).takeWhile Char.isDigit = padded width n := by
  rw [List.takeWhile_append_of_pos fun _ hmem => isDigit_of_mem_padded hmem,
    List.takeWhile_cons_of_neg (by simp [hc]), List.append_nil]

theorem isEmpty_padded (width n : Nat) : (padded width n).isEmpty = false := by
  obtain ⟨c, cs, hpadded, -⟩ := exists_padded_eq_cons width n
  rw [hpadded]
  rfl

theorem readNumber_padded (hwidth : 0 < width) (hn : n < 10 ^ width) (rest : List Char) :
    readNumber width (padded width n ++ rest) = some (n, rest) := by
  have hlength := length_padded hwidth hn
  have htake : (padded width n ++ rest).take width = padded width n := List.take_left' hlength
  have hdrop : (padded width n ++ rest).drop (padded width n).length = rest := List.drop_left
  simp only [readNumber, trimStart_padded, htake, takeWhile_padded, isEmpty_padded, naturalOf_padded,
    hdrop, Bool.false_eq_true, if_false]

theorem readMark_cons {mark : Char} (hmark : isBlankChar mark = false) (rest : List Char) :
    readMark mark (mark :: rest) = some rest := by
  simp only [readMark, trimStart_cons hmark, if_true]

end Digits

/-! ### Years and fractions -/

theorem signed_padded {c : Char} (hc : c.isDigit = false) (width n : Nat) (rest : List Char) :
    readYear.signed (padded width n ++ c :: rest) = some (n, c :: rest) := by
  have hdrop : (padded width n ++ c :: rest).drop (padded width n).length = c :: rest := List.drop_left
  simp only [readYear.signed, takeWhile_padded_append hc, isEmpty_padded, naturalOf_padded, hdrop,
    Bool.false_eq_true, if_false]

theorem readYear_of_sign {c : Char} (hc : c = '-' ∨ c = '+') (n : Nat) (rest : List Char) :
    readYear (c :: (padded 4 n ++ '-' :: rest)) =
      some (if c = '-' then -(n : Int) else n, '-' :: rest) := by
  have hsigned : readYear.signed (padded 4 n ++ '-' :: rest) = some (n, '-' :: rest) :=
    signed_padded rfl 4 n rest
  rcases hc with rfl | rfl
  · rw [readYear, trimStart_cons (by decide)]
    simp only [hsigned, Option.map_some, if_true]
  · rw [readYear, trimStart_cons (by decide)]
    simp only [hsigned, Option.map_some]
    rfl

theorem readYear_of_digits {n : Nat} (hn : n < 10000) (rest : List Char) :
    readYear (padded 4 n ++ '-' :: rest) = some ((n : Int), '-' :: rest) := by
  obtain ⟨c, cs, hpadded, hc⟩ := exists_padded_eq_cons 4 n
  have hnumber : readNumber 4 (padded 4 n ++ '-' :: rest) = some (n, '-' :: rest) :=
    readNumber_padded (by decide) hn _
  unfold readYear
  rw [trimStart_padded]
  split
  · rename_i heq
    rw [hpadded, List.cons_append] at heq
    cases heq
    cases hc
  · rename_i heq
    rw [hpadded, List.cons_append] at heq
    cases heq
    cases hc
  · rw [hnumber]
    rfl

theorem readYear_yearText (year : Int) (rest : List Char) :
    readYear (yearText year ++ '-' :: rest) = some (year, '-' :: rest) := by
  unfold yearText
  split
  · rename_i hyear
    rw [Bool.and_eq_true, decide_eq_true_eq, decide_eq_true_eq] at hyear
    have hback : ((year.toNat : Nat) : Int) = year := Int.toNat_of_nonneg hyear.1
    rw [readYear_of_digits (n := year.toNat) (by omega), hback]
  · by_cases hneg : year < 0
    · have hback : -((year.natAbs : Nat) : Int) = year := by omega
      rw [if_pos hneg, List.cons_append, readYear_of_sign (.inl rfl), if_pos rfl, hback]
    · have hback : ((year.natAbs : Nat) : Int) = year := by omega
      rw [if_neg hneg, List.cons_append, readYear_of_sign (.inr rfl), if_neg (by decide), hback]

/-- A fraction of fewer than nine digits is read as the nanoseconds that it stands for. -/
theorem readFraction_padded {width n : Nat} (hwidth : 0 < width) (hle : width ≤ 9)
    (hn : n < 10 ^ width) : readFraction ('.' :: padded width n ++ ['Z']) =
      some (n * 10 ^ (9 - width), ['Z']) := by
  have hlength := length_padded hwidth hn
  have hdigits : (padded width n ++ ['Z']).takeWhile Char.isDigit = padded width n :=
    takeWhile_padded_append rfl width n []
  have hkept : (padded width n).take 9 = padded width n := List.take_of_length_le (by omega)
  have hdrop : (padded width n ++ ['Z']).drop width = ['Z'] := List.drop_left' hlength
  rw [List.cons_append, readFraction]
  simp only [hdigits, isEmpty_padded, hkept, naturalOf_padded, hlength, hdrop, Nat.pow_eq,
    Bool.false_eq_true, if_false]

theorem readFraction_fractionText {nanos : Nat} (hnanos : nanos < 1000000000) :
    readFraction (fractionText nanos ++ ['Z']) = some (nanos, ['Z']) := by
  unfold fractionText
  split
  · rename_i hzero
    rw [hzero]
    rfl
  split
  · rw [readFraction_padded (by decide) (by decide) (by omega)]
    congr 2
    omega
  split
  · rw [readFraction_padded (by decide) (by decide) (by omega)]
    congr 2
    omega
  · rw [readFraction_padded (by decide) (by decide) (by omega), Nat.sub_self, Nat.pow_zero, Nat.mul_one]

/-! ### Dates and instants -/

theorem daysInMonth_le (year : Int) (month : Nat) : daysInMonth year month ≤ 31 := by
  unfold daysInMonth
  split
  · split <;> omega
  · split <;> omega

theorem readDate_text {d : Date} (hd : d.isValid = true) (rest : List Char) :
    readDate (yearText d.year ++ '-' :: (padded 2 d.month ++ '-' :: (padded 2 d.day ++ rest))) =
      some (d, rest) := by
  obtain ⟨-, hmonth, -, hday⟩ := Date.isValid_iff.1 hd
  have hday' := daysInMonth_le d.year d.month
  have hmonth : d.month < 10 ^ 2 := by omega
  have hday : d.day < 10 ^ 2 := by omega
  simp only [readDate, readYear_yearText, readMark_cons (show isBlankChar '-' = false by decide),
    readNumber_padded Nat.two_pos hmonth, readNumber_padded Nat.two_pos hday, Option.bind_eq_bind,
    Option.bind_some, if_pos hd]

theorem readOffset_utc : readOffset (trimStart ['Z']) = some (0, []) := by
  rw [trimStart_cons (by decide)]
  rfl

variable {t : Instant}

/-- The seconds of a day that an instant shows, the one that was inserted being the sixtieth. -/
theorem IsProper.shownSecond (ht : t.IsProper) {s : Nat} (hs : (s : Int) = t.seconds.fmod 86400) :
    s % 60 + t.nanos / 1000000000 ≤ 60 ∧ min (s % 60 + t.nanos / 1000000000) 59 = s % 60 ∧
      (if s % 60 + t.nanos / 1000000000 = 60 then t.nanos % 1000000000 + 1000000000
        else t.nanos % 1000000000) = t.nanos := by
  rw [Int.fmod_eq_emod_of_nonneg _ (by decide)] at hs
  have hnanos := ht.nanos
  split <;> omega

theorem ofChars?_text (ht : t.IsProper) : ofChars? t.text = some t := by
  have hdate := isValid_ofDays (t.seconds.fdiv 86400)
  have hdays := toDays_ofDays (t.seconds.fdiv 86400)
  have hsplit := Int.mul_fdiv_add_fmod t.seconds 86400
  have hinDay : 0 ≤ t.seconds.fmod 86400 ∧ t.seconds.fmod 86400 < 86400 := by
    rw [Int.fmod_eq_emod_of_nonneg _ (by decide)]
    omega
  obtain ⟨s, hs⟩ := Int.eq_ofNat_of_zero_le hinDay.1
  obtain ⟨hsecond, hmin, hnanos⟩ := ht.shownSecond hs.symm
  have htoNat : (t.seconds.fmod 86400).toNat = s := by rw [hs]; rfl
  have hfraction : t.nanos % 1000000000 < 1000000000 := Nat.mod_lt _ (by decide)
  have hhour : s / 3600 < 10 ^ 2 := by omega
  have hminute : s / 60 % 60 < 10 ^ 2 := by omega
  have hshown : s % 60 + t.nanos / 1000000000 < 10 ^ 2 := by omega
  simp only [ofChars?, readSeparator, text, List.append_assoc, List.cons_append, readDate_text hdate, htoNat,
    readNumber_padded Nat.two_pos hhour, readNumber_padded Nat.two_pos hminute,
    readNumber_padded Nat.two_pos hshown, readMark_cons (show isBlankChar ':' = false by decide),
    readFraction_fractionText hfraction, readOffset_utc, Option.bind_eq_bind, Option.bind_some]
  have hback : s / 3600 * 3600 + s / 60 % 60 * 60 + s % 60 = s := by omega
  have hblank : (!(trimStart []).isEmpty) = false := rfl
  have hsame : t.seconds.fdiv 86400 * 86400 + (s : Int) - 0 = t.seconds := by
    rw [Int.sub_zero, ← hs, Int.mul_comm, hsplit]
  have hyear : isInRange (Date.ofDays (t.seconds.fdiv 86400)).year = true := by
    rw [isInRange, Bool.and_eq_true, decide_eq_true_eq, decide_eq_true_eq]
    exact ht.year
  rw [hmin, hback, hdays, hnanos, hblank, hsame, hyear, if_neg Bool.false_ne_true, if_pos]
  · rfl
  · simp only [Bool.and_eq_true, decide_eq_true_eq]
    exact ⟨⟨⟨⟨by omega, by omega⟩, hsecond⟩, by decide⟩, trivial⟩

theorem parse?_render (ht : t.IsProper) : parse? t.render = some t := by
  rw [parse?, render, String.toList_ofList, ofChars?_text ht]

/-! ### What is read -/

theorem naturalOf_lt {digits : List Char} (hdigits : ∀ c ∈ digits, c.isDigit = true) :
    naturalOf digits < 10 ^ digits.length := by
  induction digits using List.reverseRecOn with
  | nil => decide
  | append_singleton digits c ih =>
    have hc : c.toNat - '0'.toNat < 10 := by
      have hdigit := hdigits c (List.mem_append_right _ List.mem_cons_self)
      simp only [Char.isDigit, Bool.and_eq_true, decide_eq_true_eq, ge_iff_le,
        UInt32.le_iff_toNat_le] at hdigit
      have hcode : c.toNat ≤ 57 := hdigit.2
      have hzero : '0'.toNat = 48 := rfl
      omega
    have hbefore := ih fun c hc => hdigits c (List.mem_append_left _ hc)
    have hstep : naturalOf (digits ++ [c]) = naturalOf digits * 10 + (c.toNat - '0'.toNat) := by
      simp only [naturalOf, List.foldl_append, List.foldl_cons, List.foldl_nil]
    rw [hstep, List.length_append, List.length_singleton, Nat.pow_succ]
    omega

theorem readFraction_lt {cs rest : List Char} {nanos : Nat}
    (hread : readFraction cs = some (nanos, rest)) : nanos < 1000000000 := by
  unfold readFraction at hread
  split at hread
  · rename_i digits
    have hlt : naturalOf ((digits.takeWhile Char.isDigit).take 9) <
        10 ^ ((digits.takeWhile Char.isDigit).take 9).length :=
      naturalOf_lt fun c hc => List.mem_takeWhile_imp (List.mem_of_mem_take hc)
    have hlength : ((digits.takeWhile Char.isDigit).take 9).length ≤ 9 := List.length_take_le ..
    dsimp only at hread
    generalize (digits.takeWhile Char.isDigit).take 9 = kept at hread hlt hlength
    split at hread
    · cases hread
    · cases hread
      calc naturalOf kept * 10 ^ (9 - kept.length)
          < 10 ^ kept.length * 10 ^ (9 - kept.length) :=
            Nat.mul_lt_mul_of_pos_right hlt (Nat.pow_pos (by decide))
        _ = 1000000000 := by rw [← Nat.pow_add, Nat.add_sub_cancel' hlength]
  · cases hread
    decide

theorem digits_emod {h1 h2 : Char} {cs rest : List Char} {offset : Int}
    (hread : readOffset.digits h1 h2 cs = some (offset, rest)) : offset % 60 = 0 := by
  unfold readOffset.digits at hread
  split at hread
  · split at hread
    · split at hread
      · cases hread
        omega
      · cases hread
    · cases hread
  · cases hread

/-- Offsets are whole minutes. -/
theorem readOffset_emod {cs rest : List Char} {offset : Int}
    (hread : readOffset cs = some (offset, rest)) : offset % 60 = 0 := by
  unfold readOffset at hread
  split at hread
  · cases hread
    rfl
  · cases hread
    rfl
  · split at hread
    · cases hread
      rfl
    split at hread
    · exact digits_emod hread
    split at hread
    · obtain ⟨⟨ahead, behind⟩, hdigits, hback⟩ := Option.map_eq_some_iff.1 hread
      cases hback
      have hminutes := digits_emod hdigits
      omega
    · cases hread
  · cases hread

/-- An instant that was read is one that a clock can show. -/
theorem isProper_of_ofChars? {cs : List Char} (hread : ofChars? cs = some t) : t.IsProper := by
  unfold ofChars? at hread
  obtain ⟨⟨date, cs⟩, -, hread⟩ := Option.bind_eq_some_iff.1 hread
  obtain ⟨cs, -, hread⟩ := Option.bind_eq_some_iff.1 hread
  obtain ⟨⟨hour, cs⟩, -, hread⟩ := Option.bind_eq_some_iff.1 hread
  obtain ⟨cs, -, hread⟩ := Option.bind_eq_some_iff.1 hread
  obtain ⟨⟨minute, cs⟩, -, hread⟩ := Option.bind_eq_some_iff.1 hread
  obtain ⟨cs, -, hread⟩ := Option.bind_eq_some_iff.1 hread
  obtain ⟨⟨second, cs⟩, -, hread⟩ := Option.bind_eq_some_iff.1 hread
  obtain ⟨⟨fraction, cs⟩, hfraction, hread⟩ := Option.bind_eq_some_iff.1 hread
  obtain ⟨⟨offset, cs⟩, hoffset, hread⟩ := Option.bind_eq_some_iff.1 hread
  have hnanos := readFraction_lt hfraction
  have hminutes := readOffset_emod hoffset
  dsimp only at hread
  split at hread
  · cases hread
  split at hread
  · split at hread
    · rename_i hyear
      cases hread
      rw [isInRange, Bool.and_eq_true, decide_eq_true_eq, decide_eq_true_eq] at hyear
      refine ⟨hyear, ?_⟩
      by_cases hlast : second = 60
      · simp only [if_pos hlast]
        omega
      · simp only [if_neg hlast]
        omega
    · cases hread
  · cases hread

theorem isProper_of_parse? {text : String} (hread : parse? text = some t) : t.IsProper :=
  isProper_of_ofChars? hread

end Governance.Instant
