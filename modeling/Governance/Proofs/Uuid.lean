import Mathlib.Data.List.Basic
import Mathlib.Tactic.Ring
import Governance.Uuid

/-!
# Identifiers are read back

The text of a universally unique identifier is read as that identifier.
-/

namespace Governance.Uuid

theorem digitValue?_hexDigit : ∀ digit < 16,
    digitValue? (if digit < 10 then Char.ofNat ('0'.toNat + digit)
      else Char.ofNat ('a'.toNat + digit - 10)) = some digit := by
  decide

theorem length_hexDigits (count n : Nat) : (hexDigits count n).length = count := by
  induction count with
  | zero => rfl
  | succ count ih => rw [hexDigits, List.length_cons, ih]

/-- Digits are read behind others as the number that all of them stand for. -/
theorem numberOf?_hexDigits (count n value : Nat) :
    numberOf? value (hexDigits count n) = some (value * 16 ^ count + n % 16 ^ count) := by
  induction count generalizing value with
  | zero => simp [hexDigits, numberOf?, Nat.mod_one]
  | succ count ih =>
    have hdigit := digitValue?_hexDigit (n / 16 ^ count % 16) (Nat.mod_lt _ (by decide))
    simp only [hexDigits, numberOf?, Nat.pow_eq, hdigit, Option.bind_some, ih]
    rw [Nat.mod_pow_succ, Nat.pow_succ]
    congr 1
    ring

theorem ofGroups?_append {a b c d e : List Char} (ha : a.length = 8) (hb : b.length = 4)
    (hc : c.length = 4) (hd : d.length = 4) (he : e.length = 12) :
    ofGroups? (a ++ '-' :: b ++ '-' :: c ++ '-' :: d ++ '-' :: e) =
      (numberOf? 0 (a ++ b ++ c ++ d ++ e)).map fun n => ⟨BitVec.ofNat 128 n⟩ := by
  have hlength : (a ++ '-' :: b ++ '-' :: c ++ '-' :: d ++ '-' :: e).length = 36 := by
    simp [ha, hb, hc, hd, he]
  have hmarks : (a ++ '-' :: b ++ '-' :: c ++ '-' :: d ++ '-' :: e)[8]? = some '-' ∧
      (a ++ '-' :: b ++ '-' :: c ++ '-' :: d ++ '-' :: e)[13]? = some '-' ∧
      (a ++ '-' :: b ++ '-' :: c ++ '-' :: d ++ '-' :: e)[18]? = some '-' ∧
      (a ++ '-' :: b ++ '-' :: c ++ '-' :: d ++ '-' :: e)[23]? = some '-' := by
    simp [List.getElem?_append, ha, hb, hc, hd]
  have hgroups : (a ++ '-' :: b ++ '-' :: c ++ '-' :: d ++ '-' :: e).take 8 = a ∧
      ((a ++ '-' :: b ++ '-' :: c ++ '-' :: d ++ '-' :: e).drop 9).take 4 = b ∧
      ((a ++ '-' :: b ++ '-' :: c ++ '-' :: d ++ '-' :: e).drop 14).take 4 = c ∧
      ((a ++ '-' :: b ++ '-' :: c ++ '-' :: d ++ '-' :: e).drop 19).take 4 = d ∧
      (a ++ '-' :: b ++ '-' :: c ++ '-' :: d ++ '-' :: e).drop 24 = e := by
    have hbeyond {l : List Char} {n k : Nat} (hl : l.length = n) (hle : n ≤ k) : l.drop k = [] :=
      List.drop_of_length_le (hl ▸ hle)
    simp [List.drop_append, ha, hb, hc, hd, hbeyond ha, hbeyond hb, hbeyond hc,
      hbeyond hd]
  obtain ⟨hfirst, hsecond, hthird, hfourth⟩ := hmarks
  obtain ⟨h1, h2, h3, h4, h5⟩ := hgroups
  rw [ofGroups?, hlength, hfirst, hsecond, hthird, hfourth, h1, h2, h3, h4, h5]
  rfl

theorem parse?_render (u : Uuid) : parse? u.render = some u := by
  have hlength := length_hexDigits 32 u.bits.toNat
  have hnumber := numberOf?_hexDigits 32 u.bits.toNat 0
  rw [Nat.zero_mul, Nat.zero_add, Nat.mod_eq_of_lt (show u.bits.toNat < 16 ^ 32 from u.bits.isLt)]
    at hnumber
  generalize hdigits : hexDigits 32 u.bits.toNat = digits at hlength hnumber
  -- without the hyphens the five groups are the digits again
  have hwhole : digits.take 8 ++ (digits.drop 8).take 4 ++ (digits.drop 12).take 4 ++
      (digits.drop 16).take 4 ++ digits.drop 20 = digits := by
    have hgroup (first : Nat) : (digits.drop first).take 4 ++ digits.drop (first + 4) =
        digits.drop first := by
      rw [← List.drop_drop, List.take_append_drop]
    rw [List.append_assoc, hgroup 16, List.append_assoc, hgroup 12, List.append_assoc, hgroup 8,
      List.take_append_drop]
  have htext : u.text.length = 36 := by
    simp [text, hdigits, hlength]
  have hgroups := ofGroups?_append (a := digits.take 8) (b := (digits.drop 8).take 4)
    (c := (digits.drop 12).take 4) (d := (digits.drop 16).take 4) (e := digits.drop 20)
    (by simp [hlength]) (by simp [hlength]) (by simp [hlength]) (by simp [hlength])
    (by simp [hlength])
  rw [hwhole, hnumber] at hgroups
  rw [parse?, render, String.toList_ofList, ofChars?, htext]
  simp only [text, hdigits]
  rw [hgroups]
  simp

end Governance.Uuid
