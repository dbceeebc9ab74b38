import Governance.Text.Percent

/-!
# Texts and their bytes

Texts are read back from their bytes and from percent escapes, also from bytes of which others are no text.
-/

namespace Governance.Text

/-!
## Escapes are read back

A text that was written with percent escapes is read back as it was, whatever characters are in it, and
nothing in what was written parts an address.
-/

/-- What is written for a character. -/
def percentEncodeChar (c : Char) : List Char :=
  if isUnreserved c then [c] else (String.utf8EncodeChar c).flatMap percentEscape

theorem percentEncode_eq (text : String) :
    percentEncode text = String.ofList (text.toList.flatMap percentEncodeChar) := rfl

theorem hexValue?_upperHexDigit : ∀ n < 16, Json.hexValue? (upperHexDigit n) = some n := by
  decide

theorem isUnreserved_upperHexDigit : ∀ n < 16, isUnreserved (upperHexDigit n) := by
  decide

theorem percentBytes_cons {c : Char} (hc : c ≠ '%') (rest : List Char) :
    percentBytes (c :: rest) = String.utf8EncodeChar c ++ percentBytes rest := by
  rw [percentBytes]
  rintro a b rest' rfl
  exact absurd rfl hc

theorem percentBytes_percentEscape (b : UInt8) (rest : List Char) :
    percentBytes (percentEscape b ++ rest) = b :: percentBytes rest := by
  have hb : b.toNat < 256 := b.toNat_lt
  have hhigh := hexValue?_upperHexDigit (b.toNat / 16) (by omega)
  have hlow := hexValue?_upperHexDigit (b.toNat % 16) (by omega)
  have hwhole : b.toNat / 16 * 16 + b.toNat % 16 = b.toNat := Nat.div_add_mod' b.toNat 16
  rw [percentEscape, List.cons_append, List.cons_append, List.cons_append, List.nil_append,
    percentBytes]
  simp only [hhigh, hlow, hwhole, UInt8.ofNat_toNat]

theorem percentBytes_flatMap_percentEscape (bytes : List UInt8) (rest : List Char) :
    percentBytes (bytes.flatMap percentEscape ++ rest) = bytes ++ percentBytes rest := by
  induction bytes with
  | nil => rfl
  | cons b bytes ih =>
    rw [List.flatMap_cons, List.append_assoc, percentBytes_percentEscape, ih, List.cons_append]

theorem percentBytes_percentEncodeChar (c : Char) (rest : List Char) :
    percentBytes (percentEncodeChar c ++ rest) = String.utf8EncodeChar c ++ percentBytes rest := by
  unfold percentEncodeChar
  split
  · rename_i hplain
    refine percentBytes_cons ?_ rest
    rintro rfl
    exact absurd hplain (by decide)
  · exact percentBytes_flatMap_percentEscape _ rest

theorem percentBytes_flatMap_percentEncodeChar (cs : List Char) :
    percentBytes (cs.flatMap percentEncodeChar) = cs.flatMap String.utf8EncodeChar := by
  induction cs with
  | nil => rfl
  | cons c cs ih => rw [List.flatMap_cons, percentBytes_percentEncodeChar, ih, List.flatMap_cons]

/-- The bytes of a text are read as the text. -/
theorem ofUtf8?_flatMap_utf8EncodeChar (text : String) :
    ofUtf8? (text.toList.flatMap String.utf8EncodeChar) = some text := by
  have hbytes : (⟨(text.toList.flatMap String.utf8EncodeChar).toArray⟩ : ByteArray) =
      text.toByteArray := by
    rw [← String.ofList_toList (s := text), String.toByteArray_ofList, String.toList_ofList,
      List.utf8Encode]
    apply ByteArray.ext
    rw [List.data_toByteArray]
  rw [ofUtf8?, hbytes, String.fromUTF8?, dif_pos text.isValidUTF8]
  rfl

/-- A text with escapes is read back. -/
theorem percentDecode?_percentEncode (text : String) :
    percentDecode? (percentEncode text) = some text := by
  rw [percentDecode?, percentEncode_eq, String.toList_ofList,
    percentBytes_flatMap_percentEncodeChar, ofUtf8?_flatMap_utf8EncodeChar]

/-- What is written is unreserved, or belongs to an escape. -/
theorem mem_percentEncode {text : String} {c : Char} (hc : c ∈ (percentEncode text).toList) :
    isUnreserved c ∨ c = '%' := by
  rw [percentEncode_eq, String.toList_ofList, List.mem_flatMap] at hc
  obtain ⟨d, _, hd⟩ := hc
  unfold percentEncodeChar at hd
  split at hd
  · rename_i hplain
    obtain rfl := List.mem_singleton.1 hd
    exact .inl hplain
  · obtain ⟨b, _, hb⟩ := List.mem_flatMap.1 hd
    have hhigh := isUnreserved_upperHexDigit (b.toNat / 16) (by have := b.toNat_lt; omega)
    have hlow := isUnreserved_upperHexDigit (b.toNat % 16) (by omega)
    simp only [percentEscape, List.mem_cons, List.not_mem_nil, or_false] at hb
    rcases hb with rfl | rfl | rfl
    · exact .inr rfl
    · exact .inl hhigh
    · exact .inl hlow

theorem slash_not_mem_percentEncode (text : String) : '/' ∉ (percentEncode text).toList := by
  intro hslash
  exact absurd (mem_percentEncode hslash) (by decide)

/-!
## Characters and their bytes

The bytes of a text are those of its characters one after the other. A byte below 128 is a character of its
own wherever it stands.
-/

def utf8 (cs : List Char) : List UInt8 := cs.flatMap String.utf8EncodeChar

@[simp] theorem utf8_nil : utf8 [] = [] := rfl

@[simp] theorem utf8_cons (c : Char) (cs : List Char) :
    utf8 (c :: cs) = String.utf8EncodeChar c ++ utf8 cs := rfl

theorem toList_loop (bytes : ByteArray) (i : Nat) (taken : List UInt8) :
    ByteArray.toList.loop bytes i taken = taken.reverse ++ bytes.data.toList.drop i := by
  fun_induction ByteArray.toList.loop bytes i taken with
  | case1 i taken hi ih =>
    have hplace : i < bytes.data.toList.length := hi
    have hbyte : bytes.get! i = bytes.data.toList[i] := by
      simp [ByteArray.get!, getElem!_pos bytes.data i hi]
    rw [ih, List.drop_eq_getElem_cons hplace, List.reverse_cons, List.append_assoc, hbyte,
      List.singleton_append]
  | case2 i taken hi =>
    rw [List.drop_eq_nil_of_le (Nat.le_of_not_lt hi), List.append_nil]

theorem toList_toUTF8 (text : String) : text.toUTF8.toList = utf8 text.toList := by
  have hbytes : text.toUTF8 = text.toList.utf8Encode := String.utf8Encode_toList.symm
  rw [hbytes, ByteArray.toList, toList_loop, List.reverse_nil, List.nil_append, List.drop_zero,
    List.utf8Encode, List.toList_data_toByteArray]
  rfl

theorem ofUtf8?_utf8 (cs : List Char) : ofUtf8? (utf8 cs) = some (String.ofList cs) := by
  have h := ofUtf8?_flatMap_utf8EncodeChar (String.ofList cs)
  rwa [String.toList_ofList] at h

theorem utf8_of_ofUtf8? {bytes : List UInt8} {text : String} (h : ofUtf8? bytes = some text) :
    bytes = utf8 text.toList := by
  rw [ofUtf8?, String.fromUTF8?] at h
  split at h
  · cases h
    rw [← toList_toUTF8]
    change bytes = ByteArray.toList ⟨bytes.toArray⟩
    rw [ByteArray.toList, toList_loop]
    rfl
  · cases h

theorem utf8EncodeChar_of_mem {c : Char} {b : UInt8} (hb : b ∈ String.utf8EncodeChar c)
    (hsmall : b.toNat < 128) : String.utf8EncodeChar c = [b] ∧ c.toNat = b.toNat := by
  have hlarge (n : Nat) (hn : 128 ≤ n) (hbyte : n < 256) : b ≠ UInt8.ofNat n := by
    rintro rfl
    rw [UInt8.toNat_ofNat_of_lt' hbyte] at hsmall
    omega
  unfold String.utf8EncodeChar at hb ⊢
  dsimp only at hb ⊢
  by_cases hone : c.val.toNat ≤ 0x7f
  · rw [if_pos hone] at hb ⊢
    obtain rfl := List.mem_singleton.1 hb
    have hbyte : c.val.toNat < 256 := by omega
    exact ⟨rfl, (UInt8.toNat_ofNat_of_lt' hbyte).symm⟩
  · rw [if_neg hone] at hb
    exfalso
    split at hb
    · simp only [List.mem_cons, List.not_mem_nil, or_false] at hb
      rcases hb with hb | hb <;> exact hlarge _ (by omega) (by omega) hb
    · split at hb
      · simp only [List.mem_cons, List.not_mem_nil, or_false] at hb
        rcases hb with hb | hb | hb <;> exact hlarge _ (by omega) (by omega) hb
      · simp only [List.mem_cons, List.not_mem_nil, or_false] at hb
        rcases hb with hb | hb | hb | hb <;> exact hlarge _ (by omega) (by omega) hb

/-!
## Bytes that may be no UTF-8

Characters are found in their bytes whatever follows them, and a byte below 128 begins one whatever stands in
front of it.
-/

/-! ### Characters in front of other bytes -/

theorem continuing_append {n : Nat} {low high : UInt8} {more : List UInt8} (hlength : more.length = n)
    (hfirst : ∀ m ∈ more.head?, low ≤ m ∧ m ≤ high) (hmore : ∀ m ∈ more.tail, 0x80 ≤ m ∧ m ≤ 0xBF)
    (rest : List UInt8) : continuing n low high (more ++ rest) = more := by
  induction more generalizing n low high with
  | nil =>
    subst hlength
    rfl
  | cons m more ih =>
    subst hlength
    obtain ⟨hlow, hhigh⟩ := hfirst m rfl
    have hrest := ih rfl (fun d hd => hmore d (List.mem_of_mem_head? hd))
      fun d hd => hmore d (List.mem_of_mem_tail hd)
    rw [List.length_cons, List.cons_append, continuing, if_pos (by simp [hlow, hhigh]), hrest]

theorem continuation?_of_two : ∀ n < 32, 2 ≤ n →
    continuation? (UInt8.ofNat (n + 192)) = some (1, 0x80, 0xBF) := by
  decide

theorem continuation?_of_three : ∀ n < 16, continuation? (UInt8.ofNat (n + 224)) =
    some (2, if n = 0 then 0xA0 else 0x80, if n = 13 then 0x9F else 0xBF) := by
  decide

theorem continuation?_of_four : ∀ n < 5, continuation? (UInt8.ofNat (n + 240)) =
    some (3, if n = 0 then 0x90 else 0x80, if n = 4 then 0x8F else 0xBF) := by
  decide

theorem ofNat_between (low n high : Nat) (hlow : low ≤ n) (hhigh : n ≤ high) (hbyte : high < 256) :
    UInt8.ofNat low ≤ UInt8.ofNat n ∧ UInt8.ofNat n ≤ UInt8.ofNat high := by
  have hn : n < 256 := Nat.lt_of_le_of_lt hhigh hbyte
  have hlow' : low < 256 := Nat.lt_of_le_of_lt hlow hn
  rw [UInt8.le_iff_toNat_le, UInt8.le_iff_toNat_le, UInt8.toNat_ofNat_of_lt' hn,
    UInt8.toNat_ofNat_of_lt' hlow', UInt8.toNat_ofNat_of_lt' hbyte]
  exact ⟨hlow, hhigh⟩

theorem tail_between (n : Nat) :
    (0x80 : UInt8) ≤ UInt8.ofNat (n % 64 + 128) ∧ UInt8.ofNat (n % 64 + 128) ≤ 0xBF :=
  ofNat_between 0x80 _ 0xBF (by omega) (by omega) (by decide)

/-- The first byte of a character tells how many follow, and what the next one may be. -/
theorem exists_continuation (c : Char) : ∃ b more low high, String.utf8EncodeChar c = b :: more ∧
    continuation? b = some (more.length, low, high) ∧ (∀ m ∈ more.head?, low ≤ m ∧ m ≤ high) ∧
      ∀ m ∈ more.tail, 0x80 ≤ m ∧ m ≤ 0xBF := by
  have hvalid : c.val.toNat.isValidChar := c.valid
  unfold String.utf8EncodeChar
  dsimp only
  generalize c.val.toNat = v at hvalid ⊢
  unfold Nat.isValidChar at hvalid
  have hhead {m : UInt8} {ms : List UInt8} {low high : UInt8} (h : low ≤ m ∧ m ≤ high) :
      ∀ d ∈ (m :: ms).head?, low ≤ d ∧ d ≤ high := by
    rintro d ⟨⟩
    exact h
  have htail (ns : List Nat) :
      ∀ m ∈ ns.map fun n => UInt8.ofNat (n % 64 + 128), 0x80 ≤ m ∧ m ≤ 0xBF := by
    rw [List.forall_mem_map]
    exact fun n _ => tail_between n
  by_cases hone : v ≤ 127
  · rw [if_pos hone]
    have hbyte : v < 256 := by omega
    refine ⟨_, [], _, _, rfl, if_pos ?_, nofun, nofun⟩
    rw [UInt8.lt_iff_toNat_lt, UInt8.toNat_ofNat_of_lt' hbyte]
    exact Nat.lt_succ_of_le hone
  rw [if_neg hone]
  by_cases htwo : v ≤ 2047
  · rw [if_pos htwo]
    exact ⟨_, _, _, _, rfl, continuation?_of_two _ (by omega) (by omega), hhead (tail_between _),
      htail []⟩
  rw [if_neg htwo]
  by_cases hthree : v ≤ 65535
  · rw [if_pos hthree]
    refine ⟨_, _, _, _, rfl, continuation?_of_three _ (by omega), hhead ?_, htail [v]⟩
    split <;> split
    · exact ofNat_between 0xA0 _ 0x9F (by omega) (by omega) (by decide)
    · exact ofNat_between 0xA0 _ 0xBF (by omega) (by omega) (by decide)
    · exact ofNat_between 0x80 _ 0x9F (by omega) (by omega) (by decide)
    · exact tail_between _
  · rw [if_neg hthree]
    have hlead : v / 262144 % 8 < 5 := by omega
    refine ⟨_, _, _, _, rfl, continuation?_of_four _ hlead, hhead ?_, htail [v / 64, v]⟩
    split <;> split
    · exact ofNat_between 0x90 _ 0x8F (by omega) (by omega) (by decide)
    · exact ofNat_between 0x90 _ 0xBF (by omega) (by omega) (by decide)
    · exact ofNat_between 0x80 _ 0x8F (by omega) (by omega) (by decide)
    · exact tail_between _

theorem firstChar_append {c : Char} {b : UInt8} {more : List UInt8}
    (h : String.utf8EncodeChar c = b :: more) (rest : List UInt8) :
    firstChar b (more ++ rest) = (some c, more.length) := by
  obtain ⟨first, others, low, high, hc, hcontinuation, hfirst, hmore⟩ := exists_continuation c
  obtain ⟨rfl, rfl⟩ := List.cons_eq_cons.1 (h.symm.trans hc)
  have hbytes : b :: more = utf8 [c] := by simp [h]
  rw [firstChar, hcontinuation]
  dsimp only
  rw [continuing_append rfl hfirst hmore, hbytes, ofUtf8?_utf8]
  simp

theorem charsBehind_append (front back : List UInt8) :
    charsBehind front.length (front ++ back) = charsOf back := by
  induction front with
  | nil => rfl
  | cons b front ih => exact ih

theorem charsOf_utf8 (cs : List Char) : charsOf (utf8 cs) = cs.map some := by
  induction cs with
  | nil => rfl
  | cons c cs ih =>
    obtain ⟨b, more, -, -, hc, -⟩ := exists_continuation c
    rw [utf8_cons, hc, List.cons_append, charsOf, charsBehind, firstChar_append hc]
    dsimp only
    rw [charsBehind_append, ih, List.map_cons]

/-- What is taken for a character has the bytes of it. -/
theorem exists_of_firstChar {b : UInt8} {rest : List UInt8} {c : Char}
    (h : (firstChar b rest).1 = some c) :
    ∃ more, String.utf8EncodeChar c = b :: more ∧ (firstChar b rest).2 = more.length := by
  rw [firstChar] at h ⊢
  split at h
  · cases h
  · dsimp only at h ⊢
    split at h
    · rename_i htext
      cases h
      obtain ⟨text, htext, hchars⟩ := Option.map_eq_some_iff.1 htext
      refine ⟨_, ?_, rfl⟩
      rw [utf8_of_ofUtf8? htext, hchars]
      simp
    · cases h

theorem length_continuing_le (n : Nat) (low high : UInt8) (bytes : List UInt8) :
    (continuing n low high bytes).length ≤ bytes.length := by
  induction bytes generalizing n low high with
  | nil => cases n <;> simp [continuing]
  | cons b bytes ih =>
    cases n with
    | zero => simp [continuing]
    | succ n =>
      rw [continuing]
      split
      · exact Nat.succ_le_succ (ih _ _ _)
      · simp

theorem firstChar_le (b : UInt8) (rest : List UInt8) : (firstChar b rest).2 ≤ rest.length := by
  rw [firstChar]
  split
  · exact Nat.zero_le _
  · exact length_continuing_le _ _ _ _

/-! ### A byte below 128 behind other bytes -/

section Parting

variable {b : UInt8} (hsmall : b.toNat < 128)
include hsmall

theorem continuing_part (n : Nat) {low : UInt8} (hlow : 128 ≤ low.toNat) (high : UInt8)
    (front back : List UInt8) :
    continuing n low high (front ++ b :: back) = continuing n low high front := by
  induction front generalizing n low high with
  | nil =>
    cases n with
    | zero => rfl
    | succ n =>
      have hbelow : ¬low ≤ b := by
        rw [UInt8.le_iff_toNat_le]
        omega
      simp [continuing, hbelow]
  | cons m front ih =>
    cases n with
    | zero => rfl
    | succ n => rw [List.cons_append, continuing, continuing, ih n (by decide)]

theorem firstChar_part (a : UInt8) (front back : List UInt8) :
    firstChar a (front ++ b :: back) = firstChar a front := by
  have hlow {n : Nat} {low high : UInt8} (h : continuation? a = some (n, low, high)) :
      128 ≤ low.toNat := by
    revert h
    unfold continuation?
    repeat' split
    all_goals first | (rintro ⟨⟩; decide) | nofun
  rw [firstChar, firstChar]
  cases h : continuation? a with
  | none => rfl
  | some shape =>
    obtain ⟨n, low, high⟩ := shape
    dsimp only
    rw [continuing_part hsmall n (hlow h)]

theorem charsBehind_part {front : List UInt8} {passed : Nat} (hpassed : passed ≤ front.length)
    (back : List UInt8) :
    charsBehind passed (front ++ b :: back) = charsBehind passed front ++ charsOf (b :: back) := by
  induction front generalizing passed with
  | nil =>
    obtain rfl := Nat.le_zero.1 hpassed
    rfl
  | cons a front ih =>
    cases passed with
    | zero =>
      rw [List.cons_append, charsBehind, charsBehind, firstChar_part hsmall,
        ih (firstChar_le a front), List.cons_append]
    | succ passed => exact ih (Nat.le_of_succ_le_succ hpassed)

theorem charsOf_part (front back : List UInt8) :
    charsOf (front ++ b :: back) = charsOf front ++ charsOf (b :: back) :=
  charsBehind_part hsmall (Nat.zero_le _) back

end Parting

end Governance.Text
