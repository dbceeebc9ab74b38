import Mathlib.Data.List.TakeWhile
import Governance.Json.Printer
import Governance.Json.Reader
import Governance.Json.Token

/-!
# Numbers, tokens and documents

What is written for numbers and for values, how the scanner finds it again, and how the reader makes the same
value of it.
-/

namespace Governance

/-!
## Numbers and their texts

A double is written with the fewest digits that stand for it and read with one multiplication or
division, which may end at a neighbour. That a number is read back is therefore said of the number. A
natural number of sixty-four bits always is.
-/

/-- A number that its text stands for. -/
def Number.ReadsBack (n : Number) : Prop := Json.numberToken? (Json.numberText n) = some (.number n)

namespace Json

open Decimal

/-! ### The characters of numbers -/

theorem isNumberChar_of_isDigit {c : Char} (hc : c.isDigit = true) : isNumberChar c = true := by
  simp [isNumberChar, hc]

theorem spanDigits_eq {cs digits rest : List Char} (h : spanDigits cs = (digits, rest)) :
    cs = digits ++ rest ∧ ∀ c ∈ digits, c.isDigit = true := by
  have happend : cs.takeWhile Char.isDigit ++ cs.dropWhile Char.isDigit = cs :=
    List.takeWhile_append_dropWhile
  cases h
  exact ⟨happend.symm, fun c hc => List.mem_takeWhile_imp hc⟩

theorem isNumberChar_of_exponentParts {cs : List Char} {parts : Option (Bool × List Char)}
    (h : exponentParts cs = some parts) : ∀ c ∈ cs, isNumberChar c = true := by
  have hdigits : ∀ {ds : List Char}, ¬ (ds.isEmpty || !ds.all Char.isDigit) = true →
      ∀ c ∈ ds, isNumberChar c = true := by
    intro ds hds c hc
    simp only [Bool.or_eq_true, not_or, Bool.not_eq_true, Bool.not_eq_false', List.all_eq_true] at hds
    exact isNumberChar_of_isDigit (hds.2 c hc)
  unfold exponentParts at h
  split at h
  · exact nofun
  rename_i e rest
  obtain ⟨he, h⟩ := Option.ite_none_right_eq_some.1 h
  have he : isNumberChar e = true := by
    rw [Bool.or_eq_true, decide_eq_true_eq, decide_eq_true_eq] at he
    rcases he with rfl | rfl <;> rfl
  refine List.forall_mem_cons.2 ⟨he, ?_⟩
  dsimp only at h
  split at h <;> obtain ⟨hds, -⟩ := Option.ite_none_left_eq_some.1 h
  · exact List.forall_mem_cons.2 ⟨rfl, hdigits hds⟩
  · exact List.forall_mem_cons.2 ⟨rfl, hdigits hds⟩
  · exact hdigits hds

theorem numberChars_of_ofChars? {cs : List Char} {p : NumberParts}
    (h : NumberParts.ofChars? cs = some p) :
    ∃ c rest, cs = c :: rest ∧ (c = '-' ∨ c.isDigit = true) ∧ ∀ d ∈ rest, isNumberChar d = true := by
  unfold NumberParts.ofChars? at h
  split at h
  rename_i negative digits hsign
  have hcs : cs = '-' :: digits ∨ cs = digits := by
    split at hsign <;> cases hsign
    · exact .inl rfl
    · exact .inr rfl
  split at h
  rename_i whole rest hspan
  have hrest : ∀ c ∈ rest, isNumberChar c = true := by
    obtain ⟨-, h⟩ := Option.ite_none_left_eq_some.1 h
    split at h
    · split at h
      rename_i fraction others hfraction
      obtain ⟨-, h⟩ := Option.ite_none_left_eq_some.1 h
      obtain ⟨exponent, hexponent, -⟩ := Option.map_eq_some_iff.1 h
      obtain ⟨rfl, hdigits⟩ := spanDigits_eq hfraction
      exact List.forall_mem_cons.2 ⟨rfl, List.forall_mem_append.2
        ⟨fun c hc => isNumberChar_of_isDigit (hdigits c hc), isNumberChar_of_exponentParts hexponent⟩⟩
    · obtain ⟨exponent, hexponent, -⟩ := Option.map_eq_some_iff.1 h
      exact isNumberChar_of_exponentParts hexponent
  obtain ⟨hdigits, hwhole⟩ := spanDigits_eq hspan
  obtain ⟨first, more, rfl⟩ : ∃ first more, whole = first :: more := by
    cases whole with
    | nil => cases h
    | cons first more => exact ⟨first, more, rfl⟩
  have hall : ∀ c ∈ first :: (more ++ rest), isNumberChar c = true :=
    List.forall_mem_append.2 ⟨fun c hc => isNumberChar_of_isDigit (hwhole c hc), hrest⟩
  rcases hcs with rfl | rfl
  · rw [hdigits]
    exact ⟨'-', _, rfl, .inl rfl, hall⟩
  · exact ⟨first, more ++ rest, hdigits, .inr (hwhole first List.mem_cons_self),
      (List.forall_mem_cons.1 hall).2⟩

/-! ### Natural numbers -/

section Naturals

variable {n : Nat}

theorem digitValue_digitChar (hn : n < 10) : digitValue n.digitChar = n := by
  have hcode := Nat.toNat_digitChar_of_lt_ten hn
  have hzero : '0'.toNat = 48 := rfl
  rw [digitValue]
  omega

theorem Kept.whole_append (first second : List Char) (k : Kept) :
    Kept.whole (first ++ second) k = Kept.whole second (Kept.whole first k) := by
  induction first generalizing k with
  | nil => rfl
  | cons c first ih =>
    rw [List.cons_append, Kept.whole, Kept.whole]
    split <;> exact ih _

theorem whole_naturalText (hn : n < UInt64.size) : Kept.whole (naturalText n) ⟨0, 0⟩ = ⟨n, 0⟩ := by
  induction n using Nat.strongRecOn with
  | ind n ih =>
    have hdigit (m d : Nat) (hd : d < 10) (hm : m * 10 + d < UInt64.size) :
        Kept.whole [d.digitChar] ⟨m, 0⟩ = ⟨m * 10 + d, 0⟩ := by
      simp [Kept.whole, Kept.fits, digitValue_digitChar hd, hm]
    rcases Nat.lt_or_ge n 10 with hsmall | hlarge
    · rw [naturalText, Nat.toDigits_of_lt_base hsmall, hdigit 0 n hsmall (by omega)]
      simp
    · have hrest := ih (n / 10) (by omega) (by omega)
      rw [naturalText] at hrest
      rw [naturalText, Nat.toDigits_of_base_le (by decide) hlarge, Kept.whole_append, hrest,
        hdigit _ _ (by omega) (by omega)]
      congr
      omega

/-- Only nought itself begins with a nought. -/
theorem naturalText_cases (n : Nat) :
    naturalText n = ['0'] ∨ ∃ c rest, naturalText n = c :: rest ∧ c ≠ '0' := by
  induction n using Nat.strongRecOn with
  | ind n ih =>
    rcases Nat.lt_or_ge n 10 with hsmall | hlarge
    · rw [naturalText, Nat.toDigits_of_lt_base hsmall]
      by_cases hzero : n = 0
      · exact .inl (by rw [hzero]; rfl)
      · exact .inr ⟨n.digitChar, [], rfl, by rwa [Ne, Nat.digitChar_eq_zero]⟩
    · rw [naturalText, Nat.toDigits_of_base_le (by decide) hlarge]
      right
      rcases ih (n / 10) (by omega) with hzero | ⟨c, rest, hcs, hc⟩
      · have hdigits := Nat.ofDigitChars_ten_toDigits (n := n / 10)
        rw [← naturalText, hzero] at hdigits
        have hzero : Nat.ofDigitChars 10 ['0'] 0 = 0 := rfl
        omega
      · exact ⟨c, rest ++ [(n % 10).digitChar], by rw [← naturalText, hcs]; rfl, hc⟩

theorem spanDigits_naturalText (n : Nat) : spanDigits (naturalText n) = (naturalText n, []) := by
  have hdigits : ∀ c ∈ naturalText n, c.isDigit = true := fun c hc =>
    Nat.isDigit_of_mem_toDigits (by decide) (by decide) hc
  rw [spanDigits, List.takeWhile_eq_self_iff.2 hdigits, List.dropWhile_eq_nil_iff.2 hdigits]

end Naturals

/-! ### Integers -/

/-- Only the text of a negative integer begins with a sign. -/
theorem ofChars?_integerText (n : Int) : NumberParts.ofChars? (integerText n) =
    some ⟨n < 0, naturalText n.natAbs, none, none⟩ := by
  have hspan := spanDigits_naturalText n.natAbs
  have hparts : NumberParts.ofChars? ('-' :: naturalText n.natAbs) =
        some ⟨true, naturalText n.natAbs, none, none⟩ ∧
      NumberParts.ofChars? (naturalText n.natAbs) =
        some ⟨false, naturalText n.natAbs, none, none⟩ := by
    rcases naturalText_cases n.natAbs with hzero | ⟨c, rest, hcs, hc⟩
    · rw [hzero]
      exact ⟨rfl, rfl⟩
    · have hsign : c ≠ '-' := by
        rintro rfl
        have hdigit := Nat.isDigit_of_mem_toDigits (b := 10) (n := n.natAbs) (c := '-') (by decide)
          (by decide) (by rw [← naturalText, hcs]; exact List.mem_cons_self)
        exact absurd hdigit (by decide)
      rw [hcs] at hspan ⊢
      constructor
      · simp [NumberParts.ofChars?, hspan, hc, exponentParts]
      · simp [NumberParts.ofChars?, hspan, hc, hsign, exponentParts]
  unfold integerText
  split
  · rename_i hn
    rw [hparts.1, decide_eq_true hn]
  · rename_i hn
    rw [hparts.2, decide_eq_false hn]

/-- An integer of sixty-four bits, with a sign or without, is read back. -/
theorem readsBack_integer {n : Int} (hn : Number.isExact n = true) :
    Number.ReadsBack (.integer n) := by
  have hbounds : Int64.minValue.toInt ≤ n ∧ n < (UInt64.size : Nat) := by
    simpa only [Number.isExact, Bool.and_eq_true, decide_eq_true_eq] using hn
  have hlowest : -((UInt64.size : Nat) : Int) < Int64.minValue.toInt := by decide
  have hsize : n.natAbs < UInt64.size := by omega
  have hvalue : (if n < 0 then -(n.natAbs : Int) else n.natAbs) = n := by
    split <;> omega
  have hsigned : 0 ≤ n ∨ ¬n = 0 := by omega
  rw [Number.ReadsBack, numberText, numberToken?, ofChars?_integerText, Option.map_some]
  simp only [NumberParts.value?, whole_naturalText hsize, decide_eq_true_eq, hvalue]
  simp [hn, hsigned]

end Json

end Governance

namespace Governance.Json

/-!
## Texts and their tokens

The compact text of a value consists of tokens, and the scanner finds them again wherever the text
stands. Only a number has no end of its own: it ends where something follows that cannot belong to it, or
where nothing follows.
-/

mutual

/-- The tokens of the compact text of a value. -/
def tokens : Json → List Token
  | .null => [.null]
  | .bool b => [.bool b]
  | .number n => [.number n]
  | .string s => [.string s]
  | .array items => .openArray :: itemTokens items ++ [.closeArray]
  | .object members => .openObject :: memberTokens members ++ [.closeObject]

def itemTokens : List Json → List Token
  | [] => []
  | [item] => tokens item
  | item :: next :: rest => tokens item ++ .comma :: itemTokens (next :: rest)

def memberTokens : List (String × Json) → List Token
  | [] => []
  | [(key, value)] => .string key :: .colon :: tokens value
  | (key, value) :: next :: rest =>
    .string key :: .colon :: tokens value ++ .comma :: memberTokens (next :: rest)

end

/-- A value of which every number is one that its text stands for, and in which no more than `room`
arrays and objects stand inside each other. -/
inductive Readable : Nat → Json → Prop
  | null {room : Nat} : Readable room .null
  | bool {room : Nat} (b : Bool) : Readable room (.bool b)
  | number {room : Nat} {n : Number} (hn : n.ReadsBack) : Readable room (.number n)
  | string {room : Nat} (s : String) : Readable room (.string s)
  | array {room : Nat} {items : List Json} (hitems : ∀ j ∈ items, Readable room j) :
      Readable (room + 1) (.array items)
  | object {room : Nat} {members : List (String × Json)} (hmembers : ∀ m ∈ members, Readable room m.2) :
      Readable (room + 1) (.object members)

/-! ### Scanning numbers -/

/-- Nothing that could go on with a number stands at the beginning of a text. -/
def EndsNumber : List Char → Prop
  | [] => True
  | c :: _ => isNumberChar c = false

theorem scanFrom_cons {state next : ScanState} {c : Char} {found : List Token}
    (h : scanChar state c = some (next, found)) (rest : List Char) :
    scanFrom state (c :: rest) = found.map some ++ scanFrom next rest := by
  simp only [scanFrom, h]

theorem startToken_number {c : Char} (hc : c = '-' ∨ c.isDigit = true) :
    startToken c = some (.number [c], []) := by
  have hblank : isBlankChar c = false := by
    rcases hc with rfl | hc
    · rfl
    · simp only [isBlankChar, Bool.or_eq_false_iff, decide_eq_false_iff_not]
      refine ⟨⟨⟨?_, ?_⟩, ?_⟩, ?_⟩ <;> (rintro rfl; cases hc)
  unfold startToken
  split <;> simp_all

theorem scanFrom_number {taken cs rest : List Char} {token : Token}
    (hchars : ∀ c ∈ cs, isNumberChar c = true)
    (htoken : numberToken? (taken.reverse ++ cs) = some token) (hrest : EndsNumber rest) :
    scanFrom (.number taken) (cs ++ rest) = some token :: scanFrom .between rest := by
  induction cs generalizing taken with
  | nil =>
    rw [List.append_nil] at htoken
    cases rest with
    | nil => simp [scanFrom, ScanState.finish, htoken]
    | cons c rest =>
      have hc : isNumberChar c = false := hrest
      cases hstart : startToken c with
      | none => simp [scanFrom, scanChar, hc, htoken, hstart]
      | some started => simp [scanFrom, scanChar, hc, htoken, hstart]
  | cons c cs ih =>
    obtain ⟨hc, hcs⟩ := List.forall_mem_cons.1 hchars
    have hstep : scanChar (.number taken) c = some (.number (c :: taken), []) := if_pos hc
    have hnext : numberToken? ((c :: taken).reverse ++ cs) = some token := by
      rw [List.reverse_cons, List.append_assoc, List.singleton_append]
      exact htoken
    rw [List.cons_append, scanFrom_cons hstep]
    exact ih hcs hnext

theorem scan_number {n : Number} (hn : n.ReadsBack) {rest : List Char} (hrest : EndsNumber rest) :
    scanFrom .between (numberText n ++ rest) = some (.number n) :: scanFrom .between rest := by
  obtain ⟨p, hp, -⟩ := Option.map_eq_some_iff.1 hn
  obtain ⟨c, cs, hcs, hfirst, hchars⟩ := numberChars_of_ofChars? hp
  have hstep : scanChar .between c = some (.number [c], []) := startToken_number hfirst
  have htoken : numberToken? ([c].reverse ++ cs) = some (.number n) := by
    rw [← hn, hcs]
    rfl
  rw [hcs, List.cons_append, scanFrom_cons hstep]
  exact scanFrom_number hchars htoken hrest

/-! ### Scanning strings -/

theorem hexValue?_hexDigit : ∀ n < 16, hexValue? (hexDigit n) = some n := by
  decide

/-- However a character is written inside of quotes, the scanner takes it. -/
theorem scanFrom_escapeChar (taken : List Char) (c : Char) (rest : List Char) :
    scanFrom (.string taken) (escapeChar c ++ rest) = scanFrom (.string (c :: taken)) rest := by
  unfold escapeChar
  split
  all_goals try rfl
  rename_i hquote hbackslash hbackspace hfeed hline hreturn htab
  split
  · rename_i hcontrol
    have hhigh := hexValue?_hexDigit (c.toNat / 16) (by omega)
    have hlow := hexValue?_hexDigit (c.toNat % 16) (by omega)
    have hfirst : scanChar (.hex taken none 2 0) (hexDigit (c.toNat / 16)) =
        some (.hex taken none 1 (c.toNat / 16), []) := by
      simp [scanChar, hhigh]
    have hcode : c.toNat / 16 * 16 + c.toNat % 16 = c.toNat := by omega
    have hsecond : scanChar (.hex taken none 1 (c.toNat / 16)) (hexDigit (c.toNat % 16)) =
        some (.string (c :: taken), []) := by
      have hclose : closeHex taken none c.toNat = .string (c :: taken) := by
        rw [closeHex, if_neg (by simp; omega), if_neg (by simp; omega), Char.ofNat_toNat]
      rw [scanChar, hlow, Option.bind_eq_bind, Option.bind_some, hcode, if_pos rfl, hclose]
    change scanFrom (.hex taken none 2 0)
      (hexDigit (c.toNat / 16) :: hexDigit (c.toNat % 16) :: rest) = _
    rw [scanFrom_cons hfirst, scanFrom_cons hsecond]
    rfl
  · rename_i hplain
    have hstep : scanChar (.string taken) c = some (.string (c :: taken), []) := by
      rw [scanChar, if_neg hquote, if_neg hbackslash, if_neg hplain]
    rw [List.singleton_append, scanFrom_cons hstep]
    rfl

theorem scanFrom_string (taken cs rest : List Char) :
    scanFrom (.string taken) (cs.flatMap escapeChar ++ '"' :: rest) =
      some (.string (String.ofList (taken.reverse ++ cs))) :: scanFrom .between rest := by
  induction cs generalizing taken with
  | nil => simp [scanFrom, scanChar]
  | cons c cs ih =>
    rw [List.flatMap_cons, List.append_assoc, scanFrom_escapeChar, ih, List.reverse_cons,
      List.append_assoc, List.singleton_append]

theorem scan_quoted (s : String) (rest : List Char) :
    scanFrom .between (quoted s ++ rest) = some (.string s) :: scanFrom .between rest := by
  have h := scanFrom_string [] s.toList rest
  rw [List.reverse_nil, List.nil_append, String.ofList_toList] at h
  rw [← h, quoted]
  simp [scanFrom, scanChar, startToken]

/-! ### Scanning values -/

/-- The scanner finds the tokens of a value, wherever its text stands. -/
def Scanned (j : Json) : Prop :=
  ∀ rest, EndsNumber rest →
    scanFrom .between (j.text ++ rest) = j.tokens.map some ++ scanFrom .between rest

theorem scan_items {items : List Json} (hitems : ∀ j ∈ items, Scanned j) {rest : List Char}
    (hrest : EndsNumber rest) : scanFrom .between (itemsText items ++ rest) =
      (itemTokens items).map some ++ scanFrom .between rest := by
  induction items with
  | nil => rfl
  | cons item others ih =>
    obtain ⟨hitem, hothers⟩ := List.forall_mem_cons.1 hitems
    cases others with
    | nil => exact hitem rest hrest
    | cons next others =>
      have hcomma := hitem (',' :: (itemsText (next :: others) ++ rest)) rfl
      have hstep : scanChar .between ',' = some (.between, [.comma]) := rfl
      rw [scanFrom_cons hstep, ih hothers] at hcomma
      simpa [itemsText, itemTokens] using hcomma

theorem scan_members {members : List (String × Json)} (hmembers : ∀ m ∈ members, Scanned m.2)
    {rest : List Char} (hrest : EndsNumber rest) : scanFrom .between (membersText members ++ rest) =
      (memberTokens members).map some ++ scanFrom .between rest := by
  have hcolon : scanChar .between ':' = some (.between, [.colon]) := rfl
  have hcomma : scanChar .between ',' = some (.between, [.comma]) := rfl
  induction members with
  | nil => rfl
  | cons m others ih =>
    obtain ⟨key, value⟩ := m
    obtain ⟨hvalue, hothers⟩ := List.forall_mem_cons.1 hmembers
    cases others with
    | nil =>
      have h := scan_quoted key (':' :: (value.text ++ rest))
      rw [scanFrom_cons hcolon, hvalue rest hrest] at h
      simpa [membersText, memberTokens] using h
    | cons next others =>
      have hends : EndsNumber (',' :: (membersText (next :: others) ++ rest)) := rfl
      have h := scan_quoted key (':' :: (value.text ++ ',' :: (membersText (next :: others) ++ rest)))
      rw [scanFrom_cons hcolon, hvalue _ hends, scanFrom_cons hcomma, ih hothers] at h
      simpa [membersText, memberTokens] using h

theorem Readable.scanned {room : Nat} {j : Json} (hj : Readable room j) : Scanned j := by
  induction hj with
  | null => exact fun _ _ => rfl
  | bool b => cases b <;> exact fun _ _ => rfl
  | number hn => exact fun _ hrest => scan_number hn hrest
  | string s => exact fun rest _ => scan_quoted s rest
  | @array _ items hitems ih =>
    intro rest _
    have hends : EndsNumber (']' :: rest) := rfl
    have hopen : scanChar .between '[' = some (.between, [.openArray]) := rfl
    have hclose : scanChar .between ']' = some (.between, [.closeArray]) := rfl
    have h := scanFrom_cons hopen (itemsText items ++ ']' :: rest)
    rw [scan_items ih hends, scanFrom_cons hclose] at h
    simpa [text, tokens] using h
  | @object _ members hmembers ih =>
    intro rest _
    have hends : EndsNumber ('\x7d' :: rest) := rfl
    have hopen : scanChar .between '\x7b' = some (.between, [.openObject]) := rfl
    have hclose : scanChar .between '\x7d' = some (.between, [.closeObject]) := rfl
    have h := scanFrom_cons hopen (membersText members ++ '\x7d' :: rest)
    rw [scan_members ih hends, scanFrom_cons hclose] at h
    simpa [text, tokens] using h

/-- The scanner makes of the text of a value the tokens of that value. -/
theorem scan_text {room : Nat} {j : Json} (hj : Readable room j) : scan j.text = j.tokens.map some := by
  have h := hj.scanned [] trivial
  rwa [List.append_nil, show scanFrom .between [] = [] from rfl, List.append_nil] at h

/-!
## Documents are read back

A value is read back from its compact text, members in their order, as long as its numbers are and not
too many arrays and objects stand inside each other.
-/

theorem readTokens_cons {interest : Interest} {state next : ReadState} {token : Token}
    (h : state.read interest token = some next) (rest : List (Option Token)) :
    readTokens interest state (some token :: rest) = readTokens interest next rest := by
  simp only [readTokens, h]

/-- Where there is room for a value, its tokens are read as that value. Whoever has interest in only a
part of it reads all of it. -/
def ReadsAs (interest : Interest) (room : Nat) (j : Json) : Prop :=
  ∀ frames rest, frames.length + room ≤ depthLimit →
    readTokens interest ⟨frames, .value, none⟩ (j.tokens.map some ++ rest) =
      readTokens interest (.complete frames j) rest

theorem readTokens_firstItem (interest : Interest) (frames : List Frame) (j : Json) (rest : List (Option Token)) :
    readTokens interest ⟨frames, .firstItem, none⟩ (j.tokens.map some ++ rest) =
      readTokens interest ⟨frames, .value, none⟩ (j.tokens.map some ++ rest) := by
  cases j <;> rfl

section Contents

variable {interest : Interest} {room : Nat} {frames : List Frame}
  (hroom : frames.length + (room + 1) ≤ depthLimit)
include hroom

theorem push_frame (frame : Frame) (next : Expectation) :
    ReadState.push interest frames frame next = some ⟨frame :: frames, next, none⟩ := by
  have hdepth : frames.length < depthLimit := by omega
  rw [ReadState.push, decide_eq_true hdepth, Bool.true_or, if_pos rfl]

theorem room_inside (frame : Frame) : (frame :: frames).length + room ≤ depthLimit := by
  rw [List.length_cons]
  omega

theorem read_items {item : Json} {items : List Json} (hitems : ∀ j ∈ item :: items, ReadsAs interest room j)
    (before : List Json) (rest : List (Option Token)) :
    readTokens interest ⟨.array before :: frames, .value, none⟩
        ((itemTokens (item :: items)).map some ++ some .closeArray :: rest) =
      readTokens interest (.complete frames (.array (before.reverse ++ item :: items))) rest := by
  induction items generalizing item before with
  | nil =>
    obtain ⟨hitem, -⟩ := List.forall_mem_cons.1 hitems
    rw [itemTokens, hitem _ _ (room_inside hroom _)]
    exact readTokens_cons (by simp [ReadState.complete, ReadState.read, ReadState.close]) rest
  | cons next others ih =>
    obtain ⟨hitem, hothers⟩ := List.forall_mem_cons.1 hitems
    have hcomma : (ReadState.complete (.array before :: frames) item).read interest .comma =
      some ⟨.array (item :: before) :: frames, .value, none⟩ := rfl
    rw [itemTokens, List.map_append, List.append_assoc, hitem _ _ (room_inside hroom _), List.map_cons,
      List.cons_append, readTokens_cons hcomma, ih hothers, List.reverse_cons, List.append_assoc,
      List.singleton_append]

/-- A member is read where a key may come: in front of the first member or behind a comma. -/
theorem read_member {key : String} {value : Json} (hvalue : ReadsAs interest room value)
    (before : List (String × Json)) {expected : Expectation}
    (hexpected : expected = .firstKey ∨ expected = .key) (rest : List (Option Token)) :
    readTokens interest ⟨.object before :: frames, expected, none⟩
        (some (.string key) :: some .colon :: (value.tokens.map some ++ rest)) =
      readTokens interest ⟨.object ((key, value) :: before) :: frames, .separator, none⟩ rest := by
  have hkey : ReadState.read interest ⟨.object before :: frames, expected, none⟩ (.string key) =
      some ⟨.member key before :: frames, .colon, none⟩ := by
    rcases hexpected with rfl | rfl <;> rfl
  have hcolon : ReadState.read interest ⟨.member key before :: frames, .colon, none⟩ .colon =
    some ⟨.member key before :: frames, .value, none⟩ := rfl
  rw [readTokens_cons hkey, readTokens_cons hcolon]
  exact hvalue _ _ (room_inside hroom _)

theorem read_members {m : String × Json} {members : List (String × Json)}
    (hmembers : ∀ m' ∈ m :: members, ReadsAs interest room m'.2) (before : List (String × Json))
    {expected : Expectation} (hexpected : expected = .firstKey ∨ expected = .key)
    (rest : List (Option Token)) :
    readTokens interest ⟨.object before :: frames, expected, none⟩
        ((memberTokens (m :: members)).map some ++ some .closeObject :: rest) =
      readTokens interest (.complete frames (.object (before.reverse ++ m :: members))) rest := by
  induction members generalizing m before expected with
  | nil =>
    obtain ⟨hvalue, -⟩ := List.forall_mem_cons.1 hmembers
    have hclose : ReadState.read interest ⟨.object (m :: before) :: frames, .separator, none⟩
        .closeObject = some (.complete frames (.object (before.reverse ++ [m]))) := by
      rw [← List.reverse_cons]
      rfl
    rw [← readTokens_cons hclose]
    exact read_member hroom hvalue before hexpected _
  | cons next others ih =>
    obtain ⟨hvalue, hothers⟩ := List.forall_mem_cons.1 hmembers
    have hcomma : ReadState.read interest ⟨.object (m :: before) :: frames, .separator, none⟩ .comma =
      some ⟨.object (m :: before) :: frames, .key, none⟩ := rfl
    have hrest := ih hothers (m :: before) (.inr rfl)
    rw [List.reverse_cons, List.append_assoc, List.singleton_append] at hrest
    rw [← hrest, ← readTokens_cons hcomma, memberTokens, List.map_append, List.append_assoc]
    exact read_member hroom hvalue before hexpected _

end Contents

theorem Readable.readsAs (interest : Interest) {room : Nat} {j : Json} (hj : Readable room j) :
    ReadsAs interest room j := by
  induction hj with
  | null => exact fun _ _ _ => rfl
  | bool b => exact fun _ _ _ => rfl
  | number hn => exact fun _ _ _ => rfl
  | string s => exact fun _ _ _ => rfl
  | @array room items hitems ih =>
    intro frames rest hroom
    have hopen : ReadState.read interest ⟨frames, .value, none⟩ .openArray =
        some ⟨.array [] :: frames, .firstItem, none⟩ := push_frame hroom _ _
    cases items with
    | nil =>
      have hclose : ReadState.read interest ⟨.array [] :: frames, .firstItem, none⟩ .closeArray =
        some (.complete frames (.array [])) := rfl
      rw [← readTokens_cons hclose, ← readTokens_cons hopen]
      rfl
    | cons item others =>
      have hfirst : readTokens interest ⟨.array [] :: frames, .firstItem, none⟩
            ((itemTokens (item :: others)).map some ++ some .closeArray :: rest) =
          readTokens interest ⟨.array [] :: frames, .value, none⟩
            ((itemTokens (item :: others)).map some ++ some .closeArray :: rest) := by
        cases others with
        | nil => exact readTokens_firstItem interest _ item _
        | cons next others =>
          rw [itemTokens, List.map_append, List.append_assoc]
          exact readTokens_firstItem interest _ item _
      have hread := read_items hroom ih [] rest
      rw [← hfirst, ← readTokens_cons hopen] at hread
      simpa [tokens] using hread
  | @object room members hmembers ih =>
    intro frames rest hroom
    have hopen : ReadState.read interest ⟨frames, .value, none⟩ .openObject =
        some ⟨.object [] :: frames, .firstKey, none⟩ := push_frame hroom _ _
    cases members with
    | nil =>
      have hclose : ReadState.read interest ⟨.object [] :: frames, .firstKey, none⟩ .closeObject =
        some (.complete frames (.object [])) := rfl
      rw [← readTokens_cons hclose, ← readTokens_cons hopen]
      rfl
    | cons m others =>
      have hread := read_members hroom ih [] (.inl rfl) rest
      rw [← readTokens_cons hopen] at hread
      simpa [tokens] using hread

/-- A value is read back from its text, whatever part of it is of interest. -/
theorem readFor_text (interest : Interest) {j : Json} (hj : Readable depthLimit j) :
    readFor interest j.text = .ok j := by
  have h := hj.readsAs interest [] [] (Nat.zero_add _).le
  rw [List.append_nil] at h
  rw [readFor, scan_text hj, h]
  rfl

theorem readFor_blanks (interest : Interest) {blanks : List Char}
    (hblanks : ∀ c ∈ blanks, isBlankChar c = true) (cs : List Char) :
    readFor interest (blanks ++ cs) = readFor interest cs := by
  have hscan : scan (blanks ++ cs) = scan cs := by
    induction blanks with
    | nil => rfl
    | cons c blanks ih =>
      obtain ⟨hc, hblanks⟩ := List.forall_mem_cons.1 hblanks
      have hstep : scanChar .between c = some (.between, []) := by
        simp only [isBlankChar, Bool.or_eq_true, decide_eq_true_eq] at hc
        rcases hc with ((rfl | rfl) | rfl) | rfl <;> rfl
      rw [scan, List.cons_append, scanFrom_cons hstep]
      exact ih hblanks
  rw [readFor, readFor, hscan]

end Governance.Json
