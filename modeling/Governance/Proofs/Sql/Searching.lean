import Governance.Proofs.Policy.Codec
import Governance.Proofs.Sql.Meaning
import Governance.Proofs.Sql.PolicyRows
import Governance.Proofs.Text.Lowercase

/-!
# Searching for policies

A listing finds the same policies in the table as among policies that are held, as long as the text it
searches for has no character with a meaning of its own in a pattern. The text becomes part of a pattern as
it is. So an underscore or a percent sign in it finds more than the policies that mention it, and a
backslash may find others instead. With such characters escaped the two would agree on every text.

Both sides put text and policy into lower case first. The characters of a pattern that mean something are
their own lower case and end words, so that lower case and escaping do not get into each other's way.
-/

namespace Governance

namespace Sql

namespace Like

open Text

/-! ### Lower case of patterns -/

variable {c d : Char} {before cs : List Char}

theorem endsWord_of_isMark (hc : isMark c) : EndsWord c := by
  simp only [isMark, Bool.or_eq_true, decide_eq_true_eq] at hc
  rcases hc with (rfl | rfl) | rfl <;> exact ⟨by decide, by decide, by decide⟩

/-- No letter has a lower case among the characters that come before the small ones. -/
theorem lowercaseCode_ge {code : Nat} (hcode : 128 ≤ code) : 96 ≤ lowercaseCode code := by
  have htable : ∀ entry ∈ lowercaseTable, 96 ≤ (entry.1 : Int) + entry.2.2.2 := by decide +kernel
  unfold lowercaseCode
  split
  · rename_i first last step distance hfound
    have hentry := htable _ (List.mem_of_find?_eq_some hfound)
    have hrange := List.find?_some hfound
    simp only [Bool.and_eq_true, decide_eq_true_eq] at hentry hrange
    omega
  · omega

theorem isMark_ofNat {code : Nat} (hcode : 96 ≤ code) : isMark (Char.ofNat code) = false := by
  have hapart (c : Char) (hc : c.toNat < 96) (hne : c ≠ '\x00') : Char.ofNat code ≠ c := by
    rintro rfl
    by_cases hvalid : code.isValidChar
    · have hsame : (Char.ofNat code).toNat = code := by
        rw [Char.ofNat, dif_pos hvalid]
        rfl
      omega
    · exact hne (dif_neg hvalid)
  simp only [isMark, Bool.or_eq_false_iff, decide_eq_false_iff_not]
  exact ⟨⟨hapart '%' (by decide) (by decide), hapart '_' (by decide) (by decide)⟩,
    hapart '\\' (by decide) (by decide)⟩

/-- No other character becomes one with a meaning in patterns. -/
theorem eq_of_mem_lowercaseChar (hd : isMark d) (hmem : d ∈ lowercaseChar c) : d = c := by
  by_cases hsmall : c.toNat < 128
  · have hascii : ∀ n < 128, (lowercaseChar (Char.ofNat n)).all fun d =>
        !isMark d || d == Char.ofNat n := by decide
    have hc := List.all_eq_true.1 (hascii c.toNat hsmall)
    rw [Char.ofNat_toNat] at hc
    simpa [hd] using hc d hmem
  · rw [lowercaseChar, if_neg hsmall] at hmem
    split at hmem
    · rcases List.mem_pair.1 hmem with rfl | rfl <;> exact absurd hd (by decide)
    · rw [List.mem_singleton] at hmem
      rw [hmem, isMark_ofNat (lowercaseCode_ge (not_lt.1 hsmall))] at hd
      exact absurd hd Bool.false_ne_true

theorem not_isMark_of_mem_lowercaseChar (hc : isMark c = false) (hmem : d ∈ lowercaseChar c) :
    isMark d = false := by
  by_contra hd
  rw [Bool.not_eq_false] at hd
  rw [eq_of_mem_lowercaseChar hd hmem, hc] at hd
  exact Bool.false_ne_true hd

theorem settle_of_isMark {rest : List Char} (h : isMark (settle before c rest)) :
    settle before c rest = c := by
  unfold settle at h ⊢
  split at h
  · rw [isMark_ofNat (by split <;> omega)] at h
    exact absurd h Bool.false_ne_true
  · rename_i hc
    exact if_neg hc

theorem isMark_settle (before : List Char) (c : Char) (rest : List Char) :
    isMark (settle before c rest) = isMark c := by
  cases hc : isMark c with
  | true => rw [(endsWord_of_isMark hc).settle_eq, hc]
  | false =>
    by_contra h
    rw [Bool.not_eq_false] at h
    rw [settle_of_isMark h, hc] at h
    exact Bool.false_ne_true h

theorem mem_lowercaseAfter_iff (hd : isMark d) : d ∈ lowercaseAfter before cs ↔ d ∈ cs := by
  induction cs generalizing before with
  | nil => rfl
  | cons c cs ih =>
    rw [lowercaseAfter_cons, List.mem_append, List.mem_cons, ih]
    refine or_congr_left ⟨fun hmem => ?_, ?_⟩
    · have heq := eq_of_mem_lowercaseChar hd hmem
      exact heq.trans (settle_of_isMark (heq ▸ hd))
    · rintro rfl
      rw [(endsWord_of_isMark hd).settle_eq, (endsWord_of_isMark hd).stays.2]
      exact List.mem_singleton_self d

/-! ### Lower case and escaping -/

theorem escape_cons_of_isMark (hc : isMark c) (cs : List Char) :
    escape (c :: cs) = '\\' :: c :: escape cs := by
  rw [escape, List.flatMap_cons, escapeChar, if_pos hc]
  rfl

theorem escape_cons_of_not_isMark (hc : isMark c = false) (cs : List Char) :
    escape (c :: cs) = c :: escape cs := by
  rw [escape, List.flatMap_cons, escapeChar, hc]
  rfl

theorem escape_append (cs ds : List Char) : escape (cs ++ ds) = escape cs ++ escape ds :=
  List.flatMap_append

theorem escape_eq_self (hcs : ∀ c ∈ cs, isMark c = false) : escape cs = cs := by
  induction cs with
  | nil => rfl
  | cons c cs ih =>
    obtain ⟨hc, hrest⟩ := List.forall_mem_cons.1 hcs
    rw [escape_cons_of_not_isMark hc, ih hrest]

theorem startsCased_escape (cs : List Char) : startsCased (escape cs) = startsCased cs := by
  induction cs with
  | nil => rfl
  | cons c cs ih =>
    cases hc : isMark c with
    | true =>
      rw [escape_cons_of_isMark hc, (endsWord_of_isMark hc).startsCased_cons,
        (endsWord_of_isMark rfl).startsCased_cons]
    | false => rw [escape_cons_of_not_isMark hc, startsCased_cons, startsCased_cons, ih]

/-- It is the same to escape a text and to escape its lower case. -/
theorem lowercaseAfter_escape (before cs : List Char) :
    lowercaseAfter before (escape cs) = escape (lowercaseAfter before cs) := by
  induction cs generalizing before with
  | nil => rfl
  | cons c cs ih =>
    cases hc : isMark c with
    | true =>
      have hmark := endsWord_of_isMark hc
      rw [escape_cons_of_isMark hc, (endsWord_of_isMark rfl).lowercaseAfter_cons, lowercase,
        hmark.lowercaseAfter_cons, hmark.lowercaseAfter_cons, lowercase, ih, escape_cons_of_isMark hc]
      rfl
    | false =>
      have hplain : ∀ d ∈ lowercaseChar (settle before c cs), isMark d = false := fun d hmem =>
        not_isMark_of_mem_lowercaseChar ((isMark_settle before c cs).trans hc) hmem
      rw [escape_cons_of_not_isMark hc, lowercaseAfter_cons, lowercaseAfter_cons, ih, escape_append,
        escape_eq_self hplain, settle_congr rfl (startsCased_escape cs)]

/-! ### Patterns of a search -/

/-- The pattern of the texts that a text is searched in. -/
def around (text : String) : String := "%" ++ text ++ "%"

/-- Whether a text stands for itself in a pattern. -/
def isPlain (text : String) : Bool := text.toList.all (!isMark ·)

/-- A text as it is written in a pattern that stands for it. -/
def escaped (text : String) : String := String.ofList (escape text.toList)

theorem escaped_of_isPlain {text : String} (htext : isPlain text) : escaped text = text := by
  have hplain : ∀ c ∈ text.toList, isMark c = false := by simpa [isPlain] using htext
  rw [escaped, escape_eq_self hplain, String.ofList_toList]

theorem lowercase_around (text : String) :
    lowercase (around text).toList = '%' :: lowercase text.toList ++ ['%'] := by
  have hstretch : EndsWord '%' := endsWord_of_isMark rfl
  have htext : (around text).toList = '%' :: (text.toList ++ ['%']) := by
    rw [around, String.toList_append, String.toList_append, List.append_assoc]
    rfl
  rw [htext, lowercase, hstretch.lowercaseAfter_cons, lowercase, hstretch.lowercaseAfter_append]
  rfl

/-- A search for an escaped text finds exactly the texts in which it occurs. -/
theorem fitsFolded_around_escaped (needle text : String) :
    fitsFolded (around (escaped needle)) text = occursFolded needle text := by
  have hneedle : lowercase (escaped needle).toList = escape (lowercase needle.toList) := by
    rw [escaped, String.toList_ofList]
    exact lowercaseAfter_escape [] needle.toList
  rw [fitsFolded, lowercase_around, hneedle, fits_around, occursFolded]

/-- A search for a text without a backslash finds at least the texts in which it occurs. -/
theorem fitsFolded_of_occursFolded {needle text : String} (hneedle : '\\' ∉ needle.toList)
    (h : occursFolded needle text) : fitsFolded (around needle) text := by
  obtain ⟨before, after, htext⟩ := occurs_iff.1 h
  have hlower : '\\' ∉ lowercase needle.toList := fun hmem =>
    hneedle ((mem_lowercaseAfter_iff rfl).1 hmem)
  rw [fitsFolded, lowercase_around, List.cons_append, fits_stretch, ← htext, List.append_assoc]
  exact ⟨_, List.suffix_append before _, fits_self_append hlower (fits_anything after)⟩

/-! ### What else a pattern finds -/

/-- A text of a pattern that another stretch follows: every mark is filled, and what a backslash takes for what
it is comes without it. -/
def sample : List Char → List Char
  | [] => []
  | ['\\'] => ['%']
  | '\\' :: c :: rest => c :: sample rest
  | c :: rest => (if isMark c then '-' else c) :: sample rest

theorem sample_backslash_cons (c : Char) (rest : List Char) :
    sample ('\\' :: c :: rest) = c :: sample rest := rfl

theorem sample_cons (hc : c ≠ '\\') (rest : List Char) :
    sample (c :: rest) = (if isMark c then '-' else c) :: sample rest := by
  rw [sample]
  · exact fun h => absurd h hc
  · exact fun _ _ h => absurd h hc

/-- A text is read from the left: a backslash with the character behind it, or any other character. -/
theorem backslash_induction {motive : List Char → Prop} (nil : motive []) (lone : motive ['\\'])
    (pair : ∀ c rest, motive rest → motive ('\\' :: c :: rest))
    (cons : ∀ c rest, c ≠ '\\' → motive rest → motive (c :: rest)) (cs : List Char) : motive cs := by
  fun_induction sample cs with
  | case1 => exact nil
  | case2 => exact lone
  | case3 c rest ih => exact pair c rest ih
  | case4 c rest hlone hpair ih =>
    refine cons c rest ?_ ih
    rintro rfl
    cases rest with
    | nil => exact hlone rfl rfl
    | cons d ds => exact hpair d ds rfl rfl

theorem fits_sample (cs : List Char) : fits (cs ++ ['%']) (sample cs) := by
  induction cs using backslash_induction with
  | nil => rfl
  | lone => rfl
  | pair c rest ih =>
    rw [sample_backslash_cons]
    simpa [fits] using ih
  | cons c rest hc ih =>
    rw [sample_cons hc, List.cons_append]
    cases hmark : isMark c with
    | false =>
      rw [fits_of_not_isMark hmark]
      simpa using ih
    | true =>
      simp only [isMark, Bool.or_eq_true, decide_eq_true_eq, hc, or_false] at hmark
      rcases hmark with rfl | rfl
      · exact fits_stretch.2 ⟨sample rest, List.suffix_cons _ _, ih⟩
      · rw [fits]
        exact ih

theorem length_sample_le (cs : List Char) : (sample cs).length ≤ cs.length := by
  induction cs using backslash_induction with
  | nil => exact Nat.le_refl _
  | lone => exact Nat.le_refl _
  | pair c rest ih => exact Nat.le_succ_of_le (Nat.succ_le_succ ih)
  | cons c rest hc ih =>
    rw [sample_cons hc]
    exact Nat.succ_le_succ ih

theorem not_isMark_of_sample_eq (h : sample cs = cs) : ∀ c ∈ cs, isMark c = false := by
  induction cs using backslash_induction with
  | nil => exact List.forall_mem_nil _
  | lone => exact absurd h (by decide)
  | pair c rest ih =>
    have hlength := congrArg List.length h
    have hle := length_sample_le rest
    simp only [sample_backslash_cons, List.length_cons] at hlength
    omega
  | cons c rest hc ih =>
    rw [sample_cons hc] at h
    obtain ⟨hkept, hrest⟩ := List.cons.inj h
    refine List.forall_mem_cons.2 ⟨?_, ih hrest⟩
    by_contra hmark
    rw [Bool.not_eq_false] at hmark
    rw [if_pos hmark] at hkept
    subst hkept
    exact absurd hmark (by decide)

theorem sample_append (hcs : ∀ c ∈ cs, isMark c = false) (rest : List Char) :
    sample (cs ++ rest) = cs ++ sample rest := by
  induction cs with
  | nil => rfl
  | cons c cs ih =>
    obtain ⟨hc, hrest⟩ := List.forall_mem_cons.1 hcs
    have hne : c ≠ '\\' := by
      rintro rfl
      exact absurd hc (by decide)
    rw [List.cons_append, sample_cons hne, ih hrest, hc]
    rfl

theorem exists_lowercaseChar_eq (c : Char) :
    ∃ d ds, lowercaseChar c = d :: ds ∧ ∀ e ∈ ds, isMark e = false := by
  unfold lowercaseChar
  split
  · exact ⟨_, [], rfl, List.forall_mem_nil _⟩
  · split
    · exact ⟨_, _, rfl, List.forall_mem_singleton.2 (by decide)⟩
    · exact ⟨_, [], rfl, List.forall_mem_nil _⟩

/-- It is the same to take a sample of a text and of its lower case. -/
theorem sample_flatMap_lowercaseChar (cs : List Char) :
    sample (cs.flatMap lowercaseChar) = (sample cs).flatMap lowercaseChar := by
  induction cs using backslash_induction with
  | nil => rfl
  | lone => rfl
  | pair c rest ih =>
    obtain ⟨d, ds, hlower, hds⟩ := exists_lowercaseChar_eq c
    have hmark : lowercaseChar '\\' = ['\\'] := rfl
    rw [sample_backslash_cons, List.flatMap_cons, List.flatMap_cons, List.flatMap_cons, hmark, hlower,
      List.singleton_append, List.cons_append, sample_backslash_cons, sample_append hds, ih]
    rfl
  | cons c rest hc ih =>
    rw [sample_cons hc, List.flatMap_cons, List.flatMap_cons, ← ih]
    cases hmark : isMark c with
    | true =>
      have hdash : lowercaseChar '-' = ['-'] := rfl
      rw [(endsWord_of_isMark hmark).stays.2, if_pos rfl, hdash, List.singleton_append,
        List.singleton_append, sample_cons hc, hmark, if_pos rfl]
    | false => exact sample_append (fun d => not_isMark_of_mem_lowercaseChar hmark) _

theorem mem_sample {e : Char} (he : e ∈ sample cs) : e ∈ cs ∨ e = '-' ∨ e = '%' := by
  induction cs using backslash_induction with
  | nil => exact .inl he
  | lone => exact .inr (.inr (List.mem_singleton.1 he))
  | pair c rest ih =>
    rcases List.mem_cons.1 he with rfl | hmem
    · simp
    · exact (ih hmem).imp_left fun h => List.mem_cons_of_mem _ (List.mem_cons_of_mem _ h)
  | cons c rest hc ih =>
    rw [sample_cons hc] at he
    rcases List.mem_cons.1 he with rfl | hmem
    · split
      · exact .inr (.inl rfl)
      · exact .inl List.mem_cons_self
    · exact (ih hmem).imp_left fun h => List.mem_cons_of_mem _ h

/-- A search for a text that does not stand for itself finds a text in which it does not occur. -/
theorem exists_fitsFolded_not_occursFolded {needle : String} (hneedle : isPlain needle = false) :
    ∃ text, fitsFolded (around needle) text ∧ occursFolded needle text = false := by
  let name := sample (settled [] needle.toList)
  have hname : lowercase name = sample (lowercase needle.toList) := by
    have hsigma : capitalSigma ∉ name := by
      intro hmem
      rcases mem_sample hmem with h | h | h
      · exact capitalSigma_not_mem_settled [] _ h
      · exact absurd h (by decide)
      · exact absurd h (by decide)
    rw [lowercase, lowercaseAfter_eq_flatMap, settled_eq_self [] hsigma, lowercase,
      lowercaseAfter_eq_flatMap, sample_flatMap_lowercaseChar]
  refine ⟨String.ofList name, ?_, ?_⟩
  · rw [fitsFolded, lowercase_around, String.toList_ofList, hname]
    exact fits_stretch.2 ⟨_, List.suffix_refl _, fits_sample _⟩
  · rw [occursFolded, String.toList_ofList, hname, ← Bool.not_eq_true, occurs_iff]
    intro hwithin
    -- A sample is not longer than the text, so the text would be all of it.
    have hsame := hwithin.eq_of_length (le_antisymm hwithin.length_le (length_sample_le _))
    have hplain : ∀ c ∈ needle.toList, isMark c = false := by
      intro c hmem
      by_contra hc
      rw [Bool.not_eq_false] at hc
      rw [not_isMark_of_sample_eq hsame.symm c ((mem_lowercaseAfter_iff hc).2 hmem)] at hc
      exact Bool.false_ne_true hc
    have htrue : isPlain needle := by simpa [isPlain] using hplain
    exact Bool.false_ne_true (hneedle.symm.trans htrue)

end Like

/-! ### Tests of a listing -/

theorem inOrder_isEq {α : Type} (lt : α → α → Bool) (a b : α) :
    (inOrder lt a b).isEq = (!lt a b && !lt b a) := by
  unfold inOrder
  cases lt a b <;> cases lt b a <;> rfl

theorem Test.holds_equal_text {row : Row} {column s : String} (hrow : row.value column = .text s)
    (t : String) : (Test.compare column .equal (.bound (.text t))).holds row = decide (s = t) := by
  have hholds : (Test.compare column .equal (.bound (.text t))).holds row =
      (inOrder (fun a b : String => decide (a < b)) s t).isEq := by
    rw [Test.holds, hrow]
    rfl
  rw [hholds, inOrder_isEq, Bool.eq_iff_iff]
  simp only [Bool.and_eq_true, Bool.not_eq_true', decide_eq_false_iff_not, decide_eq_true_eq, not_lt]
  exact ⟨fun h => le_antisymm h.2 h.1, fun h => ⟨h.ge, h.le⟩⟩

theorem Test.holds_equal_boolean {row : Row} {column : String} {b : Bool}
    (hrow : row.value column = .boolean b) (b' : Bool) :
    (Test.compare column .equal (.bound (.boolean b'))).holds row = decide (b = b') := by
  rw [Test.holds, hrow]
  cases b <;> cases b' <;> rfl

theorem all_map_toList {α β : Type} (o : Option α) (f : α → β) (q : β → Bool) :
    (o.toList.map f).all q = o.all fun a => q (f a) := by
  cases o <;> simp

namespace PolicyTable

variable {tenant : TenantId} {l : Listing} {p : Policy}

/-- Whether the row of a policy passes the tests of a listing. -/
def selects (tenant : TenantId) (l : Listing) (p : Policy) : Bool :=
  (listingTests tenant l).all (·.holds (rowOf p))

theorem holds_isOf (tenant : TenantId) (p : Policy) :
    (isOf tenant).holds (rowOf p) = decide (p.tenant = tenant) := by
  rw [isOf, Test.holds_equal_text rfl, decide_eq_decide]
  obtain ⟨text⟩ := tenant
  cases p.tenant
  simp

/-- The tests of a listing are those that the listing makes itself, but for the text. -/
theorem selects_eq (tenant : TenantId) (l : Listing) (p : Policy) :
    selects tenant l p = (decide (p.tenant = tenant) && l.kind.all (p.kind = ·) &&
      l.enabled.all (p.enabled = ·) && l.search.all fun text =>
        Like.fitsFolded (Like.around text) p.name || Like.fitsFolded (Like.around text) p.description) := by
  have hkind (kind : PolicyKind) : (Test.compare "policy_type" .equal (.bound (.text kind.word))).holds
      (rowOf p) = decide (p.kind = kind) := by
    rw [Test.holds_equal_text rfl, decide_eq_decide]
    refine ⟨fun h => ?_, fun h => congrArg _ h⟩
    have hword := PolicyKind.ofWord?_word p.kind
    rw [h, PolicyKind.ofWord?_word] at hword
    exact (Option.some.inj hword).symm
  have hsearch (text : String) : (Test.resembles ["name", "description"] ("%" ++ text ++ "%")).holds
      (rowOf p) = (Like.fitsFolded (Like.around text) p.name ||
        Like.fitsFolded (Like.around text) p.description) := by
    rw [Test.holds, List.any_cons, List.any_cons, List.any_nil, Bool.or_false]
    rfl
  rw [selects, listingTests, List.all_append, List.all_append, List.all_cons, holds_isOf,
    all_map_toList, all_map_toList, all_map_toList]
  simp only [hkind, hsearch, Test.holds_equal_boolean (rfl : (rowOf p).value "enabled" = _)]

theorem accepts_eq (l : Listing) (p : Policy) : l.accepts p = (l.kind.all (p.kind = ·) &&
    l.enabled.all (p.enabled = ·) && l.search.all fun text =>
      Text.occursFolded text p.name || Text.occursFolded text p.description) := rfl

/-- The listing that searches for the same text, written as it has to be in a pattern. -/
def escapedSearch (l : Listing) : Listing := { l with search := l.search.map Like.escaped }

theorem selects_escapedSearch (tenant : TenantId) (l : Listing) (p : Policy) :
    selects tenant (escapedSearch l) p = (decide (p.tenant = tenant) && l.accepts p) := by
  have hsearch : ((escapedSearch l).search.all fun text =>
      Like.fitsFolded (Like.around text) p.name || Like.fitsFolded (Like.around text) p.description) =
      l.search.all fun text => Text.occursFolded text p.name || Text.occursFolded text p.description := by
    rw [escapedSearch, Option.all_map]
    simp only [Like.fitsFolded_around_escaped]
  rw [selects_eq, hsearch, accepts_eq, Bool.and_assoc, Bool.and_assoc, Bool.and_assoc]
  rfl

theorem escapedSearch_eq_self (hplain : ∀ text ∈ l.search, Like.isPlain text) :
    escapedSearch l = l := by
  have hsearch : l.search.map Like.escaped = l.search := by
    cases hl : l.search with
    | none => rfl
    | some text => rw [Option.map_some, Like.escaped_of_isPlain (hplain text hl)]
  rw [escapedSearch, hsearch]

theorem selects_of_accepts (hliteral : ∀ text ∈ l.search, '\\' ∉ text.toList)
    (htenant : p.tenant = tenant) (haccepts : l.accepts p) : selects tenant l p := by
  rw [accepts_eq, Bool.and_eq_true] at haccepts
  obtain ⟨hchosen, hmentions⟩ := haccepts
  have hfits : l.search.all fun text => Like.fitsFolded (Like.around text) p.name ||
      Like.fitsFolded (Like.around text) p.description := by
    rw [Option.all_eq_true] at hmentions ⊢
    intro text htext
    have hmention := hmentions text htext
    rw [Bool.or_eq_true] at hmention ⊢
    exact hmention.imp (Like.fitsFolded_of_occursFolded (hliteral text htext))
      (Like.fitsFolded_of_occursFolded (hliteral text htext))
  rw [selects_eq, Bool.and_assoc (decide _), hchosen, hfits, decide_eq_true htenant]
  rfl

/-- If there is something to escape, the row of some policy is selected that the listing does not want. -/
theorem exists_selects_not_accepts {text : String} (htext : text ∈ l.search)
    (hmarks : Like.isPlain text = false) (tenant : TenantId) :
    ∃ p : Policy, p.tenant = tenant ∧ selects tenant l p ∧ l.accepts p = false := by
  obtain ⟨name, hfits, hoccurs⟩ := Like.exists_fitsFolded_not_occursFolded hmarks
  let p : Policy := { draftedRule with
    tenant := tenant, name := name, description := name
    kind := l.kind.getD .content, enabled := l.enabled.getD true }
  have hkind : l.kind.all (p.kind = ·) := by
    change l.kind.all fun kind => l.kind.getD .content = kind
    cases l.kind <;> simp
  have henabled : l.enabled.all (p.enabled = ·) := by
    change l.enabled.all fun enabled => l.enabled.getD true = enabled
    cases l.enabled <;> simp
  have hsearch : l.search = some text := htext
  refine ⟨p, rfl, ?_, ?_⟩
  · rw [selects_eq, hkind, henabled, hsearch, Option.all_some]
    simp [p, hfits]
  · rw [accepts_eq, hsearch, Option.all_some]
    simp [p, hoccurs]

/-- A listing selects exactly what it wants, whatever the policies are, if and only if there is nothing in its
text to escape. With the text escaped it always would, and without a backslash in the text it selects at least
what it wants. -/
theorem selects_wanted (tenant : TenantId) (l : Listing) :
    ((∀ p, selects tenant l p ↔ p.tenant = tenant ∧ l.accepts p) ↔
      ∀ text ∈ l.search, Like.isPlain text) ∧
    (∀ p, selects tenant (escapedSearch l) p ↔ p.tenant = tenant ∧ l.accepts p) ∧
    ((∀ text ∈ l.search, '\\' ∉ text.toList) →
      ∀ p, p.tenant = tenant ∧ l.accepts p → selects tenant l p) := by
  have hescaped (p : Policy) : selects tenant (escapedSearch l) p ↔ p.tenant = tenant ∧ l.accepts p := by
    rw [selects_escapedSearch, Bool.and_eq_true, decide_eq_true_eq]
  refine ⟨⟨fun hagrees text htext => ?_, fun hplain => ?_⟩, hescaped, fun hliteral p hwanted => ?_⟩
  · by_contra hmarks
    rw [Bool.not_eq_true] at hmarks
    obtain ⟨p, -, hselects, hrefused⟩ := exists_selects_not_accepts htext hmarks tenant
    rw [((hagrees p).1 hselects).2] at hrefused
    exact Bool.false_ne_true hrefused.symm
  · rwa [escapedSearch_eq_self hplain] at hescaped
  · exact selects_of_accepts hliteral hwanted.1 hwanted.2

/-- The listing that searches for a text. -/
def searchFor (text : String) : Listing := { ListingQuery.blank with search := some text }.normalize

theorem search_searchFor_card : (searchFor " card NUM").search = some "card NUM" := by decide +kernel

theorem card_selected :
    (∀ text ∈ (searchFor " card NUM").search, Like.isPlain text) ∧
      (∀ text ∈ (searchFor " card NUM").search, '\\' ∉ text.toList) ∧
      (draftedRule.tenant = ⟨"acme"⟩ ∧ (searchFor " card NUM").accepts draftedRule) ∧
      selects ⟨"acme"⟩ (searchFor " card NUM") draftedRule ∧
      ¬ selects ⟨"globex"⟩ (searchFor " card NUM") draftedRule := by
  have hplain : ∀ text ∈ (searchFor " card NUM").search, Like.isPlain text := by
    rw [search_searchFor_card]
    rintro text ⟨⟩
    decide
  have hliteral : ∀ text ∈ (searchFor " card NUM").search, '\\' ∉ text.toList := by
    rw [search_searchFor_card]
    rintro text ⟨⟩
    decide
  have hwanted : draftedRule.tenant = ⟨"acme"⟩ ∧ (searchFor " card NUM").accepts draftedRule :=
    ⟨rfl, by decide +kernel⟩
  have hforeign := (selects_wanted ⟨"globex"⟩ (searchFor " card NUM")).1.2 hplain draftedRule
  exact ⟨hplain, hliteral, hwanted,
    (selects_wanted ⟨"acme"⟩ (searchFor " card NUM")).2.2 hliteral draftedRule hwanted,
    fun hselects => absurd (hforeign.1 hselects).1 (by decide)⟩

/-- An underscore also finds a policy that has another character in its place, and a backslash does not find
the policy that has one. -/
theorem marks_select_others :
    (selects ⟨"acme"⟩ (searchFor "card_numbers") draftedRule = true ∧
      (searchFor "card_numbers").accepts draftedRule = false) ∧
    (selects ⟨"acme"⟩ (searchFor "card\\") { draftedRule with name := "Card\\debit" } = false ∧
      (searchFor "card\\").accepts { draftedRule with name := "Card\\debit" } = true) := by
  decide +kernel

end PolicyTable

end Sql

end Governance
