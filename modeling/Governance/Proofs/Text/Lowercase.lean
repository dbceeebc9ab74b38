import Mathlib.Data.List.Infix
import Governance.Text.Lowercase

/-!
# Lower case in context

What the lower case of a text has to do with that of a stretch of it.
-/

namespace Governance

/-!
## Stretches and what stands around them

A text is put into lower case as a whole, and the lower case of a character is a matter of that character
alone, but for the capital sigma: it hangs on whether a word goes on before and behind it. So the lower
case of a stretch of a text is that of the stretch by itself unless the stretch begins or ends inside a
word next to a sigma.
-/

/-! ### Lower case around characters that end words -/

namespace Text

/-- A character between words: it has no case, is never passed over, and stays as it is. -/
structure EndsWord (c : Char) : Prop where
  stays : c ≠ capitalSigma ∧ lowercaseChar c = [c]
  heeded : isCaseIgnorable c = false
  caseless : isCased c = false

variable {c d : Char} {before cs rest : List Char}

theorem startsCased_cons (c : Char) (cs : List Char) :
    startsCased (c :: cs) = if isCaseIgnorable c then startsCased cs else isCased c := by
  unfold startsCased
  rw [List.dropWhile_cons]
  cases isCaseIgnorable c with
  | true => rw [if_pos rfl, if_pos rfl]
  | false => rw [if_neg Bool.false_ne_true, if_neg Bool.false_ne_true]

theorem EndsWord.startsCased_cons (hc : EndsWord c) (cs : List Char) :
    startsCased (c :: cs) = false := by
  rw [Text.startsCased_cons, hc.heeded, if_neg Bool.false_ne_true, hc.caseless]

theorem EndsWord.startsCased_append (hc : EndsWord c) (cs rest : List Char) :
    startsCased (cs ++ c :: rest) = startsCased cs := by
  induction cs with
  | nil => exact hc.startsCased_cons rest
  | cons d cs ih => rw [List.cons_append, Text.startsCased_cons, Text.startsCased_cons, ih]

/-- A character as its lower case is taken: only a capital sigma hangs on its neighbours, and it is made a small
one first. -/
def settle (before : List Char) (c : Char) (rest : List Char) : Char :=
  if c = capitalSigma then
    Char.ofNat (if startsCased before && !startsCased rest then 0x3C2 else 0x3C3)
  else c

theorem EndsWord.settle_eq (hc : EndsWord c) (before rest : List Char) : settle before c rest = c :=
  if_neg hc.stays.1

theorem settle_congr {before' rest' : List Char} (hbefore : startsCased before = startsCased before')
    (hrest : startsCased rest = startsCased rest') : settle before c rest = settle before' c rest' := by
  rw [settle, settle, hbefore, hrest]

theorem lowercaseAfter_cons (before : List Char) (c : Char) (rest : List Char) :
    lowercaseAfter before (c :: rest) =
      lowercaseChar (settle before c rest) ++ lowercaseAfter (c :: before) rest := by
  have hsmall : lowercaseChar (Char.ofNat 0x3C2) = [Char.ofNat 0x3C2] ∧
      lowercaseChar (Char.ofNat 0x3C3) = [Char.ofNat 0x3C3] := by decide
  rw [lowercaseAfter, settle]
  split
  · split
    · rw [hsmall.1]
    · rw [hsmall.2]
  · rfl

/-- Of what precedes a text only this matters: whether a word goes on. -/
theorem lowercaseAfter_congr {before' : List Char} (h : startsCased before = startsCased before')
    (cs : List Char) : lowercaseAfter before cs = lowercaseAfter before' cs := by
  induction cs generalizing before before' with
  | nil => rfl
  | cons c cs ih =>
    have hnext : startsCased (c :: before) = startsCased (c :: before') := by
      rw [startsCased_cons, startsCased_cons, h]
    rw [lowercaseAfter_cons, lowercaseAfter_cons, ih hnext, settle_congr h rfl]

theorem EndsWord.lowercaseAfter_cons (hc : EndsWord c) (before rest : List Char) :
    lowercaseAfter before (c :: rest) = c :: lowercase rest := by
  have hrest : lowercaseAfter (c :: before) rest = lowercase rest :=
    lowercaseAfter_congr (hc.startsCased_cons before) rest
  rw [Text.lowercaseAfter_cons, hrest, hc.settle_eq, hc.stays.2]
  rfl

theorem EndsWord.lowercaseAfter_append (hc : EndsWord c) (before cs rest : List Char) :
    lowercaseAfter before (cs ++ c :: rest) = lowercaseAfter before cs ++ c :: lowercase rest := by
  induction cs generalizing before with
  | nil => exact hc.lowercaseAfter_cons before rest
  | cons d cs ih =>
    rw [List.cons_append, Text.lowercaseAfter_cons, Text.lowercaseAfter_cons, ih, List.append_assoc,
      settle_congr rfl (hc.startsCased_append cs rest)]

/-- A text without capital sigmas that has the same lower case. -/
def settled (before : List Char) : List Char → List Char
  | [] => []
  | c :: rest => settle before c rest :: settled (c :: before) rest

theorem lowercaseAfter_eq_flatMap (before cs : List Char) :
    lowercaseAfter before cs = (settled before cs).flatMap lowercaseChar := by
  induction cs generalizing before with
  | nil => rfl
  | cons c cs ih => rw [lowercaseAfter_cons, ih, settled, List.flatMap_cons]

theorem capitalSigma_not_mem_settled (before cs : List Char) : capitalSigma ∉ settled before cs := by
  induction cs generalizing before with
  | nil => exact List.not_mem_nil
  | cons c cs ih =>
    rw [settled, List.mem_cons, not_or]
    refine ⟨?_, ih _⟩
    unfold settle
    split
    · split <;> decide
    · rename_i hc
      exact Ne.symm hc

theorem settled_eq_self (before : List Char) (hcs : capitalSigma ∉ cs) : settled before cs = cs := by
  induction cs generalizing before with
  | nil => rfl
  | cons c cs ih =>
    rw [List.mem_cons, not_or] at hcs
    rw [settled, settle, if_neg (Ne.symm hcs.1), ih _ hcs.2]

/-! ### Stretches of a text -/

/-- The lower case of a stretch of a text; `before` is what precedes it, nearest first, and `after` what
follows. -/
def lowercaseBetween (before after : List Char) : List Char → List Char
  | [] => []
  | c :: cs =>
    lowercaseChar (settle before c (cs ++ after)) ++ lowercaseBetween (c :: before) after cs

theorem lowercaseBetween_append (before after cs ds : List Char) :
    lowercaseBetween before after (cs ++ ds) =
      lowercaseBetween before (ds ++ after) cs ++
        lowercaseBetween (cs.reverse ++ before) after ds := by
  induction cs generalizing before with
  | nil => rfl
  | cons c cs ih =>
    rw [List.cons_append, lowercaseBetween, lowercaseBetween, ih, List.append_assoc cs ds after,
      List.reverse_cons, List.append_assoc cs.reverse, List.singleton_append, List.append_assoc]

theorem lowercaseAfter_eq_between (before cs : List Char) :
    lowercaseAfter before cs = lowercaseBetween before [] cs := by
  induction cs generalizing before with
  | nil => rfl
  | cons c cs ih => rw [lowercaseAfter_cons, lowercaseBetween, ih, List.append_nil]

theorem lowercase_append_append (before cs after : List Char) :
    ∃ first last, lowercase (before ++ cs ++ after) =
      first ++ lowercaseBetween before.reverse after cs ++ last := by
  rw [lowercase, lowercaseAfter_eq_between, lowercaseBetween_append, lowercaseBetween_append,
    List.append_nil, List.append_nil]
  exact ⟨_, _, rfl⟩

/-! ### Stretches that have one lower case -/

/-- Whether a stretch tells if a case follows where it begins, whatever stands behind it: it has a
character that is not passed over. -/
def isTelling (cs : List Char) : Bool := !cs.all isCaseIgnorable

theorem startsCased_append (cs rest : List Char) :
    startsCased (cs ++ rest) = if isTelling cs then startsCased cs else startsCased rest := by
  induction cs with
  | nil => rfl
  | cons c cs ih =>
    rw [List.cons_append, startsCased_cons, startsCased_cons, ih, isTelling, isTelling, List.all_cons]
    cases isCaseIgnorable c <;> simp

theorem startsCased_of_not_isTelling (h : isTelling cs = false) : startsCased cs = false := by
  rw [← List.append_nil cs, startsCased_append, h]
  rfl

theorem isTelling_of_startsCased (h : startsCased cs = true) : isTelling cs = true := by
  cases htelling : isTelling cs with
  | true => rfl
  | false => exact absurd ((startsCased_of_not_isTelling htelling).symm.trans h) Bool.false_ne_true

/-- Whether a capital sigma has one lower case whatever stands around the text that it is in. -/
def fixesSigma (before rest : List Char) : Bool :=
  startsCased rest || (isTelling before && (!startsCased before || isTelling rest))

/-- Whether every capital sigma in the rest of a text has one lower case whatever stands around the text;
`before` is what precedes the rest, nearest first. -/
def isSteadyAfter (before : List Char) : List Char → Bool
  | [] => true
  | c :: rest => (c ≠ capitalSigma || fixesSigma before rest) && isSteadyAfter (c :: before) rest

/-- Whether a text has the same lower case wherever it stands. -/
def isSteady (cs : List Char) : Bool := isSteadyAfter [] cs

theorem isSteadyAfter_of_not_mem (hcs : capitalSigma ∉ cs) (before : List Char) :
    isSteadyAfter before cs = true := by
  induction cs generalizing before with
  | nil => rfl
  | cons c cs ih =>
    rw [List.mem_cons, not_or] at hcs
    simp [isSteadyAfter, Ne.symm hcs.1, ih hcs.2]

theorem settle_of_fixesSigma (h : fixesSigma before rest = true) (outer after : List Char) :
    settle (before ++ outer) capitalSigma (rest ++ after) = settle before capitalSigma rest := by
  have hfinal : (startsCased (before ++ outer) && !startsCased (rest ++ after)) =
      (startsCased before && !startsCased rest) := by
    rw [fixesSigma, Bool.or_eq_true, Bool.and_eq_true, Bool.or_eq_true] at h
    rcases h with hrest | ⟨hbefore, hnone | hrest⟩
    · simp [startsCased_append rest, isTelling_of_startsCased hrest, hrest]
    · simp only [Bool.not_eq_true'] at hnone
      simp [startsCased_append before, hbefore, hnone]
    · simp [startsCased_append, hbefore, hrest]
  rw [settle, settle, hfinal]

theorem lowercaseBetween_of_isSteadyAfter (hsteady : isSteadyAfter before cs = true)
    (outer after : List Char) :
    lowercaseBetween (before ++ outer) after cs = lowercaseBetween before [] cs := by
  induction cs generalizing before with
  | nil => rfl
  | cons c cs ih =>
    rw [isSteadyAfter, Bool.and_eq_true] at hsteady
    obtain ⟨hc, hrest⟩ := hsteady
    have hsettle : settle (before ++ outer) c (cs ++ after) = settle before c cs := by
      by_cases hsigma : c = capitalSigma
      · subst hsigma
        exact settle_of_fixesSigma (by simpa using hc) outer after
      · rw [settle, settle, if_neg hsigma, if_neg hsigma]
    have hih := ih hrest
    rw [List.cons_append] at hih
    rw [lowercaseBetween, lowercaseBetween, hsettle, hih, List.append_nil]

/-- What has the same lower case wherever it stands is found wherever it stands. -/
theorem occurs_lowercase_of_isSteady {needle text : List Char} (hsteady : isSteady needle = true)
    (hwithin : needle <:+: text) : occurs (lowercase needle) (lowercase text) = true := by
  obtain ⟨before, after, rfl⟩ := hwithin
  obtain ⟨first, last, hlower⟩ := lowercase_append_append before needle after
  have hneedle : lowercaseBetween before.reverse after needle = lowercase needle := by
    rw [lowercase, lowercaseAfter_eq_between]
    exact lowercaseBetween_of_isSteadyAfter hsteady before.reverse after
  rw [occurs_iff, hlower, hneedle]
  exact ⟨first, last, rfl⟩

/-! ### Stretches that have another lower case in some text -/

/-- The two lower cases of the capital sigma. -/
def smallSigma : Char := Char.ofNat 0x3C3

def finalSigma : Char := Char.ofNat 0x3C2

/-- Around a stretch it is at least as often the end of a word in the second place as in the first. -/
structure EndsMore (before after before' after' : List Char) : Prop where
  before : startsCased before = true → startsCased before' = true
  after : startsCased after' = true → startsCased after = true

variable {after before' after' : List Char}

theorem EndsMore.cons (h : EndsMore before after before' after') (c : Char) :
    EndsMore (c :: before) after (c :: before') after' := by
  refine ⟨?_, h.after⟩
  rw [startsCased_cons, startsCased_cons]
  split
  · exact h.before
  · exact id

theorem EndsMore.append (h : EndsMore before after before' after') (cs : List Char) :
    EndsMore before (cs ++ after) before' (cs ++ after') := by
  refine ⟨h.before, ?_⟩
  rw [startsCased_append, startsCased_append]
  split
  · exact id
  · exact h.after

theorem EndsMore.settle_cases (h : EndsMore before after before' after') (c : Char) :
    settle before c after = settle before' c after' ∨
      settle before c after = smallSigma ∧ settle before' c after' = finalSigma := by
  obtain ⟨hbefore, hafter⟩ := h
  unfold settle
  split
  · cases hb : startsCased before <;> cases hb' : startsCased before' <;>
      cases ha : startsCased after <;> cases ha' : startsCased after' <;>
      simp_all [smallSigma, finalSigma]
  · exact .inl rfl

theorem EndsMore.count_settle (h : EndsMore before after before' after') (c : Char) :
    (lowercaseChar (settle before c after)).count finalSigma ≤
        (lowercaseChar (settle before' c after')).count finalSigma ∧
      (lowercaseChar (settle before' c after')).count smallSigma ≤
        (lowercaseChar (settle before c after)).count smallSigma := by
  rcases h.settle_cases c with heq | ⟨hsmall, hfinal⟩
  · rw [heq]
    exact ⟨Nat.le_refl _, Nat.le_refl _⟩
  · rw [hsmall, hfinal]
    decide

theorem EndsMore.count_between (h : EndsMore before after before' after') (cs : List Char) :
    (lowercaseBetween before after cs).count finalSigma ≤
        (lowercaseBetween before' after' cs).count finalSigma ∧
      (lowercaseBetween before' after' cs).count smallSigma ≤
        (lowercaseBetween before after cs).count smallSigma := by
  induction cs generalizing before before' with
  | nil => exact ⟨Nat.le_refl _, Nat.le_refl _⟩
  | cons c cs ih =>
    obtain ⟨hfinal, hsmall⟩ := (h.append cs).count_settle c
    obtain ⟨hfinals, hsmalls⟩ := ih (h.cons c)
    simp only [lowercaseBetween, List.count_append]
    omega

/-- A sigma that is a final one only in the second place makes a difference. -/
theorem EndsMore.count_lt (h : EndsMore before after before' after') (first rest : List Char)
    (hsmall : settle (first.reverse ++ before) capitalSigma (rest ++ after) = smallSigma)
    (hfinal : settle (first.reverse ++ before') capitalSigma (rest ++ after') = finalSigma) :
    (lowercaseBetween before after (first ++ capitalSigma :: rest)).count finalSigma <
        (lowercaseBetween before' after' (first ++ capitalSigma :: rest)).count finalSigma ∧
      (lowercaseBetween before' after' (first ++ capitalSigma :: rest)).count smallSigma <
        (lowercaseBetween before after (first ++ capitalSigma :: rest)).count smallSigma := by
  have hfront := (h.append (capitalSigma :: rest)).count_between first
  have hinside : EndsMore (first.reverse ++ before) after (first.reverse ++ before') after' := by
    refine ⟨?_, h.after⟩
    rw [startsCased_append, startsCased_append]
    split
    · exact id
    · exact h.before
  -- all that stands around the sigma counts the same way
  have hback := (hinside.cons capitalSigma).count_between rest
  have hhere : (lowercaseChar smallSigma).count finalSigma < (lowercaseChar finalSigma).count finalSigma ∧
      (lowercaseChar finalSigma).count smallSigma < (lowercaseChar smallSigma).count smallSigma := by
    decide
  simp only [lowercaseBetween_append, lowercaseBetween, hsmall, hfinal, List.count_append]
  omega

theorem exists_of_not_isSteadyAfter (h : isSteadyAfter before cs = false) :
    ∃ first rest, cs = first ++ capitalSigma :: rest ∧
      fixesSigma (first.reverse ++ before) rest = false := by
  induction cs generalizing before with
  | nil => exact absurd h.symm Bool.false_ne_true
  | cons c cs ih =>
    rw [isSteadyAfter, Bool.and_eq_false_iff] at h
    rcases h with hc | hrest
    · rw [Bool.or_eq_false_iff, decide_eq_false_iff_not, Decidable.not_not] at hc
      obtain ⟨rfl, hfixes⟩ := hc
      exact ⟨[], cs, rfl, hfixes⟩
    · obtain ⟨first, rest, rfl, hfixes⟩ := ih hrest
      refine ⟨c :: first, rest, rfl, ?_⟩
      rw [List.reverse_cons, List.append_assoc]
      exact hfixes

/-- A text is hidden behind a letter if a sigma in it was not known to follow one. -/
theorem not_occurs_cons {first rest : List Char} (hfirst : isTelling first.reverse = false)
    (hrest : startsCased rest = false) :
    occurs (lowercase (first ++ capitalSigma :: rest))
      (lowercase ('a' :: (first ++ capitalSigma :: rest))) = false := by
  have hletter : startsCased ['a'] = true := by decide
  have hmore : EndsMore [] [] ['a'] [] := ⟨fun h => absurd h Bool.false_ne_true, id⟩
  have hcount := (hmore.count_lt first rest
    (by simp [settle, startsCased_of_not_isTelling hfirst, smallSigma])
    (by simp [settle, startsCased_append, hfirst, hletter, hrest, finalSigma])).2
  rw [← Bool.not_eq_true, occurs_iff]
  intro hwithin
  -- there are not as many small sigmas as would have to be found
  have hle := hwithin.sublist.count_le smallSigma
  have htext (cs : List Char) :
      lowercaseBetween [] [] ('a' :: cs) = ['a'] ++ lowercaseBetween ['a'] [] cs := rfl
  have hnone : List.count smallSigma ['a'] = 0 := by decide
  rw [lowercase, lowercase, lowercaseAfter_eq_between, lowercaseAfter_eq_between, htext,
    List.count_append, hnone] at hle
  omega

/-- A text is hidden before a letter if a sigma in it was taken for the end of a word. -/
theorem not_occurs_concat {first rest : List Char} (hfirst : startsCased first.reverse = true)
    (hrest : isTelling rest = false) :
    occurs (lowercase (first ++ capitalSigma :: rest))
      (lowercase (first ++ capitalSigma :: rest ++ ['a'])) = false := by
  have hletter : startsCased ['a'] = true := by decide
  have hmore : EndsMore [] ['a'] [] [] := ⟨id, fun h => absurd h Bool.false_ne_true⟩
  have hcount := (hmore.count_lt first rest
    (by simp [settle, startsCased_append, hrest, hletter, smallSigma])
    (by simp [settle, hfirst, startsCased_of_not_isTelling hrest, finalSigma])).1
  rw [← Bool.not_eq_true, occurs_iff]
  intro hwithin
  have hle := hwithin.sublist.count_le finalSigma
  have htext (cs : List Char) :
      lowercaseBetween [] [] (cs ++ ['a']) = lowercaseBetween [] ['a'] cs ++ ['a'] := by
    rw [lowercaseBetween_append]
    rfl
  have hnone : List.count finalSigma ['a'] = 0 := by decide
  rw [lowercase, lowercase, lowercaseAfter_eq_between, lowercaseAfter_eq_between, htext,
    List.count_append, hnone] at hle
  omega

/-- What has another lower case somewhere is not found everywhere. -/
theorem exists_not_occurs_of_not_isSteady {needle : List Char} (h : isSteady needle = false) :
    ∃ text, needle <:+: text ∧ occurs (lowercase needle) (lowercase text) = false := by
  obtain ⟨first, rest, rfl, hfixes⟩ := exists_of_not_isSteadyAfter h
  rw [List.append_nil, fixesSigma, Bool.or_eq_false_iff, Bool.and_eq_false_iff,
    Bool.or_eq_false_iff, Bool.not_eq_false'] at hfixes
  -- either what precedes the sigma or what follows it is left open by the text itself
  obtain ⟨hrest, hfirst | ⟨hfirst, hbehind⟩⟩ := hfixes
  · exact ⟨_, List.infix_cons (List.infix_refl _), not_occurs_cons hfirst hrest⟩
  · exact ⟨_, List.infix_append' [] _ _, not_occurs_concat hfirst hbehind⟩

/-- A text is found wherever it stands exactly if it has the same lower case wherever it stands. -/
theorem isSteady_iff {needle : List Char} : isSteady needle = true ↔
    ∀ text, needle <:+: text → occurs (lowercase needle) (lowercase text) = true := by
  refine ⟨fun hsteady text => occurs_lowercase_of_isSteady hsteady, fun hfound => ?_⟩
  cases hsteady : isSteady needle with
  | true => rfl
  | false =>
    obtain ⟨text, hwithin, hmissed⟩ := exists_not_occurs_of_not_isSteady hsteady
    exact (hfound text hwithin).symm.trans hmissed |>.symm

end Text

end Governance

namespace Governance.Text

/-!
## Texts with other texts around them

Whatever is put around a text, a word that stands in its lower case stands in the lower case of the whole, as
long as the word has no sigma: the two small sigmas are all that the lower case of a stretch leaves open. Nor
do occurrences that do not overlap become fewer. One that begins in front of the text can take the place of the
first one in it, but of no more than that one.
-/

variable {needle before after cs : List Char}

/-! ### Counting in longer texts -/

/-- To go on counting later costs occurrences, but only one if no more is passed over than one takes. -/
theorem countFrom_mono_and_le (needle cs : List Char) :
    (∀ sooner later, sooner ≤ later → countFrom needle later cs ≤ countFrom needle sooner cs) ∧
      ∀ skip ≤ needle.length - 1, countFrom needle 0 cs ≤ 1 + countFrom needle skip cs := by
  induction cs with
  | nil => exact ⟨fun _ _ _ => Nat.le_refl _, fun _ _ => Nat.zero_le _⟩
  | cons c cs ih =>
    obtain ⟨hmono, hle⟩ := ih
    have hmore := hle (needle.length - 1) (Nat.le_refl _)
    constructor
    · intro sooner later hlater
      cases later with
      | zero => rw [Nat.le_zero.1 hlater]
      | succ later =>
        cases sooner with
        | succ sooner => exact hmono sooner later (Nat.le_of_succ_le_succ hlater)
        | zero =>
          have hzero := hmono 0 later (Nat.zero_le _)
          rw [countFrom, countFrom]
          split <;> omega
    · intro skip hskip
      cases skip with
      | zero => exact Nat.le_add_left _ _
      | succ skip =>
        have hnext := hle skip (by omega)
        have hpassed := hmono skip (needle.length - 1) (by omega)
        rw [countFrom, countFrom]
        split <;> omega

theorem countFrom_le_append (needle after : List Char) (skip : Nat) (cs : List Char) :
    countFrom needle skip cs ≤ countFrom needle skip (cs ++ after) := by
  induction cs generalizing skip with
  | nil => exact Nat.zero_le _
  | cons c cs ih =>
    cases skip with
    | succ skip => exact ih skip
    | zero =>
      have hmore := (countFrom_mono_and_le needle (cs ++ after)).2 _ (Nat.le_refl _)
      have hhere := ih 0
      have hpassed := ih (needle.length - 1)
      rw [List.cons_append, countFrom, countFrom, ← List.cons_append]
      split
      · rename_i hprefix
        have hlonger : needle.isPrefixOf (c :: cs ++ after) = true := by
          rw [List.isPrefixOf_iff_prefix] at hprefix ⊢
          exact hprefix.trans (List.prefix_append _ _)
        rw [if_pos hlonger]
        omega
      · split <;> omega

theorem count_le_append (needle before cs : List Char) : count needle cs ≤ count needle (before ++ cs) := by
  induction before with
  | nil => exact Nat.le_refl _
  | cons c before ih =>
    have hmore := (countFrom_mono_and_le needle (before ++ cs)).2 _ (Nat.le_refl _)
    rw [count, count] at ih
    rw [count, count, List.cons_append, countFrom]
    split <;> omega

theorem count_le_around (needle before cs after : List Char) :
    count needle cs ≤ count needle (before ++ cs ++ after) :=
  (count_le_append needle before cs).trans (countFrom_le_append needle after 0 _)

/-! ### Lower case but for the two small sigmas -/

/-- The two small sigmas made one. -/
def uniteSigmas (c : Char) : Char := if c = finalSigma then smallSigma else c

/-- A text with neither of the small sigmas. -/
def LacksSigma (cs : List Char) : Prop := ∀ c ∈ cs, c ≠ smallSigma ∧ c ≠ finalSigma

instance (cs : List Char) : Decidable (LacksSigma cs) :=
  List.decidableBAll (fun c => c ≠ smallSigma ∧ c ≠ finalSigma) cs

theorem map_lowercaseChar_settle (before : List Char) (c : Char) (rest : List Char) :
    (lowercaseChar (settle before c rest)).map uniteSigmas =
      if c = capitalSigma then [smallSigma] else (lowercaseChar c).map uniteSigmas := by
  have hsigmas : (lowercaseChar (Char.ofNat 0x3C2)).map uniteSigmas = [smallSigma] ∧
      (lowercaseChar (Char.ofNat 0x3C3)).map uniteSigmas = [smallSigma] := by decide
  unfold settle
  split
  · split
    · exact hsigmas.1
    · exact hsigmas.2
  · rfl

/-- The lower case of a stretch does not hang on what stands around it once its small sigmas are one. -/
theorem map_lowercaseBetween (before after before' after' cs : List Char) :
    (lowercaseBetween before after cs).map uniteSigmas =
      (lowercaseBetween before' after' cs).map uniteSigmas := by
  induction cs generalizing before before' with
  | nil => rfl
  | cons c cs ih =>
    rw [lowercaseBetween, lowercaseBetween, List.map_append, List.map_append, map_lowercaseChar_settle,
      map_lowercaseChar_settle, ih]

theorem isPrefixOf_map_uniteSigmas (hneedle : LacksSigma needle) (cs : List Char) :
    needle.isPrefixOf (cs.map uniteSigmas) = needle.isPrefixOf cs := by
  induction needle generalizing cs with
  | nil => rfl
  | cons d needle ih =>
    cases cs with
    | nil => rfl
    | cons c cs =>
      obtain ⟨⟨hsmall, hfinal⟩, hrest⟩ := List.forall_mem_cons.1 hneedle
      have hhead : (d == uniteSigmas c) = (d == c) := by
        unfold uniteSigmas
        split
        · rename_i hc
          rw [hc, beq_eq_false_iff_ne.2 hsmall, beq_eq_false_iff_ne.2 hfinal]
        · rfl
      rw [List.map_cons, List.isPrefixOf, List.isPrefixOf, hhead, ih hrest]

theorem occurs_map_uniteSigmas (hneedle : LacksSigma needle) (cs : List Char) :
    occurs needle (cs.map uniteSigmas) = occurs needle cs := by
  induction cs with
  | nil => rfl
  | cons c cs ih =>
    rw [List.map_cons, occurs, occurs, ← List.map_cons, isPrefixOf_map_uniteSigmas hneedle, ih]

theorem countFrom_map_uniteSigmas (hneedle : LacksSigma needle) (skip : Nat) (cs : List Char) :
    countFrom needle skip (cs.map uniteSigmas) = countFrom needle skip cs := by
  induction cs generalizing skip with
  | nil => rfl
  | cons c cs ih =>
    cases skip with
    | succ skip => exact ih skip
    | zero =>
      rw [List.map_cons, countFrom, countFrom, ← List.map_cons, isPrefixOf_map_uniteSigmas hneedle, ih, ih]

/-! ### Words in the lower case of longer texts -/

theorem exists_lowercase_around (before cs after : List Char) :
    ∃ first within last, lowercase (before ++ cs ++ after) = first ++ within ++ last ∧
      within.map uniteSigmas = (lowercase cs).map uniteSigmas := by
  obtain ⟨first, last, hlower⟩ := lowercase_append_append before cs after
  refine ⟨first, _, last, hlower, ?_⟩
  rw [lowercase, lowercaseAfter_eq_between]
  exact map_lowercaseBetween _ _ _ _ cs

theorem occurs_lowercase_around (hneedle : LacksSigma needle) (before after : List Char)
    (h : occurs needle (lowercase cs) = true) :
    occurs needle (lowercase (before ++ cs ++ after)) = true := by
  obtain ⟨first, within, last, hlower, hwithin⟩ := exists_lowercase_around before cs after
  rw [← occurs_map_uniteSigmas hneedle, ← hwithin, occurs_map_uniteSigmas hneedle, occurs_iff] at h
  rw [hlower, occurs_iff]
  exact h.trans ⟨first, last, rfl⟩

theorem count_lowercase_le_around (hneedle : LacksSigma needle) (before cs after : List Char) :
    count needle (lowercase cs) ≤ count needle (lowercase (before ++ cs ++ after)) := by
  obtain ⟨first, within, last, hlower, hwithin⟩ := exists_lowercase_around before cs after
  have hsame : count needle (lowercase cs) = count needle within := by
    rw [count, ← countFrom_map_uniteSigmas hneedle, ← hwithin, countFrom_map_uniteSigmas hneedle, count]
  rw [hsame, hlower]
  exact count_le_around needle first within last

end Governance.Text
