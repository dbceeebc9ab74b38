import Mathlib.Data.List.Basic
import Governance.Pattern.Basic

/-!
# The stretches that a pattern spans

`Spans text p i j` says that the pattern describes the stretch of the text from one position to another. The
search for a pattern carries sets of positions through it and limits the rounds of a repetition by the length
of the text; it finds exactly the positions at which such a stretch can end. A round that rests where it is can
be left out or done again, and among more rounds than the text has characters one rests: so the limit takes
nothing away. Without boundaries a pattern spans a stretch wherever the stretch stands.
-/

namespace Governance.Pattern

/-! ### Steps from position to position -/

/-- Whether a position is reached from another one in so many steps. -/
def Steps (step : Nat → Nat → Prop) : Nat → Nat → Nat → Prop
  | 0, i, j => i = j
  | n + 1, i, j => ∃ k, step i k ∧ Steps step n k j

variable {step : Nat → Nat → Prop} {size m n i j k : Nat}

theorem steps_add : Steps step (m + n) i j ↔ ∃ k, Steps step m i k ∧ Steps step n k j := by
  induction m generalizing i with
  | zero => simp [Steps]
  | succ m ih =>
    rw [Nat.succ_add, Steps]
    simp only [ih, Steps]
    constructor
    · rintro ⟨k, hik, l, hkl, hlj⟩
      exact ⟨l, ⟨k, hik, hkl⟩, hlj⟩
    · rintro ⟨l, ⟨k, hik, hkl⟩, hlj⟩
      exact ⟨k, hik, l, hkl, hlj⟩

theorem steps_self (hrest : step k k) (n : Nat) : Steps step n k k := by
  induction n with
  | zero => rfl
  | succ n ih => exact ⟨k, hrest, ih⟩

/-- Steps that rest where they are or go on, and not beyond the end of a text of that size. -/
def GoesOn (size : Nat) (step : Nat → Nat → Prop) : Prop :=
  ∀ i j, step i j → i = j ∨ i < j ∧ j ≤ size

theorem GoesOn.steps (h : GoesOn size step) (n : Nat) : GoesOn size (Steps step n) := by
  induction n with
  | zero => exact fun i j hij => .inl hij
  | succ n ih =>
    rintro i j ⟨k, hik, hkj⟩
    have hfirst := h i k hik
    have hrest := ih k j hkj
    omega

theorem GoesOn.exists_rest_or_le (h : GoesOn size step) (hsteps : Steps step n i j) :
    (∃ a b k, n = a + 1 + b ∧ Steps step a i k ∧ step k k ∧ Steps step b k j) ∨ i + n ≤ j := by
  induction n generalizing i with
  | zero => exact .inr (Nat.le_of_eq hsteps)
  | succ n ih =>
    obtain ⟨k, hik, hkj⟩ := hsteps
    rcases h i k hik with rfl | ⟨hlt, _⟩
    · exact .inl ⟨0, n, i, by omega, rfl, hik, hkj⟩
    · rcases ih hkj with ⟨a, b, l, hn, hkl, hrest, hlj⟩ | hle
      · exact .inl ⟨a + 1, b, l, by omega, ⟨k, hik, hkl⟩, hrest, hlj⟩
      · exact .inr (by omega)

theorem GoesOn.exists_rest (h : GoesOn size step) (hlong : size < n) (hsteps : Steps step n i j) :
    ∃ a b k, n = a + 1 + b ∧ Steps step a i k ∧ step k k ∧ Steps step b k j := by
  rcases h.exists_rest_or_le hsteps with hrest | hle
  · exact hrest
  · have hend := h.steps n i j hsteps
    omega

/-- More steps than the text has characters can be any number of steps that is not smaller. -/
theorem GoesOn.steps_of_lt (h : GoesOn size step) (hlong : size < n) (hm : size ≤ m)
    (hsteps : Steps step n i j) : Steps step m i j := by
  induction n with
  | zero => exact absurd hlong (Nat.not_lt_zero _)
  | succ n ih =>
    obtain ⟨a, b, k, hn, hik, hrest, hkj⟩ := h.exists_rest hlong hsteps
    by_cases hle : n < m
    · obtain ⟨extra, rfl⟩ : ∃ extra, m = a + (extra + b) := ⟨m - n, by omega⟩
      exact steps_add.2 ⟨k, hik, steps_add.2 ⟨k, steps_self hrest extra, hkj⟩⟩
    · obtain rfl : n = a + b := by omega
      have hshort : Steps step (a + b) i j := steps_add.2 ⟨k, hik, hkj⟩
      rcases Nat.eq_or_lt_of_le (Nat.not_lt.1 hle) with rfl | hlt
      · exact hshort
      · exact ih (by omega) hshort

/-- It does not matter how many rounds beyond the length of the text are made. -/
theorem GoesOn.rounds_suffice (h : GoesOn size step) (allows : Nat → Prop)
    (hallows : ∀ fewer more, fewer ≤ more → allows more → allows fewer) (least : Nat) :
    (∃ extra ≤ size + 2, allows extra ∧ Steps step (min least (size + 2) + extra) i j) ↔
      ∃ extra, allows extra ∧ Steps step (least + extra) i j := by
  constructor
  · rintro ⟨extra, _, hallowed, hsteps⟩
    refine ⟨extra, hallowed, ?_⟩
    by_cases hleast : least ≤ size + 2
    · rwa [Nat.min_eq_left hleast] at hsteps
    · exact h.steps_of_lt (by omega) (by omega) hsteps
  · rintro ⟨extra, hallowed, hsteps⟩
    by_cases hleast : least ≤ size + 2
    · rw [Nat.min_eq_left hleast]
      by_cases hextra : extra ≤ size + 2
      · exact ⟨extra, hextra, hallowed, hsteps⟩
      · exact ⟨size + 2, Nat.le_refl _, hallows _ _ (by omega) hallowed,
          h.steps_of_lt (by omega) (by omega) hsteps⟩
    · exact ⟨0, Nat.zero_le _, hallows _ _ (Nat.zero_le _) hallowed,
        h.steps_of_lt (by omega) (by omega) hsteps⟩

/-! ### Stretches -/

/-- Whether a pattern describes the stretch of a text between two positions. A number of rounds that is below
the least one does not limit anything. -/
def Spans (text : Array Char) : Pattern → Nat → Nat → Prop
  | .empty, i, j => i = j
  | .chars set, i, j => (∃ c, text[i]? = some c ∧ set.holds c = true) ∧ j = i + 1
  | .boundary kind, i, j => kind.holds (charBefore text i) text[i]? = true ∧ i = j
  | .sequence first second, i, j => ∃ k, Spans text first i k ∧ Spans text second k j
  | .choice first second, i, j => Spans text first i j ∨ Spans text second i j
  | .repeated body least most, i, j =>
    ∃ extra, (∀ bound, most = some bound → extra ≤ bound - least) ∧
      Steps (Spans text body) (least + extra) i j

theorem goesOn_spans (text : Array Char) (p : Pattern) : GoesOn text.size (Spans text p) := by
  induction p with
  | empty => exact fun i j hij => .inl hij
  | chars set =>
    rintro i j ⟨⟨c, hc, _⟩, rfl⟩
    have hi := (Array.getElem?_eq_some_iff.1 hc).1
    omega
  | boundary kind => exact fun i j hij => .inl hij.2
  | sequence first second ihfirst ihsecond =>
    rintro i j ⟨k, hik, hkj⟩
    have hfirst := ihfirst i k hik
    have hsecond := ihsecond k j hkj
    omega
  | choice first second ihfirst ihsecond =>
    rintro i j (hij | hij)
    · exact ihfirst i j hij
    · exact ihsecond i j hij
  | repeated body least most ih =>
    rintro i j ⟨extra, _, hsteps⟩
    exact ih.steps _ i j hsteps

/-! ### Sets of positions -/

/-- A function on sets of positions that takes a step from each of them. -/
def TakesStep (f : List Nat → List Nat) (step : Nat → Nat → Prop) : Prop :=
  ∀ starts j, j ∈ f starts ↔ ∃ i ∈ starts, step i j

theorem mem_mergePositions {left right : List Nat} {fuel : Nat}
    (hfuel : left.length + right.length < fuel) :
    i ∈ mergePositions fuel left right ↔ i ∈ left ∨ i ∈ right := by
  induction fuel generalizing left right with
  | zero => exact absurd hfuel (Nat.not_lt_zero _)
  | succ fuel ih =>
    cases left with
    | nil => simp [mergePositions]
    | cons a left =>
      cases right with
      | nil => simp [mergePositions]
      | cons b right =>
        simp only [List.length_cons] at hfuel
        rw [mergePositions, List.mem_cons, List.mem_cons]
        split
        · rw [List.mem_cons, ih (by simp only [List.length_cons]; omega), List.mem_cons, or_assoc]
        split
        · rw [List.mem_cons, ih (by simp only [List.length_cons]; omega), List.mem_cons]
          tauto
        · obtain rfl : a = b := by omega
          rw [List.mem_cons, ih (by omega)]
          tauto

theorem mem_unite {left right : List Nat} : i ∈ unite left right ↔ i ∈ left ∨ i ∈ right :=
  mem_mergePositions (Nat.lt_succ_self _)

namespace TakesStep

variable {f : List Nat → List Nat}

theorem iterate (h : TakesStep f step) (n : Nat) : TakesStep (Pattern.iterate f n) (Steps step n) := by
  induction n with
  | zero => exact fun starts j => by simp [Pattern.iterate, Steps]
  | succ n ih =>
    intro starts j
    rw [Pattern.iterate, ih]
    constructor
    · rintro ⟨k, hk, hkj⟩
      obtain ⟨i, hi, hik⟩ := (h starts k).1 hk
      exact ⟨i, hi, k, hik, hkj⟩
    · rintro ⟨i, hi, k, hik, hkj⟩
      exact ⟨k, (h starts k).2 ⟨i, hi, hik⟩, hkj⟩

/-- Whatever is put into the closure is reached from a position that was seen. -/
theorem exists_of_mem_closure (h : TakesStep f step) {count : Nat} {seen fresh : List Nat}
    (hfresh : fresh ⊆ seen) (hj : j ∈ closure f count seen fresh) :
    ∃ n ≤ count, ∃ i ∈ seen, Steps step n i j := by
  induction count generalizing seen fresh with
  | zero => exact ⟨0, Nat.le_refl _, j, hj, rfl⟩
  | succ count ih =>
    rw [closure] at hj
    split at hj
    · exact ⟨0, Nat.zero_le _, j, hj, rfl⟩
    · obtain ⟨n, hn, k, hk, hkj⟩ := ih (fun k hk => mem_unite.2 (.inr hk)) hj
      rcases mem_unite.1 hk with hseen | hnext
      · exact ⟨n, by omega, k, hseen, hkj⟩
      · obtain ⟨i, hi, hik⟩ := (h fresh k).1 (List.mem_filter.1 hnext).1
        exact ⟨n + 1, by omega, i, hfresh hi, k, hik, hkj⟩

/-- The closure misses nothing as long as the steps from positions that are not fresh have been taken. -/
theorem mem_closure_of_steps (h : TakesStep f step) {count : Nat} {seen fresh : List Nat}
    (htaken : ∀ i ∈ seen, i ∉ fresh → ∀ k, step i k → k ∈ seen) (hi : i ∈ seen) (hn : n ≤ count)
    (hsteps : Steps step n i j) : j ∈ closure f count seen fresh := by
  induction count generalizing seen fresh i n with
  | zero =>
    obtain rfl : n = 0 := by omega
    exact hsteps ▸ hi
  | succ count ih =>
    have hnext (i : Nat) (hi : i ∈ seen) (k : Nat) (hik : step i k) :
        k ∈ seen ∨ k ∈ (f fresh).filter fun i => !seen.contains i := by
      by_cases hk : k ∈ seen
      · exact .inl hk
      · have hfresh : i ∈ fresh := by
          by_contra hold
          exact hk (htaken i hi hold k hik)
        exact .inr (List.mem_filter.2 ⟨(h fresh k).2 ⟨i, hfresh, hik⟩, by simpa using hk⟩)
    rw [closure]
    split
    · rename_i hempty
      rw [List.isEmpty_iff] at hempty
      -- nothing new is reached from here on
      clear hn
      induction n generalizing i with
      | zero => exact hsteps ▸ hi
      | succ n ihn =>
        obtain ⟨k, hik, hkj⟩ := hsteps
        have hk := hnext i hi k hik
        rw [hempty] at hk
        exact ihn (hk.resolve_right List.not_mem_nil) hkj
    · have htaken' : ∀ i ∈ unite seen ((f fresh).filter fun i => !seen.contains i),
          i ∉ ((f fresh).filter fun i => !seen.contains i) → ∀ k, step i k →
            k ∈ unite seen ((f fresh).filter fun i => !seen.contains i) := by
        intro i hi hold k hik
        exact mem_unite.2 (hnext i ((mem_unite.1 hi).resolve_right hold) k hik)
      cases n with
      | zero => exact ih htaken' (mem_unite.2 (.inl hi)) (Nat.zero_le _) hsteps
      | succ n =>
        obtain ⟨k, hik, hkj⟩ := hsteps
        exact ih htaken' (mem_unite.2 (hnext i hi k hik)) (by omega) hkj

theorem closure (h : TakesStep f step) (count : Nat) :
    TakesStep (fun starts => Pattern.closure f count starts starts)
      fun i j => ∃ n ≤ count, Steps step n i j := by
  intro starts j
  constructor
  · intro hj
    obtain ⟨n, hn, i, hi, hsteps⟩ := h.exists_of_mem_closure (fun _ => id) hj
    exact ⟨i, hi, n, hn, hsteps⟩
  · rintro ⟨i, hi, n, hn, hsteps⟩
    exact h.mem_closure_of_steps (fun i hi hold => absurd hi hold) hi hn hsteps

end TakesStep

theorem TakesStep.rounds {f : List Nat → List Nat} (h : TakesStep f step) (count limit : Nat) :
    TakesStep (fun starts => Pattern.closure f limit (Pattern.iterate f count starts)
        (Pattern.iterate f count starts))
      fun i j => ∃ extra ≤ limit, Steps step (count + extra) i j := by
  intro starts j
  rw [h.closure limit]
  constructor
  · rintro ⟨k, hk, extra, hextra, hkj⟩
    obtain ⟨i, hi, hik⟩ := (h.iterate count starts k).1 hk
    exact ⟨i, hi, extra, hextra, steps_add.2 ⟨k, hik, hkj⟩⟩
  · rintro ⟨i, hi, extra, hextra, hsteps⟩
    obtain ⟨k, hik, hkj⟩ := steps_add.1 hsteps
    exact ⟨k, (h.iterate count starts k).2 ⟨i, hi, hik⟩, extra, hextra, hkj⟩

/-- The positions that are carried through a pattern are those at which a stretch that it describes ends. -/
theorem takesStep_ends (text : Array Char) (p : Pattern) : TakesStep (ends text p) (Spans text p) := by
  induction p with
  | empty => exact fun starts j => by simp [ends, Spans]
  | chars set =>
    intro starts j
    simp only [ends, Spans, List.mem_map, List.mem_filter, Option.any_eq_true]
    constructor
    · rintro ⟨i, ⟨hi, hset⟩, rfl⟩
      exact ⟨i, hi, hset, rfl⟩
    · rintro ⟨i, hi, hset, rfl⟩
      exact ⟨i, ⟨hi, hset⟩, rfl⟩
  | boundary kind =>
    intro starts j
    simp only [ends, Spans, List.mem_filter]
    constructor
    · rintro ⟨hj, hkind⟩
      exact ⟨j, hj, hkind, rfl⟩
    · rintro ⟨i, hi, hkind, rfl⟩
      exact ⟨hi, hkind⟩
  | sequence first second ihfirst ihsecond =>
    intro starts j
    rw [ends, ihsecond]
    constructor
    · rintro ⟨k, hk, hkj⟩
      obtain ⟨i, hi, hik⟩ := (ihfirst starts k).1 hk
      exact ⟨i, hi, k, hik, hkj⟩
    · rintro ⟨i, hi, k, hik, hkj⟩
      exact ⟨k, (ihfirst starts k).2 ⟨i, hi, hik⟩, hkj⟩
  | choice first second ihfirst ihsecond =>
    intro starts j
    rw [ends, mem_unite, ihfirst, ihsecond]
    simp only [Spans, and_or_left, exists_or]
  | repeated body least most ih =>
    intro starts j
    have hgoes := goesOn_spans text body
    cases most with
    | none =>
      have hends := ih.rounds (min least (text.size + 2)) (text.size + 2) starts j
      refine hends.trans (exists_congr fun i => and_congr_right fun _ => ?_)
      have hrounds := hgoes.rounds_suffice (i := i) (j := j) (fun _ => True) (fun _ _ _ => id) least
      simpa [Spans] using hrounds
    | some most =>
      have hends := ih.rounds (min least (text.size + 2)) (min (most - least) (text.size + 2)) starts j
      refine hends.trans (exists_congr fun i => and_congr_right fun _ => ?_)
      have hrounds := hgoes.rounds_suffice (i := i) (j := j) (· ≤ most - least)
        (fun _ _ => Nat.le_trans) least
      simpa [Spans, Nat.le_min, and_assoc, and_left_comm] using hrounds

theorem occursIn_iff {p : Pattern} {text : String} :
    occursIn p text = true ↔ ∃ i j, i ≤ text.toList.length ∧ Spans text.toList.toArray p i j := by
  simp only [occursIn, Bool.not_eq_true', List.isEmpty_eq_false_iff_exists_mem, takesStep_ends _ p _ _,
    List.mem_range, List.size_toArray, Nat.lt_succ_iff]
  exact exists_comm

/-! ### Patterns without boundaries -/

/-- Whether a pattern asks nothing about where a stretch stands. -/
def isPlaceless : Pattern → Bool
  | .empty => true
  | .chars _ => true
  | .boundary _ => false
  | .sequence first second => isPlaceless first && isPlaceless second
  | .choice first second => isPlaceless first && isPlaceless second
  | .repeated body _ _ => isPlaceless body

theorem steps_shift {step' : Nat → Nat → Prop} {offset : Nat}
    (hshift : ∀ i j, step i j → step' (offset + i) (offset + j)) (hsteps : Steps step n i j) :
    Steps step' n (offset + i) (offset + j) := by
  induction n generalizing i with
  | zero => exact congrArg (offset + ·) hsteps
  | succ n ih =>
    obtain ⟨k, hik, hkj⟩ := hsteps
    exact ⟨offset + k, hshift i k hik, ih hkj⟩

theorem spans_shift {p : Pattern} (hp : isPlaceless p = true) (before text after : List Char)
    (hspans : Spans text.toArray p i j) :
    Spans (before ++ text ++ after).toArray p (before.length + i) (before.length + j) := by
  induction p generalizing i j with
  | empty => exact congrArg (before.length + ·) hspans
  | chars set =>
    obtain ⟨⟨c, hc, hset⟩, rfl⟩ := hspans
    refine ⟨⟨c, ?_, hset⟩, rfl⟩
    rw [List.getElem?_toArray] at hc ⊢
    have hi : i < text.length := (List.getElem?_eq_some_iff.1 hc).1
    rw [List.append_assoc, List.getElem?_append_right (Nat.le_add_right _ _), Nat.add_sub_cancel_left,
      List.getElem?_append_left hi, hc]
  | boundary kind => exact absurd hp Bool.false_ne_true
  | sequence first second ihfirst ihsecond =>
    rw [isPlaceless, Bool.and_eq_true] at hp
    obtain ⟨k, hik, hkj⟩ := hspans
    exact ⟨before.length + k, ihfirst hp.1 hik, ihsecond hp.2 hkj⟩
  | choice first second ihfirst ihsecond =>
    rw [isPlaceless, Bool.and_eq_true] at hp
    exact hspans.imp (ihfirst hp.1) (ihsecond hp.2)
  | repeated body least most ih =>
    obtain ⟨extra, hextra, hsteps⟩ := hspans
    exact ⟨extra, hextra, steps_shift (fun i j => ih hp) hsteps⟩

/-- Whatever is put around a text, a pattern without boundaries that occurs in it still occurs. -/
theorem occursIn_around {p : Pattern} (hp : isPlaceless p = true) {text : String} (before after : String)
    (h : occursIn p text = true) : occursIn p (before ++ text ++ after) = true := by
  rw [occursIn_iff] at h ⊢
  obtain ⟨i, j, hi, hspans⟩ := h
  have hshift := spans_shift hp before.toList text.toList after.toList hspans
  rw [String.toList_append, String.toList_append]
  exact ⟨_, _, by simp only [List.length_append]; omega, hshift⟩

end Governance.Pattern
