import Mathlib.Data.List.Nodup
import Governance.Proofs.Decision.Blocking
import Governance.Proofs.Listing.Order
import Governance.Proofs.Program.Runs

/-!
# What a decision means

A policy that matches adds its part to the decision: its name, the reasons of its blocking actions, the
obligations of its actions and the factors by which they change the risk. Nothing else is done to a
decision, and nothing that was added is taken back, so an assessment is what the policies that match
have to say, one behind the other in their order. `Decision.Tells` reads a decision off these policies,
and `ofPolicies_tells` says that every decision can be read so.
-/

namespace Governance

open Json

/-! ### What policies have to say -/

/-- The reason for which a policy blocks: the text `reason` of the action, else its text `message`, else
the name of the policy. -/
def Policy.reasonOf (p : Policy) (a : Action) : String :=
  ((a.text? "reason").or (a.text? "message")).getD p.name

/-- The fields that an action names, as a list or as a single text. -/
def Action.fields (a : Action) : List String :=
  match lookup "fields" a.config with
  | some (.array items) => textsAmong items
  | some (.string field) => [field]
  | _ => []

/-- What an action of a policy obliges whoever lets the request pass to do. -/
def Policy.obligation? (p : Policy) (a : Action) : Option String :=
  match a.kind? with
  | some .block => some ("blocked: " ++ p.reasonOf a)
  | some .redact => some ("redact: " ++ ",".intercalate a.fields)
  | some .route => (a.text? "provider").map ("route: " ++ ·)
  | _ => none

/-- The factor by which an action changes the risk. -/
def Action.factor? (a : Action) : Option Float :=
  if a.kind? = some .modifyRisk then riskModifier? a else none

namespace Policy

def reasons (p : Policy) : List String :=
  (p.actions.filter fun a => a.kind? = some .block).map p.reasonOf

def obligations (p : Policy) : List String := p.actions.filterMap p.obligation?

def factors (p : Policy) : List Float := p.actions.filterMap Action.factor?

end Policy

theorem blockReasonOf_eq (p : Policy) (a : Action) : blockReasonOf p a = p.reasonOf a := by
  unfold blockReasonOf Policy.reasonOf
  cases a.text? "reason" <;> rfl

theorem redactedFields_eq (a : Action) : redactedFields a = ",".intercalate a.fields := by
  unfold redactedFields Action.fields
  cases lookup "fields" a.config with
  | none => rfl
  | some value =>
    cases value with
    | string field => exact String.intercalate_singleton.symm
    | _ => rfl

theorem Policy.reasons_eq_nil {p : Policy} :
    p.reasons = [] ↔ ∀ a ∈ p.actions, a.kind? ≠ some .block := by
  unfold reasons
  rw [List.map_eq_nil_iff, List.filter_eq_nil_iff]
  simp only [decide_eq_true_eq, ne_eq]

/-! ### Adding to an assessment -/

/-- What is added to an assessment. -/
structure Ruling where
  applied : List String
  reasons : List String
  obligations : List String
  factors : List Float

/-- What the policies that match have to say together. -/
def Ruling.ofPolicies (matched : List Policy) : Ruling where
  applied := matched.map (·.name)
  reasons := matched.flatMap Policy.reasons
  obligations := matched.flatMap Policy.obligations
  factors := matched.flatMap Policy.factors

namespace Assessment

/-- A reason refuses the request; of several reasons the first one counts. -/
def adding (s : Assessment) (x : Ruling) : Assessment where
  decision := { s.decision with
    applied := s.decision.applied ++ x.applied
    allowed := s.decision.allowed && x.reasons.isEmpty
    blockReason := s.decision.blockReason.or x.reasons.head?
    obligations := s.decision.obligations ++ x.obligations }
  risk := x.factors.foldl (· * ·) s.risk

theorem adding_nothing (s : Assessment) : s.adding ⟨[], [], [], []⟩ = s := by
  simp [adding]

theorem adding_adding (s : Assessment) (x y : Ruling) :
    (s.adding x).adding y = s.adding ⟨x.applied ++ y.applied, x.reasons ++ y.reasons,
      x.obligations ++ y.obligations, x.factors ++ y.factors⟩ := by
  have hempty : (x.reasons ++ y.reasons).isEmpty = (x.reasons.isEmpty && y.reasons.isEmpty) := by
    cases x.reasons <;> rfl
  simp [adding, hempty, Bool.and_assoc, Option.or_assoc, List.head?_append]

theorem take_eq_adding (s : Assessment) (p : Policy) (a : Action) :
    s.take p a = s.adding ⟨[], (if a.kind? = some .block then [p.reasonOf a] else []),
      (p.obligation? a).toList, a.factor?.toList⟩ := by
  unfold take Policy.obligation? Action.factor?
  cases hkind : a.kind? with
  | none => simp [adding]
  | some kind =>
    cases kind with
    | block => simp [adding, Decision.block, blockReasonOf_eq]
    | redact => simp [adding, Decision.oblige, redactedFields_eq]
    | alert => simp [adding]
    | log => simp [adding]
    | route => cases a.text? "provider" <;> simp [adding, Decision.oblige]
    | modifyRisk => cases riskModifier? a <;> simp [adding]

theorem takeAll_eq_adding (p : Policy) (actions : List Action) (s : Assessment) :
    actions.foldl (fun s a => s.take p a) s =
      s.adding ⟨[], (actions.filter fun a => a.kind? = some .block).map p.reasonOf,
        actions.filterMap p.obligation?, actions.filterMap Action.factor?⟩ := by
  induction actions generalizing s with
  | nil => exact (adding_nothing s).symm
  | cons a rest ih =>
    rw [List.foldl_cons, ih, take_eq_adding, adding_adding]
    congr 2
    · by_cases hblock : a.kind? = some .block <;> simp [hblock]
    · cases hobligation : p.obligation? a <;> simp [hobligation]
    · cases hfactor : a.factor? <;> simp [hfactor]

/-- A policy that matches adds what it has to say, and one that does not match adds nothing. -/
theorem consider_eq_adding (r : Request) (s : Assessment) (p : Policy) :
    consider r s p = s.adding (.ofPolicies ([p].filter (·.appliesTo r))) := by
  unfold consider
  cases happlies : p.appliesTo r with
  | false => simp [happlies, Ruling.ofPolicies, adding_nothing]
  | true =>
    have happly : { s with decision := s.decision.apply p.name } =
        s.adding ⟨[p.name], [], [], []⟩ := by
      simp [adding, Decision.apply]
    rw [if_pos rfl, happly, takeAll_eq_adding, adding_adding]
    simp [happlies, Ruling.ofPolicies, Policy.reasons, Policy.obligations, Policy.factors]

theorem considerAll_eq_adding (r : Request) (policies : List Policy) (s : Assessment) :
    policies.foldl (consider r) s = s.adding (.ofPolicies (policies.filter (·.appliesTo r))) := by
  induction policies generalizing s with
  | nil => exact (adding_nothing s).symm
  | cons p rest ih =>
    have hsplit : (p :: rest).filter (·.appliesTo r) =
        [p].filter (·.appliesTo r) ++ rest.filter (·.appliesTo r) :=
      List.filter_append [p] rest
    rw [List.foldl_cons, ih, consider_eq_adding, adding_adding, hsplit]
    simp [Ruling.ofPolicies]

/-- Whatever is added, a request that is refused stays refused, for the reason that it has. -/
theorem adding_refused {s : Assessment} (x : Ruling) (hrefused : s.decision.allowed = false)
    (hgiven : s.decision.blockReason.isSome) :
    (s.adding x).decision.allowed = false ∧
      (s.adding x).decision.blockReason = s.decision.blockReason := by
  obtain ⟨reason, hreason⟩ := Option.isSome_iff_exists.1 hgiven
  refine ⟨?_, ?_⟩
  · simp [adding, hrefused]
  · simp [adding, hreason]

/-- A reason is given exactly when the request is refused, whatever is added. -/
theorem adding_given {s : Assessment} (x : Ruling)
    (hgiven : s.decision.blockReason.isSome ↔ s.decision.allowed = false) :
    (s.adding x).decision.blockReason.isSome ↔ (s.adding x).decision.allowed = false := by
  cases hallowed : s.decision.allowed with
  | false =>
    obtain ⟨hrefused, hreason⟩ := adding_refused x hallowed (hgiven.2 hallowed)
    rw [hrefused, hreason, hgiven, hallowed]
  | true =>
    have hnone : s.decision.blockReason = none := by
      simpa [hallowed] using hgiven
    simp [adding, hallowed, hnone]

/-- Every assessment is what the policies that match add to the score of the request. -/
theorem assess_eq_adding (policies : List Policy) (r : Request) :
    assess policies r = (⟨.allow, Risk.score r⟩ : Assessment).adding
      (.ofPolicies (policies.filter (·.appliesTo r))) :=
  considerAll_eq_adding r policies _

theorem assess_given (policies : List Policy) (r : Request) :
    (assess policies r).decision.blockReason.isSome ↔
      (assess policies r).decision.allowed = false := by
  rw [assess_eq_adding]
  exact adding_given _ (by simp [Decision.allow])

/-- An assessment under way: some policies are done with, and of one that matched some actions are
taken. -/
def midway (r : Request) (done : List Policy) (p : Policy) (taken : List Action) : Assessment :=
  taken.foldl (fun s a => s.take p a)
    { assess done r with decision := (assess done r).decision.apply p.name }

theorem assess_eq_midway_adding {r : Request} {policies done left : List Policy} {p : Policy}
    {taken rest : List Action} (hpolicies : policies = done ++ p :: left)
    (happlies : p.appliesTo r = true) (hactions : p.actions = taken ++ rest) :
    ∃ x, assess policies r = (midway r done p taken).adding x := by
  have hconsider : consider r (assess done r) p =
      rest.foldl (fun s a => s.take p a) (midway r done p taken) := by
    rw [consider, if_pos happlies, hactions, List.foldl_append, midway]
  rw [hpolicies, assess, List.foldl_append, List.foldl_cons, considerAll_eq_adding, ← assess,
    hconsider, takeAll_eq_adding, adding_adding]
  exact ⟨_, rfl⟩

theorem midway_given (r : Request) (done : List Policy) (p : Policy) (taken : List Action) :
    (midway r done p taken).decision.blockReason.isSome ↔
      (midway r done p taken).decision.allowed = false := by
  rw [midway, takeAll_eq_adding]
  exact adding_given _ (assess_given done r)

end Assessment

/-! ### Reading a decision -/

/-- The policies that match a request, those of a higher priority first and those of equal priorities
by their names. -/
structure Matching (policies : List Policy) (r : Request) (matched : List Policy) : Prop where
  perm : matched.Perm (policies.filter fun p => ∀ c ∈ p.conditions, c.holds r = true)
  sorted : matched.Pairwise fun p q =>
    q.priority < p.priority ∨ p.priority = q.priority ∧ p.name ≤ q.name

/-- A decision says what the policies that match have to say, in their order. -/
structure Decision.Tells (d : Decision) (matched : List Policy) : Prop where
  applied : d.applied = matched.map (·.name)
  refused : d.allowed = false ↔ ∃ p ∈ matched, ∃ a ∈ p.actions, a.kind? = some .block
  blockReason : d.blockReason = (matched.flatMap Policy.reasons).head?
  given : d.blockReason.isSome ↔ d.allowed = false
  obligations : d.obligations = matched.flatMap Policy.obligations

theorem Policy.key_eq {p q : Policy}
    (hpq : q.priority < p.priority ∨ p.priority = q.priority ∧ p.name ≤ q.name)
    (hqp : p.priority < q.priority ∨ q.priority = p.priority ∧ q.name ≤ p.name) :
    (p.priority, p.name) = (q.priority, q.name) := by
  have hname : p.name = q.name :=
    precedes_antisymm (by simpa [precedes] using hpq)
      (by simpa [precedes] using hqp)
  have hpriority : p.priority = q.priority := by
    rcases hpq with hlt | ⟨heq, _⟩
    · rcases hqp with hgt | ⟨heq, _⟩
      · rw [Int32.lt_iff_toInt_lt] at hlt hgt
        omega
      · exact heq.symm
    · exact heq
  rw [hname, hpriority]

namespace Matching

variable {policies matched other : List Policy} {r : Request}

theorem mem_iff (h : Matching policies r matched) {p : Policy} :
    p ∈ matched ↔ p ∈ policies ∧ ∀ c ∈ p.conditions, c.holds r = true := by
  rw [h.perm.mem_iff, List.mem_filter, decide_eq_true_eq]

theorem assessmentOrder_filter (policies : List Policy) (r : Request) :
    Matching policies r ((assessmentOrder policies).filter (·.appliesTo r)) := by
  have hmatches (p : Policy) :
      p.appliesTo r = decide (∀ c ∈ p.conditions, c.holds r = true) := by
    rw [Bool.eq_iff_iff, Policy.appliesTo_iff, decide_eq_true_eq]
  have hsorted : (assessmentOrder policies).Pairwise (Policy.precedes · ·) :=
    List.pairwise_mergeSort Policy.precedes_trans Policy.precedes_total policies
  constructor
  · simp only [hmatches]
    exact (List.mergeSort_perm policies _).filter _
  · refine (hsorted.filter _).imp fun {p q} hprecedes => ?_
    simpa [Policy.precedes] using hprecedes

/-- Where no two of the policies that match have the same priority and name, there is only one such
list. -/
theorem eq_of_distinct
    (hdistinct : ∀ p ∈ matched, ∀ q ∈ matched, (p.priority, p.name) = (q.priority, q.name) → p = q)
    (h : Matching policies r matched) (h' : Matching policies r other) : matched = other := by
  have hperm : matched.Perm other := h.perm.trans h'.perm.symm
  refine hperm.eq_of_pairwise ?_ h.sorted h'.sorted
  intro p q hp hq hpq hqp
  exact hdistinct p hp q (hperm.mem_iff.2 hq) (Policy.key_eq hpq hqp)

theorem keys_eq (h : Matching policies r matched) (h' : Matching policies r other) :
    matched.map (fun p => (p.priority, p.name)) = other.map fun p => (p.priority, p.name) := by
  have hsorted {l : List Policy} (hl : Matching policies r l) :
      (l.map fun p => (p.priority, p.name)).Pairwise fun k k' =>
        k'.1 < k.1 ∨ k.1 = k'.1 ∧ k.2 ≤ k'.2 :=
    List.pairwise_map.2 hl.sorted
  refine ((h.perm.trans h'.perm.symm).map _).eq_of_pairwise ?_ (hsorted h) (hsorted h')
  intro k k' hk hk' hkk' hk'k
  obtain ⟨p, _, rfl⟩ := List.mem_map.1 hk
  obtain ⟨q, _, rfl⟩ := List.mem_map.1 hk'
  exact Policy.key_eq hkk' hk'k

theorem names_eq (h : Matching policies r matched) (h' : Matching policies r other) :
    matched.map (·.name) = other.map (·.name) := by
  have hkeys := congrArg (List.map Prod.snd) (h.keys_eq h')
  rw [List.map_map, List.map_map] at hkeys
  exact hkeys

theorem of_perm {policies' : List Policy} (hperm : policies.Perm policies')
    (h : Matching policies r matched) : Matching policies' r matched :=
  ⟨h.perm.trans (hperm.filter _), h.sorted⟩

end Matching

theorem Decision.ofPolicies_tells (policies : List Policy) (r : Request) :
    (ofPolicies policies r).Tells ((assessmentOrder policies).filter (·.appliesTo r)) := by
  obtain ⟨matched, hmatched⟩ :
      ∃ matched, (assessmentOrder policies).filter (·.appliesTo r) = matched := ⟨_, rfl⟩
  have hassessed := Assessment.assess_eq_adding (assessmentOrder policies) r
  rw [hmatched] at hassessed ⊢
  have hallowed : (ofPolicies policies r).allowed = (matched.flatMap Policy.reasons).isEmpty := by
    rw [ofPolicies, hassessed]
    exact Bool.true_and _
  have hreason : (ofPolicies policies r).blockReason = (matched.flatMap Policy.reasons).head? := by
    rw [ofPolicies, hassessed]
    exact Option.none_or
  refine ⟨?_, ?_, hreason, ?_, ?_⟩
  · rw [ofPolicies, hassessed]
    exact List.nil_append _
  · rw [hallowed, List.isEmpty_eq_false_iff, ne_eq, List.flatMap_eq_nil_iff]
    simp only [Policy.reasons_eq_nil]
    push Not
    rfl
  · exact Assessment.assess_given (assessmentOrder policies) r
  · rw [ofPolicies, hassessed]
    exact List.nil_append _

/-- Once an action has refused a request, nothing that comes after it takes that back or gives another
reason. -/
theorem Decision.refusal_stays {r : Request} {policies done left : List Policy} {p : Policy}
    {taken rest : List Action} (horder : assessmentOrder policies = done ++ p :: left)
    (happlies : p.appliesTo r = true) (hactions : p.actions = taken ++ rest)
    (hrefused : (Assessment.midway r done p taken).decision.allowed = false) :
    (ofPolicies policies r).allowed = false ∧
      (ofPolicies policies r).blockReason =
        (Assessment.midway r done p taken).decision.blockReason := by
  obtain ⟨x, hassessed⟩ := Assessment.assess_eq_midway_adding horder happlies hactions
  have hstays := Assessment.adding_refused x hrefused
    ((Assessment.midway_given r done p taken).2 hrefused)
  rw [← hassessed] at hstays
  exact hstays

end Governance
