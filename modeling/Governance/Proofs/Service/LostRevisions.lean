import Governance.Proofs.Service.Failing
import Governance.Proofs.Service.Turns
import Governance.Proofs.Store.LostRevisions

/-!
# Runs that lose revisions

A store is used directly and through the service, call by call in turns, and loses revisions now and
then. Runs of the same turns that lose different ones go on abreast: the policies stay the same, and so
does everything that is answered, histories apart. The histories of all these runs are made of the same
revisions, each without those that its run has lost.

Runs are compared that find the same surroundings in every part of a turn. Runs over one clock are apart
once one of them has lost a revision, and then also differ in how they list policies, since lists are
sorted by times and identifiers that were drawn.
-/

namespace Governance

open List (Forall₂)

namespace MemoryStore

theorem answerIn_of_isIdle {c : StoreCall} (hidle : c.isIdle) (rejects : Bool) (around : Nat → Ambient)
    (loses : Nat → Bool) (s : StoreContents) : (answerIn rejects c around loses s).2 = s := by
  have hsingle : c.isImport = false := by
    cases c with
    | importAll => cases hidle
    | _ => rfl
  rw [answerIn_eq hsingle]
  exact congrArg contents (ensures_answer_declined c (around 0) (.inl hidle))

end MemoryStore

/-! ## Programs that ask for no history -/

namespace Service

open ServiceProgram (Meets)

variable {gate : Gate} {tenant : TenantId}

/-- A computation that asks for no history, whatever comes of it. -/
def AsksNoHistory {α : Type} (p : ServiceProgram α) : Prop :=
  Meets (fun _ _ => True) (fun c => c.asksHistory = false) (fun _ => True) (fun _ => True) p

theorem asksNoHistory_authorizeCreate (tier : PolicyTier) :
    AsksNoHistory (gate.authorizeCreate tenant tier) := by
  cases tier with
  | system => exact Meets.throw trivial
  | organization =>
    rw [Gate.authorizeCreate]
    split
    · exact Meets.pure trivial
    · exact Meets.throw trivial
  | tenant =>
    rw [Gate.authorizeCreate]
    split
    · exact Meets.pure trivial
    · refine Meets.bind (.ask rfl (fun _ _ => trivial) fun count _ => .bind (.report ?_))
      split
      · exact Meets.throw trivial
      · exact Meets.pure trivial

theorem asksNoHistory_authorizeModify (id : PolicyId) :
    AsksNoHistory (Gate.authorizeModify tenant id) := by
  refine Meets.bind (.ask rfl (fun _ _ => trivial) fun found _ => ?_)
  split
  · split
    · exact Meets.throw trivial
    · exact Meets.pure trivial
  · exact Meets.pure trivial

theorem asksNoHistory_newNames (names : List String) (drafts : List PolicyDraft) :
    AsksNoHistory (newNames gate tenant names drafts) := by
  induction drafts generalizing names with
  | nil => exact Meets.pure trivial
  | cons draft rest ih =>
    rw [newNames]
    split
    · refine Meets.bind (.ask rfl (fun _ _ => trivial) fun existing _ => ?_)
      split
      · exact ih _
      · exact ih _
    · exact Meets.bind ((asksNoHistory_authorizeCreate _).mono fun _ _ => ih names)

theorem asksNoHistory_authorizeImport (drafts : List PolicyDraft) :
    AsksNoHistory (authorizeImport gate tenant drafts) := by
  refine Meets.bind ((asksNoHistory_newNames [] drafts).mono fun names _ => ?_)
  dsimp only
  split
  · refine Meets.bind (.ask rfl (fun _ _ => trivial) fun held _ => ?_)
    split
    · exact Meets.throw trivial
    · exact Meets.pure trivial
  · exact Meets.pure trivial

end Service

/-- A call to the service that is answered with a history. -/
def PolicyCall.asksHistory : PolicyCall → Bool
  | .history _ => true
  | _ => false

namespace Service

open ServiceProgram (Meets)

theorem asksNoHistory_perform {call : PolicyCall} (hcall : call.asksHistory = false)
    (gate : Gate) (caller : Caller) : AsksNoHistory (call.perform gate caller) := by
  have hask {α : Type} {c : StoreCall} {f : c.Result → ServiceProgram α} (hc : c.asksHistory = false)
      (hf : ∀ result, AsksNoHistory (f result)) : AsksNoHistory (ServiceProgram.ask c >>= f) :=
    Meets.bind (.ask hc (fun _ _ => trivial) fun result _ => hf result)
  have hcheck {α β : Type} {p : ServiceProgram α} {f : α → ServiceProgram β} (hp : AsksNoHistory p)
      (hf : ∀ value, AsksNoHistory (f value)) : AsksNoHistory (p >>= f) :=
    Meets.bind (Meets.mono hp fun value _ => hf value)
  cases call with
  | history => cases hcall
  | list query => exact hask rfl fun page => Meets.pure trivial
  | fetch id => exact hask rfl fun found => Meets.orNotFound trivial fun _ => trivial
  | exportAll => exact hask rfl fun policies => Meets.bind (.now fun _ => .pure trivial)
  | create draft =>
    refine hcheck (Meets.unlessFaulty trivial fun _ => trivial) fun _ => ?_
    refine hcheck (asksNoHistory_authorizeCreate _) fun _ => hask rfl fun p => ?_
    exact Meets.bind (.report (.pure trivial))
  | update id patch =>
    refine hcheck (Meets.unlessFaulty trivial fun _ => trivial) fun _ => ?_
    refine hcheck (asksNoHistory_authorizeModify id) fun _ => hask rfl fun found => ?_
    exact Meets.bind (.orNotFound trivial fun p => .bind (.report (.pure trivial)))
  | delete id =>
    refine hcheck (asksNoHistory_authorizeModify id) fun _ => hask rfl fun deleted => ?_
    split
    · exact Meets.report trivial
    · exact Meets.throw trivial
  | tryOut id trial =>
    rw [PolicyCall.perform, tryOut]
    have htrial : AsksNoHistory (do
        let p ← fetch caller.tenant id
        reportAll (conditionEvents (trial.toRequest caller.tenant) 0 p.conditions)
        return p.tryOn (trial.toRequest caller.tenant)) := by
      refine hcheck (hask rfl fun found => Meets.orNotFound trivial fun _ => trivial) fun p => ?_
      exact Meets.bind (.reportAll (.pure trivial))
    split
    · exact hcheck (Meets.throw trivial) fun _ => htrial
    · exact htrial
  | importAll request =>
    rw [PolicyCall.perform, importAll]
    split
    · exact Meets.throw trivial
    · refine hcheck (asksNoHistory_authorizeImport _) fun _ => hask rfl fun done => ?_
      exact Meets.bind (.report (.pure trivial))

end Service

/-! ## A store in use -/

/-- What is asked of a store, or of the service over it. -/
inductive Errand where
  | store (c : StoreCall)
  | service (caller : Caller) (call : PolicyCall)

namespace Errand

abbrev Answer : Errand → Type
  | .store c => c.Answer
  | .service _ call => Except ServiceError call.Result

def asksHistory : Errand → Bool
  | .store c => c.asksHistory
  | .service _ call => call.asksHistory

def program (gate : Gate) : (e : Errand) → Program serviceInterface e.Answer
  | .store c => Program.perform (I := serviceInterface) (.store c)
  | .service caller call => (call.perform gate caller).run

/-- For an errand that is answered with a history, the store is only looked at; the others ask for no
history. -/
def May (e : Errand) (c : StoreCall) : Prop :=
  (e.asksHistory → c.isIdle) ∧ (e.asksHistory = false → c.asksHistory = false)

end Errand

/-- An errand that is under way, and what is left of it: nothing but the answer in the end. -/
structure Undertaking where
  errand : Errand
  rest : Program serviceInterface errand.Answer

/-- A store in use: what it holds, whether it rejects commits, and the errands in the order in which
they came in. -/
structure StoreInUse where
  contents : StoreContents
  rejectsCommits : Bool
  tasks : List Undertaking

/-- What can happen next: a policy is put in, commits are rejected or not from now on, an errand comes
in, or one that is under way goes on. -/
inductive Happening where
  | seed (p : Policy)
  | rejectCommits (rejects : Bool)
  | arrive (e : Errand)
  | proceed (task : Nat) (around : Nat → Ambient)

/-- Answers a call of the service. -/
def Service.answerIn (rejects : Bool) (around : Nat → Ambient) (loses : Nat → Bool)
    (s : StoreContents) : (c : ServiceCall) → c.Answer × StoreContents
  | .store c => MemoryStore.answerIn rejects c around loses s
  | .now => ((Ambient.now (around 0)).1, s)
  | .report _ => ((), s)

def Undertaking.proceed (t : Undertaking) (rejects : Bool) (around : Nat → Ambient)
    (loses : Nat → Bool) (s : StoreContents) : Undertaking × StoreContents :=
  match t.rest with
  | .done _ => (t, s)
  | .call c next =>
    let answered := Service.answerIn rejects around loses s c
    ({ t with rest := next answered.1 }, answered.2)

namespace StoreInUse

def proceed (g : StoreInUse) (i : Nat) (around : Nat → Ambient) (loses : Nat → Bool) : StoreInUse :=
  match g.tasks[i]? with
  | some t =>
    let done := t.proceed g.rejectsCommits around loses g.contents
    ⟨done.2, g.rejectsCommits, g.tasks.set i done.1⟩
  | none => g

theorem proceed_of_some {g : StoreInUse} {i : Nat} {around : Nat → Ambient} {loses : Nat → Bool}
    {t : Undertaking} (ht : g.tasks[i]? = some t) :
    g.proceed i around loses = ⟨(t.proceed g.rejectsCommits around loses g.contents).2,
      g.rejectsCommits, g.tasks.set i (t.proceed g.rejectsCommits around loses g.contents).1⟩ := by
  rw [proceed, ht]

theorem proceed_of_none {g : StoreInUse} {i : Nat} {around : Nat → Ambient} {loses : Nat → Bool}
    (hi : g.tasks[i]? = none) : g.proceed i around loses = g := by
  rw [proceed, hi]

def take (gate : Gate) (loses : Nat → Bool) (g : StoreInUse) : Happening → StoreInUse
  | .seed p => { g with contents := g.contents.keep p }
  | .rejectCommits rejects => { g with rejectsCommits := rejects }
  | .arrive e => { g with tasks := g.tasks ++ [⟨e, e.program gate⟩] }
  | .proceed i around => g.proceed i around loses

/-- Of the revision that is written in a part of a turn, `loses` tells whether it is lost. -/
def run (gate : Gate) (loses : Nat → Nat → Bool) (g : StoreInUse) : List Happening → StoreInUse
  | [] => g
  | turn :: rest => run gate (fun i => loses (i + 1)) (g.take gate (loses 0) turn) rest

end StoreInUse

/-! ### Runs side by side -/

/-- Both are about the same errand, and all that has been answered is the same unless it asks for a
history. -/
def Undertaking.SameButForHistory (t t' : Undertaking) : Prop :=
  t'.errand = t.errand ∧ (t.errand.asksHistory = false → t' = t)

/-- The same policies, and for the same errands the same answers but for histories. -/
structure StoreInUse.SameButForHistories (g g' : StoreInUse) : Prop where
  policies : g'.contents.policies = g.contents.policies
  rejectsCommits : g'.rejectsCommits = g.rejectsCommits
  tasks : Forall₂ Undertaking.SameButForHistory g.tasks g'.tasks

namespace Undertaking

theorem SameButForHistory.of_common {t t' t'' : Undertaking} (hfirst : t.SameButForHistory t')
    (hsecond : t.SameButForHistory t'') : t'.SameButForHistory t'' := by
  refine ⟨hsecond.1.trans hfirst.1.symm, fun hasks => ?_⟩
  rw [hfirst.1] at hasks
  rw [hfirst.2 hasks, hsecond.2 hasks]

variable {t t' : Undertaking} {rejects : Bool} {around : Nat → Ambient} {loses loses' : Nat → Bool}
  {s s' : StoreContents}

def Obeys (t : Undertaking) : Prop :=
  t.rest.Obeys (ServiceCall.Relied fun _ _ => True) (ServiceCall.Allowed t.errand.May) fun _ => True

structure Abreast (t t' : Undertaking) : Prop where
  same : t.SameButForHistory t'
  obeys : t.Obeys
  obeys' : t'.Obeys

theorem obeys_arrive (gate : Gate) (e : Errand) : Obeys ⟨e, e.program gate⟩ := by
  cases e with
  | store c =>
    refine ⟨⟨fun hasks => ?_, fun hasks => hasks⟩, fun _ _ => trivial⟩
    cases c with
    | revisions => rfl
    | _ => cases hasks
  | service caller call =>
    suffices hmeets : ServiceProgram.Meets (fun _ _ => True) (Errand.service caller call).May
        (fun _ => True) (fun _ => True) (call.perform gate caller) from
      Program.Obeys.mono (fun _ _ => trivial) hmeets
    cases hasks : call.asksHistory with
    | false =>
      refine ServiceProgram.Meets.of_may ?_ (Service.asksNoHistory_perform hasks gate caller)
      exact fun c hc => ⟨fun hother => absurd (hasks.symm.trans hother) Bool.false_ne_true, fun _ => hc⟩
    | true =>
      cases call with
      | history id =>
        refine ServiceProgram.Meets.of_may ?_ (Service.onlyLooks_perform gate caller rfl)
        exact fun c hidle => ⟨fun _ => hidle, nofun⟩
      | _ => cases hasks

theorem Obeys.proceed (hobeys : t.Obeys) : (t.proceed rejects around loses s).1.Obeys := by
  obtain ⟨errand, rest⟩ := t
  cases rest with
  | done value => exact hobeys
  | call c next =>
    apply Program.Obeys.next hobeys
    cases c <;> trivial

theorem errand_proceed (t : Undertaking) :
    (t.proceed rejects around loses s).1.errand = t.errand := by
  obtain ⟨errand, _ | ⟨c, next⟩⟩ := t <;> rfl

/-- An errand that is answered with a history leaves everything as it was. -/
theorem Obeys.proceed_of_asksHistory (hobeys : t.Obeys) (hasks : t.errand.asksHistory) :
    (t.proceed rejects around loses s).2 = s := by
  obtain ⟨errand, rest⟩ := t
  cases rest with
  | done value => rfl
  | call c next =>
    cases c with
    | store c =>
      have hmay : errand.May c := hobeys.1
      have hidle := hmay.1 hasks
      exact MemoryStore.answerIn_of_isIdle hidle rejects around loses s
    | now => rfl
    | report e => rfl

theorem Obeys.heedless_proceed (hobeys : t.Obeys) (hasks : t.errand.asksHistory = false)
    (rejects : Bool) (around : Nat → Ambient) (policies : Keyed PolicyId Policy) :
    MemoryStore.HeedlessIn (t.proceed rejects around) policies := by
  obtain ⟨errand, rest⟩ := t
  cases rest with
  | done value => exact ⟨_, policies, [], fun histories loses => ⟨rfl, rfl, .refl _ loses⟩⟩
  | call c next =>
    cases c with
    | now =>
      refine ⟨⟨errand, next (Ambient.now (around 0)).1⟩, policies, [], fun histories loses => ?_⟩
      exact ⟨rfl, rfl, .refl _ loses⟩
    | report e =>
      refine ⟨⟨errand, next ()⟩, policies, [], fun histories loses => ?_⟩
      exact ⟨rfl, rfl, .refl _ loses⟩
    | store c =>
      have hmay : errand.May c := hobeys.1
      obtain ⟨answer, policies', written, hanswer⟩ :=
        MemoryStore.heedless_answerIn (hmay.2 hasks) rejects around policies
      refine ⟨⟨errand, next answer⟩, policies', written, fun histories loses => ?_⟩
      obtain ⟨hvalue, hleft⟩ := hanswer histories loses
      exact ⟨congrArg (fun answer => Undertaking.mk errand (next answer)) hvalue, hleft⟩

/-- What tasks write that are abreast is the same. -/
theorem Obeys.exists_proceed (ht : t.Obeys) (rejects : Bool) (around : Nat → Ambient)
    (loses : Nat → Bool) (s : StoreContents) : ∃ written : List (Nat × Revision),
    ∀ (t' : Undertaking) (loses' : Nat → Bool) (s' : StoreContents), t.Abreast t' →
      s'.policies = s.policies →
      (t.proceed rejects around loses s).1.Abreast (t'.proceed rejects around loses' s').1 ∧
      (t'.proceed rejects around loses' s').2.policies =
        (t.proceed rejects around loses s).2.policies ∧
      (t'.proceed rejects around loses' s').2.Continues s' loses' written := by
  cases hasks : t.errand.asksHistory with
  | true =>
    -- The answers may differ from here on, so of these two only the errand is compared.
    refine ⟨[], fun t' loses' s' habreast hpolicies => ?_⟩
    obtain ⟨⟨herrand, _⟩, _, ht'⟩ := habreast
    rw [ht.proceed_of_asksHistory hasks, ht'.proceed_of_asksHistory (herrand ▸ hasks)]
    refine ⟨⟨⟨?_, fun hother => ?_⟩, ht.proceed, ht'.proceed⟩, hpolicies, .refl s' loses'⟩
    · rw [errand_proceed, errand_proceed, herrand]
    · rw [errand_proceed, hasks] at hother
      cases hother
  | false =>
    obtain ⟨after, policies, written, hdone⟩ := ht.heedless_proceed hasks rejects around s.policies
    refine ⟨written, fun t' loses' s' habreast hpolicies => ?_⟩
    obtain rfl := habreast.same.2 hasks
    obtain ⟨hafter, hleft, _⟩ := hdone s.histories loses
    obtain ⟨hafter', hleft', hcontinues⟩ := hdone s'.histories loses'
    rw [← hpolicies] at hafter' hleft' hcontinues
    have hobeys : after.Obeys := hafter ▸ ht.proceed
    refine ⟨?_, hleft'.trans hleft.symm, hcontinues⟩
    rw [hafter, hafter']
    exact ⟨⟨rfl, fun _ => rfl⟩, hobeys, hobeys⟩

end Undertaking

section Pairs

variable {α β : Type} {R : α → β → Prop} {xs : List α} {ys : List β}

theorem forall₂_getElem? (hrelated : Forall₂ R xs ys) {i : Nat} {x : α} (hx : xs[i]? = some x) :
    ∃ y, ys[i]? = some y ∧ R x y := by
  induction hrelated generalizing i with
  | nil => cases hx
  | @cons _ y _ _ hfirst _ ih =>
    cases i with
    | zero =>
      obtain rfl := Option.some.inj hx
      exact ⟨y, rfl, hfirst⟩
    | succ i => exact ih hx

theorem forall₂_set (hrelated : Forall₂ R xs ys) {x : α} {y : β} (hxy : R x y) (i : Nat) :
    Forall₂ R (xs.set i x) (ys.set i y) := by
  induction hrelated generalizing i with
  | nil => exact .nil
  | cons hfirst hrest ih =>
    cases i with
    | zero => exact .cons hxy hrest
    | succ i => exact .cons hfirst (ih i)

end Pairs

namespace StoreInUse

variable {g g' g'' : StoreInUse}

/-- Two stores in use that hold the same policies, and whose tasks are abreast. -/
structure Abreast (g g' : StoreInUse) : Prop where
  policies : g'.contents.policies = g.contents.policies
  rejectsCommits : g'.rejectsCommits = g.rejectsCommits
  tasks : Forall₂ Undertaking.Abreast g.tasks g'.tasks

theorem Abreast.sameButForHistories (hfirst : g.Abreast g') (hsecond : g.Abreast g'') :
    g'.SameButForHistories g'' := by
  refine ⟨hsecond.policies.trans hfirst.policies.symm,
    hsecond.rejectsCommits.trans hfirst.rejectsCommits.symm, ?_⟩
  obtain ⟨_, _, htasks⟩ := hfirst
  obtain ⟨_, _, htasks'⟩ := hsecond
  generalize g.tasks = tasks at htasks htasks'
  generalize g'.tasks = tasks' at htasks
  generalize g''.tasks = tasks'' at htasks'
  induction htasks generalizing tasks'' with
  | nil =>
    cases htasks'
    exact .nil
  | cons hfirst _ ih =>
    cases htasks' with
    | cons hsecond hrest => exact .cons (hfirst.same.of_common hsecond.same) (ih _ hrest)

theorem Abreast.exists_proceed (hself : g.Abreast g) (i : Nat) (around : Nat → Ambient)
    (loses : Nat → Bool) : ∃ written : List (Nat × Revision),
    ∀ (g' : StoreInUse) (loses' : Nat → Bool), g.Abreast g' →
      (g.proceed i around loses).Abreast (g'.proceed i around loses') ∧
      (g'.proceed i around loses').contents.Continues g'.contents loses' written := by
  cases ht : g.tasks[i]? with
  | none =>
    refine ⟨[], fun g' loses' habreast => ?_⟩
    have ht' : g'.tasks[i]? = none := by
      rw [List.getElem?_eq_none_iff, ← habreast.tasks.length_eq]
      exact List.getElem?_eq_none_iff.1 ht
    rw [proceed_of_none ht, proceed_of_none ht']
    exact ⟨habreast, .refl _ loses'⟩
  | some t =>
    obtain ⟨_, _, hobeys⟩ := forall₂_getElem? hself.tasks ht
    obtain ⟨written, hdone⟩ := hobeys.obeys.exists_proceed g.rejectsCommits around loses g.contents
    refine ⟨written, fun g' loses' habreast => ?_⟩
    obtain ⟨t', ht', htask⟩ := forall₂_getElem? habreast.tasks ht
    obtain ⟨hrest, hpolicies, hcontinues⟩ := hdone t' loses' g'.contents htask habreast.policies
    rw [proceed_of_some ht, proceed_of_some ht', habreast.rejectsCommits]
    exact ⟨⟨hpolicies, rfl, forall₂_set habreast.tasks hrest i⟩, hcontinues⟩

/-- What happens to stores that are used abreast happens to all of them alike, but for what is lost. -/
theorem Abreast.exists_take (hself : g.Abreast g) (gate : Gate) (loses : Nat → Bool)
    (turn : Happening) : ∃ written : List (Nat × Revision),
    ∀ (g' : StoreInUse) (loses' : Nat → Bool), g.Abreast g' →
      (g.take gate loses turn).Abreast (g'.take gate loses' turn) ∧
      (g'.take gate loses' turn).contents.Continues g'.contents loses' written := by
  cases turn with
  | proceed i around => exact hself.exists_proceed i around loses
  | seed p =>
    refine ⟨[], fun g' loses' habreast => ⟨⟨?_, habreast.rejectsCommits, habreast.tasks⟩, ?_⟩⟩
    · exact congrArg (·.put p.id p) habreast.policies
    · exact .refl g'.contents loses'
  | rejectCommits rejects =>
    refine ⟨[], fun g' loses' habreast => ?_⟩
    exact ⟨⟨habreast.policies, rfl, habreast.tasks⟩, .refl _ loses'⟩
  | arrive e =>
    refine ⟨[], fun g' loses' habreast => ⟨⟨habreast.policies, habreast.rejectsCommits, ?_⟩, ?_⟩⟩
    · have hobeys := Undertaking.obeys_arrive gate e
      exact List.rel_append habreast.tasks (.cons ⟨⟨rfl, fun _ => rfl⟩, hobeys, hobeys⟩ .nil)
    · exact .refl _ loses'

theorem Abreast.exists_run (hself : g.Abreast g) (gate : Gate) (loses : Nat → Nat → Bool)
    (turns : List Happening) : ∃ written : List ((Nat × Nat) × Revision),
    ∀ (g' : StoreInUse) (loses' : Nat → Nat → Bool), g.Abreast g' →
      (g.run gate loses turns).Abreast (g'.run gate loses' turns) ∧
      (g'.run gate loses' turns).contents.Continues g'.contents (fun m => loses' m.1 m.2)
        written := by
  induction turns generalizing g loses with
  | nil => exact ⟨[], fun g' loses' habreast => ⟨habreast, .refl _ _⟩⟩
  | cons turn rest ih =>
    obtain ⟨written, hfirst⟩ := hself.exists_take gate (loses 0) turn
    obtain ⟨more, hrest⟩ := ih (hfirst g (loses 0) hself).1 fun i => loses (i + 1)
    -- The turn is the first one of the run, and the rest of the run begins after it.
    refine ⟨(written.map fun w => ((0, w.1), w.2)) ++
      more.map (fun w => ((w.1.1 + 1, w.1.2), w.2)), fun g' loses' habreast => ?_⟩
    obtain ⟨hnext, hcontinues⟩ := hfirst g' (loses' 0) habreast
    obtain ⟨hend, hlast⟩ := hrest _ (fun i => loses' (i + 1)) hnext
    refine ⟨hend, ?_⟩
    exact (hcontinues.map (Prod.mk 0)).trans (hlast.map fun m : Nat × Nat => (m.1 + 1, m.2))

end StoreInUse

/-! ### Runs in which faults are switched between calls -/

/-- A service answers as if each part of a call found the surroundings that the parts before it have
left. -/
theorem Service.answer_eq_answerIn (c : ServiceCall) (s : MemoryStore) (a : Ambient) :
    ∃ around : Nat → Ambient,
      let done := answerIn s.rejectsCommits around (fun _ => s.losesRevisions) s.contents c
      ((answer c).run s a).1 = (done.1, { s with contents := done.2 }) := by
  cases c with
  | store c =>
    obtain ⟨around, hdone⟩ := MemoryStore.answer_eq_answerIn c s a
    exact ⟨around, hdone⟩
  | now => exact ⟨fun _ => a, rfl⟩
  | report e => exact ⟨fun _ => a, rfl⟩

def PolicyTask.undertaking (t : PolicyTask) : Undertaking := ⟨.service t.caller t.call, t.rest⟩

theorem PolicyTask.exists_proceed (t : PolicyTask) (s : MemoryStore) (a : Ambient) :
    ∃ around : Nat → Ambient,
      let done := t.undertaking.proceed s.rejectsCommits around (fun _ => s.losesRevisions) s.contents
      done.1 = (t.proceed s a).1.undertaking ∧ (t.proceed s a).2 = { s with contents := done.2 } := by
  obtain ⟨caller, call, rest⟩ := t
  cases rest with
  | done value => exact ⟨fun _ => a, rfl, rfl⟩
  | call c next =>
    obtain ⟨around, hdone⟩ := Service.answer_eq_answerIn c s a
    refine ⟨around, ?_, congrArg (·.2) hdone⟩
    have hanswer := congrArg (·.1) hdone
    exact congrArg (fun answer => Undertaking.mk (.service caller call) (next answer)) hanswer.symm

namespace StoreInUse

def ofLive (g : LivePolicies) : StoreInUse :=
  ⟨g.store.contents, g.store.rejectsCommits, g.tasks.map PolicyTask.undertaking⟩

theorem exists_take_ofLive (gate : Gate) (g : LivePolicies) (turn : PolicyTurn) :
    ∃ happening, (ofLive g).take gate (fun _ => g.store.losesRevisions) happening =
      ofLive (g.take gate turn) := by
  cases turn with
  | switch losesRevisions rejectsCommits => exact ⟨.rejectCommits rejectsCommits, rfl⟩
  | arrive caller call =>
    refine ⟨.arrive (.service caller call), ?_⟩
    change StoreInUse.mk _ _ _ = StoreInUse.mk _ _ _
    rw [LivePolicies.take, List.map_append]
    rfl
  | proceed i a =>
    change ∃ happening, _ = ofLive (g.proceed i a)
    have htask : (ofLive g).tasks[i]? = g.tasks[i]?.map PolicyTask.undertaking := List.getElem?_map
    cases ht : g.tasks[i]? with
    | none =>
      rw [ht] at htask
      rw [LivePolicies.proceed_of_none ht]
      exact ⟨.proceed i fun _ => a, proceed_of_none htask⟩
    | some t =>
      rw [ht] at htask
      obtain ⟨around, hrest, hstore⟩ := t.exists_proceed g.store a
      refine ⟨.proceed i around, (proceed_of_some htask).trans ?_⟩
      rw [LivePolicies.proceed_of_some ht, hstore]
      change _ = StoreInUse.mk _ _ ((g.tasks.set i _).map PolicyTask.undertaking)
      rw [List.map_set, ← hrest]
      rfl

/-- Calls to the service that take turns over a store whose faults are switched between them make such a
run. -/
theorem exists_run_ofLive (gate : Gate) (g : LivePolicies) (turns : List PolicyTurn) :
    ∃ happenings loses, (ofLive g).run gate loses happenings = ofLive (g.run gate turns) := by
  induction turns generalizing g with
  | nil => exact ⟨[], fun _ _ => false, rfl⟩
  | cons turn rest ih =>
    obtain ⟨happening, htake⟩ := exists_take_ofLive gate g turn
    obtain ⟨happenings, loses, hrest⟩ := ih (g.take gate turn)
    refine ⟨happening :: happenings,
      Nat.rec (fun _ => g.store.losesRevisions) fun i _ => loses i, ?_⟩
    rw [← htake] at hrest
    exact hrest

theorem exists_run_call (gate : Gate) (g : StoreInUse) (loses : Bool) (c : StoreCall) (a : Ambient) :
    ∃ around : Nat → Ambient,
      let done := ((MemoryStore.answer c).run ⟨g.contents, loses, g.rejectsCommits⟩ a).1
      g.run gate (fun _ _ => loses) [.arrive (.store c), .proceed g.tasks.length around] =
        ⟨done.2.contents, g.rejectsCommits, g.tasks ++ [⟨.store c, .done done.1⟩]⟩ := by
  obtain ⟨around, hdone⟩ :=
    MemoryStore.answer_eq_answerIn c ⟨g.contents, loses, g.rejectsCommits⟩ a
  refine ⟨around, ?_⟩
  dsimp only
  rw [hdone]
  have hlast : (g.tasks ++ [⟨.store c, Errand.program gate (.store c)⟩])[g.tasks.length]? =
      some ⟨.store c, Errand.program gate (.store c)⟩ := by
    rw [List.getElem?_append_right (Nat.le_refl _), Nat.sub_self]
    rfl
  change StoreInUse.proceed ⟨g.contents, g.rejectsCommits, g.tasks ++ [_]⟩ _ _ _ = _
  rw [proceed_of_some hlast, List.set_append_right _ _ (Nat.le_refl _), Nat.sub_self]
  rfl

end StoreInUse

/-! ### Two runs -/

/-- Losing revisions never affects policies, nor anything that is answered but histories. Whatever is
lost, the revisions that are written are the same, each in the same part of the same turn, and the
histories show those that are not lost. So a run that loses all that another one loses has histories that
are part of those of the other. -/
theorem lost_revisions_touch_only_histories (gate : Gate) (s : StoreContents) (rejects : Bool)
    (turns : List Happening) :
    let run (loses : Nat → Nat → Bool) := (StoreInUse.mk s rejects []).run gate loses turns
    ∃ written : List ((Nat × Nat) × Revision),
      (∀ loses, (run loses).contents.Continues s (fun m => loses m.1 m.2) written) ∧
      ∀ loses loses', (run loses).SameButForHistories (run loses') ∧
        ((∀ w ∈ written, loses' w.1.1 w.1.2 → loses w.1.1 w.1.2) →
          ∀ id, ((run loses).contents.history id).Sublist ((run loses').contents.history id)) := by
  intro run
  have hstart : (StoreInUse.mk s rejects []).Abreast ⟨s, rejects, []⟩ := ⟨rfl, rfl, .nil⟩
  obtain ⟨written, hruns⟩ := hstart.exists_run gate (fun _ _ => false) turns
  have hcontinues (loses : Nat → Nat → Bool) := (hruns _ loses hstart).2
  refine ⟨written, hcontinues, fun loses loses' => ⟨?_, fun hloses id => ?_⟩⟩
  · exact (hruns _ loses hstart).1.sameButForHistories (hruns _ loses' hstart).1
  · exact (hcontinues loses).sublist (hcontinues loses') hloses id

/-- Alice switches a policy off, by way of the service, and then has the store delete it. -/
def turnsOfAlice : List Happening :=
  [.arrive (.service alice (.update ⟨"p1"⟩ { emptyPatch with enabled := some false })),
    .proceed 0 fun _ => .initial, .proceed 0 fun _ => .initial, .proceed 0 fun _ => .initial,
    .arrive (.store (.delete ⟨"acme"⟩ ⟨"p1"⟩ "alice")), .proceed 1 fun _ => .initial]

/-- Of the revisions that are written in the third turn and in the last, the first is lost. -/
theorem alice_loses_a_revision :
    let run (loses : Nat → Nat → Bool) :=
      (StoreInUse.mk acmeStore.contents false []).run ⟨true, 0⟩ loses turnsOfAlice
    let lossy := run fun i _ => i = 2
    let lossless := run fun _ _ => false
    lossy.SameButForHistories lossless ∧
      (lossy.contents.history ⟨"p1"⟩).map (·.change) = [.delete] ∧
      (lossless.contents.history ⟨"p1"⟩).map (·.change) = [.disable, .delete] ∧
      (lossy.contents.history ⟨"p1"⟩).Sublist (lossless.contents.history ⟨"p1"⟩) := by
  intro run lossy lossless
  obtain ⟨written, _, hruns⟩ :=
    lost_revisions_touch_only_histories ⟨true, 0⟩ acmeStore.contents false turnsOfAlice
  obtain ⟨hsame, hhistories⟩ := hruns (fun i _ => i = 2) fun _ _ => false
  refine ⟨hsame, rfl, rfl, hhistories ?_ ⟨"p1"⟩⟩
  intro w _ hlost
  cases hlost

end Governance
