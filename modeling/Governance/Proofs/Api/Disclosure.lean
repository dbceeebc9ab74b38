import Governance.Api.Answer
import Governance.Proofs.Service.InStep
import Governance.Proofs.Service.Isolation
import Governance.Proofs.Service.Limit

/-!
# What responses disclose of failures

A response to a call for the policies does not hang on the words in which the store failed: a failed call
is answered with an envelope that says the same of all failures. The one exception is an import that went
through although some of its drafts failed. Its report is answered as it is, and it gives for each of these
drafts a reason that the store may have put in its own words.
-/

namespace Governance

open ServiceProgram (InStep)

variable {R : ImportReport → ImportReport → Prop}

/-! ### Reports that differ in reasons -/

/-- The same draft has failed, for a reason that may be another one. -/
inductive FailureAlike : String → String → Prop where
  | same (message : String) : FailureAlike message message
  | creation (name reason reason' : String) :
      FailureAlike (creationMessage name reason) (creationMessage name reason')
  | replacement (name reason reason' : String) :
      FailureAlike (replacementMessage name reason) (replacementMessage name reason')

/-- The same has become of all drafts, but for the reasons why some have failed. -/
structure ImportReport.FailsAlike (r r' : ImportReport) : Prop where
  created : r.created = r'.created
  updated : r.updated = r'.updated
  skipped : r.skipped = r'.skipped
  errors : List.Forall₂ FailureAlike r.errors r'.errors

/-! ### Responses -/

theorem inStep_reportEvents {events events' : List Event}
    (hlength : events.length = events'.length) :
    Program.InStep R Eq (reportEvents events) (reportEvents events') := by
  induction events generalizing events' with
  | nil =>
    rw [List.length_eq_zero_iff.1 hlength.symm]
    exact .done rfl
  | cons e rest ih =>
    obtain ⟨e', rest', rfl⟩ := List.exists_cons_of_length_eq_add_one hlength.symm
    exact .report (ih (Nat.succ.inj hlength))

/-- Failures that are alike are answered in the same way. -/
theorem ServiceError.Alike.response_eq {e e' : ServiceError} (halike : e.Alike e') :
    e.response = e'.response ∧ e.events.length = e'.events.length := by
  rcases halike with rfl | ⟨reason, reason', rfl, rfl⟩
  · exact ⟨rfl, rfl⟩
  · exact ⟨rfl, rfl⟩

theorem inStep_answering {α : Type} {post : α → α → Prop} {p : ServiceProgram α}
    {response : α → HttpResponse} {related : HttpResponse → HttpResponse → Prop}
    (hp : InStep R post p p)
    (hrelated : ∀ value value', post value value' → related (response value) (response value'))
    (hrefl : ∀ r, related r r) :
    Program.InStep R related (answering p response) (answering p response) := by
  refine Program.InStep.bind hp ?_
  rintro (e | value) (e' | value') hvalue
  · obtain ⟨hresponse, hlength⟩ := ServiceError.Alike.response_eq hvalue
    refine Program.InStep.bind (inStep_reportEvents hlength) fun _ _ _ => .done ?_
    rw [hresponse]
    exact hrefl _
  · cases hvalue
  · cases hvalue
  · exact .done (hrelated value value' hvalue)

/-- The same but for the report of an import. -/
def PolicyCall.ResponsesAlike (R : ImportReport → ImportReport → Prop) (call : PolicyCall)
    (response response' : HttpResponse) : Prop :=
  response = response' ∨ ∃ request done done', call = .importAll request ∧ R done done' ∧
    response = .json 200 done.toJson ∧ response' = .json 200 done'.toJson

theorem PolicyCall.inStep_answer (gate : Gate) (caller : Caller) (call : PolicyCall) :
    Program.InStep R (call.ResponsesAlike R) (call.answer gate caller)
      (call.answer gate caller) := by
  have hperform := Service.inStep_perform (R := R) gate caller call
  cases call with
  | importAll request =>
    refine inStep_answering hperform (fun done done' hdone => .inr ?_) fun _ => .inl rfl
    exact ⟨request, done, done', rfl, hdone, rfl, rfl⟩
  | _ =>
    refine inStep_answering hperform ?_ fun _ => .inl rfl
    rintro value _ rfl
    exact .inl rfl

/-- Whatever store there is, two runs of a call that are answered alike but for the words of failures end
in the same response. Where the reports of imports differ as well, in the reasons why drafts have failed,
the responses differ in these reports and in nothing else. -/
theorem PolicyCall.responses_conceal_failures (gate : Gate) (caller : Caller) (call : PolicyCall)
    {trace trace' : List (Exchange serviceInterface)} {response response' : HttpResponse}
    (hrun : Program.Runs (fun _ => False) (call.answer gate caller) trace (some response))
    (hrun' : Program.Runs (fun _ => False) (call.answer gate caller) trace' (some response')) :
    (AnsweredAlike Eq trace trace' → response = response') ∧
    (AnsweredAlike ImportReport.FailsAlike trace trace' →
      call.ResponsesAlike ImportReport.FailsAlike response response') := by
  constructor
  · intro halike
    rcases (call.inStep_answer gate caller).of_runs hrun hrun' halike with
      hsame | ⟨_, done, done', _, rfl, rfl, rfl⟩
    · exact hsame
    · rfl
  · exact (call.inStep_answer gate caller).of_runs hrun hrun'

/-! ### Failures in other words -/

/-- A store that fails in these words, and that goes through with imports although no draft can become a
policy. -/
def refusing (e : StoreError) : (c : ServiceCall) → c.Answer
  | .store (.findByName ..) => .ok none
  | .store (.importAll _ drafts _ _) =>
    .ok (.ofOutcomes (drafts.map fun d => .failed d.name (creationMessage d.name e.message)))
  | .store _ => .error e
  | .now => ⟨0, 0⟩
  | .report _ => ()

theorem exportAll_conceals :
    (((PolicyCall.exportAll.answer ⟨true, 0⟩ alice).replay
      (refusing (.database "disk full"))).2 =
    ((PolicyCall.exportAll.answer ⟨true, 0⟩ alice).replay
      (refusing (.transaction "connection reset"))).2) := by
  refine (PolicyCall.exportAll.responses_conceal_failures ⟨true, 0⟩ alice
    (Program.runs_replay _ _) (Program.runs_replay _ _)).1 ?_
  exact .cons (.store trivial) .nil

/-- A draft that asks for the identifier of another policy. -/
def clashingDraft : PolicyDraft :=
  { PolicyDraft.named "Second" .content with
    id := some ⟨"p1"⟩
    conditions := [⟨"query", "contains", .string "secret"⟩]
    actions := [⟨"block", []⟩] }

def importingClash : PolicyCall := .importAll ⟨[clashingDraft], none⟩

theorem replay_importingClash (e : StoreError) :
    ((importingClash.answer ⟨true, 0⟩ alice).replay (refusing e)).2 =
      .json 200 (ImportReport.mk 0 0 0 [creationMessage "Second" e.message]).toJson :=
  rfl

/-- Other words of the store make another response. -/
theorem replay_importingClash_ne {e e' : StoreError} (hother : e.message ≠ e'.message) :
    ((importingClash.answer ⟨true, 0⟩ alice).replay (refusing e)).2 ≠
      ((importingClash.answer ⟨true, 0⟩ alice).replay (refusing e')).2 := by
  have hread (message : String) : ImportReport.ofJson (ImportReport.mk 0 0 0 [message]).toJson =
      .ok ⟨0, 0, 0, [message]⟩ := rfl
  intro hsame
  rw [replay_importingClash, replay_importingClash] at hsame
  have hreports := congrArg ImportReport.ofJson (HttpBody.json.inj (congrArg HttpResponse.body hsame))
  rw [hread, hread] at hreports
  have hmessages := List.singleton_inj.1 (congrArg ImportReport.errors (Except.ok.inj hreports))
  exact hother (String.append_right_inj _ |>.1 hmessages)

/-- The store in memory refuses a draft whose identifier is taken. The response to an import says so in
the words of the store, and other words make another response. -/
theorem importingClash_discloses :
    let taken : StoreError := .database "policy id p1 already exists"
    let answer := importingClash.answer ⟨true, 0⟩ alice
    ((MemoryStore.insert ⟨"acme"⟩ clashingDraft "alice").run acmeStore .initial).1.1 =
      .error taken ∧
    ((answer.run Service.answer).run acmeStore .initial).1.1 =
      .json 200 (ImportReport.mk 0 0 0 [creationMessage "Second" taken.message]).toJson ∧
    ((answer.run Service.answer).run acmeStore .initial).1.1 =
      (answer.replay (refusing taken)).2 ∧
    AnsweredAlike ImportReport.FailsAlike (answer.replay (refusing taken)).1
      (answer.replay (refusing (.database "disk full"))).1 ∧
    (answer.replay (refusing taken)).2 ≠ (answer.replay (refusing (.database "disk full"))).2 := by
  intro taken answer
  refine ⟨rfl, rfl, rfl, ?_, ?_⟩
  · have hreports : ImportReport.FailsAlike ⟨0, 0, 0, [creationMessage "Second" taken.message]⟩
        ⟨0, 0, 0, [creationMessage "Second" (StoreError.database "disk full").message]⟩ :=
      ⟨rfl, rfl, rfl, .cons (.creation ..) .nil⟩
    exact .cons (.store rfl) (.cons (.store hreports) .nil)
  · exact replay_importingClash_ne (by decide)

end Governance
