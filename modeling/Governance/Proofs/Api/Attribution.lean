import Governance.Proofs.Api.DryRun
import Governance.Proofs.Gateway.Entries
import Governance.Proofs.Pipeline.Exit

/-!
# Governed queries are attributed

A query that is governed over HTTP is attributed to a user: its policies are asked about that user, and
what is recorded of it names that user. The user is the one in the body, and whoever the headers name only
when the body has no user at all. A user in the body that has no identifier is nobody, although it should
be whoever the headers name.
-/

namespace Governance

/-! ### Whom entries name -/

/-- How a request is recorded to come from its user. -/
def Request.actor (r : Request) : AuditActor := ⟨r.user.id, r.user.email, r.user.role⟩

namespace Pipeline

variable {r : Request} {outcome : Option (Except PipelineError PipelineOutcome)}

theorem Exit.actor_eq {endless : Bool} {request : RequestId}
    {verdict : Except EvaluationError Decision} {f : Footprint}
    (hexit : Exit endless r request verdict f outcome) : ∀ e ∈ f.offers, e.actor = r.actor := by
  cases hexit with
  | undecided | refused | unrouted | served => exact List.forall_mem_singleton.2 rfl
  | broken | untimed => exact List.forall_mem_nil _

/-- A pipeline whose engine asks only the service records whoever sends the request. -/
theorem actor_of_process {pipeline : Pipeline}
    {asks : Request → Program serviceInterface (Except EvaluationError Decision)}
    (hengine : pipeline.engine = .ofService asks) {trace : List (Exchange gatewayInterface)}
    (hrun : GatewayRuns (pipeline.process r).run trace outcome) :
    ∀ e ∈ (footprint trace).offers, e.actor = r.actor := by
  obtain ⟨started, request, evaluation, verdict, rest, rfl, hasked, hexit⟩ := exit_of_process hrun
  rw [hengine] at hasked
  obtain ⟨hnone, verdict, rfl⟩ := runs_translate_service hasked
  have hfoot : footprint (⟨.elapsed, some started⟩ :: ⟨.requestId, some request⟩ ::
      (evaluation ++ rest)) = footprint rest := by
    simp [hnone, GatewayCall.footprint]
  rw [hfoot]
  exact hexit.actor_eq

end Pipeline

/-! ### Serving a query -/

section Serving

variable {σ τ α β : Type} {contents : σ → List AuditEntry} {g : Gateway σ} {r : Request}

/-- Running `x` from `g` adds no entries but those that name the user of a request. -/
def Request.Attributes (r : Request) (contents : σ → List AuditEntry) (x : Acting (Gateway σ) α)
    (g : Gateway σ) : Prop :=
  Acting.Ensures x g fun _ g' => ∀ e ∈ g'.entries contents, e ∈ g.entries contents ∨ e.actor = r.actor

namespace Request.Attributes

theorem of_keeps {x : Acting (Gateway σ) α} (hx : Acting.Keeps (Gateway.entries contents) x g) :
    r.Attributes contents x g :=
  fun a _ he => .inl (hx a he)

theorem bind {x : Acting (Gateway σ) α} {f : α → Acting (Gateway σ) β} (hx : r.Attributes contents x g)
    (hf : ∀ value g, r.Attributes contents (f value) g) : r.Attributes contents (x >>= f) g := by
  refine Acting.Ensures.bind (hx.mono fun value g₁ hfirst => (hf value g₁).mono ?_)
  intro _ g' hsecond e he
  rcases hsecond e he with hheld | hnamed
  · exact hfirst e hheld
  · exact .inr hnamed

theorem get_bind {f : Gateway σ → Acting (Gateway σ) α} (hf : r.Attributes contents (f g) g) :
    r.Attributes contents (get >>= f) g :=
  hf

end Request.Attributes

namespace Serving

variable {s : Serving σ τ} (hadds : (BatchWriter.write s.backend).AddsOnly contents)

theorem keeps_schedule (action : SchedulerAction) :
    Acting.Keeps (Gateway.entries contents) (schedule action) g :=
  fun _ => List.Subset.refl _

include hadds

theorem keeps_turnOfWorker : Acting.Keeps (Gateway.entries contents) s.turnOfWorker g := by
  refine .get_bind (Acting.Keeps.bind ?_ fun _ g => Gateway.keeps_settle hadds g)
  exact Gateway.keeps_onLine (AuditLine.keeps_act hadds rfl g.line)

variable {asks : Request → Program serviceInterface (Except EvaluationError Decision)}
  (hengine : s.pipeline.engine = .ofService asks)

include hengine

theorem attributes_process :
    r.Attributes contents (Gateway.govern s.backend s.collaborators s.pipeline r).run g := by
  refine (Gateway.adds_run hadds s.collaborators g (s.pipeline.process r).run).mono ?_
  rintro _ g' ⟨trace, reply, hrun, hadded⟩ e he
  exact (List.mem_append.1 (hadded he)).imp_right
    (Pipeline.actor_of_process hengine hrun e)

theorem attributes_runTask (task : Nat) : r.Attributes contents (s.runTask task r) g := by
  refine .bind (.of_keeps (keeps_schedule _)) fun _ g => ?_
  refine .bind (attributes_process hadds hengine) fun outcome g => ?_
  refine .bind (.of_keeps (keeps_schedule _)) fun _ g => ?_
  refine .bind (.of_keeps (keeps_turnOfWorker hadds)) fun _ g => .of_keeps ?_
  match outcome with
  | .ok (.ok _) | .ok (.error _) | .error _ => exact fun _ => List.Subset.refl _

/-- What is recorded while a request is governed names its user. -/
theorem attributes_govern : r.Attributes contents (s.govern r) g := by
  refine .get_bind ?_
  dsimp only
  split
  · exact .of_keeps fun _ => List.Subset.refl _
  · refine .bind (.of_keeps (keeps_schedule _)) fun _ g => ?_
    exact .bind (.of_keeps (keeps_turnOfWorker hadds)) fun _ g => attributes_runTask hadds hengine _

end Serving

end Serving

/-! ### Whom the headers name -/

namespace Text

theorem trim_eq_nil_iff {cs : List Char} : trim cs = [] ↔ ∀ c ∈ cs, isBlankChar c = true := by
  rw [trim, trimEnd, trimStart, List.reverse_eq_nil_iff, List.dropWhile_eq_nil_iff]
  simp only [List.mem_reverse]
  rw [← List.dropWhile_eq_nil_iff, List.dropWhile_idempotent, List.dropWhile_eq_nil_iff]

theorem isEmpty_trimmed (text : String) : (trimmed text).isEmpty = isBlank text := by
  rw [Bool.eq_iff_iff, String.isEmpty_iff, trimmed, isBlank, List.all_eq_true, ← trim_eq_nil_iff]
  exact String.ofList_eq_empty_iff

end Text

namespace Caller

variable {r : HttpRequest} {caller : Caller}

/-- The user that a header names, unless the header is missing or blank. -/
theorem actor_of_header (h : ofRequest r = .ok caller) :
    caller.actor = match r.header? userHeader with
      | some text => if Text.isBlank text then unnamed else Text.trimmed text
      | none => unnamed := by
  unfold ofRequest at h
  split at h
  · cases h
    unfold headerText?
    cases r.header? userHeader with
    | none => rfl
    | some text =>
      simp only [Option.map_some, Option.filter_some, Text.isEmpty_trimmed]
      cases Text.isBlank text <;> rfl
  · cases h

theorem actor_ne_empty (h : ofRequest r = .ok caller) : caller.actor ≠ "" := by
  rw [actor_of_header h]
  split
  · split
    · decide
    · rename_i text hblank
      rw [ne_eq, ← String.isEmpty_iff, Text.isEmpty_trimmed]
      exact hblank
  · decide

end Caller

/-! ### Attribution -/

theorem ApiCall.method_of_govern {r : HttpRequest} {caller : Caller} {query : QueryPayload}
    (h : ofRequest r = .ok (.govern caller query)) : r.method = .post := by
  obtain ⟨route, hread⟩ := read_of_ofRequest h
  generalize hmethod : methodOf r = method at hread
  unfold read? at hread
  split at hread
  case h_1 => exact method_of_methodOf hmethod nofun
  all_goals simp [Json.bind_eq_ok, Json.map_eq_ok] at hread

namespace QueryPayload

/-- Whom a query should be attributed to: the user in the body, or the caller when the body gives no
identifier of a user or an empty one. -/
def attributee (q : QueryPayload) (caller : Caller) : String :=
  ((q.user.map (·.id)).filter (· ≠ "")).getD caller.actor

/-- A query with a user who has no identifier. -/
def IsNameless (q : QueryPayload) : Prop := ∃ user, q.user = some user ∧ user.id = ""

/-- The user of a query is the one that it should be attributed to, or nobody if the user in the body has
no identifier. -/
theorem toRequest_user (q : QueryPayload) (caller : Caller) :
    (¬ q.IsNameless → (q.toRequest caller.tenant caller.actor).user.id = q.attributee caller) ∧
    (q.IsNameless → (q.toRequest caller.tenant caller.actor).user.id = "" ∧
      q.attributee caller = caller.actor) := by
  unfold IsNameless attributee toRequest
  cases q.user with
  | none => simp
  | some user =>
    by_cases hid : user.id = ""
    · simp [hid, Option.filter_some]
    · simp [hid, Option.filter_some]

end QueryPayload

namespace Serving

variable {σ τ : Type} {contents : σ → List AuditEntry} {s : Serving σ τ}
  {asks : Request → Program serviceInterface (Except EvaluationError Decision)}
  {r : HttpRequest} {caller : Caller} {query : QueryPayload}

theorem serve_govern (hcall : ApiCall.ofRequest r = .ok (.govern caller query)) :
    s.serve r = s.govern (query.toRequest caller.tenant caller.actor) := by
  have hmethod : r.method ≠ .head := by
    rw [ApiCall.method_of_govern hcall]
    decide
  unfold serve
  rw [hcall]
  simp only [if_neg hmethod, answer]
  exact bind_pure _

/-- Of every query that is accepted the policies see the identifier of the user of the request that is
made of it, and everything that is recorded of the query names that user. It is the user to whom the query
should be attributed, unless the body has a user without an identifier: then it is nobody, where it should
be whoever the headers name. -/
theorem attributed_unless_nameless (hadds : (BatchWriter.write s.backend).AddsOnly contents)
    (hengine : s.pipeline.engine = .ofService asks)
    (hcall : ApiCall.ofRequest r = .ok (.govern caller query)) (g : Gateway σ) (a : Ambient) :
    let request := query.toRequest caller.tenant caller.actor
    let id := request.user.id
    readBody QueryPayload.interest QueryPayload.ofJson r = .ok query ∧
    (caller.actor = match r.header? Caller.userHeader with
      | some text => if Text.isBlank text then Caller.unnamed else Text.trimmed text
      | none => Caller.unnamed) ∧
    s.serve r = s.govern request ∧ request.fact "user.id" = .text id ∧
    (∀ e ∈ ((s.serve r).run g a).1.2.entries contents,
      e ∈ g.entries contents ∨ e.actor = ⟨id, request.user.email, request.user.role⟩) ∧
    (¬ query.IsNameless → id = query.attributee caller) ∧
    (query.IsNameless → id = "" ∧ query.attributee caller = caller.actor ∧ caller.actor ≠ "") := by
  intro request id
  obtain ⟨hcaller, -, hbody⟩ := ApiCall.read_govern hcall
  obtain ⟨hnamed, hnameless⟩ := query.toRequest_user caller
  refine ⟨hbody, Caller.actor_of_header hcaller, serve_govern hcall, rfl, ?_, hnamed, fun h => ?_⟩
  · rw [serve_govern hcall]
    exact attributes_govern hadds hengine a
  · exact ⟨(hnameless h).1, (hnameless h).2, Caller.actor_ne_empty hcaller⟩

/-- A gateway that keeps its entries in memory and has no provider. -/
def recording : Serving MemoryAudit StagedEntries :=
  ⟨some MemoryAudit.backend, ⟨noProvider, redactNothing⟩,
    ⟨.ofStore, Pipeline.defaultDeadline⟩, ⟨false, 30⟩, none⟩

def recordingGateway : Gateway MemoryAudit :=
  .make MemoryStore.empty (.ofConfig .standard MemoryAudit.empty) .standard 256 ⟨0, 0⟩

/-- The users that are recorded when a request is served. -/
def usersRecorded (r : HttpRequest) : List String :=
  (((recording.serve r).run recordingGateway .initial).1.2.entries (·.committed)).map (·.actor.user)

theorem alice_attributed :
    (BatchWriter.write recording.backend).AddsOnly MemoryAudit.committed ∧
    recording.pipeline.engine = .ofService Engine.decideByStore ∧
    ApiCall.ofRequest (sentByAlice "/api/v1/process") =
      .ok (.govern ⟨⟨"acme"⟩, "alice"⟩ ⟨"secret", none, none, none, []⟩) ∧
    usersRecorded (sentByAlice "/api/v1/process") = ["alice"] := by
  have hadds : (BatchWriter.write recording.backend).AddsOnly MemoryAudit.committed :=
    MemoryAudit.write_addsOnly
  obtain ⟨-, -, hserve, -⟩ := attributed_unless_nameless hadds DecisionEngine.ofStore_eq_ofService
    sentByAlice_governed recordingGateway .initial
  refine ⟨hadds, rfl, sentByAlice_governed, ?_⟩
  rw [usersRecorded, hserve]
  decide +kernel

def namelessByAlice : HttpRequest :=
  { sentByAlice "/api/v1/process" with
    body := "\x7b\"query\":\"hello\",\"user\":\x7b\"email\":\"a@x.io\"\x7d\x7d" }

def namelessQuery : QueryPayload :=
  ⟨"hello", none, some { User.unknown with email := "a@x.io" }, none, []⟩

/-- The query should be attributed to Alice, and is attributed to nobody. -/
theorem nameless_not_attributed :
    ApiCall.ofRequest namelessByAlice = .ok (.govern ⟨⟨"acme"⟩, "alice"⟩ namelessQuery) ∧
    namelessQuery.attributee ⟨⟨"acme"⟩, "alice"⟩ = "alice" ∧
    (namelessQuery.toRequest ⟨"acme"⟩ "alice").fact "user.id" = .text "" ∧
    usersRecorded namelessByAlice = [""] := by
  have hgoverned : ApiCall.ofRequest namelessByAlice =
      .ok (.govern ⟨⟨"acme"⟩, "alice"⟩ namelessQuery) :=
    ApiCall.ofRequest_governing (by cbv) rfl (by cbv) (by cbv) (by decide)
  refine ⟨hgoverned, rfl, rfl, ?_⟩
  rw [usersRecorded, serve_govern hgoverned]
  decide +kernel

end Serving

end Governance
