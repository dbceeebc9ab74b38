import Mathlib
import Governance.Gateway.Serving
import Governance.Proofs.Json.Records
import Governance.Proofs.Service.Trial

/-!
# Dry runs over HTTP

A dry run and a query that asks to be governed carry the same body. Two readers take it apart, and two
functions make a request of it. They treat every field alike but one: when the body names no user, a
query is sent in the name of the caller, and a dry run in nobody's. So a dry run tells what becomes of
the query unless the policy asks for the identifier of the user and the body leaves the user out.
-/

namespace Governance

open Json

/-! ### The identifier of the user -/

/-- A request whose user has another identifier. -/
def Request.sentBy (r : Request) (id : String) : Request := { r with user := { r.user with id := id } }

theorem eq_append_of_afterStart? {start text rest : String}
    (h : afterStart? start text = some rest) : text = start ++ rest := by
  unfold afterStart? at h
  split at h
  · rename_i hstart
    obtain ⟨behind, hbehind⟩ := List.isPrefixOf_iff_prefix.1 hstart
    have hrest : rest = String.ofList behind := by
      rw [← Option.some.inj h, ← hbehind, List.drop_left' String.length_toList]
    apply String.toList_inj.1
    rw [hrest, String.toList_append, String.toList_ofList, hbehind]
  · cases h

theorem Request.factAt_sentBy (r : Request) (id : String) {address : Address}
    (haddress : address ≠ .user "id") : (r.sentBy id).factAt address = r.factAt address := by
  cases address with
  | user aspect =>
    have haspect : aspect ≠ "id" := fun h => haddress (congrArg Address.user h)
    simp [factAt, User.fact, sentBy, haspect]
  | _ => rfl

theorem Condition.holds_sentBy {c : Condition} (hfield : c.field ≠ "user.id") (r : Request)
    (id : String) : c.holds (r.sentBy id) = c.holds r := by
  have haddress : Address.ofField? c.field ≠ some (.user "id") := by
    intro h
    unfold Address.ofField? at h
    split at h
    · cases h
    split at h
    · cases h
    split at h
    · rename_i hstart
      obtain rfl : _ = "id" := by simpa using h
      exact hfield (eq_append_of_afterStart? hstart)
    · simp at h
  unfold Condition.holds
  cases hfound : Address.ofField? c.field with
  | none => rfl
  | some address =>
    have hother : address ≠ .user "id" := fun h => haddress (hfound.trans (congrArg some h))
    cases Operator.ofWord? c.operator with
    | none => rfl
    | some op =>
      dsimp only
      rw [r.factAt_sentBy id hother]

theorem Policy.appliesTo_sentBy {p : Policy} (hfields : ∀ c ∈ p.conditions, c.field ≠ "user.id")
    (r : Request) (id : String) : p.appliesTo (r.sentBy id) = p.appliesTo r := by
  rw [Bool.eq_iff_iff, appliesTo_iff, appliesTo_iff]
  refine forall₂_congr fun c hc => ?_
  rw [c.holds_sentBy (hfields c hc)]

/-! ### Reading the body -/

/-- The trial of a query that asks to be governed. -/
def QueryPayload.trial (q : QueryPayload) : TrialRequest :=
  ⟨q.query, q.kind, q.user, q.client, q.context⟩

/-- What one reader takes for a query the other one takes for the trial of it. -/
theorem TrialRequest.ofJson_of_query {j : Json} {q : QueryPayload}
    (h : QueryPayload.ofJson j = .ok q) : TrialRequest.ofJson j = .ok q.trial := by
  unfold QueryPayload.ofJson at h
  obtain ⟨fields, hfields, h⟩ := bind_eq_ok.1 h
  obtain ⟨query, hquery, h⟩ := bind_eq_ok.1 h
  obtain ⟨kind, hkind, h⟩ := bind_eq_ok.1 h
  obtain ⟨user, huser, h⟩ := bind_eq_ok.1 h
  obtain ⟨client, hclient, h⟩ := bind_eq_ok.1 h
  obtain ⟨context, hcontext, h⟩ := bind_eq_ok.1 h
  cases h
  unfold TrialRequest.ofJson
  refine bind_eq_ok.2 ⟨fields, hfields, ?_⟩
  refine bind_eq_ok.2 ⟨query, Fields.orElse_of_required hquery "", ?_⟩
  refine bind_eq_ok.2 ⟨kind, hkind, ?_⟩
  refine bind_eq_ok.2 ⟨user, huser, ?_⟩
  refine bind_eq_ok.2 ⟨client, hclient, ?_⟩
  exact bind_eq_ok.2 ⟨context, hcontext, rfl⟩

theorem readAs_eq_ok {α : Type} {interest : Interest} {decode : Decoder α} {text : String}
    {value : α} (h : readAs interest decode text = .ok value) :
    ∃ j, readFor interest text.toList = .ok j ∧ decode j = .ok value := by
  unfold readAs at h
  split at h
  · cases h
  · rename_i j hread
    split at h
    · rename_i hdecode
      cases h
      exact ⟨j, hread, hdecode⟩
    · cases h

theorem readBody_eq_ok {α : Type} {interest : Interest} {decode : Decoder α} {r : HttpRequest}
    {value : α} (h : readBody interest decode r = .ok value) :
    ∃ j, readFor interest r.body.toList = .ok j ∧ decode j = .ok value := by
  have hvalue : bodyValue interest decode r = .ok value := mapError_eq_ok.1 h
  unfold bodyValue at hvalue
  split at hvalue
  · cases hvalue
  split at hvalue
  · cases hvalue
  exact readAs_eq_ok (mapError_eq_ok.1 hvalue)

/-! ### Reading the request -/

variable {r : HttpRequest} {caller : Caller}

theorem PolicyCall.read_tryOut {route : Route} {method : HttpMethod} {id : PolicyId}
    {trial : TrialRequest}
    (h : PolicyCall.read? r route method = some (.ok (.tryOut id trial))) :
    method = .post ∧ readBody TrialRequest.interest TrialRequest.ofJson r = .ok trial := by
  unfold read? at h
  split at h
  case h_8 segment =>
    obtain ⟨_, _, hread⟩ := bind_eq_ok.1 (Option.some.inj h)
    obtain ⟨body, hbody, hcall⟩ := bind_eq_ok.1 hread
    cases hcall
    exact ⟨rfl, hbody⟩
  all_goals simp [naming, bind_eq_ok, map_eq_ok] at h

namespace ApiCall

theorem read_of_ofRequest {call : ApiCall} (h : ofRequest r = .ok call) :
    ∃ route, read? r route (methodOf r) = some (.ok call) := by
  unfold ofRequest at h
  split at h
  · cases h
  rename_i route _
  split at h
  · cases h
  rename_i hread
  exact ⟨route, hread.trans (congrArg some h)⟩

theorem read_policies {call : PolicyCall} (h : ofRequest r = .ok (.policies caller call)) :
    ∃ route, PolicyCall.read? r route (methodOf r) = some (.ok call) ∧
      Caller.ofRequest r = .ok caller := by
  obtain ⟨route, hread⟩ := read_of_ofRequest h
  unfold read? at hread
  split at hread
  case h_5 =>
    obtain ⟨_, hcall, hreading⟩ := Option.map_eq_some_iff.1 hread
    obtain ⟨_, hcaller, hpolicies⟩ := bind_eq_ok.1 hreading
    obtain ⟨_, rfl, hsame⟩ := bind_eq_ok.1 hpolicies
    cases hsame
    exact ⟨_, hcall, hcaller⟩
  all_goals simp [bind_eq_ok, map_eq_ok] at hread

/-- A request that is not taken for another one was made with the method it was read with. -/
theorem method_of_methodOf {method : HttpMethod} (hmethod : methodOf r = method)
    (hget : method ≠ .get) : r.method = method := by
  unfold methodOf at hmethod
  split at hmethod
  · exact absurd hmethod.symm hget
  · exact hmethod

theorem read_tryOut {id : PolicyId} {trial : TrialRequest}
    (h : ofRequest r = .ok (.policies caller (.tryOut id trial))) :
    r.method = .post ∧ Caller.ofRequest r = .ok caller ∧
      readBody TrialRequest.interest TrialRequest.ofJson r = .ok trial := by
  obtain ⟨route, hread, hcaller⟩ := read_policies h
  obtain ⟨hmethod, hbody⟩ := PolicyCall.read_tryOut hread
  exact ⟨method_of_methodOf hmethod nofun, hcaller, hbody⟩

theorem read_govern {query : QueryPayload} (h : ofRequest r = .ok (.govern caller query)) :
    Caller.ofRequest r = .ok caller ∧ Text.isBlank query.query = false ∧
      readBody QueryPayload.interest QueryPayload.ofJson r = .ok query := by
  obtain ⟨route, hread⟩ := read_of_ofRequest h
  unfold read? at hread
  split at hread
  case h_1 =>
    obtain ⟨_, hcaller, hreading⟩ := bind_eq_ok.1 (Option.some.inj hread)
    obtain ⟨_, hquery, hsame⟩ := bind_eq_ok.1 hreading
    cases hsame
    obtain ⟨_, hbody, hchecked⟩ := bind_eq_ok.1 hquery
    split at hchecked
    · cases hchecked
    · cases hchecked
      exact ⟨hcaller, Bool.eq_false_iff.2 ‹_›, hbody⟩
  all_goals simp [bind_eq_ok, map_eq_ok] at hread

theorem ofRequest_governing {query : QueryPayload} (hroute : Route.ofPath? r.path = some .governing)
    (hmethod : r.method = .post) (hcaller : Caller.ofRequest r = .ok caller)
    (hbody : readBody QueryPayload.interest QueryPayload.ofJson r = .ok query)
    (hquery : Text.isBlank query.query = false) :
    ofRequest r = .ok (.govern caller query) := by
  have hread : readQuery r = .ok query := by
    refine bind_eq_ok.2 ⟨query, hbody, ?_⟩
    rw [if_neg (by simp [hquery])]
    rfl
  have hpost : methodOf r = .post := by
    rw [methodOf, hmethod]
    rfl
  rw [ofRequest, hroute]
  simp only [read?, hpost]
  exact bind_eq_ok.2 ⟨caller, hcaller, bind_eq_ok.2 ⟨query, hread, rfl⟩⟩

end ApiCall

/-! ### Serving -/

theorem run_reportEvents (events : List Event) (s : MemoryStore) (a : Ambient) :
    ((Program.run Service.answer (reportEvents events)).run s a).1 = ((), s) := by
  induction events generalizing a with
  | nil => rfl
  | cons e rest ih => exact ih _

theorem run_answering {α : Type} (p : ServiceProgram α) (response : α → HttpResponse)
    (s : MemoryStore) (a : Ambient) :
    ((Program.run Service.answer (answering p response)).run s a).1 =
      (match ((Service.run p).run s a).1.1 with
        | .ok value => response value
        | .error e => e.response,
        ((Service.run p).run s a).1.2) := by
  unfold answering Service.run
  rw [Program.run_bind, Acting.run_bind_eq]
  cases ((Program.run Service.answer (ExceptT.run p)).run s a).1.1 with
  | ok value => rfl
  | error e =>
    dsimp only
    rw [Program.run_bind, Acting.run_bind_eq, run_reportEvents]
    rfl

theorem run_answering_ok {α : Type} {p : ServiceProgram α} {response : α → HttpResponse}
    {s s' : MemoryStore} {a : Ambient} {value : α}
    (h : ((Service.run p).run s a).1 = (.ok value, s')) :
    ((Program.run Service.answer (answering p response)).run s a).1 = (response value, s') := by
  rw [run_answering, h]

theorem Serving.serve_policies {σ τ : Type} (s : Serving σ τ) {call : PolicyCall}
    (hcall : ApiCall.ofRequest r = .ok (.policies caller call)) (hmethod : r.method ≠ .head)
    (g : Gateway σ) (a : Ambient) :
    ((s.serve r).run g a).1.1 =
      ((Program.run Service.answer (call.answer s.gate caller)).run g.store a).1.1 := by
  have hserve : ((s.serve r).run g a).1.1 = if r.method = .head then
      (((s.answer (.policies caller call)).run g a).1.1).headOnly
      else ((s.answer (.policies caller call)).run g a).1.1 := by
    unfold serve
    rw [hcall]
    rfl
  rw [hserve, if_neg hmethod]
  rfl

/-! ### A dry run and the query itself -/

/-- A dry run and a query that asks to be governed, with the same headers and the same body. -/
structure Rehearsal where
  dry : HttpRequest
  live : HttpRequest
  headers : dry.headers = live.headers
  body : dry.body = live.body
  tester : Caller
  policy : PolicyId
  trial : TrialRequest
  tried : ApiCall.ofRequest dry = .ok (.policies tester (.tryOut policy trial))
  sender : Caller
  query : QueryPayload
  governed : ApiCall.ofRequest live = .ok (.govern sender query)

namespace Rehearsal

variable (x : Rehearsal)

theorem sender_eq : x.sender = x.tester := by
  have hsame : Caller.ofRequest x.dry = Caller.ofRequest x.live := by
    simp only [Caller.ofRequest, Caller.headerText?, HttpRequest.header?, x.headers]
  rw [(ApiCall.read_tryOut x.tried).2.1, (ApiCall.read_govern x.governed).1] at hsame
  exact (Except.ok.inj hsame).symm

theorem trial_eq : x.trial = x.query.trial := by
  obtain ⟨j, hread, hquery⟩ := readBody_eq_ok (ApiCall.read_govern x.governed).2.2
  obtain ⟨j', hread', htrial⟩ := readBody_eq_ok (ApiCall.read_tryOut x.tried).2.2
  -- The same members matter to both readers.
  have hsame : TrialRequest.interest = QueryPayload.interest := rfl
  rw [x.body, hsame, hread] at hread'
  obtain rfl := Except.ok.inj hread'
  rw [TrialRequest.ofJson_of_query hquery] at htrial
  exact (Except.ok.inj htrial).symm

def request : Request := x.query.toRequest x.sender.tenant x.sender.actor

theorem request_eq :
    x.request = x.trial.toRequest x.tester.tenant ∨
      x.query.user = none ∧
        x.request = (x.trial.toRequest x.tester.tenant).sentBy x.tester.actor := by
  rw [request, x.sender_eq, x.trial_eq]
  cases huser : x.query.user with
  | some user =>
    left
    simp [QueryPayload.toRequest, TrialRequest.toRequest, QueryPayload.trial, huser]
  | none =>
    right
    refine ⟨rfl, ?_⟩
    simp [QueryPayload.toRequest, TrialRequest.toRequest, QueryPayload.trial, Request.sentBy, huser]

end Rehearsal

section Foretelling

variable {σ τ : Type}

/-- The answer to a dry run says whether the engine lists a policy among those that apply to a request. -/
def Serving.Foretells (serving : Serving σ τ) (g : Gateway σ) (dry : HttpRequest) (p : Policy)
    (r : Request) : Prop :=
  ∀ a a' : Ambient, ∃ body matched d,
    ((serving.serve dry).run g a).1.1 = .json 200 body ∧
    body.member? "matched" = some (.bool matched) ∧
    ((Program.run Service.answer (Engine.decideByStore r)).run g.store a').1 = (.ok d, g.store) ∧
    (matched = true ↔ p.name ∈ d.applied)

/-- An enabled policy of a tenant whose policies have distinct names. -/
structure Gateway.Holds (g : Gateway σ) (tenant : TenantId) (p : Policy) : Prop where
  reachable : g.store.Reachable
  distinct : ((g.store.contents.ownedBy tenant).map (·.name)).Nodup
  owned : p ∈ g.store.contents.ownedBy tenant
  enabled : p.enabled = true

variable {g : Gateway σ} {tenant : TenantId} {p : Policy}

/-- Where names are distinct, a policy is among those that match when its name is. -/
theorem Gateway.Holds.mem_applied_iff (hp : g.Holds tenant p) {r : Request}
    (htenant : r.tenant = tenant) {d : Decision} (htells : d.Tells (g.store.matching r)) :
    p.name ∈ d.applied ↔ p.appliesTo r = true := by
  rw [htells.applied, List.mem_map]
  constructor
  · rintro ⟨q, hq, hname⟩
    obtain ⟨⟨hqowned, _⟩, happlies⟩ := MemoryStore.mem_matching.1 hq
    rw [htenant] at hqowned
    rwa [← List.inj_on_of_nodup_map hp.distinct hqowned hp.owned hname]
  · intro happlies
    exact ⟨p, MemoryStore.mem_matching.2 ⟨⟨htenant ▸ hp.owned, hp.enabled⟩, happlies⟩, rfl⟩

/-- The answer to a dry run is about the request that is made of it. -/
theorem Rehearsal.foretells_iff (x : Rehearsal) (serving : Serving σ τ)
    (hp : g.Holds x.tester.tenant p) (hpolicy : p.id = x.policy) {r : Request}
    (htenant : r.tenant = x.tester.tenant) :
    serving.Foretells g x.dry p r ↔
      p.appliesTo r = p.appliesTo (x.trial.toRequest x.tester.tenant) := by
  have hserve (a : Ambient) : ((serving.serve x.dry).run g a).1.1 =
      .json 200 (p.tryOn (x.trial.toRequest x.tester.tenant)).toJson := by
    have hquery : Text.isBlank x.trial.query = false := by
      rw [x.trial_eq]
      exact (ApiCall.read_govern x.governed).2.1
    have htrial := Service.run_tryOut hp.reachable hp.owned hquery a
    rw [hpolicy] at htrial
    have hmethod : x.dry.method ≠ .head := by
      rw [(ApiCall.read_tryOut x.tried).1]
      decide
    rw [serving.serve_policies x.tried hmethod]
    exact congrArg Prod.fst (run_answering_ok htrial)
  have hdecide (a : Ambient) := Engine.run_decideByStore r g.store a
  have happlied := hp.mem_applied_iff htenant (Decision.ofPolicies_tells _ r)
  constructor
  · intro hforetells
    obtain ⟨body, matched, d, hbody, hmatched, hd, hiff⟩ := hforetells .initial .initial
    rw [hserve] at hbody
    cases hbody
    rw [hdecide] at hd
    cases hd
    cases hmatched
    rw [Bool.eq_iff_iff, ← happlied]
    exact hiff.symm
  · intro hsame a a'
    exact ⟨_, _, _, hserve a, rfl, hdecide a', by rw [happlied, hsame]; rfl⟩

/-- A dry run tells whether the policy is one of those that apply to the query, when the body names a
user or the policy does not ask for the identifier of the user. A query without a user is otherwise
taken to be sent by nobody. -/
theorem dry_run_foretells_query (x : Rehearsal) (serving : Serving σ τ)
    (hp : g.Holds x.tester.tenant p) (hpolicy : p.id = x.policy) :
    (x.query.user.isSome ∨ (∀ c ∈ p.conditions, c.field ≠ "user.id") →
      serving.Foretells g x.dry p x.request) ∧
    (x.query.user = none → serving.Foretells g x.dry p (x.request.sentBy "")) := by
  have htenant : x.request.tenant = x.tester.tenant := congrArg Caller.tenant x.sender_eq
  have hnobody : (x.request.sentBy "").tenant = x.tester.tenant := htenant
  constructor
  · intro hknown
    rw [x.foretells_iff serving hp hpolicy htenant]
    rcases x.request_eq with hsame | ⟨huser, hsent⟩
    · rw [hsame]
    · rcases hknown with hsome | hfields
      · rw [huser] at hsome
        cases hsome
      · rw [hsent, Policy.appliesTo_sentBy hfields]
  · intro huser
    rw [x.foretells_iff serving hp hpolicy hnobody]
    have hsame : x.request.sentBy "" = x.trial.toRequest x.tester.tenant := by
      rw [Rehearsal.request, x.sender_eq, x.trial_eq]
      simp [QueryPayload.toRequest, TrialRequest.toRequest, QueryPayload.trial, Request.sentBy,
        User.unknown, huser]
    rw [hsame]

end Foretelling

/-! ### A body without a user -/

def sentByAlice (target : String) : HttpRequest where
  method := .post
  target := target
  headers :=
    [("x-tenant-id", "acme"), ("x-user-id", "alice"), ("content-type", "application/json")]
  body := "\x7b\"query\":\"secret\"\x7d"

theorem sentByAlice_tried :
    ApiCall.ofRequest (sentByAlice "/api/v1/policies/p1/test") =
      .ok (.policies ⟨⟨"acme"⟩, "alice"⟩ (.tryOut ⟨"p1"⟩ ⟨"secret", none, none, none, []⟩)) := by
  cbv

theorem sentByAlice_governed :
    ApiCall.ofRequest (sentByAlice "/api/v1/process") =
      .ok (.govern ⟨⟨"acme"⟩, "alice"⟩ ⟨"secret", none, none, none, []⟩) :=
  ApiCall.ofRequest_governing (by cbv) rfl (by cbv) (by cbv) (by decide)

/-- Alice tries a policy on a query and then sends the query. -/
def aliceRehearsal : Rehearsal where
  dry := sentByAlice "/api/v1/policies/p1/test"
  live := sentByAlice "/api/v1/process"
  headers := rfl
  body := rfl
  tester := ⟨⟨"acme"⟩, "alice"⟩
  policy := ⟨"p1"⟩
  trial := ⟨"secret", none, none, none, []⟩
  tried := sentByAlice_tried
  sender := ⟨⟨"acme"⟩, "alice"⟩
  query := ⟨"secret", none, none, none, []⟩
  governed := sentByAlice_governed

def quietServing : Serving Unit Unit :=
  ⟨none, ⟨noProvider, redactNothing⟩, ⟨.ofStore, Pipeline.defaultDeadline⟩, ⟨false, 30⟩, none⟩

def gatewayWith (p : Policy) : Gateway Unit :=
  .make (MemoryStore.empty.seed p) (.ofConfig .standard ()) .standard 256 ⟨0, 0⟩

theorem gatewayWith_holds {p : Policy} (henabled : p.enabled = true) :
    (gatewayWith p).Holds p.tenant p := by
  have howned : (gatewayWith p).store.contents.ownedBy p.tenant = [p] :=
    List.filter_cons_of_pos (by simp)
  refine ⟨MemoryStore.Reachable.empty.seed p, ?_, ?_, henabled⟩
  · rw [howned]
    exact List.nodup_singleton _
  · rw [howned]
    exact List.mem_singleton_self p

theorem aliceRehearsal_foretells :
    quietServing.Foretells (gatewayWith acmeRule) aliceRehearsal.dry acmeRule
      aliceRehearsal.request :=
  (dry_run_foretells_query aliceRehearsal quietServing (gatewayWith_holds rfl) rfl).1
    (.inr (by decide))

/-- A policy for one user. -/
def aliceRule : Policy := { acmeRule with conditions := [⟨"user.id", "equals", .string "alice"⟩] }

theorem query_names_sender :
    ¬ ∀ (x : Rehearsal) (serving : Serving Unit Unit) (g : Gateway Unit) (p : Policy),
      g.Holds x.tester.tenant p → p.id = x.policy → serving.Foretells g x.dry p x.request := by
  intro hforetells
  have hholds : (gatewayWith aliceRule).Holds aliceRehearsal.tester.tenant aliceRule :=
    gatewayWith_holds rfl
  have hsame := (aliceRehearsal.foretells_iff quietServing hholds rfl rfl).1
    (hforetells aliceRehearsal quietServing (gatewayWith aliceRule) aliceRule hholds rfl)
  exact absurd hsame (by decide +kernel)

end Governance
