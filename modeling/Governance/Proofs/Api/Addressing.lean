import Governance.Proofs.Api.DryRun
import Governance.Proofs.Text.Bytes

/-!
# Addressing a policy over HTTP

Whoever creates a policy may choose its identifier, and the identifier stands in the path of every
later request for it. Any identifier can be written into a path and is read back, but two segments
are taken: a policy named `import` or `export` cannot be asked for by them, since their paths are
those of other routes.
-/

namespace Governance

open Json

/-! ### Paths -/

namespace Text

variable {mark : Char}

theorem splitAtMark_ne_nil (mark : Char) (cs : List Char) : splitAtMark mark cs ≠ [] := by
  cases cs with
  | nil => exact List.cons_ne_nil _ _
  | cons c cs =>
    unfold splitAtMark
    split
    · exact List.cons_ne_nil _ _
    · split <;> exact List.cons_ne_nil _ _

theorem splitAtMark_mark_cons (cs : List Char) :
    splitAtMark mark (mark :: cs) = [] :: splitAtMark mark cs := by
  obtain ⟨first, others, hparts⟩ := List.exists_cons_of_ne_nil (splitAtMark_ne_nil mark cs)
  rw [splitAtMark, hparts]
  exact if_pos rfl

/-- What comes before the first mark is the first part. -/
theorem splitAtMark_append {cs : List Char} (hcs : mark ∉ cs) (rest : List Char) :
    splitAtMark mark (cs ++ mark :: rest) = cs :: splitAtMark mark rest := by
  induction cs with
  | nil => exact splitAtMark_mark_cons rest
  | cons c cs ih =>
    rw [List.mem_cons, not_or] at hcs
    obtain ⟨hc, hcs⟩ := hcs
    rw [List.cons_append, splitAtMark, ih hcs]
    exact if_neg (Ne.symm hc)

theorem splitAtMark_of_not_mem {cs : List Char} (hcs : mark ∉ cs) : splitAtMark mark cs = [cs] := by
  induction cs with
  | nil => rfl
  | cons c cs ih =>
    rw [List.mem_cons, not_or] at hcs
    obtain ⟨hc, hcs⟩ := hcs
    rw [splitAtMark, ih hcs]
    exact if_neg (Ne.symm hc)

/-- A text is split where parts were put together. -/
theorem splitAtMark_flatMap {parts : List (List Char)} (hparts : ∀ part ∈ parts, mark ∉ part)
    (first : List Char) (hfirst : mark ∉ first) :
    splitAtMark mark (first ++ parts.flatMap (mark :: ·)) = first :: parts := by
  induction parts generalizing first with
  | nil => rw [List.flatMap_nil, List.append_nil, splitAtMark_of_not_mem hfirst]
  | cons part parts ih =>
    obtain ⟨hpart, hparts⟩ := List.forall_mem_cons.1 hparts
    rw [List.flatMap_cons, List.cons_append, splitAtMark_append hfirst, ih hparts part hpart]

end Text

namespace Route

theorem ofPath?_path {route : Route} (hwhole : ∀ segment ∈ route.segments, '/' ∉ segment.toList) :
    ofPath? route.path = ofSegments? route.segments := by
  have hsplit : Text.splitAtMark '/' route.path.toList =
      [] :: route.segments.map String.toList := by
    have hpath : route.path.toList =
        [] ++ (route.segments.map String.toList).flatMap ('/' :: ·) := by
      simp [path, String.toList_join, List.flatMap_map]
    rw [hpath]
    refine Text.splitAtMark_flatMap ?_ [] List.not_mem_nil
    intro part hpart
    obtain ⟨segment, hsegment, rfl⟩ := List.mem_map.1 hpart
    exact hwhole segment hsegment
  have hback : (route.segments.map String.toList).map String.ofList = route.segments := by
    rw [List.map_map]
    exact List.map_id'' (fun _ => String.ofList_toList) route.segments
  simp only [ofPath?, hsplit, hback]

/-- The route of the path of a policy. Two segments have routes of their own. -/
theorem ofPath?_policy {segment : String} (hwhole : '/' ∉ segment.toList) :
    ofPath? (policy segment).path =
      if segment = "import" then some .importing
      else if segment = "export" then some .exporting
      else naming? .policy segment := by
  have hsegments : ∀ s ∈ (policy segment).segments, '/' ∉ s.toList := by
    simpa [segments] using hwhole
  rw [ofPath?_path hsegments, segments]
  split
  · rename_i h
    rw [h]
    rfl
  · split
    · rename_i h
      rw [h]
      rfl
    · simp [ofSegments?, *]

end Route

/-! ### Segments -/

/-- A segment of a path stands for a text when the text is read out of it. -/
structure Text.StandsFor (segment text : String) : Prop where
  decoded : percentDecode? segment = some text
  whole : '/' ∉ segment.toList

theorem Text.percentEncode_standsFor (text : String) : StandsFor (percentEncode text) text :=
  ⟨percentDecode?_percentEncode text, slash_not_mem_percentEncode text⟩

theorem PolicyId.ofSegment_of_standsFor {segment : String} {id : PolicyId}
    (hsegment : Text.StandsFor segment id.text) (hid : id.isUsable) :
    PolicyId.ofSegment segment = .ok id := by
  have hread : Identifier.ofText .policy id.text = .ok id :=
    Identifier.ofText_eq_ok_iff.2 ⟨rfl, hid⟩
  simp only [ofSegment, hsegment.decoded, hread]

theorem Text.StandsFor.isEmpty_eq_false {segment : String} {id : PolicyId}
    (hsegment : Text.StandsFor segment id.text) (hid : id.isUsable) : segment.isEmpty = false := by
  cases hempty : segment.isEmpty with
  | false => rfl
  | true =>
    obtain rfl := String.isEmpty_iff.1 hempty
    have hnothing : percentDecode? "" = some "" := ofUtf8?_flatMap_utf8EncodeChar ""
    have htext : id.text = "" := Option.some.inj (hsegment.decoded.symm.trans hnothing)
    rw [Identifier.isUsable, htext] at hid
    cases hid

/-! ### Requests about a policy -/

section Requests

variable {r : HttpRequest} {caller : Caller}

theorem PolicyCall.read_create {route : Route} {method : HttpMethod} {draft : PolicyDraft}
    (h : PolicyCall.read? r route method = some (.ok (.create draft))) : method = .post := by
  unfold read? at h
  split at h
  case h_2 => rfl
  all_goals simp [naming, bind_eq_ok, map_eq_ok] at h

namespace ApiCall

theorem read_create {draft : PolicyDraft}
    (h : ofRequest r = .ok (.policies caller (.create draft))) : r.method = .post := by
  obtain ⟨route, hread, _⟩ := read_policies h
  exact method_of_methodOf (PolicyCall.read_create hread) nofun

/-- What is asked of the policies by a route is read on behalf of the caller. -/
theorem ofRequest_policies {route : Route} {reading : Reading PolicyCall}
    (hroute : Route.ofPath? r.path = some route)
    (hread : PolicyCall.read? r route (methodOf r) = some reading)
    (hcaller : Caller.ofRequest r = .ok caller) :
    ofRequest r = reading.map (.policies caller) := by
  have hwhole : read? r route (methodOf r) = some (do
      let caller ← Caller.ofRequest r
      return .policies caller (← reading)) := by
    unfold read?
    split
    case h_5 => rw [hread]; rfl
    all_goals simp_all [PolicyCall.read?]
  simp only [ofRequest, hroute, hwhole, hcaller]
  cases reading <;> rfl

/-- What no route and method stands for is not answered. -/
theorem ofRequest_not_allowed {route : Route} (hroute : Route.ofPath? r.path = some route)
    (hread : read? r route (methodOf r) = none) : ofRequest r = .error (.bare 405) := by
  simp only [ofRequest, hroute, hread]

end ApiCall

end Requests

/-! ### Creating and fetching -/

/-- A policy that was created is the one that the draft describes, and its tenant owns it. -/
theorem MemoryStore.ensures_create_owned {tenant : TenantId} {draft : PolicyDraft} {actor : String}
    {s : MemoryStore} :
    (create tenant draft actor).Ensures s fun answer s' => ∀ p, answer = .ok p →
      draft.Describes tenant actor p ∧ s'.contents.owned tenant p.id = some p := by
  refine .bind (ensures_insert.mono ?_)
  rintro (_ | p) s' hinsert
  · refine .pure ?_
    rintro _ ⟨⟩
  · obtain ⟨_, hdescribes, rfl⟩ := hinsert
    have howned : (s.edited [.add p]).contents.owned tenant p.id = some p := by
      rw [← hdescribes.tenant_eq]
      exact StoreContents.owned_keep_self
    refine .bind ((ensures_record (c := .create tenant draft actor) howned ?_).mono ?_)
    · rintro r _ rfl
      exact hdescribes
    · rintro _ s'' ⟨_, hpolicies⟩
      refine .lift_bind fun _ => .pure ?_
      rintro _ ⟨⟩
      refine ⟨hdescribes, ?_⟩
      rw [StoreContents.owned, hpolicies]
      exact howned

namespace Service

theorem ensures_create_owned (gate : Gate) (tenant : TenantId) (draft : PolicyDraft)
    (actor : String) (s : MemoryStore) :
    (run (create gate tenant draft actor)).Ensures s fun answer s' => ∀ p, answer = .ok p →
      draft.Describes tenant actor p ∧ s'.contents.owned tenant p.id = some p := by
  unfold create
  refine ensures_bind_any (fun _ s₁ => ?_) (fun e s' p hp => nomatch hp)
  refine ensures_bind_any (fun _ s₂ => ?_) (fun e s' p hp => nomatch hp)
  refine ensures_bind (ensures_ask ?_)
  refine MemoryStore.ensures_create_owned.mono ?_
  rintro (_ | p) s₃ hcreated
  · rintro _ ⟨⟩
  · refine ensures_bind (ensures_report (ensures_pure ?_))
    rintro _ ⟨⟩
    exact hcreated p rfl

theorem run_fetch {tenant : TenantId} {id : PolicyId} {p : Policy} {s : MemoryStore}
    (howned : s.contents.owned tenant id = some p) (a : Ambient) :
    ((run (fetch tenant id)).run s a).1 = (.ok p, s) := by
  have hfetch : ((run (fetch tenant id)).run s a).1 =
      ((run (orNotFound id (s.contents.owned tenant id))).run s a).1 := rfl
  rw [hfetch, howned]
  rfl

end Service

/-! ### Over HTTP -/

theorem ServiceError.status_ne_created (e : ServiceError) : e.response.status ≠ 201 := by
  cases e <;> simp [response, HttpResponse.failure, HttpResponse.json, status]

/-- What is answered with a new policy has created it. -/
theorem PolicyCall.created_of_status {gate : Gate} {caller : Caller} {draft : PolicyDraft}
    {s : MemoryStore} {a : Ambient} {response : HttpResponse} {s' : MemoryStore}
    (hanswer : ((Program.run Service.answer ((create draft).answer gate caller)).run s a).1 =
      (response, s')) (hstatus : response.status = 201) :
    ∃ p, draft.Describes caller.tenant caller.actor p ∧ response = policyResponse 201 p ∧
      s'.contents.owned caller.tenant p.id = some p := by
  have hrun := run_answering (Service.create gate caller.tenant draft caller.actor)
    (policyResponse 201) s a
  have hcreated := Service.ensures_create_owned gate caller.tenant draft caller.actor s a
  rw [answer, hrun] at hanswer
  generalize (Service.run (Service.create gate caller.tenant draft caller.actor)).run s a = made
    at hanswer hcreated
  obtain ⟨⟨_ | p, left⟩, _⟩ := made
  · cases hanswer
    exact absurd hstatus (ServiceError.status_ne_created _)
  · cases hanswer
    obtain ⟨hdescribes, howned⟩ := hcreated p rfl
    exact ⟨p, hdescribes, rfl, howned⟩

section Serving

variable {σ τ : Type} (s : Serving σ τ) {post r : HttpRequest} {creator caller : Caller}

theorem Serving.serve_refused {response : HttpResponse}
    (hrefused : ApiCall.ofRequest r = .error response) (g : Gateway σ) (a : Ambient) :
    ((s.serve r).run g a).1.1 = if r.method = .head then response.headOnly else response := by
  unfold serve
  rw [hrefused]
  rfl

theorem Serving.serve_policies_store {call : PolicyCall}
    (hcall : ApiCall.ofRequest r = .ok (.policies caller call)) (g : Gateway σ) (a : Ambient) :
    ((s.serve r).run g a).1.2.store =
      ((Program.run Service.answer (call.answer s.gate caller)).run g.store a).1.2 := by
  unfold serve
  rw [hcall]
  rfl

theorem Serving.created_of_status {draft : PolicyDraft} {g : Gateway σ} {a : Ambient}
    (hcreate : ApiCall.ofRequest post = .ok (.policies creator (.create draft)))
    (hstatus : ((s.serve post).run g a).1.1.status = 201) :
    ∃ p, draft.Describes creator.tenant creator.actor p ∧
      ((s.serve post).run g a).1.1 = policyResponse 201 p ∧
      ((s.serve post).run g a).1.2.store.contents.owned creator.tenant p.id = some p := by
  have hmethod : post.method ≠ .head := by
    rw [ApiCall.read_create hcreate]
    decide
  rw [s.serve_policies hcreate hmethod] at hstatus ⊢
  rw [s.serve_policies_store hcreate]
  exact PolicyCall.created_of_status (Prod.mk.eta).symm hstatus

theorem Serving.serve_fetch {id : PolicyId} {p : Policy} {g : Gateway σ}
    (hfetch : ApiCall.ofRequest r = .ok (.policies caller (.fetch id))) (hmethod : r.method = .get)
    (howned : g.store.contents.owned caller.tenant id = some p) (a : Ambient) :
    ((s.serve r).run g a).1.1 = policyResponse 200 p := by
  rw [s.serve_policies hfetch (by rw [hmethod]; decide)]
  exact congrArg Prod.fst (run_answering_ok (Service.run_fetch howned a))

/-- A policy that was created over HTTP under an identifier of the caller's choice is addressed by
every segment that stands for the identifier. By the next request of the tenant it is fetched as it
was created, and the requests to change and to delete it are read as such. The segments `import` and
`export` are not read as identifiers: their paths are those of other routes. -/
theorem created_policy_addressed {draft : PolicyDraft} {id : PolicyId} (segment : String)
    {g : Gateway σ} {a : Ambient}
    (hcreate : ApiCall.ofRequest post = .ok (.policies creator (.create draft)))
    (hid : draft.id = some id) (husable : id.isUsable)
    (hstatus : ((s.serve post).run g a).1.1.status = 201)
    (hsegment : Text.StandsFor segment id.text) (hpath : r.path = (Route.policy segment).path)
    (hcaller : Caller.ofRequest r = .ok caller) (htenant : caller.tenant = creator.tenant) :
    (segment ≠ "import" → segment ≠ "export" →
      (r.method = .get → ∃ p, p.id = id ∧ p.tenant = creator.tenant ∧
        ((s.serve post).run g a).1.1 = policyResponse 201 p ∧
        ∀ a', ((s.serve r).run ((s.serve post).run g a).1.2 a').1.1 = policyResponse 200 p) ∧
      (r.method = .put → ApiCall.ofRequest r =
        (readBody PolicyPatch.interest PolicyPatch.ofJson r).map fun patch =>
          .policies caller (.update id patch)) ∧
      (r.method = .delete → ApiCall.ofRequest r = .ok (.policies caller (.delete id)))) ∧
    (segment = "import" → r.method ∈ [.get, .put, .delete] →
      ApiCall.ofRequest r = .error (.bare 405)) ∧
    (segment = "export" →
      (r.method = .get → ApiCall.ofRequest r = .ok (.policies caller .exportAll)) ∧
      (r.method ∈ [.put, .delete] → ApiCall.ofRequest r = .error (.bare 405))) := by
  have hroute := Route.ofPath?_policy hsegment.whole
  rw [← hpath] at hroute
  have hnamed := PolicyId.ofSegment_of_standsFor hsegment husable
  refine ⟨fun himport hexport => ?_, fun himport hmethod => ?_, fun hexport => ?_⟩
  · rw [if_neg himport, if_neg hexport, Route.naming?, hsegment.isEmpty_eq_false husable,
      if_neg Bool.false_ne_true] at hroute
    refine ⟨fun hget => ?_, fun hput => ?_, fun hdelete => ?_⟩
    · obtain ⟨p, hdescribes, hresponse, howned⟩ := s.created_of_status hcreate hstatus
      have hchosen : p.id = id := by
        obtain ⟨fresh, now, hp⟩ := hdescribes
        rw [PolicyDraft.id_of_toPolicy hp, hid, Option.getD_some]
      have hread : PolicyCall.read? r (.policy segment) (ApiCall.methodOf r) =
          some (PolicyCall.naming .fetch segment) := by
        rw [ApiCall.methodOf, hget]
        rfl
      have hfetch : ApiCall.ofRequest r = .ok (.policies caller (.fetch id)) := by
        rw [ApiCall.ofRequest_policies hroute hread hcaller, PolicyCall.naming, hnamed]
        rfl
      refine ⟨p, hchosen, hdescribes.tenant_eq, hresponse, s.serve_fetch hfetch hget ?_⟩
      rw [htenant, ← hchosen]
      exact howned
    · have hread : PolicyCall.read? r (.policy segment) (ApiCall.methodOf r) = some (do
          let id ← PolicyId.ofSegment segment
          return .update id (← readBody PolicyPatch.interest PolicyPatch.ofJson r)) := by
        rw [ApiCall.methodOf, hput]
        rfl
      rw [ApiCall.ofRequest_policies hroute hread hcaller, hnamed]
      cases readBody PolicyPatch.interest PolicyPatch.ofJson r <;> rfl
    · have hread : PolicyCall.read? r (.policy segment) (ApiCall.methodOf r) =
          some (PolicyCall.naming .delete segment) := by
        rw [ApiCall.methodOf, hdelete]
        rfl
      rw [ApiCall.ofRequest_policies hroute hread hcaller, PolicyCall.naming, hnamed]
      rfl
  · rw [if_pos himport] at hroute
    refine ApiCall.ofRequest_not_allowed hroute ?_
    simp only [List.mem_cons, List.not_mem_nil, or_false] at hmethod
    rcases hmethod with h | h | h <;> (rw [ApiCall.methodOf, h]; rfl)
  · rw [if_neg (by rw [hexport]; decide), if_pos hexport] at hroute
    refine ⟨fun hget => ?_, fun hmethod => ApiCall.ofRequest_not_allowed hroute ?_⟩
    · have hread : PolicyCall.read? r .exporting (ApiCall.methodOf r) = some (.ok .exportAll) := by
        rw [ApiCall.methodOf, hget]
        rfl
      rw [ApiCall.ofRequest_policies hroute hread hcaller]
      rfl
    · simp only [List.mem_cons, List.not_mem_nil, or_false] at hmethod
      rcases hmethod with h | h <;> (rw [ApiCall.methodOf, h]; rfl)

end Serving

/-! ### Two identifiers -/

/-- What Alice sends to an address to create a policy with that identifier. -/
def creatingAs (id : String) : HttpRequest where
  method := .post
  target := "/api/v1/policies"
  headers :=
    [("x-tenant-id", "acme"), ("x-user-id", "alice"), ("content-type", "application/json")]
  body := "\x7b\"id\":\"" ++ id ++ "\",\"name\":\"No secrets\",\"type\":\"content\"," ++
    "\"conditions\":[\x7b\"field\":\"query\",\"operator\":\"contains\"," ++
    "\"value\":\"secret\"\x7d],\"actions\":[\x7b\"type\":\"block\"\x7d]\x7d"

def askingFor (method : HttpMethod) (target : String) : HttpRequest :=
  ⟨method, target, [("x-tenant-id", "acme")], ""⟩

def noSecrets (id : String) : PolicyDraft where
  id := some ⟨id⟩
  name := "No secrets"
  description := ""
  kind := "content"
  tier := none
  priority := 0
  enabled := true
  conditions := [⟨"query", "contains", .string "secret"⟩]
  actions := [⟨"block", []⟩]
  category := none
  tags := []

set_option maxRecDepth 20000 in
theorem creatingAs_create : ApiCall.ofRequest (creatingAs "import") =
    .ok (.policies ⟨⟨"acme"⟩, "alice"⟩ (.create (noSecrets "import"))) := by
  cbv

def emptyGateway : Gateway Unit := .make .empty (.ofConfig .standard ()) .standard 256 ⟨0, 0⟩

theorem creatingAs_created :
    ((quietServing.serve (creatingAs "import")).run emptyGateway .initial).1.1.status = 201 := by
  rw [quietServing.serve_policies creatingAs_create (by decide)]
  decide +kernel

theorem creatingAs_addressed :
    ∃ p, p.id = ⟨"import"⟩ ∧
      ((quietServing.serve (creatingAs "import")).run emptyGateway .initial).1.1 =
        policyResponse 201 p ∧
      ∀ a, ((quietServing.serve (askingFor .get "/api/v1/policies/%69mport")).run
        ((quietServing.serve (creatingAs "import")).run emptyGateway .initial).1.2 a).1.1 =
          policyResponse 200 p := by
  have hcaller : Caller.ofRequest (askingFor .get "/api/v1/policies/%69mport") =
      .ok ⟨⟨"acme"⟩, "system"⟩ := by
    cbv
  have haddressed := created_policy_addressed quietServing "%69mport" creatingAs_create rfl
    (by decide) creatingAs_created ⟨by decide +kernel, by decide⟩ (by decide +kernel) hcaller rfl
  obtain ⟨p, hid, _, hcreated, hfetched⟩ := (haddressed.1 (by decide) (by decide)).1 rfl
  exact ⟨p, hid, hcreated, hfetched⟩

theorem creatingAs_not_fetched :
    ((quietServing.serve (creatingAs "import")).run emptyGateway .initial).1.1.status = 201 ∧
    ∀ method ∈ [HttpMethod.get, .put, .delete], ∀ a,
      ((quietServing.serve
        (askingFor method ("/api/v1/policies/" ++ Text.percentEncode "import"))).run
        ((quietServing.serve (creatingAs "import")).run emptyGateway .initial).1.2 a).1.1 =
          .bare 405 := by
  refine ⟨creatingAs_created, fun method hmethod a => ?_⟩
  have hrefused : ApiCall.ofRequest
      (askingFor method ("/api/v1/policies/" ++ Text.percentEncode "import")) =
        .error (.bare 405) := by
    simp only [List.mem_cons, List.not_mem_nil, or_false] at hmethod
    rcases hmethod with rfl | rfl | rfl <;> cbv
  rw [quietServing.serve_refused hrefused]
  exact ite_self _

end Governance
