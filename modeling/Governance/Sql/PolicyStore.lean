import Governance.Sql.PolicyTable

/-!
# Policies in a database

Every call to a store is a computation over the two tables. A change of one policy that depends on what
the policy was is made in a transaction that locks its row. An import is one transaction with a savepoint
for every draft, so that a draft that fails leaves nothing behind and the others go on.

Revisions are added to the history beside the transaction of a change; one that cannot be added is
reported and the change stands.
-/

namespace Governance.Sql.PolicyStore

open PolicyTable

/-- A computation that may fail as a store does. -/
abbrev Stored (α : Type) := ExceptT StoreError (Program sqlInterface) α

variable {α : Type}

def asks (c : Call) : Stored c.Answer := ExceptT.lift (ask c)

/-- Makes a call and goes on with what is made of its answer. -/
def reading (c : Call) (read : c.Answer → Except StoreError α) : Stored α :=
  ExceptT.mk do return read (← ask c)

def databaseError (purpose : String) (e : SqlError) : StoreError :=
  .database ("Failed to " ++ purpose ++ ": " ++ e.message)

def transactionError (purpose : String) (e : SqlError) : StoreError :=
  .transaction ("Failed to " ++ purpose ++ ": " ++ e.message)

def freshId : SqlProgram PolicyId := do return ⟨(← ask .uuid).render⟩

def report (level : Level) (message : String) (fields : List (String × Json)) : SqlProgram Unit :=
  ask (.report ⟨level, message, fields⟩)

def about (tenant : TenantId) (id : PolicyId) : List (String × Json) :=
  [("tenant", .string tenant.text), ("policy_id", .string id.text)]

/-! ### What results say -/

/-- The outcome of a command that returns no rows. -/
def performed (purpose : String) : Except SqlError Result → Except StoreError Unit
  | .ok _ => .ok ()
  | .error e => .error (databaseError purpose e)

/-- The values of the rows that a command returned. Every row is read before one of them counts as
corrupt. -/
def loaded (purpose : String) (ofRow : Row → Row.Read (Except StoreError α))
    (outcome : Except SqlError Result) : Except StoreError (List α) :=
  match outcome.bind (Result.readAll ofRow) with
  | .ok rows => rows.mapM id
  | .error e => .error (databaseError purpose e)

/-- The policy of the first row that a command returned, if there is one. -/
def fetched (purpose : String) (outcome : Except SqlError Result) :
    Except StoreError (Option Policy) :=
  match outcome.bind (Result.readFirst? ofRow) with
  | .ok none => .ok none
  | .ok (some row) => row.map some
  | .error e => .error (databaseError purpose e)

def counted (outcome : Except SqlError Result) : Except StoreError Nat :=
  (outcome.bind Result.readCount).mapError (databaseError "count policies")

def fetchedById : Except SqlError Result → Except StoreError (Option Policy) :=
  fetched "fetch policy"

def fetchedByName : Except SqlError Result → Except StoreError (Option Policy) :=
  fetched "find policy by name"

def inserted : Except SqlError Result → Except StoreError Unit := performed "insert policy"

def saved : Except SqlError Result → Except StoreError Unit := performed "update policy"

/-! ### The history -/

/-- A change that was made and that the history does not know yet. -/
structure Change where
  policy : Policy
  kind : ChangeKind
  summary : String
  deriving Repr

/-- The change of a policy with the usual words for it. -/
def Change.ofKind (p : Policy) (kind : ChangeKind) : Change :=
  ⟨p, kind, changeSummary kind p.version⟩

/-- Adds a change to the history. -/
def record (actor : String) (c : Change) : SqlProgram Unit := do
  let id ← ask .uuid
  let revision := Revision.capture id (← ask .now) c.policy c.kind c.summary actor
  match performed "insert policy version" (← ask (.execute (RevisionTable.insertion revision))) with
  | .ok () => pure ()
  | .error e => ask (.report (lostRevision c.policy.id c.kind e.message))

/-- Adds changes to the history, one after the other. -/
def recordAll (actor : String) : List Change → SqlProgram Unit
  | [] => pure ()
  | c :: rest => do
    record actor c
    recordAll actor rest

/-! ### Single policies -/

def connect : Stored Unit :=
  reading .connect fun outcome => outcome.mapError (databaseError "acquire connection")

def start : Stored Transaction :=
  reading .start fun outcome => outcome.mapError (transactionError "begin transaction")

/-- Makes what has changed in a transaction last. -/
def commit (purpose : String) (t : Transaction) : Stored Unit :=
  reading (.finish .commit t) fun outcome => outcome.mapError (transactionError purpose)

/-- Leaves a transaction to be undone. -/
def leaveWith (t : Transaction) (outcome : Except StoreError α) : Stored α :=
  reading (.abandon t) fun () => outcome

/-- Keeps the policy that a draft describes. -/
def create (tenant : TenantId) (draft : PolicyDraft) (actor : String) : Stored Policy := do
  let fresh ← ExceptT.lift freshId
  match draft.toPolicy fresh tenant actor (← asks .now) with
  | .error word => throw (.unknownKind word)
  | .ok p =>
    connect
    reading (.execute (insertion p)) inserted
    ExceptT.lift (report .debug "policy created" (about tenant p.id))
    ExceptT.lift (record actor (.ofKind p .create))
    return p

def fetch (tenant : TenantId) (id : PolicyId) : Stored (Option Policy) := do
  connect
  reading (.execute (withId tenant id false)) fetchedById

def findByName (tenant : TenantId) (name : String) : Stored (Option Policy) := do
  connect
  reading (.execute (withName tenant name)) fetchedByName

/-- Writes the policy that a patch makes of a locked one, and ends the transaction. -/
def save (t : Transaction) (p : Policy) : Stored Unit := do
  let (outcome, t) ← asks (.within t (saving p))
  match saved outcome with
  | .error e => leaveWith t (.error e)
  | .ok () => commit "commit transaction" t

/-- Applies a patch to a policy. A patch that is empty leaves everything alone. -/
def update (tenant : TenantId) (id : PolicyId) (patch : PolicyPatch) (actor : String) :
    Stored (Option Policy) := do
  let t ← start
  let (outcome, t) ← asks (.within t (withId tenant id true))
  match fetchedById outcome with
  | .error e => leaveWith t (.error e)
  | .ok none => leaveWith t (.ok none)
  | .ok (some p) =>
    if patch.isEmpty then leaveWith t (.ok (some p))
    else
      let next := p.applyPatch patch actor (← asks .now)
      save t next
      ExceptT.lift (report .debug "policy updated"
        (about tenant id ++ [("version", .ofInt next.version.toInt)]))
      ExceptT.lift (record actor
        (.ofKind next (.ofTransition p.enabled next.enabled)))
      return some next

/-- Removes a policy. Tells whether there was a row to remove when it came to that. The history learns of
it before. -/
def delete (tenant : TenantId) (id : PolicyId) (actor : String) : Stored Bool := do
  match ← fetch tenant id with
  | none => return false
  | some p =>
    ExceptT.lift (record actor (.ofKind p .delete))
    let result ← reading (.execute (removal tenant id)) fun outcome =>
      outcome.mapError (databaseError "delete policy")
    ExceptT.lift (report .debug "policy deleted" (about tenant id))
    return 0 < result.affected

/-! ### Many policies -/

/-- A page of a listing, with the number of policies on all pages, which is counted first. -/
def list (tenant : TenantId) (listing : Listing) : Stored Page := do
  let total ← reading (.execute (listingCount tenant listing)) counted
  let items ← reading (.execute (listingPage tenant listing)) (loaded "list policies" ofRow)
  return ⟨items, total⟩

/-- The number of policies of a tenant that are its own. -/
def countTenantTier (tenant : TenantId) : Stored Nat :=
  reading (.execute (tenantTierCount tenant)) counted

def revisions (tenant : TenantId) (id : PolicyId) : Stored (List Revision) :=
  reading (.execute (RevisionTable.historyOf tenant id))
    (loaded "list policy versions" RevisionTable.ofRow)

def enabledPolicies (tenant : TenantId) : Stored (List Policy) :=
  reading (.execute (enabledOf tenant)) (loaded "load policies" ofRow)

/-! ### Imports -/

/-- What became of a draft, and the change that it made. -/
abbrev Imported := ImportOutcome × Option Change

/-- A draft that made no change. -/
def unchanged (outcome : ImportOutcome) : Imported := (outcome, none)

/-- Replaces the policy that has the name of a draft, unless it may never be changed. -/
def replace (t : Transaction) (p : Policy) (draft : PolicyDraft) (actor : String) :
    SqlProgram (Imported × Transaction) := do
  if p.isSystem then
    return (unchanged (.failed draft.name
      (replacementMessage draft.name "system policies are immutable")), t)
  let next := p.overwrite draft actor (← ask .now)
  let (outcome, t) ← ask (.within t (saving next))
  match saved outcome with
  | .ok () => return ((.updated draft.name, some (.ofKind next .update)), t)
  | .error e =>
    return (unchanged (.failed draft.name (replacementMessage draft.name e.message)), t)

def add (t : Transaction) (tenant : TenantId) (draft : PolicyDraft) (actor : String) :
    SqlProgram (Imported × Transaction) := do
  let fresh ← freshId
  match draft.toPolicy fresh tenant actor (← ask .now) with
  | .error word =>
    let reason := "unknown policy type `" ++ word ++ "`"
    return (unchanged (.failed draft.name (creationMessage draft.name reason)), t)
  | .ok p =>
    let (outcome, t) ← ask (.within t (insertion p))
    match inserted outcome with
    | .ok () => return ((.created draft.name, some ⟨p, .create, importSummary⟩), t)
    | .error e =>
      return (unchanged (.failed draft.name (creationMessage draft.name e.message)), t)

/-- Imports a draft within its savepoint. -/
def importWithin (t : Transaction) (tenant : TenantId) (mode : ImportMode) (actor : String)
    (draft : PolicyDraft) : SqlProgram (Imported × Transaction) := do
  let (outcome, t) ← ask (.within t (withName tenant draft.name))
  match fetchedByName outcome, mode with
  | .error e, _ =>
    return (unchanged (.failed draft.name (creationMessage draft.name e.message)), t)
  | .ok (some _), .skip => return (unchanged (.skipped draft.name), t)
  | .ok (some _), .error =>
    return (unchanged (.failed draft.name (takenMessage draft.name)), t)
  | .ok (some p), .overwrite => replace t p draft actor
  | .ok none, _ => add t tenant draft actor

/-- How the savepoint of a draft is ended. -/
def endingOf : ImportOutcome → Ending
  | .failed .. => .rollback
  | _ => .commit

def importOne (t : Transaction) (tenant : TenantId) (mode : ImportMode) (actor : String)
    (draft : PolicyDraft) : SqlProgram (Imported × Transaction) := do
  let failed (e : SqlError) : Imported :=
    unchanged (.failed draft.name (creationMessage draft.name e.message))
  match ← ask (.mark t) with
  | (.error e, t) => return (failed e, t)
  | (.ok (), t) =>
    let (imported, t) ← importWithin t tenant mode actor draft
    match ← ask (.settle (endingOf imported.1) t) with
    | (.ok (), t) => return (imported, t)
    | (.error e, t) =>
      report .warn "import savepoint failed"
        [("policy", .string draft.name), ("error", .string e.message)]
      return (failed e, t)

/-- Imports drafts one after the other. -/
def importEach (t : Transaction) (tenant : TenantId) (mode : ImportMode) (actor : String) :
    List PolicyDraft → SqlProgram (List Imported × Transaction)
  | [] => return ([], t)
  | draft :: rest => do
    let (imported, t) ← importOne t tenant mode actor draft
    let (others, t) ← importEach t tenant mode actor rest
    return (imported :: others, t)

/-- Imports drafts in one transaction, and then adds what has changed to the history. -/
def importAll (tenant : TenantId) (drafts : List PolicyDraft) (mode : ImportMode)
    (actor : String) : Stored ImportReport := do
  let t ← start
  let (imported, t) ← ExceptT.lift (importEach t tenant mode actor drafts)
  commit "commit import" t
  ExceptT.lift (recordAll actor (imported.filterMap (·.2)))
  return .ofOutcomes (imported.map (·.1))

/-! ### The store -/

def answer : (c : StoreCall) → SqlProgram c.Answer
  | .create tenant draft actor => (create tenant draft actor).run
  | .get tenant id => (fetch tenant id).run
  | .findByName tenant name => (findByName tenant name).run
  | .list tenant listing => (list tenant listing).run
  | .countTenantTier tenant => (countTenantTier tenant).run
  | .update tenant id patch actor => (update tenant id patch actor).run
  | .delete tenant id actor => (delete tenant id actor).run
  | .revisions tenant id => (revisions tenant id).run
  | .exportAll tenant => do return (← (list tenant .everything).run).map (·.items)
  | .enabledPolicies tenant => (enabledPolicies tenant).run
  | .importAll tenant drafts mode actor => (importAll tenant drafts mode actor).run

/-- Defines the tables unless they are there. -/
def define : SqlProgram (Except StoreError Unit) := do
  return (← runAll (PolicyTable.definition ++ RevisionTable.definition)).mapError
    (databaseError "apply policy schema")

end Governance.Sql.PolicyStore
