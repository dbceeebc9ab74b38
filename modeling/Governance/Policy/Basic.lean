import Governance.Identifier
import Governance.Json.Value
import Governance.Time.Instant
import Governance.Uuid

/-!
# Policies

A policy belongs to a tenant. It matches a request when all its conditions hold, and then its actions
take effect. Conditions and actions are kept as they were written, with operators and kinds as
words, so that a stored policy shows what its author wrote even where it means nothing.
-/

namespace Governance

/-- What a policy is about. -/
inductive PolicyKind where
  | content
  | user
  | risk
  | cost
  deriving DecidableEq, Repr

def PolicyKind.word : PolicyKind → String
  | .content => "content"
  | .user => "user"
  | .risk => "risk"
  | .cost => "cost"

def PolicyKind.ofWord? : String → Option PolicyKind
  | "content" => some .content
  | "user" => some .user
  | "risk" => some .risk
  | "cost" => some .cost
  | _ => none

@[simp] theorem PolicyKind.ofWord?_word (k : PolicyKind) : ofWord? k.word = some k := by
  cases k <;> rfl

/-- Who may change a policy. -/
inductive PolicyTier where
  | system
  | organization
  | tenant
  deriving DecidableEq, Repr

def PolicyTier.word : PolicyTier → String
  | .system => "system"
  | .organization => "organization"
  | .tenant => "tenant"

def PolicyTier.ofWord? : String → Option PolicyTier
  | "system" => some .system
  | "organization" => some .organization
  | "tenant" => some .tenant
  | _ => none

@[simp] theorem PolicyTier.ofWord?_word (t : PolicyTier) : ofWord? t.word = some t := by
  cases t <;> rfl

/-- A test of one fact of a request. -/
structure Condition where
  field : String
  operator : String
  value : Json
  deriving BEq, Repr

/-- What an action does. -/
inductive ActionKind where
  | block
  | redact
  | alert
  | log
  | route
  | modifyRisk
  deriving DecidableEq, Repr

def ActionKind.word : ActionKind → String
  | .block => "block"
  | .redact => "redact"
  | .alert => "alert"
  | .log => "log"
  | .route => "route"
  | .modifyRisk => "modify_risk"

def ActionKind.ofWord? : String → Option ActionKind
  | "block" => some .block
  | "redact" => some .redact
  | "alert" => some .alert
  | "log" => some .log
  | "route" => some .route
  | "modify_risk" => some .modifyRisk
  | _ => none

@[simp] theorem ActionKind.ofWord?_word (k : ActionKind) : ofWord? k.word = some k := by
  cases k <;> rfl

/-- What happens when a policy matches: a kind, as a word, and what it needs to know. -/
structure Action where
  word : String
  config : List (String × Json)
  deriving BEq, Repr

/-- The kind of an action, if its word stands for one. -/
def Action.kind? (a : Action) : Option ActionKind := ActionKind.ofWord? a.word

/-- The value of a setting that is a text. -/
def Action.text? (a : Action) (key : String) : Option String :=
  match Json.lookup key a.config with
  | some (.string s) => some s
  | _ => none

/-- A policy as it is stored. -/
structure Policy where
  id : PolicyId
  tenant : TenantId
  name : String
  description : String
  kind : PolicyKind
  tier : PolicyTier
  priority : Int32
  enabled : Bool
  conditions : List Condition
  actions : List Action
  category : Option String
  tags : List String
  version : Int32
  createdAt : Instant
  updatedAt : Instant
  createdBy : String
  updatedBy : String
  deriving BEq, Repr

/-- Whether a policy may never be changed. -/
def Policy.isSystem (p : Policy) : Bool := p.tier = .system

/-!
## Revisions

The history of a policy is a list of revisions. Each holds the policy as a change left it, what kind
of change it was, and who made it when.
-/

/-- What a change did to a policy. -/
inductive ChangeKind where
  | create
  | update
  | enable
  | disable
  | delete
  deriving DecidableEq, Repr

def ChangeKind.word : ChangeKind → String
  | .create => "create"
  | .update => "update"
  | .enable => "enable"
  | .disable => "disable"
  | .delete => "delete"

def ChangeKind.ofWord? : String → Option ChangeKind
  | "create" => some .create
  | "update" => some .update
  | "enable" => some .enable
  | "disable" => some .disable
  | "delete" => some .delete
  | _ => none

@[simp] theorem ChangeKind.ofWord?_word (k : ChangeKind) : ofWord? k.word = some k := by
  cases k <;> rfl

/-- The kind of a change of content, from whether the policy was enabled before and after. -/
def ChangeKind.ofTransition (before after : Bool) : ChangeKind :=
  match before, after with
  | true, false => .disable
  | false, true => .enable
  | _, _ => .update

/-- One entry of the history of a policy. -/
structure Revision where
  id : Uuid
  policy : PolicyId
  version : Int32
  snapshot : Policy
  change : ChangeKind
  summary : String
  changedBy : String
  changedAt : Instant
  deriving Repr

/-- The revision that a change leaves behind. -/
def Revision.capture (id : Uuid) (changedAt : Instant) (p : Policy) (change : ChangeKind)
    (summary actor : String) : Revision :=
  ⟨id, p.id, p.version, p, change, summary, actor, changedAt⟩

end Governance
