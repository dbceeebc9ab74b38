import Mathlib.Data.List.InsertIdx
import Governance.Proofs.Audit.Faultless

/-!
# Transactions of a client

A client of a backend may have any number of transactions open, insert entries into them in any order, end
them by a commit, a rollback or by dropping them, search, and open the backend anew. What it has asked for
is told by a ledger: the entries staged in each open transaction, and those that were committed, in the
order of the commits. A backend keeps the ledger when every one of its answers can be told from it; entries
in memory do.
-/

namespace Governance

/-- What a client does. A transaction goes by its place among those that are open, the oldest first;
nothing happens where none is. -/
inductive ClientMove where
  | start
  | prepare (place : Nat)
  | insert (place : Nat) (e : AuditEntry)
  | commit (place : Nat)
  | rollback (place : Nat)
  | drop (place : Nat)
  | reopen
  | search (criteria : Criteria)

/-- A backend and the transactions that are open. -/
structure ClientStage (σ τ : Type) where
  store : σ
  opened : List τ

/-- What a move is answered; only a search finds anything. -/
abbrev ClientAnswer := Except AuditError (List AuditEntry)

namespace ClientStage

variable {σ τ α : Type}

/-- Does something with the backend. -/
def onStore (act : Acting σ α) : Acting (ClientStage σ τ) α := fun s => do
  let (value, store) ← act.run s.store
  return (value, { s with store := store })

/-- Does something with the transaction at a place, which stays open if it is given back. -/
def onOpened (place : Nat) (act : τ → Acting σ (Except AuditError Unit × Option τ)) :
    Acting (ClientStage σ τ) ClientAnswer := do
  match (← get).opened[place]? with
  | none => return .ok []
  | some t =>
    let (outcome, kept) ← onStore (act t)
    modify fun s => { s with opened := match kept with
      | some t => s.opened.set place t
      | none => s.opened.eraseIdx place }
    return outcome.map fun _ => []

/-- Makes a move. `anew` is what becomes of a backend that is closed and opened again. -/
def move (b : AuditBackend σ τ) (anew : σ → σ) : ClientMove → Acting (ClientStage σ τ) ClientAnswer
  | .start => do
    match ← onStore b.start with
    | .error e => return .error e
    | .ok t =>
      modify fun s => { s with opened := s.opened ++ [t] }
      return .ok []
  | .prepare place => onOpened place fun t => do
    let (outcome, t) ← b.prepare t
    return (outcome, some t)
  | .insert place e => onOpened place fun t => do
    let (outcome, t) ← b.insert e t
    return (outcome, some t)
  | .commit place => onOpened place fun t => return (← b.commit t, none)
  | .rollback place => onOpened place fun t => return (← b.rollback t, none)
  | .drop place => onOpened place fun _ => return (.ok (), none)
  | .reopen => do
    modify fun s => { s with store := anew s.store }
    return .ok []
  | .search criteria => onStore (b.search criteria)

def moves (b : AuditBackend σ τ) (anew : σ → σ) :
    List ClientMove → Acting (ClientStage σ τ) (List ClientAnswer)
  | [] => return []
  | m :: rest => return (← move b anew m) :: (← moves b anew rest)

end ClientStage

/-- What a client has asked for: the entries that were committed, and those inserted in each transaction
that is open. -/
structure Ledger where
  committed : List AuditEntry
  opened : List (List AuditEntry)

namespace Ledger

def blank : Ledger := ⟨[], []⟩

def after (l : Ledger) : ClientMove → Ledger
  | .start => ⟨l.committed, l.opened ++ [[]]⟩
  | .insert place e => ⟨l.committed, l.opened.modify place (· ++ [e])⟩
  | .commit place => ⟨l.committed ++ (l.opened[place]?.getD []), l.opened.eraseIdx place⟩
  | .rollback place | .drop place => ⟨l.committed, l.opened.eraseIdx place⟩
  | .prepare _ | .reopen | .search _ => l

def afterAll (l : Ledger) (moves : List ClientMove) : Ledger := moves.foldl after l

end Ledger

/-- What is found by a move, where there are some entries to be found. -/
def ClientMove.found (entries : List AuditEntry) : ClientMove → List AuditEntry
  | .search criteria => criteria.select entries
  | _ => []

/-- The answers to moves where `held` tells of the committed entries what can be found. -/
def Ledger.answers (held : List AuditEntry → List AuditEntry) (l : Ledger) :
    List ClientMove → List ClientAnswer
  | [] => []
  | m :: rest => .ok (m.found (held l.committed)) :: (l.after m).answers held rest

/-- A backend on which nothing fails. `stands` says of its state which entries were committed, `staging`
is the transaction in which some entries were inserted, and `held` tells of the committed entries what can
be found. -/
structure AuditBackend.Keeps {σ τ : Type} (b : AuditBackend σ τ) (anew : σ → σ)
    (stands : List AuditEntry → σ → Prop) (staging : List AuditEntry → τ)
    (held : List AuditEntry → List AuditEntry) : Prop where
  start : ∀ committed s, stands committed s →
    Acting.Ensures b.start s fun t s' => t = .ok (staging []) ∧ stands committed s'
  prepare : ∀ committed staged s, stands committed s →
    Acting.Ensures (b.prepare (staging staged)) s fun r s' =>
      r = (.ok (), staging staged) ∧ stands committed s'
  insert : ∀ committed staged s e, stands committed s →
    Acting.Ensures (b.insert e (staging staged)) s fun r s' =>
      r = (.ok (), staging (staged ++ [e])) ∧ stands committed s'
  commit : ∀ committed staged s, stands committed s →
    Acting.Ensures (b.commit (staging staged)) s fun r s' =>
      r = .ok () ∧ stands (committed ++ staged) s'
  rollback : ∀ committed staged s, stands committed s →
    Acting.Ensures (b.rollback (staging staged)) s fun r s' => r = .ok () ∧ stands committed s'
  anew : ∀ committed s, stands committed s → stands committed (anew s)
  search : ∀ committed s criteria, stands committed s →
    Acting.Ensures (b.search criteria) s fun r s' =>
      r = .ok (criteria.select (held committed)) ∧ stands committed s'

namespace ClientStage

variable {σ τ α : Type} {b : AuditBackend σ τ} {anew : σ → σ} {stands : List AuditEntry → σ → Prop}
  {staging : List AuditEntry → τ} {held : List AuditEntry → List AuditEntry} {l : Ledger}
  {s : ClientStage σ τ}

/-- The backend and the open transactions are as the ledger says. -/
structure Shows (stands : List AuditEntry → σ → Prop) (staging : List AuditEntry → τ) (l : Ledger)
    (s : ClientStage σ τ) : Prop where
  store : stands l.committed s.store
  opened : s.opened = l.opened.map staging

theorem ensures_onStore {act : Acting σ α} {post : α → ClientStage σ τ → Prop}
    (hact : Acting.Ensures act s.store fun value store => post value { s with store := store }) :
    Acting.Ensures (onStore act) s post :=
  hact

/-- Something is done with an open transaction, which stays open or ends, as the ledger `l'` says; nothing
is done where none is open. -/
theorem ensures_onOpened {l' : Ledger} {place : Nat}
    {act : τ → Acting σ (Except AuditError Unit × Option τ)} (hshows : Shows stands staging l s)
    (hnone : l.opened[place]? = none → l' = l)
    (hact : ∀ staged, l.opened[place]? = some staged → ∃ kept : Option (List AuditEntry),
      (l'.opened = match kept with
        | some staged => l.opened.set place staged
        | none => l.opened.eraseIdx place) ∧
      Acting.Ensures (act (staging staged)) s.store fun r store =>
        r = (.ok (), kept.map staging) ∧ stands l'.committed store) :
    Acting.Ensures (onOpened place act) s fun answer s' =>
      answer = .ok [] ∧ Shows stands staging l' s' := by
  have hplace : s.opened[place]? = (l.opened[place]?).map staging := by
    rw [hshows.opened, List.getElem?_map]
  refine .get_bind ?_
  rw [hplace]
  cases hstaged : l.opened[place]? with
  | none => exact .pure ⟨rfl, hnone hstaged ▸ hshows⟩
  | some staged =>
    obtain ⟨kept, hopened, hensures⟩ := hact staged hstaged
    refine .bind (ensures_onStore (hensures.mono ?_))
    rintro _ store ⟨rfl, hstands⟩
    intro a
    refine ⟨rfl, hstands, ?_⟩
    change (match kept.map staging with
      | some t => s.opened.set place t
      | none => s.opened.eraseIdx place) = _
    rw [hopened, hshows.opened]
    cases kept with
    | none => exact List.eraseIdx_map ..
    | some staged => exact List.map_set.symm

theorem ensures_move (hb : b.Keeps anew stands staging held) (hshows : Shows stands staging l s)
    (m : ClientMove) : Acting.Ensures (move b anew m) s fun answer s' =>
      answer = .ok (m.found (held l.committed)) ∧ Shows stands staging (l.after m) s' := by
  have hstore := hshows.store
  cases m with
  | start =>
    refine .bind (ensures_onStore ((hb.start _ _ hstore).mono ?_))
    rintro _ store ⟨rfl, hstands⟩
    intro a
    refine ⟨rfl, hstands, ?_⟩
    rw [Ledger.after, List.map_append, ← hshows.opened]
    rfl
  | prepare place =>
    refine ensures_onOpened hshows (fun _ => rfl) fun staged hstaged => ⟨some staged, ?_, ?_⟩
    · obtain ⟨hplace, rfl⟩ := List.getElem?_eq_some_iff.1 hstaged
      exact (List.set_getElem_self hplace).symm
    · refine .bind ((hb.prepare _ staged _ hstore).mono ?_)
      rintro _ store ⟨rfl, hstands⟩
      exact .pure ⟨rfl, hstands⟩
  | insert place e =>
    refine ensures_onOpened hshows (fun hnone => ?_) fun staged hstaged => ⟨some (staged ++ [e]), ?_, ?_⟩
    · have hlength := List.getElem?_eq_none_iff.1 hnone
      rw [Ledger.after, List.modify_eq_self hlength]
    · rw [Ledger.after, List.modify_eq_set, hstaged]
      rfl
    · refine .bind ((hb.insert _ staged _ e hstore).mono ?_)
      rintro _ store ⟨rfl, hstands⟩
      exact .pure ⟨rfl, hstands⟩
  | commit place =>
    refine ensures_onOpened hshows (fun hnone => ?_) fun staged hstaged => ⟨none, rfl, ?_⟩
    · have hlength := List.getElem?_eq_none_iff.1 hnone
      rw [Ledger.after, hnone, List.eraseIdx_of_length_le hlength, Option.getD_none, List.append_nil]
    · refine .bind ((hb.commit _ staged _ hstore).mono ?_)
      rintro _ store ⟨rfl, hstands⟩
      refine .pure ⟨rfl, ?_⟩
      rw [Ledger.after, hstaged]
      exact hstands
  | rollback place =>
    refine ensures_onOpened hshows (fun hnone => ?_) fun staged hstaged => ⟨none, rfl, ?_⟩
    · rw [Ledger.after, List.eraseIdx_of_length_le (List.getElem?_eq_none_iff.1 hnone)]
    · refine .bind ((hb.rollback _ staged _ hstore).mono ?_)
      rintro _ store ⟨rfl, hstands⟩
      exact .pure ⟨rfl, hstands⟩
  | drop place =>
    refine ensures_onOpened hshows (fun hnone => ?_) fun staged hstaged =>
      ⟨none, rfl, .pure ⟨rfl, hstore⟩⟩
    rw [Ledger.after, List.eraseIdx_of_length_le (List.getElem?_eq_none_iff.1 hnone)]
  | reopen =>
    intro a
    exact ⟨rfl, hb.anew _ _ hstore, hshows.opened⟩
  | search criteria =>
    refine ensures_onStore ((hb.search _ _ criteria hstore).mono ?_)
    rintro _ store ⟨rfl, hstands⟩
    exact ⟨rfl, hstands, hshows.opened⟩

/-- What is answered to a client can be told from the ledger, and so can what comes after. -/
theorem ensures_moves (hb : b.Keeps anew stands staging held) (hshows : Shows stands staging l s)
    (ms : List ClientMove) : Acting.Ensures (moves b anew ms) s fun answers s' =>
      answers = l.answers held ms ∧ Shows stands staging (l.afterAll ms) s' := by
  induction ms generalizing l s with
  | nil => exact .pure ⟨rfl, hshows⟩
  | cons m rest ih =>
    refine .bind ((ensures_move hb hshows m).mono ?_)
    rintro _ s' ⟨rfl, hs'⟩
    refine .bind ((ih hs').mono ?_)
    rintro _ s'' ⟨rfl, hs''⟩
    exact .pure ⟨rfl, hs''⟩

end ClientStage

/-! ### Entries in memory -/

theorem MemoryAudit.keeps : MemoryAudit.backend.Keeps id (fun committed s => s.committed = committed ∧ s.Works)
    StagedEntries.mk id where
  start committed s hs a := by
    rw [run_start hs.2 a]
    exact ⟨rfl, hs.1, hs.2.rejected, hs.2.starts, hs.2.prepares, hs.2.commits⟩
  prepare committed staged s hs a := by
    rw [run_prepare hs.2 _ a]
    exact ⟨rfl, hs⟩
  insert committed staged s e hs a := by
    rw [run_insert hs.2 e _ a]
    exact ⟨rfl, hs⟩
  commit committed staged s hs a := by
    rw [run_commit hs.2 _ a]
    exact ⟨rfl, by rw [hs.1], hs.2.rejected, hs.2.starts, hs.2.prepares, hs.2.commits⟩
  rollback committed staged s hs a :=
    ⟨rfl, hs.1, hs.2.rejected, hs.2.starts, hs.2.prepares, hs.2.commits⟩
  anew committed s hs := hs
  search committed s criteria hs a := ⟨by rw [← hs.1]; rfl, hs⟩

end Governance
