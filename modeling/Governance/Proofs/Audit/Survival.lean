import Governance.Proofs.Audit.Ledger
import Governance.Proofs.Audit.Lines

/-!
# Journals keep what was committed

A journal that is opened where nothing stands yet answers like entries in memory on which nothing fails,
however many transactions are open at once and however often it is opened anew. Where something stands
already, everything is found again that was committed, and every entry on a line that had ended; only the
entry committed first is lost if something that is not blank stands behind the last end of a line.
-/

namespace Governance

/-! ### Entries of a ledger -/

namespace Ledger

variable {P : AuditEntry → Prop} {l : Ledger} {m : ClientMove}

/-- Every entry in a ledger, committed or not, is one of which `P` holds. -/
structure AllOf (P : AuditEntry → Prop) (l : Ledger) : Prop where
  committed : ∀ e ∈ l.committed, P e
  opened : ∀ staged ∈ l.opened, ∀ e ∈ staged, P e

theorem allOf_blank : blank.AllOf P := ⟨List.forall_mem_nil _, List.forall_mem_nil _⟩

theorem AllOf.after (hl : l.AllOf P) (hm : ∀ place e, m = .insert place e → P e) : (l.after m).AllOf P := by
  have herase (place : Nat) : ∀ staged ∈ l.opened.eraseIdx place, ∀ e ∈ staged, P e :=
    fun staged hstaged => hl.opened staged (List.mem_of_mem_eraseIdx hstaged)
  cases m with
  | start =>
    refine ⟨hl.committed, List.forall_mem_append.2 ⟨hl.opened, ?_⟩⟩
    simp
  | insert place e =>
    refine ⟨hl.committed, fun staged hstaged => ?_⟩
    rw [Ledger.after, List.modify_eq_set] at hstaged
    rcases List.mem_or_eq_of_mem_set hstaged with hother | rfl
    · exact hl.opened staged hother
    refine List.forall_mem_append.2 ⟨?_, List.forall_mem_singleton.2 (hm place e rfl)⟩
    cases hbefore : l.opened[place]? with
    | none => exact List.forall_mem_nil _
    | some before => exact hl.opened before (List.mem_of_getElem? hbefore)
  | commit place =>
    have hended : ∀ e ∈ l.opened[place]?.getD [], P e := by
      cases hstaged : l.opened[place]? with
      | none => simp
      | some staged => exact hl.opened staged (List.mem_of_getElem? hstaged)
    exact ⟨List.forall_mem_append.2 ⟨hl.committed, hended⟩, herase place⟩
  | rollback place | drop place => exact ⟨hl.committed, herase place⟩
  | prepare | reopen | search => exact hl

theorem AllOf.afterAll (hl : l.AllOf P) {ms : List ClientMove}
    (hms : ∀ place e, .insert place e ∈ ms → P e) : (l.afterAll ms).AllOf P := by
  induction ms generalizing l with
  | nil => exact hl
  | cons m rest ih =>
    refine ih (hl.after ?_) fun place e hmem => hms place e (List.mem_cons_of_mem _ hmem)
    rintro place e rfl
    exact hms place e List.mem_cons_self

/-- The answers depend on what is found of entries of which `P` holds. -/
theorem answers_congr {held held' : List AuditEntry → List AuditEntry}
    (hheld : ∀ committed, (∀ e ∈ committed, P e) → held committed = held' committed) (hl : l.AllOf P)
    {ms : List ClientMove} (hms : ∀ place e, .insert place e ∈ ms → P e) :
    l.answers held ms = l.answers held' ms := by
  induction ms generalizing l with
  | nil => rfl
  | cons m rest ih =>
    have hafter : (l.after m).AllOf P := by
      refine hl.after ?_
      rintro place e rfl
      exact hms place e List.mem_cons_self
    rw [answers, answers, hheld _ hl.committed,
      ih hafter fun place e hmem => hms place e (List.mem_cons_of_mem _ hmem)]

theorem answers_append (held : List AuditEntry → List AuditEntry) (ms ms' : List ClientMove) :
    l.answers held (ms ++ ms') = l.answers held ms ++ (l.afterAll ms).answers held ms' := by
  induction ms generalizing l with
  | nil => rfl
  | cons m rest ih => exact congrArg (_ :: ·) ih

end Ledger

/-! ### Journals -/

namespace Journal

def anew (j : Journal) : Journal := .openAt j.file

/-- The file holds the lines of the committed entries behind the bytes that it held before, and is the one
that the journal has open. -/
structure Stands (before : List UInt8) (handle : Nat) (committed : List AuditEntry) (j : Journal) : Prop where
  bytes : j.file.bytes = some (before ++ committed.flatMap lineOf)
  opened : j.handle = handle
  current : j.file.generation = handle

theorem stands_openAt {f : JournalFile} {before : List UInt8} (hbytes : f.bytes.getD [] = before) :
    Stands before (openAt f).handle [] (openAt f) := by
  unfold openAt
  cases hfile : f.bytes with
  | none =>
    rw [hfile] at hbytes
    exact ⟨by rw [← hbytes]; rfl, rfl, rfl⟩
  | some bytes =>
    rw [hfile] at hbytes
    exact ⟨by rw [← hbytes, hfile]; exact congrArg some (List.append_nil _).symm, rfl, rfl⟩

/-- Writing to a journal adds lines, and opening it anew changes nothing. -/
theorem keeps (before : List UInt8) (handle : Nat) :
    backend.Keeps anew (Stands before handle) (fun staged => ⟨handle, staged.flatMap lineOf⟩)
      (fun committed => entriesOf (before ++ committed.flatMap lineOf)) where
  start committed j hj a := ⟨by rw [← hj.opened]; rfl, hj⟩
  prepare committed staged j hj a := ⟨rfl, hj⟩
  insert committed staged j e hj a := by
    refine ⟨?_, hj⟩
    rw [List.flatMap_append, List.flatMap_singleton]
    rfl
  commit committed staged j hj a := by
    refine ⟨rfl, ?_⟩
    change Stands _ _ _ { j with file := j.file.append handle (staged.flatMap lineOf) }
    rw [JournalFile.append, if_pos hj.current, hj.bytes]
    exact ⟨by simp, hj.opened, hj.current⟩
  rollback committed staged j hj a := ⟨rfl, hj⟩
  anew committed j hj := by
    rw [anew, openAt, hj.bytes]
    exact ⟨hj.bytes, hj.current, hj.current⟩
  search committed j criteria hj := by
    change Acting.Ensures (Journal.search criteria) j _
    refine .get_bind ?_
    dsimp only
    rw [hj.bytes]
    exact .lift_bind fun _ => .pure ⟨rfl, hj⟩

end Journal

/-! ### What a client is answered -/

/-- The answers of entries in memory, none of which is made to fail. -/
def MemoryAudit.clientAnswers (ms : List ClientMove) (a : Ambient) : List ClientAnswer :=
  ((ClientStage.moves backend id ms).run ⟨empty, []⟩ a).1.1

theorem MemoryAudit.clientAnswers_eq (ms : List ClientMove) (a : Ambient) :
    clientAnswers ms a = Ledger.blank.answers id ms :=
  (ClientStage.ensures_moves keeps ⟨⟨rfl, works_empty⟩, rfl⟩ ms a).1

namespace Journal

variable {f : JournalFile} {ms : List ClientMove}

/-- The answers of a journal that is opened at a place. -/
def clientAnswers (f : JournalFile) (ms : List ClientMove) (a : Ambient) : List ClientAnswer :=
  ((ClientStage.moves backend anew ms).run ⟨openAt f, []⟩ a).1.1

theorem clientAnswers_eq (f : JournalFile) (ms : List ClientMove) (a : Ambient) :
    clientAnswers f ms a = Ledger.blank.answers
      (fun committed => entriesOf (f.bytes.getD [] ++ committed.flatMap lineOf)) ms :=
  (ClientStage.ensures_moves (keeps _ _) ⟨stands_openAt rfl, rfl⟩ ms a).1

/-- A journal that is opened where no file is, or an empty one, answers like entries in memory. -/
theorem answers_like_memory (hempty : ∀ bytes, f.bytes = some bytes → bytes = [])
    (hlegible : ∀ place e, .insert place e ∈ ms → e.IsLegible) (a a' : Ambient) :
    clientAnswers f ms a = MemoryAudit.clientAnswers ms a' ∧
      MemoryAudit.clientAnswers ms a' = Ledger.blank.answers id ms := by
  have hbytes : f.bytes.getD [] = [] := by
    cases hfile : f.bytes with
    | none => rfl
    | some bytes => exact hempty bytes hfile
  have hmemory := MemoryAudit.clientAnswers_eq ms a'
  refine ⟨?_, hmemory⟩
  rw [clientAnswers_eq, hmemory, hbytes]
  exact Ledger.answers_congr (fun committed h => entriesOf_flatMap_lineOf h) Ledger.allOf_blank hlegible

/-- An entry with all of its parts, and texts that would end a line or a quotation if they were written as
they are. -/
def noisyEntry : AuditEntry where
  id := ⟨"a1"⟩
  request := ⟨"r1"⟩
  timestamp := ⟨0, 0⟩
  actor := ⟨"u1", "alice@example.com", "analyst"⟩
  client := some "console\n"
  tenant := ⟨"acme"⟩
  requestKind := "query"
  queryHash := "5feceb66"
  verdict := .redacted
  details := some ⟨["Card numbers"], 0.5, [], 3⟩
  usage := some ⟨"openai", "gpt-4", 18446744073709551615, 120, 0.25⟩
  sample := some "\\\"\x7d\n\x7b\"id\":\"a2\""
  redacted := ["card", "é\t\x01"]
  errorMessage := some "timed out"
  flags := [.piiAccess]
  security := some ⟨0.5, 1, .low, true⟩

/-- An entry with no parts that may be missing. -/
def briefEntry : AuditEntry := { noisyEntry with
  id := ⟨"a2"⟩, client := none, details := none, usage := none, sample := none, redacted := []
  errorMessage := none, flags := [], security := none }

theorem noisyEntry_legible : noisyEntry.IsLegible := by
  have hhalf : Json.numberText (.real 0.5) = ['0', '.', '5'] := by decide
  have hquarter : Json.numberText (.real 0.25) = ['0', '.', '2', '5'] := by decide
  have hscore : Number.ReadsBack (.real 0.5) := by
    rw [Number.ReadsBack, hhalf]
    rfl
  have hcost : Number.ReadsBack (.real 0.25) := by
    rw [Number.ReadsBack, hquarter]
    rfl
  have hfinite : (0.5 : Float).isFinite ∧ (0.25 : Float).isFinite := by decide
  refine ⟨⟨⟨by decide, by decide⟩, ?_, ?_, ?_⟩, ?_, ?_, ?_⟩
  · rintro d ⟨⟩
    exact hfinite.1
  · rintro u ⟨⟩
    exact hfinite.2
  · rintro m ⟨⟩
    exact ⟨hfinite.1, by decide⟩
  · rintro d ⟨⟩
    exact hscore
  · rintro u ⟨⟩
    exact hcost
  · rintro m ⟨⟩
    exact hscore

theorem briefEntry_legible : briefEntry.IsLegible :=
  ⟨⟨noisyEntry_legible.tellable.timestamp, nofun, nofun, nofun⟩, nofun, nofun, nofun⟩

/-- Two transactions are open at once, and the one opened first is committed last, after the journal was
opened anew. What is dropped or rolled back is not found. -/
def interleavedMoves : List ClientMove := [.start, .start, .insert 0 noisyEntry, .insert 1 briefEntry,
  .commit 1, .reopen, .search .all, .insert 0 briefEntry, .start, .insert 1 noisyEntry, .drop 1,
  .commit 0, .start, .prepare 0, .insert 0 briefEntry, .rollback 0, .search { Criteria.all with limit := some 2 }]

theorem legible_of_interleavedMoves (place : Nat) (e : AuditEntry)
    (hmem : .insert place e ∈ interleavedMoves) : e.IsLegible := by
  simp only [interleavedMoves, List.mem_cons, List.not_mem_nil, ClientMove.insert.injEq, reduceCtorEq,
    false_or, or_false] at hmem
  rcases hmem with ⟨-, rfl⟩ | ⟨-, rfl⟩ | ⟨-, rfl⟩ | ⟨-, rfl⟩ | ⟨-, rfl⟩
  · exact noisyEntry_legible
  · exact briefEntry_legible
  · exact briefEntry_legible
  · exact noisyEntry_legible
  · exact briefEntry_legible

theorem interleavedMoves_answered :
    (∀ place e, .insert place e ∈ interleavedMoves → e.IsLegible) ∧
      clientAnswers (.absent "audit.jsonl") interleavedMoves .initial =
        MemoryAudit.clientAnswers interleavedMoves .initial :=
  ⟨legible_of_interleavedMoves,
    (answers_like_memory (f := .absent "audit.jsonl") nofun legible_of_interleavedMoves .initial
      .initial).1⟩

/-! ### What was there before -/

theorem getLast?_clientAnswers (hlegible : ∀ place e, .insert place e ∈ ms → e.IsLegible)
    (criteria : Criteria) (a : Ambient) :
    (clientAnswers f (ms ++ [.search criteria]) a).getLast? = some (.ok (criteria.select
      (entriesOf (endedPart (f.bytes.getD [])) ++
        survivors (tornPart (f.bytes.getD [])) (Ledger.blank.afterAll ms).committed))) := by
  rw [clientAnswers_eq, Ledger.answers_append, Ledger.answers, Ledger.answers, List.getLast?_concat,
    entriesOf_append_lines _ (Ledger.allOf_blank.afterAll hlegible).committed]
  rfl

theorem perm_select_all (entries : List AuditEntry) : (Criteria.all.select entries).Perm entries := by
  have hfilter : entries.filter Criteria.all.admits = entries :=
    List.filter_eq_self.2 fun e _ => rfl
  change ((entries.filter Criteria.all.admits).mergeSort Criteria.notOlder).Perm entries
  rw [hfilter]
  exact List.mergeSort_perm ..

/-- Every entry is found that stood on a line that had ended, and so is everything that was committed;
only what was committed first is not found if something that is not blank stood behind the last end of a
line. -/
theorem committed_found_unless_torn {bytes : List UInt8} (hbytes : f.bytes = some bytes)
    (hlegible : ∀ place e, .insert place e ∈ ms → e.IsLegible) (a : Ambient) :
    (∀ criteria, (clientAnswers f (ms ++ [.search criteria]) a).getLast? =
      some (.ok (criteria.select (entriesOf (endedPart bytes) ++
        survivors (tornPart bytes) (Ledger.blank.afterAll ms).committed)))) ∧
    ∀ first rest, (Ledger.blank.afterAll ms).committed = first :: rest →
      ∃ found, (clientAnswers f (ms ++ [.search .all]) a).getLast? = some (.ok found) ∧
        found.Perm (entriesOf (endedPart bytes) ++
          if IsBlank (tornPart bytes) then first :: rest else rest) := by
  have hfound := fun criteria => getLast?_clientAnswers (f := f) hlegible criteria a
  rw [hbytes, Option.getD_some] at hfound
  refine ⟨hfound, fun first rest hcommitted => ⟨_, hfound .all, ?_⟩⟩
  rw [hcommitted]
  exact perm_select_all _

/-- A line that is no entry, and one that was cut short. -/
def tornBytes : List UInt8 := [110, 10, 123, 34, 116, 111, 114, 110]

/-- Two batches, one committed after the other. -/
def batchMoves : List ClientMove :=
  [.start, .insert 0 briefEntry, .commit 0, .start, .insert 0 noisyEntry, .commit 0]

theorem legible_of_batchMoves (place : Nat) (e : AuditEntry) (hmem : .insert place e ∈ batchMoves) :
    e.IsLegible := by
  simp only [batchMoves, List.mem_cons, List.not_mem_nil, ClientMove.insert.injEq, reduceCtorEq, false_or,
    or_false] at hmem
  rcases hmem with ⟨-, rfl⟩ | ⟨-, rfl⟩
  · exact briefEntry_legible
  · exact noisyEntry_legible

theorem batchMoves_found :
    (∀ place e, .insert place e ∈ batchMoves → e.IsLegible) ∧
      ∃ found, (clientAnswers ⟨"audit.jsonl", 1, some tornBytes⟩ (batchMoves ++ [.search .all])
        .initial).getLast? = some (.ok found) ∧ found.Perm [noisyEntry] := by
  have hended : entriesOf (endedPart tornBytes) = [] := rfl
  have htorn : ¬ IsBlank (tornPart tornBytes) := by decide
  have hfound := (committed_found_unless_torn (f := ⟨"audit.jsonl", 1, some tornBytes⟩) rfl
    legible_of_batchMoves .initial).2 briefEntry [noisyEntry] rfl
  rw [hended, if_neg htorn] at hfound
  exact ⟨legible_of_batchMoves, hfound⟩

/-- What is committed behind a line that was cut short is not found. -/
theorem batchMoves_not_found :
    briefEntry ∈ (Ledger.blank.afterAll batchMoves).committed ∧
      ∃ found, (clientAnswers ⟨"audit.jsonl", 1, some tornBytes⟩ (batchMoves ++ [.search .all])
        .initial).getLast? = some (.ok found) ∧ briefEntry ∉ found := by
  have hended : entriesOf (endedPart tornBytes) = [] := rfl
  have htorn : ¬ IsBlank (tornPart tornBytes) := by decide
  have hcommitted : (Ledger.blank.afterAll batchMoves).committed = [briefEntry, noisyEntry] := rfl
  refine ⟨by simp [hcommitted], _, getLast?_clientAnswers legible_of_batchMoves .all .initial, ?_⟩
  intro hmem
  have hfound := (perm_select_all _).mem_iff.1 hmem
  rw [Option.getD_some, hended, hcommitted, survivors, if_neg htorn, List.nil_append,
    List.mem_singleton] at hfound
  exact absurd (congrArg AuditEntry.flags hfound) (by decide)

end Journal

end Governance
