import Mathlib.Data.List.Basic
import Mathlib.Data.List.Induction
import Governance.Proofs.Audit.Traced

/-!
# Batches are written whole or not at all

A batch is refused a transaction, or its transaction cannot be made ready, or all of its entries are
offered to one transaction, of which those last that were taken if the transaction is committed, and none
otherwise. Whatever is called, and whatever others make of the faults of the store meanwhile, every
transaction that was opened has been closed once, and every entry that was added is in one batch that was
written or is still pending, with fewer pending than make a batch.
-/

namespace Governance

/-! ## One batch -/

/-- The deeds of a transaction to which entries are offered. -/
def offersIn (n : Nat) (offers : List (AuditEntry × Bool)) : List (Nat × AuditDeed) :=
  offers.map fun o => (n, .offered o.1 o.2)

/-- The deeds of a transaction to which all of a batch was offered. -/
def deedsOf (n : Nat) (offers : List (AuditEntry × Bool)) (kept : Bool) : List (Nat × AuditDeed) :=
  (n, .opened) :: (offersIn n offers ++ [(n, .committed kept)])

/-- How a batch can fare: what comes of it, the books after it, and what was done. -/
inductive Writing.Fared : Writing → Prop where
  | refused (origin : BatchOrigin) (batch : List AuditEntry) (b : AuditBooks) (e : AuditError) :
      Fared ⟨origin, batch, b, .error e, b, []⟩
  | unprepared (origin : BatchOrigin) (batch : List AuditEntry) (b : AuditBooks) (e : AuditError) :
      Fared ⟨origin, batch, b, .error e, { b with starts := b.starts + 1, rollbacks := b.rollbacks + 1 },
        [(b.starts, .opened), (b.starts, .rolledBack)]⟩
  | uncommitted (origin : BatchOrigin) (b : AuditBooks) (offers : List (AuditEntry × Bool))
      (e : AuditError) :
      Fared ⟨origin, offers.map (·.1), b, .error e,
        { b with starts := b.starts + 1, rollbacks := b.rollbacks + 1 }, deedsOf b.starts offers false⟩
  | committed (origin : BatchOrigin) (b : AuditBooks) (offers : List (AuditEntry × Bool)) :
      Fared ⟨origin, offers.map (·.1), b,
        .ok ⟨(offers.filter (·.2)).length, (offers.filter (!·.2)).length⟩,
        { b with
          committed := b.committed ++ (offers.filter (·.2)).map (·.1)
          starts := b.starts + 1
          commits := b.commits + 1 },
        deedsOf b.starts offers true⟩

/-! ### What an operation can make of the books, whatever is made to fail -/

namespace MemoryAudit

def Started (b : AuditBooks) (outcome : Except AuditError StagedEntries) (b' : AuditBooks) : Prop :=
  (∃ e, outcome = .error e ∧ b' = b) ∨ outcome = .ok ⟨[]⟩ ∧ b' = { b with starts := b.starts + 1 }

def Prepared (b : AuditBooks) (t : StagedEntries) (outcome : Except AuditError Unit × StagedEntries)
    (b' : AuditBooks) : Prop :=
  outcome.2 = t ∧ b' = b

def Inserted (b : AuditBooks) (t : StagedEntries) (e : AuditEntry)
    (outcome : Except AuditError Unit × StagedEntries) (b' : AuditBooks) : Prop :=
  b' = b ∧ outcome.2.entries = t.entries ++ if outcome.1.isOk then [e] else []

def Committed (b : AuditBooks) (t : StagedEntries) (outcome : Except AuditError Unit)
    (b' : AuditBooks) : Prop :=
  (∃ e, outcome = .error e ∧ b' = { b with rollbacks := b.rollbacks + 1 }) ∨
    outcome = .ok () ∧ b' = { b with committed := b.committed ++ t.entries, commits := b.commits + 1 }

def RolledBack (b : AuditBooks) (outcome : Except AuditError Unit) (b' : AuditBooks) : Prop :=
  outcome = .ok () ∧ b' = { b with rollbacks := b.rollbacks + 1 }

section

variable (s : MemoryAudit) (e : AuditEntry) (t : StagedEntries)

theorem ensures_start : Acting.Ensures start s fun outcome s' => Started s.books outcome s'.books := by
  refine .get_bind ?_
  split
  · exact .pure (.inl ⟨_, rfl, rfl⟩)
  · exact fun _ => .inr ⟨rfl, rfl⟩

theorem ensures_prepare :
    Acting.Ensures (prepare t) s fun outcome s' => Prepared s.books t outcome s'.books := by
  refine .get_bind ?_
  split
  · exact .pure ⟨rfl, rfl⟩
  · exact .pure ⟨rfl, rfl⟩

theorem ensures_insert :
    Acting.Ensures (insert e t) s fun outcome s' => Inserted s.books t e outcome s'.books := by
  refine .get_bind ?_
  split
  · exact .pure ⟨rfl, (List.append_nil _).symm⟩
  · exact .pure ⟨rfl, rfl⟩

theorem ensures_commit :
    Acting.Ensures (commit t) s fun outcome s' => Committed s.books t outcome s'.books := by
  refine .get_bind ?_
  split
  · exact fun _ => .inl ⟨_, rfl, rfl⟩
  · exact fun _ => .inr ⟨rfl, rfl⟩

theorem ensures_rollback :
    Acting.Ensures (rollback t) s fun outcome s' => RolledBack s.books outcome s'.books :=
  fun _ => ⟨rfl, rfl⟩

end

end MemoryAudit

namespace TracedAudit

/-- From `s` to `s'` the books become `books`, and `deeds` are added to what was done. -/
structure Becomes (s : TracedAudit) (books : AuditBooks) (deeds : List (Nat × AuditDeed))
    (s' : TracedAudit) : Prop where
  books : s'.store.books = books
  deeds : s'.deeds = s.deeds ++ deeds
  writings : s'.writings = s.writings

section Operations

variable {α : Type} {s s' s'' : TracedAudit} {books books' : AuditBooks}
  {deeds deeds' : List (Nat × AuditDeed)} (disturb : Nat → AuditFaults → AuditFaults)

theorem Becomes.trans (h : s.Becomes books deeds s') (h' : s'.Becomes books' deeds' s'') :
    s.Becomes books' (deeds ++ deeds') s'' :=
  ⟨h'.books, by rw [h'.deeds, h.deeds, List.append_assoc], h'.writings.trans h.writings⟩

theorem ensures_act {x : Acting MemoryAudit α} (post : α → AuditBooks → Prop)
    (hx : ∀ f, Acting.Ensures x (s.store.withFaults f) fun value store => post value store.books) :
    Acting.Ensures (act disturb x) s fun value s' =>
      ∃ books, post value books ∧ s.Becomes books [] s' :=
  fun a => ⟨_, hx _ a, rfl, (List.append_nil _).symm, rfl⟩

theorem ensures_note {value : α} {post : α → TracedAudit → Prop} {n : Nat} {deed : AuditDeed}
    (h : s.Becomes books [] s') (hpost : ∀ s'', s.Becomes books [(n, deed)] s'' → post value s'') :
    Acting.Ensures (note n deed >>= fun _ => pure value) s' post :=
  fun _ => hpost _ (h.trans ⟨h.books, rfl, rfl⟩)

theorem ensures_start : Acting.Ensures (backend disturb).start s fun outcome s' =>
    (∃ e, outcome = .error e ∧ s.Becomes s.store.books [] s') ∨
      outcome = .ok (s.store.books.starts, ⟨[]⟩) ∧
        s.Becomes { s.store.books with starts := s.store.books.starts + 1 }
          [(s.store.books.starts, .opened)] s' := by
  refine .get_bind (.bind ((ensures_act disturb (MemoryAudit.Started s.store.books) fun f =>
    MemoryAudit.ensures_start _).mono ?_))
  rintro outcome s' ⟨books, ⟨e, rfl, rfl⟩ | ⟨rfl, rfl⟩, hact⟩
  · exact .pure (.inl ⟨e, rfl, hact⟩)
  · exact ensures_note hact fun s'' h => .inr ⟨rfl, h⟩

variable (t : Nat × StagedEntries)

theorem ensures_prepare : Acting.Ensures ((backend disturb).prepare t) s fun outcome s' =>
    outcome.2 = t ∧ s.Becomes s.store.books [] s' := by
  refine .bind ((ensures_act disturb (MemoryAudit.Prepared s.store.books t.2) fun f =>
    MemoryAudit.ensures_prepare _ _).mono ?_)
  rintro ⟨outcome, staged⟩ s' ⟨books, ⟨rfl, rfl⟩, hact⟩
  exact .pure ⟨rfl, hact⟩

theorem ensures_insert (e : AuditEntry) : Acting.Ensures ((backend disturb).insert e t) s fun outcome s' =>
    outcome.2 = (t.1, ⟨t.2.entries ++ if outcome.1.isOk then [e] else []⟩) ∧
      s.Becomes s.store.books [(t.1, .offered e outcome.1.isOk)] s' := by
  refine .bind ((ensures_act disturb (MemoryAudit.Inserted s.store.books t.2 e) fun f =>
    MemoryAudit.ensures_insert _ _ _).mono ?_)
  rintro ⟨outcome, staged⟩ s' ⟨books, ⟨rfl, hstaged⟩, hact⟩
  refine ensures_note hact fun s'' h => ⟨?_, h⟩
  rw [← hstaged]

theorem ensures_commit : Acting.Ensures ((backend disturb).commit t) s fun outcome s' =>
    (∃ e, outcome = .error e ∧
      s.Becomes { s.store.books with rollbacks := s.store.books.rollbacks + 1 }
        [(t.1, .committed false)] s') ∨
    outcome = .ok () ∧ s.Becomes { s.store.books with
      committed := s.store.books.committed ++ t.2.entries, commits := s.store.books.commits + 1 }
        [(t.1, .committed true)] s' := by
  refine .bind ((ensures_act disturb (MemoryAudit.Committed s.store.books t.2) fun f =>
    MemoryAudit.ensures_commit _ _).mono ?_)
  rintro outcome s' ⟨books, ⟨e, rfl, rfl⟩ | ⟨rfl, rfl⟩, hact⟩
  · exact ensures_note hact fun s'' h => .inl ⟨e, rfl, h⟩
  · exact ensures_note hact fun s'' h => .inr ⟨rfl, h⟩

theorem ensures_abandon : Acting.Ensures ((backend disturb).abandon t) s fun _ s' =>
    s.Becomes { s.store.books with rollbacks := s.store.books.rollbacks + 1 } [(t.1, .rolledBack)] s' := by
  have hrollback : Acting.Ensures ((backend disturb).rollback t) s fun outcome s' =>
      outcome = .ok () ∧ s.Becomes { s.store.books with rollbacks := s.store.books.rollbacks + 1 }
        [(t.1, .rolledBack)] s' := by
    refine .bind ((ensures_act disturb (MemoryAudit.RolledBack s.store.books) fun f =>
      MemoryAudit.ensures_rollback _ _).mono ?_)
    rintro outcome s' ⟨books, ⟨rfl, rfl⟩, hact⟩
    exact ensures_note hact fun s'' h => ⟨rfl, h⟩
  refine .bind (hrollback.mono ?_)
  rintro outcome s' ⟨rfl, h⟩
  exact .pure h

/-- Every entry of a batch is offered, and those are staged that are taken. -/
theorem ensures_insertAll (batch : List AuditEntry) (r : WriteReport) :
    Acting.Ensures ((backend disturb).insertAll batch t r) s fun outcome s' =>
      ∃ offers : List (AuditEntry × Bool), offers.map (·.1) = batch ∧
        outcome = (⟨r.written + (offers.filter (·.2)).length, r.failed + (offers.filter (!·.2)).length⟩,
          (t.1, ⟨t.2.entries ++ (offers.filter (·.2)).map (·.1)⟩)) ∧
        s.Becomes s.store.books (offersIn t.1 offers) s' := by
  induction batch generalizing s t r with
  | nil => exact .pure ⟨[], rfl, by simp, rfl, (List.append_nil _).symm, rfl⟩
  | cons e rest ih =>
    refine .bind ((ensures_insert disturb t e).mono ?_)
    rintro ⟨error | done, t'⟩ s' ⟨ht', hinsert⟩
    · obtain rfl : t' = t := by simpa [Except.isOk, Except.toBool] using ht'
      refine .lift_bind fun _ => (ih t' _).mono ?_
      rintro outcome s'' ⟨offers, rfl, rfl, hrest⟩
      rw [hinsert.books] at hrest
      refine ⟨(e, false) :: offers, rfl, ?_, hinsert.trans hrest⟩
      simp only [List.filter_cons, Bool.not_false, if_true, Bool.false_eq_true, if_false,
        List.length_cons, Nat.add_assoc, Nat.add_comm 1]
    · obtain rfl : t' = (t.1, ⟨t.2.entries ++ [e]⟩) := ht'
      refine (ih _ _).mono ?_
      rintro outcome s'' ⟨offers, rfl, rfl, hrest⟩
      rw [hinsert.books] at hrest
      refine ⟨(e, true) :: offers, rfl, ?_, hinsert.trans hrest⟩
      simp only [List.filter_cons, Bool.not_true, if_true, Bool.false_eq_true, if_false,
        List.length_cons, Nat.add_assoc, Nat.add_comm 1, List.append_assoc, List.singleton_append,
        List.map_cons]

theorem ensures_backend_write (origin : BatchOrigin) (batch : List AuditEntry) :
    Acting.Ensures ((backend disturb).write batch) s fun outcome s' => ∃ books deeds,
      Writing.Fared ⟨origin, batch, s.store.books, outcome, books, deeds⟩ ∧ s.Becomes books deeds s' := by
  refine .bind ((ensures_start disturb).mono ?_)
  rintro outcome s₁ (⟨e, rfl, h₁⟩ | ⟨rfl, h₁⟩)
  · exact .pure ⟨_, _, .refused origin batch _ _, h₁⟩
  refine .bind ((ensures_prepare disturb _).mono ?_)
  rintro ⟨e | ready, t⟩ s₂ ⟨rfl, h₂⟩
  · refine .bind ((ensures_abandon disturb _).mono fun _ s₃ h₃ =>
      .pure ⟨_, _, .unprepared origin batch _ _, ?_⟩)
    rw [h₂.books, h₁.books] at h₃
    exact (h₁.trans h₂).trans h₃
  refine .bind ((ensures_insertAll disturb _ batch ⟨0, 0⟩).mono ?_)
  rintro outcome s₃ ⟨offers, rfl, rfl, h₃⟩
  refine .bind ((ensures_commit disturb _).mono ?_)
  rw [h₂.books, h₁.books] at h₃
  have hoffered := (h₁.trans h₂).trans h₃
  rintro outcome s₄ (⟨e, rfl, h₄⟩ | ⟨rfl, h₄⟩)
  · rw [h₃.books] at h₄
    exact .pure ⟨_, _, .uncommitted origin _ offers _, hoffered.trans h₄⟩
  · rw [h₃.books] at h₄
    refine .lift_bind fun _ => .pure ⟨_, _, ?_, hoffered.trans h₄⟩
    simp only [Nat.zero_add, List.nil_append]
    exact .committed origin _ offers

end Operations

end TracedAudit

/-! ## All batches -/

section Offers

variable (n : Nat) (offers : List (AuditEntry × Bool)) (kept : Bool)

@[simp] theorem offers_deedsOf : (deedsOf n offers kept).filterMap (·.2.offer?) = offers := by
  have hoffers : (offersIn n offers).filterMap (·.2.offer?) = offers := by
    rw [offersIn, List.filterMap_map]
    exact List.filterMap_some
  rw [deedsOf, List.filterMap_cons_none rfl, List.filterMap_append, hoffers]
  exact List.append_nil offers

@[simp] theorem openings_deedsOf :
    ((deedsOf n offers kept).filter (·.2.isOpening)).map (·.1) = [n] := by
  have hoffers : (offersIn n offers).filter (·.2.isOpening) = [] := by
    rw [offersIn, List.filter_map]
    simp [Function.comp_def, AuditDeed.isOpening]
  rw [deedsOf, List.filter_cons_of_pos rfl, List.filter_append, hoffers]
  rfl

@[simp] theorem closings_deedsOf :
    ((deedsOf n offers kept).filter (·.2.isClosing)).map (·.1) = [n] := by
  have hoffers : (offersIn n offers).filter (·.2.isClosing) = [] := by
    rw [offersIn, List.filter_map]
    simp [Function.comp_def, AuditDeed.isClosing]
  rw [deedsOf, List.filter_cons_of_neg Bool.false_ne_true, List.filter_append, hoffers]
  rfl

theorem fst_of_mem_deedsOf {d : Nat × AuditDeed} (hd : d ∈ deedsOf n offers kept) : d.1 = n := by
  rw [deedsOf, offersIn] at hd
  simp only [List.mem_cons, List.mem_append, List.mem_map, List.not_mem_nil, or_false] at hd
  rcases hd with rfl | ⟨o, -, rfl⟩ | rfl
  · rfl
  · rfl
  · rfl

theorem length_taken_add_length_passedOver :
    (offers.filter (·.2)).length + (offers.filter (!·.2)).length = offers.length := by
  simpa only [← List.countP_eq_length_filter, Bool.not_eq_true, Bool.decide_eq_false] using
    (List.length_eq_countP_add_countP fun o : AuditEntry × Bool => o.2).symm

end Offers

namespace Writing

/-- A batch that is written whole, apart from what was not taken, or not at all. -/
structure AllOrNothing (w : Writing) : Prop where
  whole : ∀ report, w.outcome = .ok report → w.offers.map (·.1) = w.batch ∧
    w.after.committed = w.before.committed ++ w.taken ∧
    report.written = w.taken.length ∧ report.failed = w.passedOver.length ∧
    report.written + report.failed = w.batch.length
  nothing : ∀ e, w.outcome = .error e → w.after.committed = w.before.committed

/-- Every entry of a batch is offered once, or none is, and all in one transaction that is opened for the
batch and closed. -/
structure InOneTransaction (w : Writing) : Prop where
  once : w.offers = [] ∨ w.offers.map (·.1) = w.batch
  openings : w.openings.length ≤ 1
  within : ∀ d ∈ w.deeds, d.1 ∈ w.openings
  closings : w.closings = w.openings

/-- What the books say after a batch. -/
structure Booked (w : Writing) : Prop where
  committed : w.after.committed = w.before.committed ++ w.kept
  openings : w.openings = List.range' w.before.starts w.openings.length
  starts : w.after.starts = w.before.starts + w.openings.length
  ended : w.after.commits + w.after.rollbacks =
    w.before.commits + w.before.rollbacks + w.openings.length

variable {w : Writing}

theorem Fared.allOrNothing (hw : w.Fared) : w.AllOrNothing := by
  cases hw with
  | refused | unprepared | uncommitted => exact ⟨nofun, fun _ _ => rfl⟩
  | committed origin b offers =>
    refine ⟨?_, nofun⟩
    rintro report ⟨⟩
    simp only [taken, passedOver, Writing.offers, offers_deedsOf, List.length_map,
      length_taken_add_length_passedOver, and_self]

theorem Fared.inOneTransaction (hw : w.Fared) : w.InOneTransaction := by
  cases hw with
  | refused origin batch b e => exact ⟨.inl rfl, Nat.zero_le 1, fun d hd => absurd hd List.not_mem_nil, rfl⟩
  | unprepared origin batch b e =>
    refine ⟨.inl rfl, Nat.le_refl 1, ?_, rfl⟩
    change ∀ d ∈ [(b.starts, AuditDeed.opened), (b.starts, .rolledBack)], d.1 ∈ [b.starts]
    simp
  | uncommitted origin b offers | committed origin b offers =>
    constructor
    · exact .inr (by simp only [Writing.offers, offers_deedsOf])
    · simp only [openings, openings_deedsOf, List.length_singleton, Nat.le_refl]
    · intro d hd
      simp only [openings, openings_deedsOf, fst_of_mem_deedsOf _ _ _ hd, List.mem_singleton]
    · simp only [openings, closings, openings_deedsOf, closings_deedsOf]

theorem Fared.booked (hw : w.Fared) : w.Booked := by
  cases hw with
  | refused | unprepared => exact ⟨(List.append_nil _).symm, rfl, rfl, rfl⟩
  | uncommitted origin b offers e =>
    constructor
    · exact (List.append_nil _).symm
    all_goals simp only [openings, openings_deedsOf, List.length_singleton, List.range'_one]
    exact (Nat.add_assoc ..).symm
  | committed origin b offers =>
    constructor
    · simp only [kept, taken, Writing.offers, offers_deedsOf]
    all_goals simp only [openings, openings_deedsOf, List.length_singleton, List.range'_one]
    exact Nat.add_right_comm ..

end Writing

/-! ### What the batches add up to -/

namespace TracedAudit

/-- What a store holds and has done since its books were `b` are the batches that were written. -/
structure Balanced (b : AuditBooks) (s : TracedAudit) : Prop where
  fared : ∀ w ∈ s.writings, w.Fared
  settled : s.deeds = []
  committed : s.store.books.committed = b.committed ++ s.writings.flatMap (·.kept)
  openings : s.writings.flatMap (·.openings) =
    List.range' b.starts (s.writings.flatMap (·.openings)).length
  starts : s.store.books.starts = b.starts + (s.writings.flatMap (·.openings)).length
  ended : s.store.books.commits + s.store.books.rollbacks =
    b.commits + b.rollbacks + (s.writings.flatMap (·.openings)).length

theorem balanced_ofStore (s : MemoryAudit) : (ofStore s).Balanced s.books :=
  ⟨nofun, rfl, (List.append_nil _).symm, rfl, rfl, rfl⟩

variable {b : AuditBooks} {s s' : TracedAudit} {w : Writing}

theorem Balanced.wrote (hs : s.Balanced b) (hw : w.Fared) (hbefore : w.before = s.store.books)
    (hafter : s'.store.books = w.after) (hsettled : s'.deeds = [])
    (hwritings : s'.writings = s.writings ++ [w]) : s'.Balanced b := by
  have hbooked := hw.booked
  have hopenings : s'.writings.flatMap (·.openings) = s.writings.flatMap (·.openings) ++ w.openings := by
    rw [hwritings, List.flatMap_append, List.flatMap_singleton]
  constructor
  · rw [hwritings]
    exact List.forall_mem_append.2 ⟨hs.fared, List.forall_mem_singleton.2 hw⟩
  · exact hsettled
  · rw [hafter, hbooked.committed, hbefore, hs.committed, hwritings, List.flatMap_append,
      List.flatMap_singleton, List.append_assoc]
  · rw [hopenings, List.length_append, ← List.range'_append_1, ← hs.openings, ← hs.starts, ← hbefore,
      ← hbooked.openings]
  · rw [hafter, hbooked.starts, hbefore, hs.starts, hopenings, List.length_append, Nat.add_assoc]
  · rw [hafter, hbooked.ended, hbefore, hs.ended, hopenings, List.length_append, Nat.add_assoc]

/-- A batch that is written is remembered with what comes of it. -/
theorem Balanced.write (hs : s.Balanced b) (disturb : Nat → AuditFaults → AuditFaults)
    (origin : BatchOrigin) (batch : List AuditEntry) :
    Acting.Ensures (TracedAudit.write disturb origin batch) s fun outcome s' =>
      s'.Balanced b ∧ ∃ w : Writing, s'.writings = s.writings ++ [w] ∧
        w.origin = origin ∧ w.batch = batch ∧ w.outcome = outcome := by
  refine .get_bind (.bind ((ensures_backend_write disturb origin batch).mono ?_))
  rintro outcome s' ⟨books, deeds, hw, hs'⟩ a
  have hdeeds : s'.deeds = deeds := by
    rw [hs'.deeds, hs.settled, List.nil_append]
  obtain rfl := hs'.books
  obtain rfl := hdeeds
  have hwritings : s'.writings ++ [⟨origin, batch, s.store.books, outcome, s'.store.books, s'.deeds⟩] =
      s.writings ++ [⟨origin, batch, s.store.books, outcome, s'.store.books, s'.deeds⟩] := by
    rw [hs'.writings]
  exact ⟨hs.wrote hw rfl rfl rfl hwritings, _, hwritings, rfl, rfl, rfl⟩

/-- No transaction is opened for two batches. -/
theorem Balanced.nodup (hs : s.Balanced b) : (s.writings.flatMap (·.openings)).Nodup := by
  rw [hs.openings]
  exact List.nodup_range'

theorem Balanced.closings (hs : s.Balanced b) :
    s.writings.flatMap (·.closings) = s.writings.flatMap (·.openings) :=
  List.flatMap_congr fun w hw => (hs.fared w hw).inOneTransaction.closings

end TracedAudit

/-! ## All calls -/

namespace WriterStage

/-- Every entry that was added is in a batch that was written for it or is pending, and every call that
asked for a batch to be written was answered with what came of it. -/
structure Followed (size : Nat) (cs : List WriterCall) (stage : WriterStage TracedAudit) : Prop where
  sized : stage.writer.size = size
  room : stage.writer.pending.length < size
  added : cs.filterMap (·.added?) =
    (stage.store.writings.filter (·.origin ≠ .given)).flatMap (·.batch) ++ stage.writer.pending
  called : stage.store.writings.filterMap (·.call?) = cs.filter (·.asks)
  answered : stage.answers = (stage.store.writings.filter (·.origin ≠ .filled)).map (·.outcome)

variable {size : Nat} {b : AuditBooks} {cs : List WriterCall} {stage : WriterStage TracedAudit}

theorem followed_start (hsize : 0 < size) (s : MemoryAudit) (a : Ambient) :
    (start size (TracedAudit.ofStore s) a).Followed size [] :=
  ⟨rfl, hsize, rfl, rfl, rfl⟩

theorem Followed.wrote (hfollowed : stage.Followed size cs) {stage' : WriterStage TracedAudit}
    {w : Writing} {c : WriterCall} (hwritings : stage'.store.writings = stage.store.writings ++ [w])
    (hsized : stage'.writer.size = stage.writer.size) (hroom : stage'.writer.pending.length < size)
    (hadded : stage.writer.pending ++ [c].filterMap (·.added?) =
      ([w].filter (·.origin ≠ .given)).flatMap (·.batch) ++ stage'.writer.pending)
    (hcalled : [w].filterMap (·.call?) = [c].filter (·.asks))
    (hanswered : stage'.answers =
      stage.answers ++ ([w].filter (·.origin ≠ .filled)).map (·.outcome)) :
    stage'.Followed size (cs ++ [c]) := by
  constructor
  · rw [hsized, hfollowed.sized]
  · exact hroom
  · rw [List.filterMap_append, hfollowed.added, List.append_assoc, hadded, hwritings, List.filter_append,
      List.flatMap_append, List.append_assoc]
  · rw [hwritings, List.filterMap_append, hfollowed.called, hcalled, List.filter_append]
  · rw [hanswered, hfollowed.answered, hwritings, List.filter_append, List.map_append]

theorem followed_call (disturb : Nat → AuditFaults → AuditFaults) (hsize : 0 < size)
    (hbalanced : stage.store.Balanced b) (hfollowed : stage.Followed size cs) (c : WriterCall) :
    (stage.call (TracedAudit.write disturb) c).store.Balanced b ∧
      (stage.call (TracedAudit.write disturb) c).Followed size (cs ++ [c]) := by
  cases c with
  | add e =>
    by_cases hmore : stage.writer.pending.length + 1 < stage.writer.size
    · obtain ⟨hsized, hroom, hadded, hcalled, hanswered⟩ := hfollowed
      rw [call, BatchWriter.run_add_of_lt _ e _ _ hmore]
      refine ⟨hbalanced, hsized, ?_, ?_, ?_, hanswered⟩
      · simpa only [List.length_append, List.length_singleton, ← hsized] using hmore
      · rw [List.filterMap_append, hadded, List.append_assoc]
        rfl
      · rw [hcalled, List.filter_append]
        exact (List.append_nil _).symm
    · obtain ⟨a, hrun⟩ := BatchWriter.run_add_of_le (TracedAudit.write disturb .filled) e stage.store
        stage.ambient (Nat.le_of_not_lt hmore)
      obtain ⟨hafter, w, hwritings, horigin, hbatch, houtcome⟩ :=
        hbalanced.write disturb .filled (stage.writer.pending ++ [e]) stage.ambient
      rw [call, hrun]
      refine ⟨hafter, hfollowed.wrote hwritings rfl hsize ?_ ?_ ?_⟩
      · simp [horigin, hbatch, WriterCall.added?]
      · simp [Writing.call?, horigin, WriterCall.asks]
      · simp [horigin]
  | flush =>
    have hwrite := hbalanced.write disturb .flushed stage.writer.pending stage.ambient
    rcases hrun : (TracedAudit.write disturb .flushed stage.writer.pending).run stage.store stage.ambient
      with ⟨⟨outcome, store⟩, a⟩
    rw [hrun] at hwrite
    obtain ⟨hafter, w, hwritings, horigin, hbatch, houtcome⟩ := hwrite
    rw [call, BatchWriter.run_flush _ hrun]
    refine ⟨hafter, hfollowed.wrote hwritings rfl hsize ?_ ?_ ?_⟩
    · simp [horigin, hbatch, WriterCall.added?]
    · simp [Writing.call?, horigin, WriterCall.asks]
    · simp [horigin, houtcome]
  | write batch =>
    have hwrite := hbalanced.write disturb .given batch stage.ambient
    rcases hrun : (TracedAudit.write disturb .given batch).run stage.store stage.ambient
      with ⟨⟨outcome, store⟩, a⟩
    rw [hrun] at hwrite
    obtain ⟨hafter, w, hwritings, horigin, hbatch, houtcome⟩ := hwrite
    rw [call, hrun]
    refine ⟨hafter, hfollowed.wrote hwritings rfl hfollowed.room ?_ ?_ ?_⟩
    · simp [horigin, WriterCall.added?]
    · simp [Writing.call?, horigin, hbatch, WriterCall.asks]
    · simp [horigin, houtcome]

theorem followed_calls (disturb : Nat → AuditFaults → AuditFaults) (hsize : 0 < size) (s : MemoryAudit)
    (a : Ambient) (cs : List WriterCall) :
    ((start size (.ofStore s) a).calls (TracedAudit.write disturb) cs).store.Balanced s.books ∧
      ((start size (.ofStore s) a).calls (TracedAudit.write disturb) cs).Followed size cs := by
  induction cs using List.reverseRecOn with
  | nil => exact ⟨TracedAudit.balanced_ofStore s, followed_start hsize s a⟩
  | append_singleton cs c ih =>
    rw [calls, List.foldl_concat]
    exact followed_call disturb hsize ih.1 ih.2 c

/-! ### Without a store -/

section

variable {σ τ : Type} {idle : WriterStage σ}

/-- A writer that has no store answers that there was nothing to write, and leaves `s` alone. -/
structure Idle (size : Nat) (s : σ) (cs : List WriterCall) (idle : WriterStage σ) : Prop where
  sized : idle.writer.size = size
  room : idle.writer.pending.length < size
  store : idle.store = s
  answered : idle.answers = (cs.filter (·.asks)).map fun _ => .ok ⟨0, 0⟩

theorem idle_call (hsize : 0 < size) {s : σ} (hidle : idle.Idle size s cs) (c : WriterCall) :
    (idle.call (fun _ => BatchWriter.write (none : Option (AuditBackend σ τ))) c).Idle size s
      (cs ++ [c]) := by
  obtain ⟨hsized, hroom, hstore, hanswered⟩ := hidle
  cases c with
  | add e =>
    have hcs : (cs ++ [WriterCall.add e]).filter (·.asks) = cs.filter (·.asks) := by
      rw [List.filter_append]
      exact List.append_nil _
    by_cases hmore : idle.writer.pending.length + 1 < idle.writer.size
    · rw [call, BatchWriter.run_add_of_lt _ e _ _ hmore]
      refine ⟨hsized, ?_, hstore, by rw [hcs]; exact hanswered⟩
      simpa only [List.length_append, List.length_singleton, ← hsized] using hmore
    · obtain ⟨a, hrun⟩ := BatchWriter.run_add_of_le
        (BatchWriter.write (none : Option (AuditBackend σ τ))) e idle.store idle.ambient
        (Nat.le_of_not_lt hmore)
      rw [call, hrun]
      exact ⟨hsized, hsize, hstore, by rw [hcs]; exact hanswered⟩
  | flush =>
    refine ⟨hsized, hsize, hstore, ?_⟩
    rw [List.filter_append, List.map_append, ← hanswered]
    rfl
  | write batch =>
    refine ⟨hsized, hroom, hstore, ?_⟩
    rw [List.filter_append, List.map_append, ← hanswered]
    rfl

theorem idle_calls (hsize : 0 < size) (s : σ) (a : Ambient) (cs : List WriterCall) :
    ((start size s a).calls (fun _ => BatchWriter.write (none : Option (AuditBackend σ τ))) cs).Idle
      size s cs := by
  induction cs using List.reverseRecOn with
  | nil => exact ⟨rfl, hsize, rfl, rfl⟩
  | append_singleton cs c ih =>
    rw [calls, List.foldl_concat]
    exact idle_call hsize ih c

end

/-! ### With a store -/

/-- Batches are all or nothing, apart from entries that are not taken; every transaction that was opened
has been closed once; and every entry that was added is offered to one transaction at most, with fewer
pending than make a batch. -/
theorem batches_all_or_nothing (hsize : 0 < size) (s : MemoryAudit)
    (disturb : Nat → AuditFaults → AuditFaults) (cs : List WriterCall) (a : Ambient) :
    let stage := (start size (.ofStore s) a).calls (TracedAudit.write disturb) cs
    let writings := stage.store.writings
    let opened := writings.flatMap (·.openings)
    (∀ w ∈ writings, w.AllOrNothing ∧ w.InOneTransaction) ∧
      stage.store.store.committed = s.committed ++ writings.flatMap (·.kept) ∧
      (opened.Nodup ∧ writings.flatMap (·.closings) = opened ∧
        stage.store.store.starts = s.starts + opened.length ∧
        stage.store.store.commits + stage.store.store.rollbacks =
          s.commits + s.rollbacks + opened.length) ∧
      (stage.writer.pending.length < size ∧
        cs.filterMap (·.added?) =
          (writings.filter (·.origin ≠ .given)).flatMap (·.batch) ++ stage.writer.pending ∧
        writings.filterMap (·.call?) = cs.filter (·.asks) ∧
        stage.answers = (writings.filter (·.origin ≠ .filled)).map (·.outcome)) ∧
      (start size s a).calls (fun _ => BatchWriter.write (some MemoryAudit.backend)) cs =
        ((start size (.ofStore s) a).calls (TracedAudit.write TracedAudit.undisturbed) cs).map (·.store) ∧
      ((start size s a).calls
        (fun _ => BatchWriter.write (none : Option (AuditBackend MemoryAudit StagedEntries))) cs).Idle
          size s cs := by
  obtain ⟨hbalanced, hfollowed⟩ := followed_calls disturb hsize s a cs
  refine ⟨fun w hw => ?_, hbalanced.committed, ?_, ?_, ?_, idle_calls hsize s a cs⟩
  · exact ⟨(hbalanced.fared w hw).allOrNothing, (hbalanced.fared w hw).inOneTransaction⟩
  · exact ⟨hbalanced.nodup, hbalanced.closings, hbalanced.starts, hbalanced.ended⟩
  · exact ⟨hfollowed.room, hfollowed.added, hfollowed.called, hfollowed.answered⟩
  · exact map_calls TracedAudit.erases_write (start size (.ofStore s) a) cs

def plainEntry (request : String) : AuditEntry where
  id := ⟨"audit_" ++ request⟩
  request := ⟨request⟩
  timestamp := ⟨0, 0⟩
  actor := ⟨"7", "alice@example.com", "analyst"⟩
  client := none
  tenant := ⟨"acme"⟩
  requestKind := "query"
  queryHash := ""
  verdict := .allowed
  details := none
  usage := none
  sample := none
  redacted := []
  errorMessage := none
  flags := []
  security := none

/-- The second batch to be written fails to be committed. -/
def failingOnce (operation : Nat) (f : AuditFaults) : AuditFaults := { f with commit := operation == 8 }

/-- A batch of two that becomes full, a flush, a batch that is given, and an entry that stays pending. -/
def mixedCalls : List WriterCall := [.add (plainEntry "r1"), .add (plainEntry "r2"), .add (plainEntry "r3"),
  .flush, .write [plainEntry "r4", plainEntry "r2", plainEntry "r5"], .add (plainEntry "r6")]

/-- A store that does not take entries of the second request. -/
def pickyStore : MemoryAudit := MemoryAudit.empty.reject "r2"

/-- The stage after the calls. -/
def mixedStage : WriterStage TracedAudit :=
  (start 2 (.ofStore pickyStore) .initial).calls (TracedAudit.write failingOnce) mixedCalls

theorem mixedStage_all_or_nothing : 0 < 2 ∧
    mixedStage.answers = [.error (.transaction
      "failed to commit audit batch: audit transaction failed: commit refused"), .ok ⟨2, 1⟩] ∧
    mixedStage.store.store.committed = ["r1", "r4", "r5"].map plainEntry ∧
    mixedStage.writer.pending = [plainEntry "r6"] ∧
    mixedStage.store.store.starts =
      mixedStage.store.store.commits + mixedStage.store.store.rollbacks := by
  obtain ⟨-, -, ⟨-, -, hstarts, hended⟩, -⟩ :=
    batches_all_or_nothing (Nat.zero_lt_two) pickyStore failingOnce mixedCalls .initial
  refine ⟨Nat.zero_lt_two, rfl, rfl, rfl, ?_⟩
  exact hstarts.trans hended.symm

end WriterStage

end Governance
