import Kippu.Derived.Reader

/-!
# Exactly-once reading

Whatever the batches, the readers and the failures, the committed copy is the fold
of the projections over the records before `next_sequence`. The invariant is that
of the committed store; a batch keeps it because the cursor's row is locked from
its first statement on, so that nobody else commits meanwhile.
-/

namespace Kippu.Derived

open Conc Conc.Prog

variable {C E : Type} {log : LogReader} {projections : List (Projection C E)} {init : C}

-- ---------------------------------------------------------------------------
-- The invariant
-- ---------------------------------------------------------------------------

/-- `derived_log` and the projections' tables, once the first `n` records are applied. -/
structure Copied (log : LogReader) (projections : List (Projection C E)) (init : C) (n : ℕ)
    (db : ReaderDb C) : Prop where
  le : n ≤ log.records.length
  ids : db.log.ids = Finset.range n
  rows : ∀ i < n, db.log.get i = (log.records[i]?).map LogRecord.row
  fold : project projections 0 init (log.records.take n) = .ok db.copy

def LogReader.cursorAt (log : LogReader) (n : ℕ) : Cursor :=
  ((log.records.take n).getLast?.map LogRecord.cursor).getD LOG_START

structure ReadTo (log : LogReader) (projections : List (Projection C E)) (init : C)
    (db : ReaderDb C) : Prop where
  copied : Copied log projections init db.nextSequence db
  cursor : db.cursor = log.cursorAt db.nextSequence

theorem readTo_migrated : ReadTo log projections init (.migrated init) where
  copied := ⟨Nat.zero_le _, rfl, fun i hi => absurd hi (Nat.not_lt_zero i), rfl⟩
  cursor := rfl

theorem LogReader.continuation_cursorAt (log : LogReader) (h : n ≤ log.records.length) :
    log.continuation (log.cursorAt n) = log.records.drop n := by
  cases n with
  | zero => simpa [cursorAt] using log.start
  | succ n =>
    have hn : n < log.records.length := h
    have hlast : (log.records.take (n + 1)).getLast? = some log.records[n] := by
      rw [List.getLast?_take]
      simp [hn]
    simp only [cursorAt, hlast, Option.map_some, Option.getD_some]
    exact log.after n _ (List.getElem?_eq_getElem hn)

theorem LogReader.cursor_inj (log : LogReader) {i j : ℕ} {r r' : LogRecord}
    (hi : log.records[i]? = some r)
    (hj : log.records[j]? = some r') (h : r.cursor = r'.cursor) : i = j := by
  have hsame := log.after i r hi
  rw [h, log.after j r' hj] at hsame
  have hlen := congrArg List.length hsame
  have hil := (List.getElem?_eq_some_iff.mp hi).1
  have hjl := (List.getElem?_eq_some_iff.mp hj).1
  simp only [List.length_drop] at hlen
  omega

-- ---------------------------------------------------------------------------
-- The protocol
-- ---------------------------------------------------------------------------

/-- A reader commits only while it holds the cursor's row. -/
def readProtocol (log : LogReader) (projections : List (Projection C E)) (init : C) :
    Protocol (ReaderDb C) LogReader ReaderKey LogCall where
  Inv d := d.env = log ∧ ReadTo log projections init d.db
  Act _ K _ _ := .readerRow ∈ K
  Move _ _ := False
  Fresh _ _ := True
  Allow _ _ _ _ _ _ := True
  fresh_act _ _ _ _ _ := trivial
  fresh_move _ _ _ _ := trivial

/-- While a reader holds the cursor's row, nothing committed changes. -/
theorem eq_of_rely (hK : .readerRow ∈ K)
    (h : (readProtocol log projections init).Rely p K d d') : d' = d := by
  refine h.keep (P := fun x => x = d) ?_ rfl
  rintro a b - - (⟨q, K', -, hapart, hact⟩ | hmove) -
  · exact absurd hact (hapart _ hK)
  · exact hmove.elim

-- ---------------------------------------------------------------------------
-- One record
-- ---------------------------------------------------------------------------

variable {p : Pid} {d d₀ : Shared (ReaderDb C) LogReader} {ks : List ReaderKey}
variable {u : ReaderDb C → ReaderDb C}

/-- A point of a batch: the cursor's row is locked, and what was committed when it was is
still so. -/
structure Locked (d₀ : Shared (ReaderDb C) LogReader) (ks : List ReaderKey)
    (d : Shared (ReaderDb C) LogReader) : Prop where
  held : .readerRow ∈ ks
  same : d = d₀

theorem Locked.rely (h : Locked d₀ ks d)
    (hr : (readProtocol log projections init).Rely p (ks ++ rest) d d') :
    Locked d₀ ks d' :=
  ⟨h.held, (eq_of_rely (List.mem_append_left _ h.held) hr).trans h.same⟩

abbrev InBatch (log : LogReader) (projections : List (Projection C E)) (init : C) (p : Pid)
    (m : ReaderProg C E α) (Q : α → List ReaderKey → (ReaderDb C → ReaderDb C) →
      Shared (ReaderDb C) LogReader → Prop) :=
  Within (readProtocol log projections init) p [] m (okOnly Q)

structure AppliedTo (log : LogReader) (projections : List (Projection C E)) (init : C)
    (d₀ : Shared (ReaderDb C) LogReader) (n : ℕ) (ks : List ReaderKey)
    (u : ReaderDb C → ReaderDb C) (d : Shared (ReaderDb C) LogReader) : Prop where
  locked : Locked d₀ ks d
  copied : Copied log projections init n (u d₀.db)

theorem recordApplied_spec (h : AppliedTo log projections init d₀ n ks u d)
    (record : LogRecord) :
    InBatch log projections init p (recordApplied n record) (fun _ ks u' d =>
      Locked d₀ ks d ∧ u' d₀.db = { u d₀.db with log := (u d₀.db).log.set n record.row }) ks u d := by
  refine Within.bind (Within.read fun d₁ hr₁ _ => ?_)
  have h₁ := h.locked.rely hr₁
  dsimp only
  split
  · exact Within.raise trivial
  · refine Within.write fun d₂ hr₂ _ => ⟨h₁.rely hr₂, rfl⟩

/-- What statements between two of a batch, if they end, answer and leave of the copy. -/
def Performs (log : LogReader) (projections : List (Projection C E)) (init : C)
    (m : ReaderProg C E α) (R : C → α → C → Prop) : Prop :=
  ∀ ⦃p d₀ ks u d⦄, Locked d₀ ks d → InBatch log projections init p m (fun a ks u' d =>
    Locked d₀ ks d ∧ ∃ c, R (u d₀.db).copy a c ∧ u' d₀.db = { u d₀.db with copy := c }) ks u d

theorem applyProjection_performs (n : ℕ) (record : LogRecord) (projection : Projection C E) :
    Performs log projections init (applyProjection n record projection)
      (fun c _ c' => projection n record c = .ok c') := by
  intro p d₀ ks u d h
  refine Within.bind (Within.read fun d₁ hr₁ _ => ?_)
  have h₁ := h.rely hr₁
  dsimp only
  rw [h.same]
  split
  · rename_i c hc
    exact Within.write fun d₂ hr₂ _ => ⟨h₁.rely hr₂, c, hc, rfl⟩
  · exact Within.raise trivial

theorem applyInOrder_performs (rest : List (Projection C E)) (n : ℕ) (record : LogRecord) :
    Performs log projections init (applyInOrder rest n record)
      (fun c _ c' => applyAll n record c rest = .ok c') := by
  intro p d₀ ks u d h
  refine Within.forEach (fun left ks' u' d' => Locked d₀ ks' d' ∧ ∃ c,
    applyAll n record (u d₀.db).copy rest = applyAll n record c left ∧
      u' d₀.db = { u d₀.db with copy := c }) ?_ ?_ ⟨h, _, rfl, rfl⟩
  · rintro projection left ks' u' d' ⟨h', c, hfold, hu⟩
    refine (applyProjection_performs n record projection h').mono ?_
    rintro (e | ⟨⟩) ks'' u'' d''
    · exact id
    · rintro ⟨h'', c', hc', hu'⟩
      rw [hu] at hc' hu'
      refine ⟨h'', c', ?_, hu'⟩
      rw [hfold, applyAll, hc']
      rfl
  · rintro ks' u' d' ⟨h', c, hfold, hu⟩
    exact ⟨h', c, hfold, hu⟩

theorem Copied.succ (h : Copied log projections init n db) (hrecord : log.records[n]? = some record)
    (hfold : applyAll n record db.copy projections = .ok c) :
    Copied log projections init (n + 1)
      { db with log := db.log.set n record.row, copy := c } where
  le := (List.getElem?_eq_some_iff.mp hrecord).1
  ids := by
    have hids : (db.log.set n record.row).ids = insert n db.log.ids := rfl
    rw [hids, h.ids, Finset.range_add_one]
  rows i hi := by
    by_cases hin : i = n
    · subst hin
      simp [hrecord]
    · rw [Table.get_set_ne _ hin]
      exact h.rows i (by omega)
  fold := by
    obtain ⟨hn, hget⟩ := List.getElem?_eq_some_iff.mp hrecord
    rw [List.take_add_one, hrecord, project_append, h.fold]
    have hlen : (log.records.take n).length = n := by simp; omega
    simp only [Except.bind, Option.toList_some, hlen, Nat.zero_add, project_singleton, hfold]

def AppliesAll (log : LogReader) (projections : List (Projection C E)) (init : C)
    (apply : ℕ → LogRecord → ReaderProg C E Unit) : Prop :=
  ∀ n record, Performs log projections init (apply n record)
    (fun c _ c' => applyAll n record c projections = .ok c')

variable {apply : ℕ → LogRecord → ReaderProg C E Unit}

theorem applyRecord_spec (happly : AppliesAll log projections init apply)
    (h : AppliedTo log projections init d₀ n ks u d) (hrecord : log.records[n]? = some record) :
    InBatch log projections init p (applyRecordOf apply n record) (fun n' ks u' d =>
      n' = n + 1 ∧ AppliedTo log projections init d₀ (n + 1) ks u' d ∧
        (u' d₀.db).cursor = (u d₀.db).cursor ∧
        (u' d₀.db).nextSequence = (u d₀.db).nextSequence) ks u d := by
  refine Within.bind ((recordApplied_spec h record).mono ?_)
  rintro (e | ⟨⟩) ks₁ u₁ d₁
  · exact fun _ => trivial
  rintro ⟨h₁, hu₁⟩
  refine Within.bind ((happly n record h₁).mono ?_)
  rintro (e | ⟨⟩) ks₂ u₂ d₂
  · exact fun _ => trivial
  rintro ⟨h₂, c, hfold, hu₂⟩
  rw [hu₁] at hfold hu₂
  refine Within.pure ⟨rfl, ⟨h₂, ?_⟩, by rw [hu₂], by rw [hu₂]⟩
  rw [hu₂]
  exact h.copied.succ hrecord hfold

-- ---------------------------------------------------------------------------
-- One batch
-- ---------------------------------------------------------------------------

theorem Copied.of_eq (h : Copied log projections init n db) (hlog : db'.log = db.log)
    (hcopy : db'.copy = db.copy) : Copied log projections init n db' :=
  ⟨h.le, hlog ▸ h.ids, hlog ▸ h.rows, hcopy ▸ h.fold⟩

theorem LogReader.cursorAt_add (log : LogReader) {page : List LogRecord} (hne : page ≠ [])
    (h : log.records.drop n = page ++ rest) :
    log.cursorAt (n + page.length) = (page.getLast?.map LogRecord.cursor).getD c := by
  have htake : log.records.take (n + page.length) = log.records.take n ++ page := by
    rw [List.take_add, h, List.take_left' rfl]
  obtain ⟨last, hlast⟩ := Option.isSome_iff_exists.mp (List.getLast?_isSome.mpr hne)
  simp [cursorAt, htake, List.getLast?_append, hlast]

theorem applyBatch_spec (happly : AppliesAll log projections init apply) :
    InBatch log projections init p (applyBatchOf apply batchSize) (fun batch ks u d =>
      (readProtocol log projections init).Inv d ∧ (batch.records ≠ [] →
        .readerRow ∈ ks ∧ ReadTo log projections init (u d.db))) ks id d := by
  refine Within.bind (Within.bind (Within.lock fun ks₀ d₀ hheld _ _ hi₀ => ?_))
  have hlocked : Locked d₀ ks₀ d₀ := ⟨hheld, rfl⟩
  refine Within.read fun d₁ hr₁ _ => ?_
  have h₁ := hlocked.rely hr₁
  obtain ⟨henv, hread⟩ := hi₀
  have hnext := log.continuation_cursorAt hread.copied.le
  refine Within.bind (Within.ask (fun c => ?_) fun c d₂ _ hr₂ _ => ?_)
  · simp only [Outside.run]
    split <;> rfl
  have h₂ := h₁.rely hr₂
  simp only [Outside.run]
  split
  · dsimp only
    split
    · exact Within.raise trivial
    · rename_i hcontract
      split
      · refine Within.pure ⟨?_, fun hne => absurd rfl hne⟩
        rw [h₂.same]
        exact ⟨henv, hread⟩
      · rename_i hne
        rw [h₁.same, henv, id, hread.cursor, hnext] at hcontract hne ⊢
        generalize hpages : (log.records.drop d₀.db.nextSequence).length + 1 = pages
          at hcontract hne ⊢
        generalize hrecords : (log.records.drop d₀.db.nextSequence).take (c.value % pages) = records
          at hcontract hne ⊢
        have hsplit : log.records.drop d₀.db.nextSequence = records ++
            (log.records.drop d₀.db.nextSequence).drop (c.value % pages) := by
          rw [← hrecords, List.take_append_drop]
        have hcursor : c.value / pages = log.cursorAt (d₀.db.nextSequence + records.length) := by
          simp only [contractError] at hcontract
          split at hcontract
          · cases hcontract
          · split at hcontract
            · cases hcontract
            · rename_i hlast
              rw [log.cursorAt_add hne hsplit]
              exact not_not.mp hlast
        refine Within.bind ((Within.foldEach (fun left n ks u d =>
          AppliedTo log projections init d₀ n ks u d ∧
            n + left.length = d₀.db.nextSequence + records.length ∧
            ∃ rest, log.records.drop n = left ++ rest) (Q := okOnly fun n ks u d =>
              n = d₀.db.nextSequence + records.length ∧ AppliedTo log projections init d₀ n ks u d)
          ?_ ?_ ?_).mono ?_)
        · rintro record left n ks u d ⟨happlied, hlen, rest, hdrop⟩
          have hrecord : log.records[n]? = some record := by
            have hhead := congrArg List.head? hdrop
            simpa [List.head?_drop] using hhead
          refine (applyRecord_spec happly happlied hrecord).mono ?_
          rintro (e | n') ks' u' d'
          · exact fun _ => trivial
          rintro ⟨rfl, happlied', -⟩
          refine ⟨happlied', by simp at hlen; omega, rest, ?_⟩
          rw [← List.drop_drop, hdrop]
          rfl
        · rintro n ks u d ⟨happlied, hlen, -⟩
          exact ⟨by simpa using hlen, happlied⟩
        · exact ⟨⟨h₂, hread.copied⟩, rfl, _, hsplit⟩
        · rintro (e | n) ks u d
          · exact fun _ => trivial
          rintro ⟨rfl, happlied⟩
          refine Within.bind (Within.write fun d₃ hr₃ _ => ?_)
          have h₃ := happlied.locked.rely hr₃
          refine Within.bind (Within.write fun d₄ hr₄ _ => ?_)
          have h₄ := h₃.rely hr₄
          refine Within.pure ⟨?_, fun _ => ⟨h₄.held, ?_⟩⟩
          · rw [h₄.same]
            exact ⟨henv, hread⟩
          · rw [h₄.same]
            exact ⟨happlied.copied.of_eq rfl rfl, hcursor⟩
  · trivial

theorem finish_spec {r : Except (ReaderError E) AppliedBatch}
    (hi : (readProtocol log projections init).Inv d) :
    wp (readProtocol log projections init) p (finish r : ReaderProg C E AppliedBatch)
      (fun _ _ _ => True) (⟨ks, v⟩ :: []) d := by
  cases r with
  | ok batch => exact wp_bind.mpr (wp_release hi fun _ _ _ => trivial)
  | error e =>
    refine wp_bind.mpr (wp_attempt.mpr (wp_rollback hi fun d₁ _ _ hi₁ => ?_))
    exact wp_bind.mpr (wp_release hi₁ fun _ _ _ => trivial)

theorem step_spec (happly : AppliesAll log projections init apply)
    (hi : (readProtocol log projections init).Inv d) :
    wp (readProtocol log projections init) p (stepOf apply batchSize) (fun _ _ _ => True) [] d := by
  rw [stepOf, wp_bind]
  refine wp_connect hi fun d₁ _ hi₁ => ⟨?_, trivial⟩
  refine wp_bind.mpr (wp_attempt.mpr (wp_bind.mpr ?_))
  refine wp_begin hi₁ fun d₂ _ hi₂ => ⟨?_, finish_spec hi₂⟩
  refine wp_bind.mpr (wp_mono _ ?_ (applyBatch_spec happly hi₂))
  rintro (e | batch) _ d₃ ⟨ks, u, rfl, hi₃, hpost⟩
  · exact finish_spec hi₃
  obtain ⟨-, hbatch⟩ := hpost
  refine wp_bind.mpr ?_
  rw [endBatch]
  split
  · exact wp_rollback hi₃ fun d₄ r _ hi₄ => by cases r <;> exact finish_spec hi₄
  · rename_i hne
    obtain ⟨hheld, hread⟩ := hbatch hne
    refine wp_commit ⟨.inr (List.mem_append_left _ hheld), hi₃.1, hread⟩ hi₃ ?_ ?_
    · exact fun d₄ _ hi₄ => ⟨finish_spec hi₄, finish_spec hi₄⟩
    · exact fun d₄ _ hi₄ => finish_spec hi₄

-- ---------------------------------------------------------------------------
-- Every run
-- ---------------------------------------------------------------------------

theorem readers_sound (happly : AppliesAll log projections init apply) :
    Sound (S := readersOf apply) (readProtocol log projections init) AnyStep
      (fun _ _ _ _ => True) where
  spec _ _ _ hi _ := step_spec happly hi
  occur _ e := e.elim
  allow _ _ _ _ _ _ _ _ := trivial

theorem readTo_reached (happly : AppliesAll log projections init apply)
    {c c' : Config (readersOf apply)} (hinit : Initial (fun d => d = ⟨.migrated init, log⟩) c)
    (hsteps : Steps AnyStep c c') : ReadTo log projections init c'.world.db := by
  have hstart : Initial (readProtocol log projections init).Inv c := by
    refine ⟨?_, hinit.sessions, hinit.procs, hinit.reqs⟩
    rw [hinit.data]
    exact ⟨rfl, readTo_migrated⟩
  exact ((hstart.good fun _ => trivial).steps (readers_sound happly) hsteps).inv.2

/-- In every state that any readers of one store reach, whatever their batch sizes and whatever
failed or stopped: the copy is the fold of the projections over the first `next_sequence` records,
`derived_log` has exactly those records by their sequences, the cursor is the last one's, and a
record the projections cannot apply has not been passed. -/
theorem copy_is_fold (log : LogReader) (projections : List (Projection C E)) (init : C)
    (c c' : Config (readers projections))
    (hinit : Initial (fun d => d = ⟨.migrated init, log⟩) c) (hsteps : Steps AnyStep c c') :
    let db := c'.world.db
    db.nextSequence ≤ log.records.length ∧
      project projections 0 init (log.records.take db.nextSequence) = .ok db.copy ∧
      db.log.ids = Finset.range db.nextSequence ∧
      (∀ n < db.nextSequence, db.log.get n = (log.records[n]?).map LogRecord.row) ∧
      db.cursor = log.cursorAt db.nextSequence ∧
      ∀ n e, project projections 0 init (log.records.take n) = .error e → db.nextSequence < n := by
  have hread := readTo_reached (applyInOrder_performs projections) hinit hsteps
  refine ⟨hread.copied.le, hread.copied.fold, hread.copied.ids, hread.copied.rows, hread.cursor, ?_⟩
  intro n e herror
  by_contra hpassed
  -- The copy would be the fold of a log whose start cannot be applied.
  have hstart : log.records.take c'.world.db.nextSequence = log.records.take n ++
      (log.records.drop n).take (c'.world.db.nextSequence - n) := by
    rw [← List.take_add]
    congr 1
    omega
  have hfold := hread.copied.fold
  rw [hstart, project_error herror] at hfold
  cases hfold

def twoRecords : LogReader where
  records := [⟨1, 10, some (1, 0), none, .other⟩, ⟨2, 20, some (1, 1), none, .other⟩]
  continuation c := match c with
    | 0 => [⟨1, 10, some (1, 0), none, .other⟩, ⟨2, 20, some (1, 1), none, .other⟩]
    | 1 => [⟨2, 20, some (1, 1), none, .other⟩]
    | _ => []
  start := rfl
  after n record h := by
    match n with
    | 0 => cases h; rfl
    | 1 => cases h; rfl
    | _ + 2 => simp at h

def countRecords : Projection ℕ Empty := fun _ _ count => .ok (count + 1)

def migrated : Config (readers [countRecords]) where
  world := ⟨⟨.migrated 0, twoRecords⟩, fun _ => [], 2, 0⟩
  procs _ := none
  reqs _ := none

/-- A reader applies the first record, and a second one stops once it has read the cursor. -/
def oneBatch : List (Label (readers [countRecords])) :=
  [.start ⟨1, Nat.one_pos⟩, .step 0 .ok, .step 0 .ok, .step 0 .ok, .step 0 (.order []),
   .step 0 (.reply ⟨true, true, 1 * 3 + 1⟩), .step 0 (.order []), .step 0 .ok,
   .step 0 (.order []), .step 0 .ok, .step 0 .ok, .step 0 .ok, .step 0 .ok, .step 0 .ok,
   .start ⟨2, Nat.two_pos⟩, .step 1 .ok, .step 1 .ok, .step 1 .ok, .step 1 (.order []), .crash 1]

theorem run_oneBatch : (run migrated oneBatch).isSome := by decide

def oneBatchApplied : Config (readers [countRecords]) := (run migrated oneBatch).get run_oneBatch

theorem copy_is_fold_one_batch :
    oneBatchApplied.world.db.nextSequence = 1 ∧
      project [countRecords] 0 0 (twoRecords.records.take 1) =
        .ok oneBatchApplied.world.db.copy := by
  have hread := copy_is_fold twoRecords [countRecords] 0 migrated oneBatchApplied
    ⟨rfl, fun _ => rfl, fun _ => rfl, fun _ => rfl⟩
    (Steps.of_run (Option.some_get run_oneBatch).symm)
  have hone : oneBatchApplied.world.db.nextSequence = 1 := by decide
  exact ⟨hone, hone ▸ hread.2.1⟩

end Kippu.Derived
