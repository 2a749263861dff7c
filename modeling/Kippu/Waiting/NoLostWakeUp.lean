import Kippu.Derived.AsOf
import Kippu.Waiting.Runs

/-!
# No lost wake-up

A waiter that is told its record is reached reads it ever after, and one that is
told it is not had no time left. A waiter registers before it asks the store: a
batch that commits in between still wakes it, as long as the connection that was
listening is not lost.
-/

namespace Kippu.Waiting

open Derived

variable {log : LogReader} {services : Services} {s s' : State} {db db' : ReaderDb Copy}
  {p : Call} {cursor : Cursor}

-- ---------------------------------------------------------------------------
-- Records reached
-- ---------------------------------------------------------------------------

def Within (log : LogReader) (cursor : Cursor) (n : ℕ) : Prop :=
  ∃ i record, log.records[i]? = some record ∧ record.cursor = cursor ∧ i < n

theorem Within.mono (h : Within log cursor n) (hle : n ≤ m) : Within log cursor m := by
  obtain ⟨i, record, hi, hcursor, hlt⟩ := h
  exact ⟨i, record, hi, hcursor, hlt.trans_le hle⟩

theorem reached_iff (h : ReadTo log [ledgerFacts services] .empty db) :
    reached db cursor = true ↔ Within log cursor db.nextSequence := by
  rw [reached, Conc.Table.any_iff]
  constructor
  · rintro ⟨i, row, hget, hcursor⟩
    have hi : i < db.nextSequence := by
      have hmem := (db.log.mem_ids i).mpr (Option.isSome_of_eq_some hget)
      rwa [h.copied.ids, Finset.mem_range] at hmem
    rw [h.copied.rows i hi, Option.map_eq_some_iff] at hget
    obtain ⟨record, hrecord, rfl⟩ := hget
    exact ⟨i, record, hrecord, of_decide_eq_true hcursor, hi⟩
  · rintro ⟨i, record, hrecord, hcursor, hi⟩
    refine ⟨i, record.row, ?_, decide_eq_true hcursor⟩
    rw [h.copied.rows i hi, hrecord]
    rfl

-- ---------------------------------------------------------------------------
-- The invariant
-- ---------------------------------------------------------------------------

/-- A registered waiter that was told its record was not there: once it is, a notification is on
its way, or the waiter is woken. -/
structure Listens (log : LogReader) (s : State) (r : Registered) : Prop where
  hears : r.heard = true → s.connection.hears = true
  wakes : r.heard = true → r.woken = false → Within log r.wait.cursor s.db.nextSequence →
    0 < s.connection.pending

inductive Ok (log : LogReader) (s : State) : Waiter → Prop
  | idle : Ok log s .idle
  | opens {wait : Wait} {id : ℕ} : Ok log s (.opens wait id)
  | checking {r : Registered} : (r.heard = true → s.connection.hears = true) →
      Ok log s (.checking r)
  | found {r : Registered} : Within log r.wait.cursor s.db.nextSequence → Ok log s (.checked r true)
  | missing {r : Registered} : Listens log s r → Ok log s (.checked r false)
  | parked {r : Registered} : Listens log s r → Ok log s (.parked r)
  | reached {wait : Wait} :
      wait.cursor = LOG_START ∨ Within log wait.cursor s.db.nextSequence →
      Ok log s (.waited wait true)
  | late {wait : Wait} : s.closed = true ∨ wait.deadline ≤ s.now → Ok log s (.waited wait false)
  | reads {wait : Wait} {freshness : CopyFreshness} : freshness.records ≤ s.db.nextSequence →
      wait.cursor = LOG_START ∨ Within log wait.cursor freshness.records →
      Ok log s (.answered wait true freshness)
  | gaveUp {wait : Wait} {freshness : CopyFreshness} :
      s.closed = true ∨ wait.deadline ≤ s.now → Ok log s (.answered wait false freshness)
  | failed : Ok log s .failed

structure Inv (log : LogReader) (services : Services) (s : State) : Prop where
  db : ReadTo log [ledgerFacts services] .empty s.db
  waiters : ∀ p, Ok log s (s.waiter p)

theorem State.Initial.inv (h : s.Initial log services) : Inv log services s where
  db := h.db
  waiters p := h.waiter p ▸ .idle

-- ---------------------------------------------------------------------------
-- Steps of the store, the clock and the connection
-- ---------------------------------------------------------------------------

variable {w : Waiter} {r : Registered}

@[simp] theorem hears_notify (c : Connection) : c.notify.hears = c.hears := by cases c <;> rfl

theorem pending_notify {c : Connection} (h : c.hears = true) : 0 < c.notify.pending := by
  cases c with
  | none | opening => cases h
  | listening id pending => exact Nat.succ_pos pending

/-- What a waiter was told stays so, as the copy and the clock go on, whatever becomes of the
connection. -/
theorem Ok.change (f : Registered → Registered) (h : Ok log s w)
    (hdb : s.db.nextSequence ≤ s'.db.nextSequence) (hclosed : s.closed = true → s'.closed = true)
    (hnow : s.now ≤ s'.now) (hwait : ∀ r, (f r).wait = r.wait)
    (hhears : ∀ r, (r.heard = true → s.connection.hears = true) → (f r).heard = true →
      s'.connection.hears = true)
    (hlistens : ∀ r, Listens log s r → Listens log s' (f r)) : Ok log s' (w.change f) := by
  have hlate : ∀ {wait : Wait}, s.closed = true ∨ wait.deadline ≤ s.now →
      s'.closed = true ∨ wait.deadline ≤ s'.now := fun h => h.imp hclosed (·.trans hnow)
  cases h with
  | idle => exact .idle
  | opens => exact .opens
  | checking h => exact .checking (hhears _ h)
  | found h => exact .found (by rw [hwait]; exact h.mono hdb)
  | missing h => exact .missing (hlistens _ h)
  | parked h => exact .parked (hlistens _ h)
  | reached h => exact .reached (h.imp_right (·.mono hdb))
  | late h => exact .late (hlate h)
  | reads hle h => exact .reads (hle.trans hdb) h
  | gaveUp h => exact .gaveUp (hlate h)
  | failed => exact .failed

theorem change_id (w : Waiter) : w.change id = w := by cases w <;> rfl

theorem Ok.commit (h : Ok log s w) (hle : s.db.nextSequence ≤ db.nextSequence) :
    Ok log { s with db := db, connection := s.connection.notify } w := by
  rw [← change_id w]
  refine h.change id hle id le_rfl (fun _ => rfl) (fun r hr hheard => ?_) fun r hr => ⟨?_, ?_⟩
  · exact (hears_notify _).trans (hr hheard)
  · exact fun hheard => (hears_notify _).trans (hr.hears hheard)
  · exact fun hheard _ _ => pending_notify (hr.hears hheard)

/-- `wakeAll`: the promise of every registered waiter is resolved. -/
theorem Ok.wake (h : Ok log s w) (hdb : s'.db = s.db) (hclosed : s'.closed = s.closed)
    (hnow : s'.now = s.now) (hhears : s.connection.hears = true → s'.connection.hears = true) :
    Ok log s' (w.change .wake) := by
  refine h.change .wake (by rw [hdb]) (fun h => hclosed.trans h) hnow.ge (fun _ => rfl)
    (fun r hr hheard => ?_) fun r hr => ⟨fun hheard => hhears (hr.hears hheard), fun _ hw => ?_⟩
  · exact hhears (hr hheard)
  · cases hw

theorem Ok.unhear (h : Ok log s w) (hdb : s'.db = s.db)
    (hclosed : s.closed = true → s'.closed = true) (hnow : s'.now = s.now) :
    Ok log s' (w.change .unhear) := by
  refine h.change .unhear (by rw [hdb]) hclosed hnow.ge (fun _ => rfl) (fun _ _ hheard => ?_)
    fun _ _ => ⟨fun hheard => ?_, fun hheard => ?_⟩
  all_goals cases hheard

theorem Ok.connect (h : Ok log s w) (hnone : s.connection.hears = false) (hdb : s'.db = s.db)
    (hclosed : s'.closed = s.closed) (hnow : s'.now = s.now) : Ok log s' w := by
  rw [← change_id w]
  have hheard : ∀ {P : Prop}, s.connection.hears = true → P := fun hr => by
    rw [hnone] at hr
    cases hr
  exact h.change id (by rw [hdb]) (fun h => hclosed.trans h) hnow.ge (fun _ => rfl)
    (fun r hr hs => hheard (hr hs)) fun r hr =>
      ⟨fun hs => hheard (hr.hears hs), fun hs => hheard (hr.hears hs)⟩

-- ---------------------------------------------------------------------------
-- Steps of a waiter
-- ---------------------------------------------------------------------------

theorem Ok.waiters (h : Ok log s w) {waiter : Call → Waiter} :
    Ok log { s with waiter := waiter } w := by
  rw [← change_id w]
  exact h.change id le_rfl id le_rfl (fun _ => rfl) (fun _ hr => hr)
    fun _ hr => ⟨hr.hears, hr.wakes⟩

theorem Inv.set (hi : Inv log services s) (hw : Ok log s w) : Inv log services (s.set p w) where
  db := hi.db
  waiters q := by
    by_cases hq : q = p
    · subst hq
      simpa [State.set] using hw.waiters
    · simpa [State.set, hq] using (hi.waiters q).waiters

theorem Inv.register (hi : Inv log services s) : Inv log services (s.register p wait) :=
  hi.set (.checking id)

theorem Inv.listen (hi : Inv log services s) : Inv log services (s.listen p wait) := by
  unfold State.listen
  split
  · rename_i hnone
    have hset : Inv log services (s.set p (.opens wait s.opened)) := hi.set .opens
    exact ⟨hset.db, fun q => (hset.waiters q).connect (by simp [State.set, hnone]; rfl) rfl rfl rfl⟩
  · exact hi.set .opens
  · exact hi.set .opens

theorem Inv.at (hi : Inv log services s) (h : s.waiter p = w) : Ok log s w := h ▸ hi.waiters p

theorem Inv.step (hi : Inv log services s) (h : Step log services s s') :
    Inv log services s' := by
  cases h with
  | commit db hread hlt => exact ⟨hread, fun p => (hi.waiters p).commit hlt.le⟩
  | tick now hnow =>
    refine ⟨hi.db, fun p => ?_⟩
    rw [← change_id (s.waiter p)]
    exact (hi.waiters p).change id le_rfl id hnow (fun _ => rfl) (fun _ hr => hr)
      fun _ hr => ⟨hr.hears, hr.wakes⟩
  | listened hc =>
    exact ⟨hi.db, fun p => (hi.waiters p).connect (by rw [hc]; rfl) rfl rfl rfl⟩
  | notified hc =>
    exact ⟨hi.db, fun p => (hi.waiters p).wake rfl rfl rfl fun _ => rfl⟩
  | lost => exact ⟨hi.db, fun p => (hi.waiters p).unhear rfl id rfl⟩
  | start _ _ hstart => exact hi.set (.reached (.inl hstart))
  | waits => exact hi.listen
  | refused => exact hi.set .failed
  | registers => exact hi.register
  | @checks p r hw =>
    cases hreached : reached s.db r.wait.cursor with
    | true => exact hi.set (.found ((reached_iff hi.db).mp hreached))
    | false =>
      cases hi.at hw with
      | checking hhears =>
        refine hi.set (.missing ⟨hhears, fun _ _ hwithin => ?_⟩)
        rw [(reached_iff hi.db).mpr hwithin] at hreached
        cases hreached
  | fails => exact hi.set .failed
  | found hw =>
    cases hi.at hw with
    | found h => exact hi.set (.reached (.inr h))
  | gives hw hlate => exact hi.set (.late hlate)
  | parks hw =>
    cases hi.at hw with
    | missing h => exact hi.set (.parked h)
  | wakes => exact hi.register
  | polls => exact hi.register
  | reads hw =>
    cases hi.at hw with
    | reached h => exact hi.set (.reads le_rfl h)
    | late h => exact hi.set (.gaveUp h)
  | closes =>
    have hwoken : ∀ p, Ok log s.wakeAll (s.wakeAll.waiter p) := fun p =>
      (hi.waiters p).wake rfl rfl rfl id
    exact ⟨hi.db, fun p => (hwoken p).unhear rfl (fun _ => rfl) rfl⟩

theorem Inv.steps (hi : Inv log services s) (h : Steps log services s s') :
    Inv log services s' := by
  induction h with
  | refl => exact hi
  | step _ hstep ih => exact ih.step hstep

-- ---------------------------------------------------------------------------
-- A record that is there
-- ---------------------------------------------------------------------------

theorem Step.forward (h : Step log services s s') : s.db.nextSequence ≤ s'.db.nextSequence := by
  cases h with
  | commit db _ hlt => exact hlt.le
  | waits =>
    unfold State.listen
    split <;> exact le_rfl
  | _ => exact le_rfl

theorem Steps.forward (h : Steps log services s s') : s.db.nextSequence ≤ s'.db.nextSequence := by
  induction h with
  | refl => exact le_rfl
  | step _ hstep ih => exact ih.trans hstep.forward

/-- A waiter that will find its record, if the store answers. -/
inductive Sure (wait : Wait) : Waiter → Prop
  | checking {r : Registered} : r.wait = wait → Sure wait (.checking r)
  | found {r : Registered} : r.wait = wait → Sure wait (.checked r true)
  | parked {r : Registered} : r.wait = wait → Sure wait (.parked r)
  | reached : Sure wait (.waited wait true)
  | answered {freshness : CopyFreshness} : Sure wait (.answered wait true freshness)
  | failed : Sure wait .failed

variable {wait : Wait}

theorem Sure.change (h : Sure wait w) {f : Registered → Registered}
    (hf : ∀ r, (f r).wait = r.wait) : Sure wait (w.change f) := by
  cases h with
  | checking h => exact .checking ((hf _).trans h)
  | found h => exact .found ((hf _).trans h)
  | parked h => exact .parked ((hf _).trans h)
  | reached => exact .reached
  | answered => exact .answered
  | failed => exact .failed

theorem Sure.set {q : Call} (h : Sure wait (s.waiter p)) (hq : q = p → Sure wait w) :
    Sure wait ((s.set q w).waiter p) := by
  by_cases hp : p = q
  · subst hp
    simpa [State.set] using hq rfl
  · simpa [State.set, hp] using h

theorem Sure.step (hi : Inv log services s) (hw : Within log wait.cursor s.db.nextSequence)
    (h : Sure wait (s.waiter p)) (hstep : Step log services s s') : Sure wait (s'.waiter p) := by
  cases hstep with
  | commit | tick | listened => exact h
  | notified => exact h.change fun _ => rfl
  | lost => exact h.change fun _ => rfl
  | closes => exact (h.change (f := .wake) fun _ => rfl).change (f := .unhear) fun _ => rfl
  | start hidle | refused hidle =>
    refine h.set fun hq => ?_
    subst hq
    rw [hidle] at h
    cases h
  | @waits q cursor timeout hidle =>
    have hother : ∀ {w'}, Sure wait ((s.set q w').waiter p) := h.set fun hq => by
      subst hq
      rw [hidle] at h
      cases h
    unfold State.listen
    split <;> exact hother
  | registers hq =>
    refine h.set fun heq => ?_
    subst heq
    rw [hq] at h
    cases h
  | @checks q r hq =>
    refine h.set fun heq => ?_
    subst heq
    rw [hq] at h
    cases h with
    | checking hwait =>
      subst hwait
      rw [(reached_iff hi.db).mpr hw]
      exact .found rfl
  | fails => exact h.set fun _ => .failed
  | found hq =>
    refine h.set fun heq => ?_
    subst heq
    rw [hq] at h
    cases h with
    | found hwait => exact hwait ▸ .reached
  | gives hq | parks hq =>
    refine h.set fun heq => ?_
    subst heq
    rw [hq] at h
    cases h
  | wakes hq | polls hq =>
    refine h.set fun heq => ?_
    subst heq
    rw [hq] at h
    cases h with
    | parked hwait => exact .checking hwait
  | reads hq =>
    refine h.set fun heq => ?_
    subst heq
    rw [hq] at h
    cases h
    exact .answered

-- ---------------------------------------------------------------------------
-- Every run
-- ---------------------------------------------------------------------------

/-- In every state of the service, whatever readers commit and whichever connections are lost: who
is told that a record is reached was answered from a copy that holds it, and so is every later read;
who is told that it is not had no time left, or the service was closing; a batch that commits the
record of a waiter whose connection is not lost has woken it, or its notification is on its way; and
once that record is there, the waiter is told so, unless the store does not answer. -/
theorem waits_for_record (hi : s₀.Initial log services) (hs : Steps log services s₀ s) :
    (∀ p wait freshness, s.waiter p = .answered wait true freshness →
      wait.cursor = LOG_START ∨ ∃ i record, log.records[i]? = some record ∧
        record.cursor = wait.cursor ∧ i < freshness.records ∧
        ∀ s', Steps log services s s' → i < (freshnessOf s'.db).records) ∧
    (∀ p wait freshness, s.waiter p = .answered wait false freshness →
      s.closed = true ∨ wait.deadline ≤ s.now) ∧
    ∀ p r, s.waiter p = .parked r → Within log r.wait.cursor s.db.nextSequence →
      (r.heard = true → r.woken = true ∨ 0 < s.connection.pending) ∧
      ∀ s', Steps log services s s' → Sure r.wait (s'.waiter p) := by
  have hinv := hi.inv.steps hs
  refine ⟨fun p wait freshness hp => ?_, fun p wait freshness hp => ?_, fun p r hp hwithin => ?_⟩
  · cases hinv.at hp with
    | reads hle h =>
      refine h.imp_right ?_
      rintro ⟨i, record, hrecord, hcursor, hlt⟩
      exact ⟨i, record, hrecord, hcursor, hlt, fun s' hs' =>
        (hlt.trans_le hle).trans_le hs'.forward⟩
  · cases hinv.at hp with
    | gaveUp h => exact h
  · constructor
    · intro hheard
      cases hinv.at hp with
      | parked h =>
        cases hwoken : r.woken with
        | true => exact .inl rfl
        | false => exact .inr (h.wakes hheard hwoken hwithin)
    · intro s' hs'
      have hsure : Inv log services s' ∧ Within log r.wait.cursor s'.db.nextSequence ∧
          Sure r.wait (s'.waiter p) := by
        induction hs' with
        | refl => exact ⟨hinv, hwithin, hp ▸ .parked rfl⟩
        | step _ hstep ih =>
          obtain ⟨hi', hw', hsure⟩ := ih
          exact ⟨hi'.step hstep, hw'.mono hstep.forward, hsure.step hi' hw' hstep⟩
      exact hsure.2.2

def waitingFor (db : ReaderDb Copy) (connection : Connection) (w : Waiter) : State :=
  ⟨db, connection, 1, false, Function.update (fun _ => .idle) 0 w, 0⟩

theorem set_waitingFor : (waitingFor db c w).set 0 w' = waitingFor db c w' := by
  simp [waitingFor, State.set]

theorem wakeAll_waitingFor :
    (waitingFor db c w).wakeAll = waitingFor db c (w.change .wake) := by
  simp only [waitingFor, State.wakeAll, State.mk.injEq, true_and, and_true]
  funext p
  by_cases hp : p = 0
  · simp [hp]
  · simp [hp, Waiter.change]

def startedWaiting : State := ⟨.migrated .empty, .none, 0, false, fun _ => .idle, 0⟩

theorem startedWaiting_initial : startedWaiting.Initial transferredTicket transferredServices :=
  ⟨readTo_migrated, rfl, rfl, fun _ => rfl⟩

theorem readTo_threeRead :
    ReadTo transferredTicket [ledgerFacts transferredServices] .empty threeRead.world.db :=
  readTo_reached (runLedgerFacts_applies transferredTicket .empty)
    ⟨rfl, fun _ => rfl, fun _ => rfl, fun _ => rfl⟩
    (Conc.Steps.of_run (Option.some_get run_threeApplied).symm)

abbrev asked : Registered := ⟨⟨3, 100⟩, false, true⟩

abbrev RunTo (s : State) : Prop := Steps transferredTicket transferredServices startedWaiting s

theorem runTo_parked : RunTo (waitingFor (.migrated .empty) (.listening 0 0) (.parked asked)) := by
  have h₁ : RunTo (waitingFor (.migrated .empty) (.opening 0) (.opens ⟨3, 100⟩ 0)) :=
    Steps.refl.step (.waits (p := 0) 100 rfl rfl (by decide))
  have h₂ : RunTo (waitingFor (.migrated .empty) (.listening 0 0) (.opens ⟨3, 100⟩ 0)) :=
    h₁.step (.listened rfl)
  have h₃ : RunTo (waitingFor (.migrated .empty) (.listening 0 0) (.checking asked)) :=
    set_waitingFor ▸ h₂.step (.registers (p := 0) rfl rfl)
  have h₄ : RunTo (waitingFor (.migrated .empty) (.listening 0 0) (.checked asked false)) :=
    set_waitingFor ▸ h₃.step (.checks (p := 0) rfl)
  exact set_waitingFor ▸ h₄.step (.parks (p := 0) rfl rfl (by decide))

/-- A reader commits the record, and the waiter is woken and answered. -/
theorem runTo_answered : RunTo (waitingFor threeRead.world.db (.listening 0 0)
    (.answered ⟨3, 100⟩ true (freshnessOf threeRead.world.db))) := by
  have h₁ : RunTo (waitingFor threeRead.world.db (.listening 0 1) (.parked asked)) :=
    runTo_parked.step (.commit threeRead.world.db readTo_threeRead (by decide))
  have h₂ : RunTo (waitingFor threeRead.world.db (.listening 0 0)
      ((Waiter.parked asked).change .wake)) :=
    wakeAll_waitingFor ▸ h₁.step (.notified rfl)
  have h₃ : RunTo (waitingFor threeRead.world.db (.listening 0 0) (.checking asked)) :=
    set_waitingFor ▸ h₂.step (.wakes (p := 0) (r := asked.wake) rfl rfl)
  have h₄ : RunTo (waitingFor threeRead.world.db (.listening 0 0) (.checked asked true)) :=
    set_waitingFor ▸ h₃.step (.checks (p := 0) rfl)
  have h₅ : RunTo (waitingFor threeRead.world.db (.listening 0 0) (.waited ⟨3, 100⟩ true)) :=
    set_waitingFor ▸ h₄.step (.found (p := 0) (r := asked) rfl)
  exact set_waitingFor ▸ h₅.step (.reads (p := 0) rfl)

theorem waits_for_record_transfer :
    ∃ i record, transferredTicket.records[i]? = some record ∧ record.cursor = 3 ∧
      i < (freshnessOf threeRead.world.db).records := by
  obtain ⟨htrue, -, -⟩ := waits_for_record startedWaiting_initial runTo_answered
  obtain hstart | ⟨i, record, hrecord, hcursor, hlt, -⟩ := htrue 0 ⟨3, 100⟩ _ rfl
  · cases hstart
  · exact ⟨i, record, hrecord, hcursor, hlt⟩

end Kippu.Waiting
