import Kippu.Reviewing.Runs

/-!
# Every increase has its record

A write is accepted while its approval has the request's row locked, and pending: the
only write of that request. Whoever ends that approval without committing leaves the
write without a record, and the request to be decided again (`rejected_after_accepted`).
Otherwise every accepted write is recorded on its request when its approval ends
(`increases_recorded`).
-/

namespace Kippu.Reviewing

open Conc (Table)

variable {s s' s₀ : State} {c d : Call} {t : Task} {i j : ProofRequestId} {row row' : Request}
  {w w' : Write} {x : Submission} {capacity : Option ℕ} {proof : ℕ} {cursor : Cursor}

def Task.Works (i : ProofRequestId) : Task → Prop
  | .read j _ => j = i
  | .submitted j _ => j = i
  | .accepted j _ _ => j = i
  | _ => False

def State.Asks (s : State) (i : ProofRequestId) (capacity : Option ℕ) : Prop :=
  ∃ row, s.requests.get i = some row ∧ row.capacity = capacity

/-- The request is approved, with the write's proof id and cursor. -/
def State.Records (s : State) (i : ProofRequestId) (w : Write) : Prop :=
  ∃ row, s.requests.get i = some row ∧ row.status = .approved ∧ row.capacity = w.capacity ∧
    row.proof = some w.proof ∧ row.cursor = some w.cursor

def State.Settles (s : State) (w : Write) (t : Task) : Prop :=
  t = .submitted w.request w.proof ∨ t = .accepted w.request w.proof w.cursor ∨
    t = .ended ∧ s.Records w.request w

structure Inv (s : State) : Prop where
  works : ∀ c i, (s.task c).Works i → s.rowLock i = some c
  pending : ∀ c i, (s.task c).Works i → ∃ row, s.requests.get i = some row ∧ row.status = .pending
  read : ∀ c i capacity, s.task c = .read i capacity → s.Asks i capacity
  flight : ∀ c x, s.flight c = some x →
    s.task c = .submitted x.request x.proof ∨ s.task c = .ended
  flying : ∀ c x, s.flight c = some x → ¬ s.Accepted c ∧ s.Asks x.request x.capacity
  logged : ∀ w ∈ s.log, s.Settles w (s.task w.call)
  asked : ∀ w ∈ s.log, s.Asks w.request w.capacity
  accepted : ∀ c i proof cursor, s.task c = .accepted i proof cursor →
    ∃ w ∈ s.log, w.call = c ∧ w.request = i ∧ w.proof = proof ∧ w.cursor = cursor
  approved : ∀ i row, s.requests.get i = some row → row.status = .approved →
    ∃ w ∈ s.log, w.request = i ∧ row.proof = some w.proof ∧ row.cursor = some w.cursor
  once : ∀ w ∈ s.log, ∀ w' ∈ s.log, w.request = w'.request → w = w'
  cursors : ∀ w ∈ s.log, ∀ w' ∈ s.log, w.cursor = w'.cursor → w = w'

theorem Inv.initial (h : s.Initial) : Inv s where
  works c i hw := by simp [h.task, Task.Works] at hw
  pending c i hw := by simp [h.task, Task.Works] at hw
  read c i k hr := by simp [h.task] at hr
  flight c x hx := by simp [h.flight] at hx
  flying c x hx := by simp [h.flight] at hx
  logged w hw := by simp [h.log] at hw
  asked w hw := by simp [h.log] at hw
  accepted c i p k ha := by simp [h.task] at ha
  approved i row hrow ha := absurd ha (h.approved i row hrow)
  once w hw := by simp [h.log] at hw
  cursors w hw := by simp [h.log] at hw

-- ---------------------------------------------------------------------------
-- Requests asked for and rejected
-- ---------------------------------------------------------------------------

/-- Rows stay, but for pending ones that nobody has locked, and are approved by nobody else. -/
structure Keeps (s s' : State) : Prop where
  rows : ∀ i row, s.requests.get i = some row → ∃ row', s'.requests.get i = some row' ∧
    row'.capacity = row.capacity ∧ (row.status = .pending ∧ s.rowLock i = none ∨ row' = row)
  approved : ∀ i row, s'.requests.get i = some row → row.status = .approved →
    s.requests.get i = some row

theorem Keeps.asks (h : Keeps s s') (ha : s.Asks i capacity) : s'.Asks i capacity := by
  obtain ⟨row, hrow, hc⟩ := ha
  obtain ⟨row', hrow', hc', -⟩ := h.rows i row hrow
  exact ⟨row', hrow', hc'.trans hc⟩

theorem Keeps.records (h : Keeps s s') (hr : s.Records i w) : s'.Records i w := by
  obtain ⟨row, hrow, hst, hc⟩ := hr
  obtain ⟨row', hrow', -, ⟨hp, -⟩ | rfl⟩ := h.rows i row hrow
  · simp [hst] at hp
  · exact ⟨row', hrow', hst, hc⟩

theorem Inv.keeps (h : Inv s) (hk : Keeps s s') (hrest : s' = s.setRequests s'.requests) :
    Inv s' := by
  rw [hrest]
  have hk : Keeps s (s.setRequests s'.requests) := hrest ▸ hk
  constructor
  · exact h.works
  · intro c i hw
    obtain ⟨row, hrow, hst⟩ := h.pending c i hw
    obtain ⟨row', hrow', -, ⟨-, hl⟩ | rfl⟩ := hk.rows i row hrow
    · simp [h.works c i hw] at hl
    · exact ⟨row', hrow', hst⟩
  · exact fun c i k hr => hk.asks (h.read c i k hr)
  · exact h.flight
  · exact fun c x hx => ⟨(h.flying c x hx).1, hk.asks (h.flying c x hx).2⟩
  · intro w hw
    rcases h.logged w hw with hs | hs | ⟨he, hr⟩
    · exact .inl hs
    · exact .inr (.inl hs)
    · exact .inr (.inr ⟨he, hk.records hr⟩)
  · exact fun w hw => hk.asks (h.asked w hw)
  · exact h.accepted
  · exact fun i row hrow hst => h.approved i row (hk.approved i row hrow hst) hst
  · exact h.once
  · exact h.cursors

theorem Keeps.requested {event : EventId} (hi : s.requests.get i = none) :
    Keeps s (s.setRequests (s.requests.set i ⟨event, capacity, .pending, none, none⟩)) where
  rows j row hrow := by
    have hne : j ≠ i := by
      rintro rfl
      simp [hi] at hrow
    exact ⟨row, by simpa [State.setRequests, Table.get_set_ne _ hne] using hrow, rfl, .inr rfl⟩
  approved j row hrow hst := by
    rcases eq_or_ne j i with rfl | hne
    · obtain rfl : _ = row := by simpa [State.setRequests] using hrow
      simp at hst
    · simpa [State.setRequests, Table.get_set_ne _ hne] using hrow

theorem Keeps.rejects (hi : s.requests.get i = some row) (hst : row.status = .pending)
    (hl : s.rowLock i = none) :
    Keeps s (s.setRequests (s.requests.update i fun r => { r with status := .rejected })) where
  rows j row' hrow' := by
    rcases eq_or_ne j i with rfl | hne
    · obtain rfl := Option.some.inj (hi.symm.trans hrow')
      exact ⟨{ row with status := .rejected }, by simp [State.setRequests, hi], rfl, .inl ⟨hst, hl⟩⟩
    · exact ⟨row', by simpa [State.setRequests, Table.get_update_ne _ hne] using hrow', rfl,
        .inr rfl⟩
  approved j row' hrow' ha := by
    rcases eq_or_ne j i with rfl | hne
    · obtain rfl : _ = row' := by simpa [State.setRequests, hi] using hrow'
      simp at ha
    · simpa [State.setRequests, Table.get_update_ne _ hne] using hrow'

-- ---------------------------------------------------------------------------
-- An approval moves on
-- ---------------------------------------------------------------------------

theorem Inv.goto (h : Inv s)
    (hworks : ∀ i, t.Works i → s.rowLock i = some c ∧
      ∃ row, s.requests.get i = some row ∧ row.status = .pending)
    (hread : ∀ i capacity, t = .read i capacity → s.Asks i capacity)
    (hflight : ∀ x, s.flight c = some x → t = .submitted x.request x.proof ∨ t = .ended)
    (hlogged : ∀ w ∈ s.log, w.call = c → s.Settles w t)
    (haccepted : ∀ i proof cursor, t = .accepted i proof cursor →
      ∃ w ∈ s.log, w.call = c ∧ w.request = i ∧ w.proof = proof ∧ w.cursor = cursor) :
    Inv (s.goto c t) := by
  have htask : ∀ d, d ≠ c → (s.goto c t).task d = s.task d := fun d hne => by
    simp [State.goto, Function.update_of_ne hne]
  have hself : (s.goto c t).task c = t := by simp [State.goto]
  constructor
  · intro d i hw
    rcases eq_or_ne d c with rfl | hne
    · exact (hworks i (hself ▸ hw)).1
    · exact h.works d i (htask d hne ▸ hw)
  · intro d i hw
    rcases eq_or_ne d c with rfl | hne
    · exact (hworks i (hself ▸ hw)).2
    · exact h.pending d i (htask d hne ▸ hw)
  · intro d i k hr
    rcases eq_or_ne d c with rfl | hne
    · exact hread i k (hself ▸ hr)
    · exact h.read d i k (htask d hne ▸ hr)
  · intro d x hx
    rcases eq_or_ne d c with rfl | hne
    · rw [hself]
      exact hflight x hx
    · rw [htask d hne]
      exact h.flight d x hx
  · exact h.flying
  · intro w hw
    rcases eq_or_ne w.call c with hc | hne
    · rw [hc, hself]
      exact hlogged w hw hc
    · rw [htask _ hne]
      exact h.logged w hw
  · exact h.asked
  · intro d i p k ha
    rcases eq_or_ne d c with rfl | hne
    · exact haccepted i p k (hself ▸ ha)
    · exact h.accepted d i p k (htask d hne ▸ ha)
  · exact h.approved
  · exact h.once
  · exact h.cursors

theorem Inv.unsubmitted (h : Inv s) (hs : ∀ i proof, s.task c ≠ .submitted i proof)
    (he : s.task c ≠ .ended) : s.flight c = none := by
  cases hx : s.flight c with
  | none => rfl
  | some x =>
    rcases h.flight c x hx with hf | hf
    · exact absurd hf (hs _ _)
    · exact absurd hf he

theorem Inv.unaccepted (h : Inv s) (hs : ∀ i proof, s.task c ≠ .submitted i proof)
    (ha : ∀ i proof cursor, s.task c ≠ .accepted i proof cursor) (he : s.task c ≠ .ended) :
    ¬ s.Accepted c := by
  rintro ⟨w, hw, rfl⟩
  rcases h.logged w hw with hl | hl | ⟨hl, -⟩
  · exact hs _ _ hl
  · exact ha _ _ _ hl
  · exact he hl

theorem Inv.locks (h : Inv s) (hc : s.task c = .idle) (i : ProofRequestId)
    (lock : EventId → Option Call) : Inv ({ s with lock }.goto c (.locked i)) := by
  have hfl := h.unsubmitted (c := c) (by simp [hc]) (by simp [hc])
  have hlog := h.unaccepted (c := c) (by simp [hc]) (by simp [hc]) (by simp [hc])
  have hl : Inv { s with lock } := { h with }
  refine hl.goto (by simp [Task.Works]) (by simp) (fun x hx => ?_) (fun w hw hwc => ?_) (by simp)
  · simp [hfl] at hx
  · exact absurd ⟨w, hw, hwc⟩ hlog

theorem Inv.reads (h : Inv s) (hc : s.task c = .locked i) (hrow : s.requests.get i = some row)
    (hl : s.rowLock i = none) (hst : row.status = .pending) :
    Inv ({ s with rowLock := Function.update s.rowLock i (some c) }.goto c
      (.read i row.capacity)) := by
  have hfl := h.unsubmitted (c := c) (by simp [hc]) (by simp [hc])
  have hlog := h.unaccepted (c := c) (by simp [hc]) (by simp [hc]) (by simp [hc])
  have hlocked : Inv { s with rowLock := Function.update s.rowLock i (some c) } := by
    refine { h with works := fun d j hw => ?_ }
    have hj := h.works d j hw
    have hne : j ≠ i := by
      rintro rfl
      simp [hl] at hj
    simpa [Function.update_of_ne hne] using hj
  refine hlocked.goto (fun j hj => ?_) (fun j k hj => ?_) (fun x hx => ?_) (fun w hw hwc => ?_)
    (by simp)
  · obtain rfl : i = j := hj
    exact ⟨by simp, row, hrow, hst⟩
  · obtain ⟨rfl, rfl⟩ : i = j ∧ row.capacity = k := by simpa using hj
    exact ⟨row, hrow, rfl⟩
  · simp [hfl] at hx
  · exact absurd ⟨w, hw, hwc⟩ hlog

theorem Inv.submits (h : Inv s) (hc : s.task c = .read i capacity) (proof : ℕ) :
    Inv ({ s with flight := Function.update s.flight c (some ⟨i, capacity, proof⟩) }.goto c
      (.submitted i proof)) := by
  have hfl := h.unsubmitted (c := c) (by simp [hc]) (by simp [hc])
  have hlog := h.unaccepted (c := c) (by simp [hc]) (by simp [hc]) (by simp [hc])
  have hw : (s.task c).Works i := by simp [hc, Task.Works]
  have hmoved : Inv (s.goto c (.submitted i proof)) := by
    refine h.goto (fun j hj => ?_) (by simp) (fun x hx => ?_) (fun w hw hwc => ?_) (by simp)
    · obtain rfl : i = j := hj
      exact ⟨h.works c i hw, h.pending c i hw⟩
    · simp [hfl] at hx
    · exact absurd ⟨w, hw, hwc⟩ hlog
  refine { hmoved with flight := fun d x hx => ?_, flying := fun d x hx => ?_ }
  · rcases eq_or_ne d c with rfl | hne
    · obtain rfl : _ = x := by simpa [State.goto] using hx
      exact .inl (by simp [State.goto])
    · exact hmoved.flight d x (by simpa [State.goto, Function.update_of_ne hne] using hx)
  · rcases eq_or_ne d c with rfl | hne
    · obtain rfl : _ = x := by simpa [State.goto] using hx
      exact ⟨hlog, h.read d i capacity hc⟩
    · exact hmoved.flying d x (by simpa [State.goto, Function.update_of_ne hne] using hx)

theorem Inv.hears (h : Inv s) (hc : s.task c = .submitted i proof) (hw : w ∈ s.log)
    (hwc : w.call = c) : Inv (s.goto c (.accepted i proof w.cursor)) := by
  have hworks : (s.task c).Works i := by simp [hc, Task.Works]
  have hsame : ∀ w' ∈ s.log, w'.call = c → w'.request = i ∧ w'.proof = proof := by
    intro w' hw' hc'
    have := h.logged w' hw'
    simp only [State.Settles, hc', hc, Task.submitted.injEq, reduceCtorEq, false_and, or_false]
      at this
    exact ⟨this.1.symm, this.2.symm⟩
  refine h.goto (fun j hj => ?_) (by simp) (fun x hx => ?_) (fun w' hw' hc' => ?_)
    (fun j p k hj => ?_)
  · obtain rfl : i = j := hj
    exact ⟨h.works c i hworks, h.pending c i hworks⟩
  · exact absurd ⟨w, hw, hwc⟩ (h.flying c x hx).1
  · obtain rfl := h.once w hw w' hw'
      ((hsame w hw hwc).1.trans (hsame w' hw' hc').1.symm)
    exact .inr (.inl (by rw [(hsame w hw hwc).1, (hsame w hw hwc).2]))
  · obtain ⟨rfl, rfl, rfl⟩ : i = j ∧ proof = p ∧ w.cursor = k := by simpa using hj
    exact ⟨w, hw, hwc, (hsame w hw hwc).1, (hsame w hw hwc).2, rfl⟩

-- ---------------------------------------------------------------------------
-- The ledger decides
-- ---------------------------------------------------------------------------

theorem Inv.refuses (h : Inv s) (c : Call) :
    Inv { s with flight := Function.update s.flight c none } := by
  refine { h with flight := fun d x hx => ?_, flying := fun d x hx => ?_ }
  all_goals
    rcases eq_or_ne d c with rfl | hne
    · simp at hx
  · exact h.flight d x (by simpa [Function.update_of_ne hne] using hx)
  · exact h.flying d x (by simpa [Function.update_of_ne hne] using hx)

/-- The request of a write in flight has no accepted write: the approval has its row locked. -/
theorem Inv.first (h : Inv s) (hx : s.flight c = some x)
    (hc : s.task c = .submitted x.request x.proof) (hw : w ∈ s.log) : w.request ≠ x.request := by
  intro heq
  have hworks : (s.task c).Works x.request := by simp [hc, Task.Works]
  have hopen : (s.task w.call).Works x.request → False := fun hwk => by
    have := (h.works w.call _ hwk).symm.trans (h.works c _ hworks)
    exact (h.flying c x hx).1 ⟨w, hw, Option.some.inj this⟩
  rcases h.logged w hw with hl | hl | ⟨-, row, hrow, hst, -⟩
  · exact hopen (by simp [hl, Task.Works, heq])
  · exact hopen (by simp [hl, Task.Works, heq])
  · obtain ⟨row', hrow', hst'⟩ := h.pending c _ hworks
    obtain rfl := Option.some.inj ((heq ▸ hrow).symm.trans hrow')
    simp [hst] at hst'

theorem Inv.accepts (h : Inv s) (hx : s.flight c = some x)
    (hcursor : ∀ w ∈ s.log, w.cursor < cursor) (hopen : (s.task c).Open) :
    Inv { s with
      flight := Function.update s.flight c none
      log := s.log ++ [⟨c, x.request, x.capacity, x.proof, cursor⟩] } := by
  have hc : s.task c = .submitted x.request x.proof := by
    rcases h.flight c x hx with hc | hc
    · exact hc
    · simp [hc, Task.Open] at hopen
  have hfirst : ∀ w ∈ s.log, w.request ≠ x.request := fun w hw => h.first hx hc hw
  constructor
  · exact h.works
  · exact h.pending
  · exact h.read
  · exact (h.refuses c).flight
  · intro d y hy
    have hne : d ≠ c := by
      rintro rfl
      simp at hy
    have hy := h.flying d y (by simpa [Function.update_of_ne hne] using hy)
    refine ⟨?_, hy.2⟩
    rintro ⟨w, hw, rfl⟩
    rcases List.mem_append.mp hw with hw | hw
    · exact hy.1 ⟨w, hw, rfl⟩
    · obtain rfl := List.mem_singleton.mp hw
      exact hne rfl
  · intro w hw
    rcases List.mem_append.mp hw with hw | hw
    · exact h.logged w hw
    · obtain rfl := List.mem_singleton.mp hw
      exact .inl hc
  · intro w hw
    rcases List.mem_append.mp hw with hw | hw
    · exact h.asked w hw
    · obtain rfl := List.mem_singleton.mp hw
      exact (h.flying c x hx).2
  · intro d i p k ha
    obtain ⟨w, hw, hrest⟩ := h.accepted d i p k ha
    exact ⟨w, List.mem_append_left _ hw, hrest⟩
  · intro i row hrow hst
    obtain ⟨w, hw, hrest⟩ := h.approved i row hrow hst
    exact ⟨w, List.mem_append_left _ hw, hrest⟩
  · intro w hw w' hw' heq
    rcases List.mem_append.mp hw with hw | hw <;> rcases List.mem_append.mp hw' with hw' | hw'
    · exact h.once w hw w' hw' heq
    · obtain rfl := List.mem_singleton.mp hw'
      exact absurd heq (hfirst w hw)
    · obtain rfl := List.mem_singleton.mp hw
      exact absurd heq.symm (hfirst w' hw')
    · rw [List.mem_singleton.mp hw, List.mem_singleton.mp hw']
  · intro w hw w' hw' heq
    rcases List.mem_append.mp hw with hw | hw <;> rcases List.mem_append.mp hw' with hw' | hw'
    · exact h.cursors w hw w' hw' heq
    · obtain rfl := List.mem_singleton.mp hw'
      exact absurd heq (hcursor w hw).ne
    · obtain rfl := List.mem_singleton.mp hw
      exact absurd heq (hcursor w' hw').ne'
    · rw [List.mem_singleton.mp hw, List.mem_singleton.mp hw']

-- ---------------------------------------------------------------------------
-- The transaction ends
-- ---------------------------------------------------------------------------

theorem Inv.release (h : Inv s) (hc : s.task c = .ended) (lock : EventId → Option Call) :
    Inv { s with
      lock
      rowLock := fun i => if s.rowLock i = some c then none else s.rowLock i } := by
  refine { h with works := fun d i hw => ?_ }
  have hne : d ≠ c := by
    rintro rfl
    have hw : (s.task d).Works i := hw
    simp [hc, Task.Works] at hw
  simp [h.works d i hw, hne]

theorem Inv.ends (h : Inv s) (hno : ¬ s.Accepted c) :
    Inv (s.unlock c) := by
  have hended : Inv (s.goto c .ended) :=
    h.goto (by simp [Task.Works]) (by simp) (fun x _ => .inr rfl)
      (fun w hw hwc => absurd ⟨w, hw, hwc⟩ hno) (by simp)
  exact hended.release (by simp [State.goto]) _

def Request.approve (proof : ℕ) (cursor : Cursor) (r : Request) : Request :=
  { r with status := .approved, proof := some proof, cursor := some cursor }

theorem Inv.commits (h : Inv s) (hc : s.task c = .accepted i proof cursor) :
    Inv ((s.setRequests (s.requests.update i (Request.approve proof cursor))).unlock c) := by
  have hworks : (s.task c).Works i := by simp [hc, Task.Works]
  obtain ⟨row, hrow, hpending⟩ := h.pending c i hworks
  obtain ⟨w, hw, hwc, rfl, rfl, rfl⟩ := h.accepted c i proof cursor hc
  obtain ⟨row', hrow', hcap⟩ := h.asked w hw
  obtain rfl := Option.some.inj (hrow.symm.trans hrow')
  have hget : ∀ j, (s.requests.update w.request (Request.approve w.proof w.cursor)).get j =
      if j = w.request then some (row.approve w.proof w.cursor) else s.requests.get j :=
    Table.get_update_of_some _ hrow
  have hasks : ∀ {j k}, s.Asks j k →
      (s.setRequests (s.requests.update w.request (Request.approve w.proof w.cursor))).Asks j k := by
    rintro j k ⟨r, hr, hk⟩
    rcases eq_or_ne j w.request with rfl | hne
    · obtain rfl := Option.some.inj (hrow.symm.trans hr)
      exact ⟨row.approve w.proof w.cursor, by simp [State.setRequests, hrow], hk⟩
    · exact ⟨r, by simpa [State.setRequests, hget, hne] using hr, hk⟩
  have hended : Inv ((s.setRequests
      (s.requests.update w.request (Request.approve w.proof w.cursor))).goto c .ended) := by
    have hself : ∀ d j, (Function.update s.task c .ended d).Works j →
        d ≠ c ∧ (s.task d).Works j := by
      intro d j hd
      rcases eq_or_ne d c with rfl | hne
      · simp [Task.Works] at hd
      · exact ⟨hne, by simpa [Function.update_of_ne hne] using hd⟩
    constructor
    · exact fun d j hd => h.works d j (hself d j hd).2
    · intro d j hd
      obtain ⟨hne, hd⟩ := hself d j hd
      obtain ⟨r, hr, hst⟩ := h.pending d j hd
      have hj : j ≠ w.request := by
        rintro rfl
        exact hne (Option.some.inj ((h.works d _ hd).symm.trans (h.works c _ hworks)))
      exact ⟨r, by simpa [State.setRequests, State.goto, hget, hj] using hr, hst⟩
    · intro d j k hd
      rcases eq_or_ne d c with rfl | hne
      · simp [State.goto] at hd
      · exact hasks (h.read d j k
          (by simpa [State.goto, State.setRequests, Function.update_of_ne hne] using hd))
    · intro d x hx
      rcases eq_or_ne d c with rfl | hne
      · exact .inr (by simp [State.goto])
      · simpa [State.goto, State.setRequests, Function.update_of_ne hne] using h.flight d x hx
    · exact fun d x hx => ⟨(h.flying d x hx).1, hasks (h.flying d x hx).2⟩
    · intro w' hw'
      rcases eq_or_ne w'.call c with hc' | hne
      · have hsame : w' = w := by
          have hl := h.logged w' hw'
          simp only [State.Settles, hc', hc, reduceCtorEq, Task.accepted.injEq, false_and, or_false,
            false_or] at hl
          exact h.once w' hw' w hw hl.1.symm
        subst hsame
        refine .inr (.inr ⟨by simp [State.goto, hc'], row.approve w'.proof w'.cursor, ?_⟩)
        exact ⟨by simp [State.goto, State.setRequests, hrow], rfl, hcap, rfl, rfl⟩
      · have htask : ((s.setRequests
            (s.requests.update w.request (Request.approve w.proof w.cursor))).goto c .ended).task
              w'.call = s.task w'.call := by
          simp [State.goto, State.setRequests, Function.update_of_ne hne]
        rw [htask]
        rcases h.logged w' hw' with hl | hl | ⟨hl, r, hr, hst, hrest⟩
        · exact .inl hl
        · exact .inr (.inl hl)
        · have hj : w'.request ≠ w.request := by
            intro heq
            obtain rfl := Option.some.inj ((heq ▸ hr).symm.trans hrow)
            simp [hst] at hpending
          exact .inr (.inr ⟨hl, r, by simpa [State.goto, State.setRequests, hget, hj] using hr, hst,
            hrest⟩)
    · exact fun w' hw' => hasks (h.asked w' hw')
    · intro d j p k hd
      rcases eq_or_ne d c with rfl | hne
      · simp [State.goto] at hd
      · exact h.accepted d j p k
          (by simpa [State.goto, State.setRequests, Function.update_of_ne hne] using hd)
    · intro j r hr hst
      rcases eq_or_ne j w.request with rfl | hne
      · obtain rfl : row.approve w.proof w.cursor = r := by
          simpa [State.goto, State.setRequests, hrow] using hr
        exact ⟨w, hw, rfl, rfl, rfl⟩
      · exact h.approved j r (by simpa [State.goto, State.setRequests, hget, hne] using hr) hst
    · exact h.once
    · exact h.cursors
  exact hended.release (by simp [State.goto]) _

-- ---------------------------------------------------------------------------
-- Runs
-- ---------------------------------------------------------------------------

theorem Inv.step (h : Inv s) (hs : Step False s s') : Inv s' := by
  cases hs with
  | requested hi _ => exact h.keeps (Keeps.requested hi) rfl
  | rejects hi hst hl => exact h.keeps (Keeps.rejects hi hst hl) rfl
  | locks hc _ _ => exact h.locks hc _ _
  | reads hc hrow hl hst => exact h.reads hc hrow hl hst
  | submits proof hc => exact h.submits hc proof
  | accepts hx hcursor hopen => exact h.accepts hx hcursor (hopen.resolve_left id)
  | refuses hx => exact h.refuses _
  | hears hc hw hwc => exact h.hears hc hw hwc
  | commits hc => exact h.commits hc
  | ends hopen hno => exact h.ends (hno.resolve_left id)

theorem Inv.steps (h : Inv s) (hs : Steps False s s') : Inv s' := by
  induction hs with
  | refl => exact h
  | step _ hs ih => exact ih.step hs

theorem Inv.records (h : Inv s) (hw : w ∈ s.log) (he : s.task w.call = .ended) :
    ∃! i, s.Records i w := by
  have hr : s.Records w.request w := by
    rcases h.logged w hw with hl | hl | ⟨-, hr⟩
    · simp [he] at hl
    · simp [he] at hl
    · exact hr
  refine ⟨w.request, hr, ?_⟩
  rintro j ⟨r, hget, hst, -, -, hcursor⟩
  obtain ⟨w', hw', rfl, -, hcursor'⟩ := h.approved j r hget hst
  have : w'.cursor = w.cursor := Option.some.inj (hcursor'.symm.trans hcursor)
  rw [h.cursors w' hw' w hw this]

theorem Inv.not_rejected (h : Inv s) (hw : w ∈ s.log) (hrow : s.requests.get w.request = some row) :
    row.status ≠ .rejected := by
  have hworks : (s.task w.call).Works w.request → row.status ≠ .rejected := fun hwk => by
    obtain ⟨r, hr, hst⟩ := h.pending _ _ hwk
    obtain rfl := Option.some.inj (hrow.symm.trans hr)
    simp [hst]
  rcases h.logged w hw with hl | hl | ⟨-, r, hr, hst, -⟩
  · exact hworks (by simp [hl, Task.Works])
  · exact hworks (by simp [hl, Task.Works])
  · obtain rfl := Option.some.inj (hrow.symm.trans hr)
    simp [hst]

/-- What is promised of the increases that the ledger accepted: each is recorded once its approval
ended, each request has one at most, and a rejected request has none. -/
structure State.Recorded (s : State) : Prop where
  records : ∀ w ∈ s.log, s.task w.call = .ended → ∃! i, s.Records i w
  once : ∀ w ∈ s.log, ∀ w' ∈ s.log, w.request = w'.request → w = w'
  rejected : ∀ w ∈ s.log, ∀ row, s.requests.get w.request = some row → row.status ≠ .rejected

/-- In every run in which the ledger accepts a write only while its approval's transaction is open,
and every approval whose write it accepted commits. -/
theorem increases_recorded (h₀ : State.Initial s₀) (hs : Steps False s₀ s) : s.Recorded where
  records _ hw he := ((Inv.initial h₀).steps hs).records hw he
  once := ((Inv.initial h₀).steps hs).once
  rejected _ hw _ hrow := ((Inv.initial h₀).steps hs).not_rejected hw hrow

def State.start : State := ⟨.empty, fun _ => none, fun _ => none, fun _ => .idle, fun _ => none, []⟩

theorem State.start_initial : State.Initial State.start :=
  ⟨fun _ => rfl, fun _ => rfl, fun _ => rfl, rfl, by simp [State.start]⟩

def State.acceptedRun : State where
  requests := Table.empty.set 1 ⟨0, some 5, .pending, none, none⟩
  lock := Function.update (fun _ => none) 0 (some 1)
  rowLock := Function.update (fun _ => none) 1 (some 1)
  task := Function.update (fun _ => .idle) 1 (.submitted 1 7)
  flight := Function.update (fun _ => none) 1 none
  log := [⟨1, 1, some 5, 7, 1⟩]

theorem accepted_run (late : Prop) : Steps late State.start State.acceptedRun := by
  have h₁ : Steps late State.start (State.start.setRequests
      (Table.empty.set 1 ⟨0, some 5, .pending, none, none⟩)) :=
    Steps.refl.step (Step.requested rfl (by simp [State.start]))
  have h₂ := h₁.step (Step.locks (c := 1) (i := 1) rfl rfl rfl)
  have h₃ := h₂.step (Step.reads (c := 1) rfl rfl rfl rfl)
  have h₄ := h₃.step (Step.submits (c := 1) 7 rfl)
  have h₅ := h₄.step (Step.accepts (c := 1) rfl
    (show ∀ w ∈ [], Write.cursor w < 1 by simp) (.inr trivial))
  simpa [State.acceptedRun, State.start, State.setRequests, State.goto] using h₅

/-- The approval of an accepted write is committed. -/
theorem increases_recorded_one : ∃ s, Steps False State.start s ∧ s.log ≠ [] ∧ s.Recorded := by
  have h₁ := (accepted_run False).step
    (Step.hears (c := 1) rfl (List.mem_singleton.mpr rfl) rfl)
  have h₂ := h₁.step (Step.commits (c := 1) rfl)
  exact ⟨_, h₂, List.cons_ne_nil _ _, increases_recorded State.start_initial h₂⟩

/-- The approval of an accepted write is not committed, and the request is rejected. -/
theorem rejected_after_accepted :
    ¬ ∀ s₀ s : State, State.Initial s₀ → Steps True s₀ s → s.Recorded := by
  intro h
  have h₁ := (accepted_run True).step (Step.ends (c := 1) trivial (.inl trivial))
  have h₂ := h₁.step (Step.rejects (i := 1) rfl rfl rfl)
  exact (h _ _ State.start_initial h₂).rejected ⟨1, 1, some 5, 7, 1⟩ (List.mem_singleton.mpr rfl) _
    rfl rfl

end Kippu.Reviewing
