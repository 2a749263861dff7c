import Kippu.Migrating.Builds

/-!
# What a migrated store has applied

The rows of the store are those of the migrations whose SQL it has committed, and one run at a
time adds to them. A build that `assertMigrated` accepts ships just these. They are in order
where every run that went on to apply migrations found only such as are numbered above what the
store had applied.
-/

namespace Kippu.Migrating

variable {sha256 : String → String} {builds : List File → Prop} {outOfOrder : Prop}
variable {directory : List File} {all todo ran : List Migration} {m : Migration}
variable {s s' s₀ looking reading : State} {r : Run} {t : Task}

@[simp] theorem goto_self : (s.goto r t).task r = t := Function.update_self ..

@[simp] theorem goto_of_ne {r' : Run} (h : r' ≠ r) : (s.goto r t).task r' = s.task r' :=
  Function.update_of_ne h ..

-- ---------------------------------------------------------------------------
-- `pending`
-- ---------------------------------------------------------------------------

/-- The store's rows are as a build has them, and `todo` is what it ships besides. -/
structure Matched (all ran todo : List Migration) : Prop where
  rows : ∀ m ∈ ran, ∃ m' ∈ all, m'.row = m.row
  todo : todo = all.filter fun m => !ran.any (·.id = m.id)

theorem exists_of_find_row {id : String} {row : Row}
    (h : (ran.map Migration.row).find? (·.id = id) = some row) :
    ∃ m ∈ ran, m.id = id ∧ m.row = row := by
  obtain ⟨m, hm, rfl⟩ := List.mem_map.mp (List.mem_of_find?_eq_some h)
  have hid := List.find?_some h
  exact ⟨m, hm, of_decide_eq_true hid, rfl⟩

theorem find_row (hids : (ran.map (·.id)).Nodup) (hm : m ∈ ran) :
    (ran.map Migration.row).find? (·.id = m.id) = some m.row := by
  cases hfind : (ran.map Migration.row).find? (·.id = m.id) with
  | none =>
    have hnone := List.find?_eq_none.mp hfind m.row (List.mem_map_of_mem hm)
    exact absurd (decide_eq_true (rfl : m.row.id = m.id)) hnone
  | some row =>
    obtain ⟨m', hm', hid, rfl⟩ := exists_of_find_row hfind
    rw [List.inj_on_of_nodup_map hids hm' hm hid]

theorem any_row (ran : List Migration) (m : Migration) :
    (ran.map Migration.row).any (·.id = m.id) = ran.any (·.id = m.id) := List.any_map

theorem pending_ok (hids : (ran.map (·.id)).Nodup) (hall : Shipped sha256 builds all) :
    pending all (ran.map Migration.row) = .ok todo ↔ Matched all ran todo := by
  constructor
  · intro h
    unfold pending at h
    split at h
    · cases h
    rename_i hknown
    split at h
    · cases h
    rename_i hsame
    cases h
    refine ⟨fun m hm => ?_, by simp only [any_row]⟩
    have hrow := List.find?_eq_none.mp hknown m.row (List.mem_map_of_mem hm)
    rw [Bool.not_eq_true', Bool.not_eq_false] at hrow
    obtain ⟨m', hm', hid⟩ := List.any_eq_true.mp hrow
    replace hid : m'.id = m.id := of_decide_eq_true hid
    have hchecksum := List.find?_eq_none.mp hsame m' hm'
    rw [hid, find_row hids hm, Option.any_some, decide_eq_true_eq, not_not] at hchecksum
    refine ⟨m', hm', ?_⟩
    rw [Migration.row, Migration.row, hid, ← hchecksum]
    rfl
  · intro h
    have hknown : (ran.map Migration.row).find? (fun row => !all.any (·.id = row.id)) = none := by
      refine List.find?_eq_none.mpr fun row hrow => ?_
      obtain ⟨m, hm, rfl⟩ := List.mem_map.mp hrow
      obtain ⟨m', hm', heq⟩ := h.rows m hm
      have hany : all.any (·.id = m.row.id) :=
        List.any_eq_true.mpr ⟨m', hm', decide_eq_true (congrArg Row.id heq)⟩
      rw [hany]
      decide
    have hsame : all.find? (fun m => ((ran.map Migration.row).find? (·.id = m.id)).any
        (·.checksum ≠ m.checksum)) = none := by
      refine List.find?_eq_none.mpr fun m hm hany => ?_
      obtain ⟨row, hfind, hne⟩ := (Option.any_eq_true _ _).mp hany
      obtain ⟨m₁, hm₁, hid, rfl⟩ := exists_of_find_row hfind
      obtain ⟨m', hm', heq⟩ := h.rows m₁ hm₁
      have hid' : m'.id = m.id := (congrArg Row.id heq).trans hid
      rw [hall.eq_of_id hm' hm hid'] at heq
      exact of_decide_eq_true hne (congrArg Row.checksum heq).symm
    rw [pending, hknown, hsame, h.todo]
    simp only [any_row]

theorem Matched.mem_todo (h : Matched all ran todo) :
    m ∈ todo ↔ m ∈ all ∧ ∀ m' ∈ ran, m'.id ≠ m.id := by
  simp only [h.todo, List.mem_filter, Bool.not_eq_true', List.any_eq_false, decide_eq_true_eq,
    ne_eq]

theorem Matched.append (h : Matched all ran todo) : Matched all (ran ++ todo) [] := by
  constructor
  · intro m hm
    rcases List.mem_append.mp hm with hm | hm
    · exact h.rows m hm
    · exact ⟨m, (h.mem_todo.mp hm).1, rfl⟩
  · refine (List.filter_eq_nil_iff.mpr fun m hm => ?_).symm
    rw [Bool.not_eq_true', Bool.not_eq_false, List.any_append, Bool.or_eq_true]
    by_cases hany : ran.any (·.id = m.id) = true
    · exact .inl hany
    · refine .inr (List.any_eq_true.mpr ⟨m, h.mem_todo.mpr ⟨hm, ?_⟩, decide_eq_true rfl⟩)
      simpa only [Bool.not_eq_true, List.any_eq_false, decide_eq_true_eq] using hany

theorem Matched.perm (hfree : CollisionFree sha256 builds) (hall : Shipped sha256 builds all)
    (hids : (ran.map (·.id)).Nodup) (hran : ∀ m ∈ ran, Genuine sha256 builds m)
    (h : Matched all ran []) : ran.Perm all := by
  have hsub : ∀ m ∈ ran, m ∈ all := by
    intro m hm
    obtain ⟨m', hm', hrow⟩ := h.rows m hm
    rwa [← (hall.genuine m' hm').eq_of_row hfree (hran m hm) hrow]
  refine (List.perm_ext_iff_of_nodup hids.of_map hall.nodup).mpr fun m => ⟨hsub m, fun hm => ?_⟩
  by_contra hnot
  refine List.not_mem_nil (h.mem_todo.mpr ⟨hm, fun m' hm' hid => hnot ?_⟩)
  rwa [← hall.eq_of_id (hsub m' hm') hm hid]

-- ---------------------------------------------------------------------------
-- The invariant
-- ---------------------------------------------------------------------------

structure ToApply (sha256 : String → String) (builds : List File → Prop) (outOfOrder : Prop)
    (s : State) (todo : List Migration) : Prop where
  present : s.present
  sorted : todo.Pairwise (·.number < ·.number)
  genuine : ∀ m ∈ todo, Genuine sha256 builds m
  new : ∀ m ∈ todo, ∀ m' ∈ s.ran, m'.id ≠ m.id
  above : ¬ outOfOrder → Above todo s.ran

variable (sha256 builds outOfOrder) in
def Task.Fits (s : State) : Task → Prop
  | .idle | .ended => True
  | .locking all | .locked all => Shipped sha256 builds all
  | .created all => s.present ∧ Shipped sha256 builds all
  | .looked all present => s.present ∧ present ∧ Shipped sha256 builds all
  | .applying todo => ToApply sha256 builds outOfOrder s todo
  | .begun m todo | .executed m todo | .inserted m todo =>
    ToApply sha256 builds outOfOrder s (m :: todo)

def Task.Holds : Task → Prop
  | .idle | .locking _ | .ended => False
  | _ => True

structure Inv (sha256 : String → String) (builds : List File → Prop) (outOfOrder : Prop)
    (s : State) : Prop where
  rows : s.rows = s.ran.map Migration.row
  ids : (s.ran.map (·.id)).Nodup
  genuine : ∀ m ∈ s.ran, Genuine sha256 builds m
  present : s.ran ≠ [] → s.present
  sorted : ¬ outOfOrder → s.ran.Pairwise (·.number < ·.number)
  holds : ∀ r, (s.task r).Holds → s.lock = some r
  fits : ∀ r, (s.task r).Fits sha256 builds outOfOrder s

theorem State.Initial.inv (h : s.Initial) : Inv sha256 builds outOfOrder s where
  rows := by rw [h.rows, h.ran, List.map_nil]
  ids := by rw [h.ran]; exact .nil
  genuine := by rw [h.ran]; exact fun m hm => absurd hm List.not_mem_nil
  present := fun hne => absurd h.ran hne
  sorted := fun _ => by rw [h.ran]; exact .nil
  holds := fun r hr => by rw [h.task r] at hr; exact hr.elim
  fits := fun r => by rw [h.task r]; trivial

theorem ToApply.mono (h : ToApply sha256 builds outOfOrder s todo) (hpresent : s'.present)
    (hran : s'.ran = s.ran) : ToApply sha256 builds outOfOrder s' todo :=
  ⟨hpresent, h.sorted, h.genuine, hran ▸ h.new, hran ▸ h.above⟩

theorem Task.Fits.mono (h : t.Fits sha256 builds outOfOrder s)
    (hpresent : s.present → s'.present) (hran : s'.ran = s.ran) :
    t.Fits sha256 builds outOfOrder s' := by
  cases t with
  | idle | ended => trivial
  | locking all | locked all => exact h
  | created all => exact ⟨hpresent h.1, h.2⟩
  | looked all present => exact ⟨hpresent h.1, h.2⟩
  | applying todo => exact ToApply.mono h (hpresent h.present) hran
  | begun m todo | executed m todo | inserted m todo =>
    exact ToApply.mono h (hpresent h.present) hran

theorem Task.Fits.of_not_holds (h : t.Fits sha256 builds outOfOrder s) (hnot : ¬ t.Holds) :
    t.Fits sha256 builds outOfOrder s' := by
  cases t with
  | idle | ended => trivial
  | locking all => exact h
  | _ => exact absurd trivial hnot

section
variable (h : Inv sha256 builds outOfOrder s)
include h

theorem Inv.fits_at (htask : s.task r = t) : t.Fits sha256 builds outOfOrder s :=
  htask ▸ h.fits r

theorem Inv.lock_at (htask : s.task r = t) (hholds : t.Holds) : s.lock = some r :=
  h.holds r (htask ▸ hholds)

theorem Inv.frame (hstore : s'.rows = s.rows ∧ s'.ran = s.ran) (hpresent : s.present → s'.present)
    (hholds : ∀ r, (s'.task r).Holds → s'.lock = some r)
    (hfits : ∀ r, (s'.task r).Fits sha256 builds outOfOrder s) :
    Inv sha256 builds outOfOrder s' where
  rows := by rw [hstore.1, hstore.2, h.rows]
  ids := hstore.2 ▸ h.ids
  genuine := hstore.2 ▸ h.genuine
  present := fun hne => hpresent (h.present (hstore.2 ▸ hne))
  sorted := hstore.2 ▸ h.sorted
  holds := hholds
  fits := fun r => (hfits r).mono hpresent hstore.2

theorem Inv.goto (hfits : t.Fits sha256 builds outOfOrder s)
    (hholds : t.Holds → s.lock = some r) : Inv sha256 builds outOfOrder (s.goto r t) := by
  refine h.frame ⟨rfl, rfl⟩ id (fun r' hr' => ?_) fun r' => ?_
  · by_cases heq : r' = r
    · subst heq
      rw [goto_self] at hr'
      exact hholds hr'
    · rw [goto_of_ne heq] at hr'
      exact h.holds r' hr'
  · by_cases heq : r' = r
    · subst heq
      rwa [goto_self]
    · rw [goto_of_ne heq]
      exact h.fits r'

theorem Inv.leave (r : Run) : Inv sha256 builds outOfOrder (s.leave r) := by
  refine h.frame ⟨rfl, rfl⟩ id (fun r' hr' => ?_) fun r' => ?_
  · by_cases heq : r' = r
    · subst heq
      rw [State.leave, goto_self] at hr'
      exact hr'.elim
    · rw [State.leave, goto_of_ne heq] at hr'
      have hlock : s.lock = some r' := h.holds r' hr'
      have hother : s.lock ≠ some r := by
        rw [hlock]
        exact fun h => heq (Option.some.inj h)
      exact (if_neg hother).trans hlock
  · by_cases heq : r' = r
    · subst heq
      rw [State.leave, goto_self]
      trivial
    · rw [State.leave, goto_of_ne heq]
      exact h.fits r'

theorem Inv.take (hfree : s.lock = none) (r : Run) :
    Inv sha256 builds outOfOrder { s with lock := some r } :=
  h.frame ⟨rfl, rfl⟩ id (fun r' hr' => by cases hfree.symm.trans (h.holds r' hr')) h.fits

theorem Inv.create : Inv sha256 builds outOfOrder { s with present := true } :=
  h.frame ⟨rfl, rfl⟩ (fun _ => rfl) h.holds h.fits

theorem Inv.commit (htask : s.task r = .inserted m todo) :
    Inv sha256 builds outOfOrder ((s.commit m).goto r (.applying todo)) := by
  have hlock : s.lock = some r := h.lock_at htask trivial
  have happly : ToApply sha256 builds outOfOrder s (m :: todo) := h.fits_at htask
  obtain ⟨hfirst, hsorted⟩ := List.pairwise_cons.mp happly.sorted
  constructor
  case rows =>
    show s.rows ++ [m.row] = (s.ran ++ [m]).map Migration.row
    rw [h.rows, List.map_append, List.map_singleton]
  case ids =>
    show ((s.ran ++ [m]).map (·.id)).Nodup
    rw [List.map_append, List.map_singleton, List.nodup_append_comm, List.singleton_append,
      List.nodup_cons]
    refine ⟨fun hmem => ?_, h.ids⟩
    obtain ⟨m', hm', hid⟩ := List.mem_map.mp hmem
    exact happly.new m (List.mem_cons_self ..) m' hm' hid
  case genuine =>
    intro m' hm'
    rcases List.mem_append.mp hm' with hm' | hm'
    · exact h.genuine m' hm'
    · rw [List.mem_singleton.mp hm']
      exact happly.genuine m (List.mem_cons_self ..)
  case present => exact fun _ => happly.present
  case sorted =>
    intro hin
    refine List.pairwise_append.mpr ⟨h.sorted hin, List.pairwise_singleton .., ?_⟩
    intro m₁ hm₁ m₂ hm₂
    rw [List.mem_singleton.mp hm₂]
    exact happly.above hin m (List.mem_cons_self ..) m₁ hm₁
  case holds =>
    intro r' hr'
    by_cases heq : r' = r
    · rwa [heq]
    · rw [goto_of_ne heq] at hr'
      exact h.holds r' hr'
  case fits =>
    intro r'
    by_cases heq : r' = r
    · subst heq
      rw [goto_self]
      refine ⟨happly.present, hsorted, fun m' hm' => happly.genuine m' (.tail _ hm'), ?_, ?_⟩
      · intro m' hm' m₁ hm₁
        rcases List.mem_append.mp hm₁ with hm₁ | hm₁
        · exact happly.new m' (.tail _ hm') m₁ hm₁
        · rw [List.mem_singleton.mp hm₁]
          intro hid
          have hlt := hfirst m' hm'
          rw [Migration.number, Migration.number, hid] at hlt
          exact lt_irrefl _ hlt
      · intro hin m' hm' m₁ hm₁
        rcases List.mem_append.mp hm₁ with hm₁ | hm₁
        · exact happly.above hin m' (.tail _ hm') m₁ hm₁
        · rw [List.mem_singleton.mp hm₁]
          exact hfirst m' hm'
    · rw [goto_of_ne heq]
      refine (h.fits r').of_not_holds fun hr' => heq ?_
      exact Option.some.inj ((h.holds r' hr').symm.trans hlock)

theorem Inv.step (hstep : Step sha256 builds outOfOrder s s') :
    Inv sha256 builds outOfOrder s' := by
  cases hstep with
  | starts r htask hbuild hread =>
    exact h.goto (shipped_of_read hbuild hread) fun hr => hr.elim
  | locks r htask hfree =>
    have hall := h.fits_at htask
    exact (h.take hfree r).goto hall fun _ => rfl
  | creates r htask =>
    have hall := h.fits_at htask
    exact h.create.goto ⟨rfl, hall⟩ fun _ => h.lock_at htask trivial
  | looks r htask =>
    obtain ⟨hpresent, hall⟩ := h.fits_at htask
    exact h.goto ⟨hpresent, hpresent, hall⟩ fun _ => h.lock_at htask trivial
  | reads r htask hpending habove =>
    obtain ⟨hpresent, hlooked, hall⟩ := h.fits_at htask
    rw [if_pos hlooked, h.rows, pending_ok h.ids hall] at hpending
    refine h.goto ⟨hpresent, ?_, fun m hm => ?_, fun m hm => ?_, fun hin => ?_⟩ fun _ =>
      h.lock_at htask trivial
    · rw [hpending.todo]
      exact hall.sorted.filter _
    · exact hall.genuine m (hpending.mem_todo.mp hm).1
    · exact (hpending.mem_todo.mp hm).2
    · by_contra hnot
      exact hin (habove hnot)
  | refuses r | finishes r | fails r => exact h.leave r
  | begins r htask | executes r htask | inserts r htask =>
    have happly := h.fits_at htask
    exact h.goto happly fun _ => h.lock_at htask trivial
  | commits r htask => exact h.commit htask

theorem Inv.steps (hsteps : Steps sha256 builds outOfOrder s s') :
    Inv sha256 builds outOfOrder s' := by
  induction hsteps with
  | refl => exact h
  | step _ hstep ih => exact ih.step hstep

end

-- ---------------------------------------------------------------------------
-- `assertMigrated`
-- ---------------------------------------------------------------------------

/-- The two statements of `applied` see one state: no migration is applied without the table. -/
theorem applied_eq (h : Inv sha256 builds outOfOrder looking)
    (h' : Inv sha256 builds outOfOrder reading) :
    applied looking reading = (lastRead looking reading).ran.map Migration.row := by
  unfold applied lastRead
  split
  · exact h'.rows
  · rename_i habsent
    have hran : looking.ran = [] := by_contra fun hne => habsent (h.present hne)
    rw [hran, List.map_nil]

theorem Inv.lastRead (h : Inv sha256 builds outOfOrder looking)
    (h' : Inv sha256 builds outOfOrder reading) :
    Inv sha256 builds outOfOrder (lastRead looking reading) := by
  unfold Migrating.lastRead
  split
  · exact h'
  · exact h

theorem assertMigrated_ok :
    assertMigrated all looking reading = .ok () ↔
      pending all (applied looking reading) = .ok [] := by
  unfold assertMigrated
  split
  · rename_i e he
    rw [he]
    exact ⟨fun h => (nomatch h), fun h => (nomatch h)⟩
  · rename_i hok
    exact ⟨fun _ => hok, fun _ => rfl⟩
  · rename_i todo hne htodo
    rw [htodo]
    exact ⟨fun h => (nomatch h), fun h => absurd (Except.ok.inj h) hne⟩

/-- Whatever the runs did, an accepted store has applied just what the build ships, each
migration once and with the content that the build ships. -/
theorem accepted_perm (hfree : CollisionFree sha256 builds)
    (h : Inv sha256 builds outOfOrder looking) (h' : Inv sha256 builds outOfOrder reading)
    (hall : Shipped sha256 builds all) (haccepted : assertMigrated all looking reading = .ok ()) :
    (lastRead looking reading).ran.Perm all := by
  have hlast := h.lastRead h'
  rw [assertMigrated_ok, applied_eq h h', pending_ok hlast.ids hall] at haccepted
  exact haccepted.perm hfree hall hlast.ids hlast.genuine

theorem refused_of_lacking (hfree : CollisionFree sha256 builds)
    (h : Inv sha256 builds outOfOrder looking) (h' : Inv sha256 builds outOfOrder reading)
    (hall : Shipped sha256 builds all) (hm : m ∈ all)
    (hlacks : m ∉ (lastRead looking reading).ran) :
    ∃ e, assertMigrated all looking reading = .error e := by
  cases haccepted : assertMigrated all looking reading with
  | error e => exact ⟨e, rfl⟩
  | ok => exact absurd ((accepted_perm hfree h h' hall haccepted).mem_iff.mpr hm) hlacks

theorem eq_of_perm (hperm : ran.Perm all) (hran : ran.Pairwise (·.number < ·.number))
    (hall : all.Pairwise (·.number < ·.number)) : ran = all :=
  hperm.eq_of_pairwise (fun _ _ _ _ hlt hlt' => absurd (hlt.trans hlt') (lt_irrefl _)) hran hall

end Kippu.Migrating
