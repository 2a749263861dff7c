import Kippu.Migrating.Sound

/-!
# The order migrations are applied in

`pending` looks only for the ids that the store lacks, so a run also applies what is numbered
below a migration that the store has applied. In order or not, it applies all that is pending
where nothing disturbs it, and the store is then accepted.
-/

namespace Kippu.Migrating

variable {sha256 : String → String} {builds : List File → Prop} {outOfOrder : Prop}
variable {directory : List File} {all todo : List Migration}
variable {s s' s'' s₀ : State} {r : Run}

theorem Steps.trans (h : Steps sha256 builds outOfOrder s s')
    (h' : Steps sha256 builds outOfOrder s' s'') : Steps sha256 builds outOfOrder s s'' := by
  induction h' with
  | refl => exact h
  | step _ hstep ih => exact ih.step hstep

-- ---------------------------------------------------------------------------
-- A run that nothing disturbs
-- ---------------------------------------------------------------------------

structure Migrated (r : Run) (todo : List Migration) (s s' : State) : Prop where
  present : s'.present
  ran : s'.ran = s.ran ++ todo
  lock : s'.lock = none
  task : ∀ r' ≠ r, s'.task r' = s.task r'

theorem applies (h : Inv sha256 builds outOfOrder s) (htask : s.task r = .applying todo) :
    ∃ s', Steps sha256 builds outOfOrder s s' ∧ Migrated r todo s s' := by
  induction todo generalizing s with
  | nil =>
    have happly : ToApply sha256 builds outOfOrder s [] := h.fits_at htask
    refine ⟨s.leave r, .step .refl (.finishes r htask), happly.present, ?_,
      if_pos (h.lock_at htask trivial), ?_⟩
    · exact (List.append_nil _).symm
    · exact fun r' hne => goto_of_ne hne
  | cons m todo ih =>
    have happly : ToApply sha256 builds outOfOrder s (m :: todo) := h.fits_at htask
    have hnew : ∀ row ∈ s.rows, row.id ≠ m.id := by
      intro row hrow
      rw [h.rows] at hrow
      obtain ⟨m', hm', rfl⟩ := List.mem_map.mp hrow
      exact happly.new m (List.mem_cons_self ..) m' hm'
    have hsteps : Steps sha256 builds outOfOrder s
        (((((s.goto r (.begun m todo)).goto r (.executed m todo)).goto r
          (.inserted m todo)).commit m).goto r (.applying todo)) :=
      .step (.step (.step (.step .refl (.begins r htask)) (.executes r goto_self))
        (.inserts r goto_self hnew)) (.commits r goto_self)
    obtain ⟨s', hrest, hmigrated⟩ := ih (h.steps hsteps) goto_self
    refine ⟨s', hsteps.trans hrest, hmigrated.present, ?_, hmigrated.lock, fun r' hne => ?_⟩
    · rw [hmigrated.ran]
      exact List.append_assoc s.ran [m] todo
    · rw [hmigrated.task r' hne, goto_of_ne hne]
      exact ((goto_of_ne hne).trans (goto_of_ne hne)).trans (goto_of_ne hne)

theorem migrates (h : Inv sha256 builds outOfOrder s) (hfree : s.lock = none)
    (hidle : s.task r = .idle) (hbuild : builds directory)
    (hread : readMigrations sha256 directory = .ok all) (hpending : pending all s.rows = .ok todo)
    (horder : ¬ Above todo s.ran → outOfOrder) :
    ∃ s', Steps sha256 builds outOfOrder s s' ∧ Migrated r todo s s' := by
  have hlocking : Steps sha256 builds outOfOrder s (s.goto r (.locking all)) :=
    .step .refl (.starts r hidle hbuild hread)
  have hlocked := hlocking.step (.locks r goto_self hfree)
  have hcreated := hlocked.step (.creates r goto_self)
  have hlooked := hcreated.step (.looks r goto_self)
  have hreads := hlooked.step (.reads r goto_self hpending horder)
  obtain ⟨s', hrest, hmigrated⟩ := applies (h.steps hreads) goto_self
  refine ⟨s', hreads.trans hrest, hmigrated.present, hmigrated.ran, hmigrated.lock, ?_⟩
  intro r' hne
  rw [hmigrated.task r' hne]
  simp only [goto_of_ne hne]

-- ---------------------------------------------------------------------------
-- Soundness
-- ---------------------------------------------------------------------------

/-- The build is accepted once the run has applied what was pending, in order just where all of
it is numbered above what was applied before. -/
theorem migrates_accepted (hfree : CollisionFree sha256 builds)
    (h : Inv sha256 builds outOfOrder s) (hlock : s.lock = none) (hidle : s.task r = .idle)
    (hbuild : builds directory) (hread : readMigrations sha256 directory = .ok all)
    (hpending : pending all s.rows = .ok todo) (horder : ¬ Above todo s.ran → outOfOrder) :
    ∃ s', Steps sha256 builds outOfOrder s s' ∧ Migrated r todo s s' ∧
      assertMigrated all s' s' = .ok () ∧ s'.ran.Perm all ∧
      (s'.ran.Pairwise (·.number < ·.number) ↔
        s.ran.Pairwise (·.number < ·.number) ∧ Above todo s.ran) := by
  have hall : Shipped sha256 builds all := shipped_of_read hbuild hread
  obtain ⟨s', hsteps, hmigrated⟩ := migrates h hlock hidle hbuild hread hpending horder
  have h' := h.steps hsteps
  rw [h.rows, pending_ok h.ids hall] at hpending
  have haccepted : assertMigrated all s' s' = .ok () := by
    rw [assertMigrated_ok, applied_eq h' h', lastRead, ite_self, hmigrated.ran,
      pending_ok (hmigrated.ran ▸ h'.ids) hall]
    exact hpending.append
  have hperm := accepted_perm hfree h' h' hall haccepted
  rw [lastRead, ite_self] at hperm
  refine ⟨s', hsteps, hmigrated, haccepted, hperm, ?_⟩
  have htodo : todo.Pairwise (·.number < ·.number) := by
    rw [hpending.todo]
    exact hall.sorted.filter _
  rw [hmigrated.ran, List.pairwise_append]
  exact ⟨fun ⟨hran, _, habove⟩ => ⟨hran, fun m hm m' hm' => habove m' hm' m hm⟩,
    fun ⟨hran, habove⟩ => ⟨hran, htodo, fun m' hm' m hm => habove m hm m' hm'⟩⟩

/-- Whatever runs of whatever builds did, and wherever they failed, an accepted store has applied
just what the build ships. It has in order of number where all runs that went on to apply
migrations found only such as are numbered above what the store had applied, and only there can
a run that nothing disturbs keep the order. -/
theorem migrations_sound (hfree : CollisionFree sha256 builds) (h₀ : s₀.Initial) :
    (∀ looking reading, Steps sha256 builds False s₀ looking →
      Steps sha256 builds False looking reading →
      reading.ran.Pairwise (·.number < ·.number) ∧
      ∀ directory all, builds directory → readMigrations sha256 directory = .ok all →
        (assertMigrated all looking reading = .ok () →
          (lastRead looking reading).ran = all ∧ all.Pairwise (·.number < ·.number)) ∧
        ∀ m ∈ all, m ∉ (lastRead looking reading).ran →
          ∃ e, assertMigrated all looking reading = .error e) ∧
    (∀ looking reading, Steps sha256 builds True s₀ looking →
      Steps sha256 builds True looking reading →
      ∀ directory all, builds directory → readMigrations sha256 directory = .ok all →
        (assertMigrated all looking reading = .ok () → (lastRead looking reading).ran.Perm all) ∧
        ∀ m ∈ all, m ∉ (lastRead looking reading).ran →
          ∃ e, assertMigrated all looking reading = .error e) ∧
    ∀ s r directory all todo, Steps sha256 builds True s₀ s → s.lock = none → s.task r = .idle →
      builds directory → readMigrations sha256 directory = .ok all →
      pending all s.rows = .ok todo →
      ∃ s', Steps sha256 builds True s s' ∧ assertMigrated all s' s' = .ok () ∧
        s'.ran.Perm all ∧
        (s'.ran.Pairwise (·.number < ·.number) ↔
          s.ran.Pairwise (·.number < ·.number) ∧ Above todo s.ran) := by
  refine ⟨fun looking reading hlooking hreading => ?_,
    fun looking reading hlooking hreading directory all hbuild hread => ?_,
    fun s r directory all todo hsteps hlock hidle hbuild hread hpending => ?_⟩
  · have h : Inv sha256 builds False looking := h₀.inv.steps hlooking
    have h' := h.steps hreading
    refine ⟨h'.sorted not_false, fun directory all hbuild hread => ?_⟩
    have hall := shipped_of_read hbuild hread
    refine ⟨fun haccepted => ?_, fun m => refused_of_lacking hfree h h' hall⟩
    have hperm := accepted_perm hfree h h' hall haccepted
    exact ⟨eq_of_perm hperm ((h.lastRead h').sorted not_false) hall.sorted, hall.sorted⟩
  · have h : Inv sha256 builds True looking := h₀.inv.steps hlooking
    have h' := h.steps hreading
    have hall := shipped_of_read hbuild hread
    exact ⟨accepted_perm hfree h h' hall, fun m => refused_of_lacking hfree h h' hall⟩
  · have h : Inv sha256 builds True s := h₀.inv.steps hsteps
    obtain ⟨s', hsteps', -, haccepted⟩ :=
      migrates_accepted hfree h hlock hidle hbuild hread hpending fun _ => trivial
    exact ⟨s', hsteps', haccepted⟩

/-! A first build ships two migrations, and a second one ships one more, numbered between them. -/

def createFirst : File := ⟨"0001_first.sql", "CREATE TABLE first (id int);"⟩
def createSecond : File := ⟨"0002_second.sql", "CREATE TABLE second (id int);"⟩
def createThird : File := ⟨"0003_third.sql", "CREATE TABLE third (id int);"⟩

def digest (content : String) : String :=
  if content = createFirst.content then
    "9306ca57b3a4fb17ae7aa78ad99be9dd1357a32738ef31c6967a59bd2346ee96"
  else if content = createSecond.content then
    "3200b9c29855cdfc36504b0e170c45054d0675626e6262fea052c654a729a1bb"
  else "f8ce4534e33ce1569276ea934152c2f3a131271a5cb094cff3aacafcc0e933e0"

def first : Migration := ⟨"0001_first", createFirst.content, digest createFirst.content⟩
def second : Migration := ⟨"0002_second", createSecond.content, digest createSecond.content⟩
def third : Migration := ⟨"0003_third", createThird.content, digest createThird.content⟩

def twoBuilds (directory : List File) : Prop :=
  directory ∈ [[createFirst, createThird], [createFirst, createSecond, createThird]]

def emptyStore : State := ⟨false, [], [], none, fun _ => .idle⟩

theorem emptyStore_initial : emptyStore.Initial := ⟨rfl, rfl, rfl, rfl, fun _ => rfl⟩

theorem read_first : readMigrations digest [createFirst, createThird] = .ok [first, third] := rfl

theorem read_second :
    readMigrations digest [createFirst, createSecond, createThird] = .ok [first, second, third] :=
  rfl

theorem digest_collisionFree : CollisionFree digest twoBuilds := by
  have hmem : ∀ d, twoBuilds d → ∀ f ∈ d, f ∈ [createFirst, createSecond, createThird] := by
    intro d hd f hf
    rcases List.mem_pair.mp hd with rfl | rfl
    · rcases List.mem_pair.mp hf with rfl | rfl
      · exact List.mem_cons_self ..
      · exact .tail _ (.tail _ (List.mem_cons_self ..))
    · exact hf
  intro d d' hd hd' f hf f' hf'
  have hall : ∀ f ∈ [createFirst, createSecond, createThird],
      ∀ f' ∈ [createFirst, createSecond, createThird],
      digest f.content = digest f'.content → f.content = f'.content := by decide
  exact hall f (hmem d hd f hf) f' (hmem d' hd' f' hf')

/-- The first build is migrated and accepted, and the second is not until it is migrated too, out of
order. -/
theorem migrations_sound_two_builds :
    ∃ s s', Steps digest twoBuilds True emptyStore s ∧
      assertMigrated [first, third] s s = .ok () ∧ s.ran.Pairwise (·.number < ·.number) ∧
      (∃ e, assertMigrated [first, second, third] s s = .error e) ∧
      Steps digest twoBuilds True s s' ∧ assertMigrated [first, second, third] s' s' = .ok () ∧
      s'.ran.Perm [first, second, third] ∧ ¬ s'.ran.Pairwise (·.number < ·.number) := by
  obtain ⟨-, hsound, hmigrates⟩ := migrations_sound digest_collisionFree emptyStore_initial
  have hempty : Inv digest twoBuilds True emptyStore := emptyStore_initial.inv
  have hall : pending [first, third] emptyStore.rows = .ok [first, third] := rfl
  obtain ⟨s, hsteps, hmigrated, haccepted, -, horder⟩ :=
    migrates_accepted (r := 0) digest_collisionFree hempty rfl rfl (List.mem_cons_self ..)
      read_first hall fun _ => trivial
  have h := hempty.steps hsteps
  have hran : s.ran = [first, third] := hmigrated.ran
  have hlacks : second ∉ (lastRead s s).ran := by
    rw [lastRead, ite_self, hran]
    decide
  have hpending : pending [first, second, third] s.rows = .ok [second] := by
    rw [h.rows, hran]
    rfl
  obtain ⟨s', hsteps', haccepted', hperm, horder'⟩ := hmigrates s 1 _ _ [second] hsteps
    hmigrated.lock (hmigrated.task 1 (by decide)) (.tail _ (List.mem_cons_self ..)) read_second
    hpending
  refine ⟨s, s', hsteps, haccepted, horder.mpr ⟨.nil, fun m hm m' hm' => nomatch hm'⟩, ?_,
    hsteps', haccepted', hperm, fun hsorted => ?_⟩
  · exact (hsound s s hsteps .refl _ _ (.tail _ (List.mem_cons_self ..)) read_second).2 second
      (by decide) hlacks
  · have habove := (horder'.mp hsorted).2 second (by decide) third
    rw [hran] at habove
    exact absurd (habove (by decide)) (by decide)

/-- The second build's run applies its second migration after the third, and is accepted. -/
theorem applied_out_of_order :
    ∃ s, Steps digest twoBuilds True emptyStore s ∧
      readMigrations digest [createFirst, createSecond, createThird] =
        .ok [first, second, third] ∧
      assertMigrated [first, second, third] s s = .ok () ∧
      s.ran = [first, third, second] ∧ ¬ s.ran.Pairwise (·.number < ·.number) := by
  have hempty : Inv digest twoBuilds True emptyStore := emptyStore_initial.inv
  have hall : pending [first, third] emptyStore.rows = .ok [first, third] := rfl
  obtain ⟨s, hsteps, hmigrated⟩ := migrates (r := 0) hempty rfl rfl (List.mem_cons_self ..)
    read_first hall fun _ => trivial
  have h := hempty.steps hsteps
  have hran : s.ran = [first, third] := hmigrated.ran
  have hpending : pending [first, second, third] s.rows = .ok [second] := by
    rw [h.rows, hran]
    rfl
  obtain ⟨s', hsteps', hmigrated', haccepted, -, -⟩ :=
    migrates_accepted digest_collisionFree h hmigrated.lock
      (hmigrated.task 1 (by decide)) (.tail _ (List.mem_cons_self ..)) read_second hpending
      fun _ => trivial
  have hran' : s'.ran = [first, third, second] := by rw [hmigrated'.ran, hran]; rfl
  refine ⟨s', hsteps.trans hsteps', read_second, haccepted, hran', ?_⟩
  rw [hran']
  decide

end Kippu.Migrating
