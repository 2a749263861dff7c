import Kippu.Authorities.Runs

/-!
# One organiser has one authority

Whoever has an organiser's row locked finds out, once it has the lock, whether there is a row, and
no one else inserts one meanwhile. What a call does to a row keeps its key, its account and its
registration, so what a call has read of the row still holds of it later; and the key cached under
a reference is the KMS's.
-/

namespace Kippu.Authorities

variable {p256AccountId : Key → AccountId} {process : Call → Process} {s s' s'' t : State}
  {o : OrganiserId} {c : Call} {key : Key} {row row' row'' : AccountRow}

-- ---------------------------------------------------------------------------
-- What no step undoes
-- ---------------------------------------------------------------------------

structure AccountRow.Stays (row row' : AccountRow) : Prop where
  keyRef : row'.keyRef = row.keyRef
  account : row'.account = row.account
  registration : ∀ g, row.registration = some g → row'.registration = some g
  registered : row.registered = true → row'.registered = true

theorem AccountRow.Stays.refl (row : AccountRow) : row.Stays row :=
  ⟨rfl, rfl, fun _ => id, id⟩

theorem AccountRow.Stays.trans (h : row.Stays row') (h' : row'.Stays row'') :
    row.Stays row'' where
  keyRef := h'.keyRef.trans h.keyRef
  account := h'.account.trans h.account
  registration g hg := h'.registration g (h.registration g hg)
  registered hr := h'.registered (h.registered hr)

theorem AccountRow.stays_storeRegistration (row : AccountRow) (registration : Registration) :
    row.Stays (row.storeRegistration registration) where
  keyRef := rfl
  account := rfl
  registration g hg := by simp [storeRegistration, hg]
  registered := id

theorem AccountRow.stays_storeRegistered (row : AccountRow) : row.Stays row.storeRegistered :=
  ⟨rfl, rfl, fun _ => id, fun _ => rfl⟩

structure State.Grows (s t : State) : Prop where
  kms : ∀ keyRef key, s.kms keyRef = some key → t.kms keyRef = some key
  registered : ∀ a, s.registered a = true → t.registered a = true
  rows : ∀ o row, s.rows o = some row → ∃ row', t.rows o = some row' ∧ row.Stays row'

theorem State.Grows.refl (s : State) : s.Grows s where
  kms _ _ := id
  registered _ := id
  rows _ row h := ⟨row, h, .refl row⟩

theorem State.Grows.of_same (hkms : t.kms = s.kms) (hregistered : t.registered = s.registered)
    (hrows : t.rows = s.rows) : s.Grows t where
  kms _ _ h := hkms ▸ h
  registered _ h := hregistered ▸ h
  rows _ row h := ⟨row, hrows ▸ h, .refl row⟩

theorem State.Grows.trans (h : s.Grows s') (h' : s'.Grows s'') : s.Grows s'' where
  kms r k hk := h'.kms r k (h.kms r k hk)
  registered a ha := h'.registered a (h.registered a ha)
  rows o row hrow := by
    obtain ⟨row', hrow', hstays⟩ := h.rows o row hrow
    obtain ⟨row'', hrow'', hstays'⟩ := h'.rows o row' hrow'
    exact ⟨row'', hrow'', hstays.trans hstays'⟩

theorem State.Grows.rowStays (h : s.Grows t) : s.RowStays t := by
  intro o row hrow
  obtain ⟨row', hrow', hstays⟩ := h.rows o row hrow
  exact ⟨row', hrow', hstays.keyRef, hstays.account, hstays.registration⟩

theorem State.grows_createKey {keyRef : KeyRef} (h : s.kms keyRef = none) (key : Key) :
    s.Grows (s.createKey keyRef key) where
  kms r k hk := by
    have hne : r ≠ keyRef := fun heq => by simp [heq ▸ hk] at h
    simpa [createKey, Function.update_of_ne hne] using hk
  registered _ := id
  rows o row hrow := ⟨row, hrow, .refl row⟩

theorem State.grows_setRow (h : s.rows o = none) (row : AccountRow) : s.Grows (s.setRow o row) where
  kms _ _ := id
  registered _ := id
  rows o' row' hrow := by
    have hne : o' ≠ o := fun heq => by simp [heq ▸ hrow] at h
    exact ⟨row', by simpa [setRow, Function.update_of_ne hne] using hrow, .refl row'⟩

theorem State.grows_updateRow (s : State) (o : OrganiserId) {f : AccountRow → AccountRow}
    (hf : ∀ row : AccountRow, row.Stays (f row)) : s.Grows (s.updateRow o f) where
  kms _ _ := id
  registered _ := id
  rows o' row hrow := by
    by_cases heq : o' = o
    · subst heq
      exact ⟨f row, by simp [updateRow, hrow], hf row⟩
    · exact ⟨row, by simpa [updateRow, Function.update_of_ne heq] using hrow, .refl row⟩

theorem State.grows_accept (s : State) (a : AccountId) : s.Grows (s.accept a) where
  kms _ _ := id
  registered a' ha := by
    by_cases heq : a' = a
    · simp [accept, heq]
    · simpa [accept, Function.update_of_ne heq] using ha
  rows _ row hrow := ⟨row, hrow, .refl row⟩

-- ---------------------------------------------------------------------------
-- What each call knows
-- ---------------------------------------------------------------------------

def State.HasRow (s : State) (o : OrganiserId) (row : AccountRow) : Prop :=
  ∃ row', s.rows o = some row' ∧ row.Stays row'

def State.HasKey (s : State) (o : OrganiserId) (key : Key) : Prop :=
  ∃ row, s.rows o = some row ∧ s.kms row.keyRef = some key

def State.IsRegistered (s : State) (o : OrganiserId) : Prop :=
  ∃ row, s.rows o = some row ∧ s.registered row.account = true

/-- A row of a key of the KMS, not registered yet. -/
structure State.Fresh (p256AccountId : Key → AccountId) (s : State) (row : AccountRow) :
    Prop where
  key : ∃ key, s.kms row.keyRef = some key ∧ p256AccountId key = row.account
  registered : row.registered = false

/-- Call `c` has the organiser's row locked, and there is none. -/
def State.Alone (s : State) (c : Call) (o : OrganiserId) : Prop :=
  s.lock o = some c ∧ s.rows o = none

variable (p256AccountId) in
def TaskOk (s : State) (c : Call) : Task → Prop
  | .locked o _ => s.lock o = some c
  | .created o _ keyRef key => s.Alone c o ∧ s.kms keyRef = some key
  | .inserted o _ row => s.Alone c o ∧ s.Fresh p256AccountId row
  | .found o _ row => s.HasRow o row
  | .keyed o _ row key | .registering o _ row key =>
    s.HasRow o row ∧ s.kms row.keyRef = some key
  | .submitted o _ a => ∃ row, s.rows o = some row ∧ row.account = a
  | .accepted o _ | .provisioned o => s.IsRegistered o
  | .read o row => s.HasRow o row ∧ s.IsRegistered o
  | .relaying o key => s.HasKey o key ∧ s.IsRegistered o
  | .selfSigned o _ key _ | .stored o _ key => s.HasKey o key
  | .idle | .locking _ _ | .ended => True

theorem State.HasRow.mono (h : s.HasRow o row) (hg : s.Grows t) : t.HasRow o row := by
  obtain ⟨row', hrow, hstays⟩ := h
  obtain ⟨row'', hrow', hstays'⟩ := hg.rows o row' hrow
  exact ⟨row'', hrow', hstays.trans hstays'⟩

theorem State.HasKey.mono (h : s.HasKey o key) (hg : s.Grows t) : t.HasKey o key := by
  obtain ⟨row, hrow, hkey⟩ := h
  obtain ⟨row', hrow', hstays⟩ := hg.rows o row hrow
  exact ⟨row', hrow', hg.kms _ _ (hstays.keyRef ▸ hkey)⟩

theorem State.IsRegistered.mono (h : s.IsRegistered o) (hg : s.Grows t) : t.IsRegistered o := by
  obtain ⟨row, hrow, hregistered⟩ := h
  obtain ⟨row', hrow', hstays⟩ := hg.rows o row hrow
  exact ⟨row', hrow', hg.registered _ (hstays.account ▸ hregistered)⟩

theorem State.Fresh.mono (h : s.Fresh p256AccountId row) (hg : s.Grows t) :
    t.Fresh p256AccountId row := by
  obtain ⟨key, hkey, haccount⟩ := h.key
  exact ⟨⟨key, hg.kms _ _ hkey, haccount⟩, h.registered⟩

theorem State.HasRow.hasKey (h : s.HasRow o row) (hkey : s.kms row.keyRef = some key) :
    s.HasKey o key := by
  obtain ⟨row', hrow, hstays⟩ := h
  exact ⟨row', hrow, hstays.keyRef ▸ hkey⟩

theorem State.HasRow.of_rows (h : s.rows o = some row) : s.HasRow o row :=
  ⟨row, h, .refl row⟩

-- ---------------------------------------------------------------------------
-- The invariant
-- ---------------------------------------------------------------------------

structure RowOk (p256AccountId : Key → AccountId) (s : State) (row : AccountRow) : Prop where
  key : ∃ key, s.kms row.keyRef = some key ∧ p256AccountId key = row.account
  registered : row.registered = true → s.registered row.account = true

def State.InsertedOnce (s : State) : Prop :=
  s.inserted.Nodup ∧ ∀ o ∈ s.inserted, ∃ row, s.rows o = some row

structure Ok (p256AccountId : Key → AccountId) (s : State) : Prop where
  cache : ∀ p keyRef key, s.cache p keyRef = some key → s.kms keyRef = some key
  rows : ∀ o row, s.rows o = some row → RowOk p256AccountId s row
  inserted : s.InsertedOnce
  signed : s.SignedByRow p256AccountId

structure Inv (p256AccountId : Key → AccountId) (s : State) : Prop where
  ok : Ok p256AccountId s
  task : ∀ c, TaskOk p256AccountId s c (s.task c)

theorem State.Initial.inv (h : s.Initial) : Inv p256AccountId s where
  ok.cache p r k hk := by simp [h.cache] at hk
  ok.rows o row hrow := by simp [h.rows] at hrow
  ok.inserted := by simp [State.InsertedOnce, h.inserted]
  ok.signed x hx := by simp [h.signed] at hx
  task c := by rw [h.task]; trivial

/-- What call `c` has locked stays locked, and no one else inserts a row there. -/
def KeepsLock (c : Call) (s t : State) : Prop :=
  ∀ o, s.lock o = some c → t.lock o = some c ∧ (s.rows o = none → t.rows o = none)

theorem TaskOk.mono {task : Task} (h : TaskOk p256AccountId s c task) (hg : s.Grows t)
    (hlock : KeepsLock c s t) : TaskOk p256AccountId t c task := by
  have halone : ∀ o, s.Alone c o → t.Alone c o := fun o ha =>
    ⟨(hlock o ha.1).1, (hlock o ha.1).2 ha.2⟩
  cases task with
  | locked o => exact (hlock o h).1
  | created o _ keyRef key => exact ⟨halone o h.1, hg.kms _ _ h.2⟩
  | inserted o _ row => exact ⟨halone o h.1, h.2.mono hg⟩
  | found => exact State.HasRow.mono h hg
  | keyed | registering => exact ⟨h.1.mono hg, hg.kms _ _ h.2⟩
  | selfSigned | stored => exact State.HasKey.mono h hg
  | submitted o _ a =>
    obtain ⟨row, hrow, ha⟩ := h
    obtain ⟨row', hrow', hstays⟩ := hg.rows o row hrow
    exact ⟨row', hrow', hstays.account.trans ha⟩
  | accepted | provisioned => exact State.IsRegistered.mono h hg
  | read | relaying => exact ⟨h.1.mono hg, h.2.mono hg⟩
  | idle | locking | ended => trivial

theorem RowOk.mono (h : RowOk p256AccountId s row) (hg : s.Grows t) :
    RowOk p256AccountId t row := by
  obtain ⟨key, hkey, haccount⟩ := h.key
  exact ⟨⟨key, hg.kms _ _ hkey, haccount⟩, hg.registered _ ∘ h.registered⟩

theorem signedByRow_mono (h : s.SignedByRow p256AccountId) (hg : s.Grows t)
    (hsigned : t.signed = s.signed) : t.SignedByRow p256AccountId := by
  intro x hx
  obtain ⟨row, hrow, hkey, haccount, hcommand⟩ := h x (hsigned ▸ hx)
  obtain ⟨row', hrow', hstays⟩ := hg.rows _ row hrow
  refine ⟨row', hrow', hg.kms _ _ (hstays.keyRef ▸ hkey), haccount.trans hstays.account.symm, ?_⟩
  cases hc : x.command with
  | registerCredential a g =>
    simp only [hc] at hcommand
    exact ⟨hcommand.1.trans hstays.account.symm, hstays.registration g hcommand.2⟩
  | write => simpa [hc] using hcommand

theorem State.InsertedOnce.mono (h : s.InsertedOnce) (hg : s.Grows t)
    (hinserted : t.inserted = s.inserted) : t.InsertedOnce := by
  refine ⟨hinserted ▸ h.1, fun o ho => ?_⟩
  obtain ⟨row, hrow⟩ := h.2 o (hinserted ▸ ho)
  obtain ⟨row', hrow', -⟩ := hg.rows o row hrow
  exact ⟨row', hrow'⟩

theorem Ok.grow (h : Ok p256AccountId s) (hg : s.Grows t)
    (hcache : ∀ p r k, t.cache p r = some k → t.kms r = some k)
    (hrows : ∀ o row, t.rows o = some row → RowOk p256AccountId t row)
    (hinserted : t.inserted = s.inserted) (hsigned : t.signed = s.signed) : Ok p256AccountId t :=
  ⟨hcache, hrows, h.inserted.mono hg hinserted, signedByRow_mono h.signed hg hsigned⟩

theorem State.grows_goto (s : State) (c : Call) (task : Task) : s.Grows (s.goto c task) :=
  .of_same rfl rfl rfl

structure Moves (p256AccountId : Key → AccountId) (c : Call) (s t : State) : Prop where
  grows : s.Grows t
  lock : ∀ c', c' ≠ c → KeepsLock c' s t
  ok : Ok p256AccountId t
  task : t.task = s.task

theorem Moves.refl (hok : Ok p256AccountId s) (c : Call) : Moves p256AccountId c s s :=
  ⟨.refl s, fun _ _ _ h => ⟨h, id⟩, hok, rfl⟩

theorem Moves.trans (h : Moves p256AccountId c s s') (h' : Moves p256AccountId c s' s'') :
    Moves p256AccountId c s s'' where
  grows := h.grows.trans h'.grows
  lock c' hne o hlock := by
    obtain ⟨hlock', hrows⟩ := h.lock c' hne o hlock
    obtain ⟨hlock'', hrows'⟩ := h'.lock c' hne o hlock'
    exact ⟨hlock'', hrows' ∘ hrows⟩
  ok := h'.ok
  task := h'.task.trans h.task

theorem Inv.move {task : Task} (hi : Inv p256AccountId s) (hm : Moves p256AccountId c s t)
    (htask : TaskOk p256AccountId t c task) :
    Inv p256AccountId (t.goto c task) ∧ s.Grows (t.goto c task) := by
  have hg := t.grows_goto c task
  have hlock : ∀ c', KeepsLock c' t (t.goto c task) := fun _ _ h => ⟨h, id⟩
  refine ⟨⟨hm.ok.grow hg hm.ok.cache (fun o row hrow => (hm.ok.rows o row hrow).mono hg) rfl rfl,
    fun c' => ?_⟩, hm.grows.trans hg⟩
  by_cases heq : c' = c
  · subst heq
    simpa [State.goto] using htask.mono hg (hlock c')
  · have hold := ((hi.task c').mono hm.grows (hm.lock c' heq)).mono hg (hlock c')
    simpa [State.goto, hm.task, Function.update_of_ne heq] using hold

theorem Inv.keep (hi : Inv p256AccountId s) (hg : s.Grows t) (hok : Ok p256AccountId t)
    (hlock : ∀ c, KeepsLock c s t) (htask : t.task = s.task) :
    Inv p256AccountId t ∧ s.Grows t :=
  ⟨⟨hok, fun c => htask ▸ (hi.task c).mono hg (hlock c)⟩, hg⟩

-- ---------------------------------------------------------------------------
-- One statement
-- ---------------------------------------------------------------------------

theorem State.keyOf_eq {p : Process} {keyRef : KeyRef} (hok : Ok p256AccountId s)
    (h : s.keyOf p keyRef = some key) : s.kms keyRef = some key := by
  cases hcache : s.cache p keyRef with
  | none => simpa [keyOf, hcache] using h
  | some k =>
    have hk : k = key := by simpa [keyOf, hcache] using h
    exact hk ▸ hok.cache p keyRef k hcache

theorem Ok.of_same (h : Ok p256AccountId s) (hg : s.Grows t) (hcache : t.cache = s.cache)
    (hrows : t.rows = s.rows) (hinserted : t.inserted = s.inserted)
    (hsigned : t.signed = s.signed) : Ok p256AccountId t :=
  h.grow hg (fun p r k hk => hg.kms r k (h.cache p r k (hcache ▸ hk)))
    (fun o row hrow => (h.rows o row (hrows ▸ hrow)).mono hg) hinserted hsigned

theorem moves_lockOrganiser (hok : Ok p256AccountId s) (h : s.lock o = none) (c : Call) :
    Moves p256AccountId c s (s.lockOrganiser c o) where
  grows := .of_same rfl rfl rfl
  lock c' _ o' hlock := by
    have hne : o' ≠ o := fun heq => by simp [heq ▸ hlock] at h
    exact ⟨by simpa [State.lockOrganiser, Function.update_of_ne hne] using hlock, id⟩
  ok := hok.of_same (.of_same rfl rfl rfl) rfl rfl rfl rfl
  task := rfl

theorem moves_unlock (hok : Ok p256AccountId s) (c : Call) :
    Moves p256AccountId c s (s.unlock c) where
  grows := .of_same rfl rfl rfl
  lock c' hne o hlock := ⟨by simp [State.unlock, hlock, hne], id⟩
  ok := hok.of_same (.of_same rfl rfl rfl) rfl rfl rfl rfl
  task := rfl

theorem moves_createKey {keyRef : KeyRef} (hok : Ok p256AccountId s) (h : s.kms keyRef = none)
    (c : Call) (key : Key) : Moves p256AccountId c s (s.createKey keyRef key) where
  grows := State.grows_createKey h key
  lock _ _ _ hlock := ⟨hlock, id⟩
  ok := hok.of_same (State.grows_createKey h key) rfl rfl rfl rfl
  task := rfl

theorem moves_cached {keyRef : KeyRef} (hok : Ok p256AccountId s) (c : Call) (p : Process)
    (hkey : s.kms keyRef = some key) : Moves p256AccountId c s (s.cached p keyRef key) where
  grows := .of_same rfl rfl rfl
  lock _ _ _ hlock := ⟨hlock, id⟩
  task := rfl
  ok := by
    have hg : s.Grows (s.cached p keyRef key) :=
      .of_same rfl rfl rfl
    refine hok.grow hg (fun p' r k hk => ?_) (fun o row hrow => (hok.rows o row hrow).mono hg)
      rfl rfl
    by_cases hp : p' = p
    · subst hp
      by_cases hr : r = keyRef
      · subst hr
        have : key = k := by simpa [State.cached] using hk
        exact this ▸ hkey
      · exact hok.cache p' r k (by simpa [State.cached, Function.update_of_ne hr] using hk)
    · exact hok.cache p' r k (by simpa [State.cached, Function.update_of_ne hp] using hk)

theorem Ok.restart (h : Ok p256AccountId s) (p : Process) : Ok p256AccountId (s.restart p) := by
  have hg : s.Grows (s.restart p) :=
    .of_same rfl rfl rfl
  refine h.grow hg (fun p' r k hk => ?_) (fun o row hrow => (h.rows o row hrow).mono hg) rfl rfl
  by_cases hp : p' = p
  · simp [State.restart, hp] at hk
  · exact h.cache p' r k (by simpa [State.restart, Function.update_of_ne hp] using hk)

theorem moves_setRow (hok : Ok p256AccountId s) (h : s.Alone c o)
    (hrow : s.Fresh p256AccountId row) : Moves p256AccountId c s (s.setRow o row) where
  grows := State.grows_setRow h.2 row
  lock c' hne o' hlock := by
    have hno : o' ≠ o := fun heq => hne (by simpa [heq ▸ hlock] using h.1)
    exact ⟨hlock, by simp [State.setRow, Function.update_of_ne hno]⟩
  task := rfl
  ok := by
    have hg := State.grows_setRow h.2 row
    refine ⟨hok.cache, fun o' row' hrow' => ?_, ⟨?_, fun o' ho' => ?_⟩,
      signedByRow_mono hok.signed hg rfl⟩
    · by_cases heq : o' = o
      · subst heq
        have : row = row' := by simpa [State.setRow] using hrow'
        exact this ▸ ⟨hrow.key, by simp [hrow.registered]⟩
      · refine (hok.rows o' row' ?_).mono hg
        simpa [State.setRow, Function.update_of_ne heq] using hrow'
    · have hnot : o ∉ s.inserted := fun hmem => by
        obtain ⟨row', hrow'⟩ := hok.inserted.2 o hmem
        simp [h.2] at hrow'
      exact List.nodup_append.mpr ⟨hok.inserted.1, List.nodup_singleton o,
        fun o' ho' _ hmem heq => hnot (List.mem_singleton.mp hmem ▸ heq ▸ ho')⟩
    · cases List.mem_append.mp ho' with
      | inl hold =>
        obtain ⟨row', hrow'⟩ := hok.inserted.2 o' hold
        obtain ⟨row'', hrow'', -⟩ := hg.rows o' row' hrow'
        exact ⟨row'', hrow''⟩
      | inr hnew => exact ⟨row, by simp [State.setRow, List.mem_singleton.mp hnew]⟩

theorem moves_updateRow {f : AccountRow → AccountRow} (hok : Ok p256AccountId s) (c : Call)
    (hf : ∀ row : AccountRow, row.Stays (f row))
    (hrow : ∀ row, s.rows o = some row → RowOk p256AccountId s (f row)) :
    Moves p256AccountId c s (s.updateRow o f) where
  grows := s.grows_updateRow o hf
  lock c' _ o' hlock := by
    refine ⟨hlock, fun hnone => ?_⟩
    by_cases heq : o' = o
    · subst heq
      simp [State.updateRow, hnone]
    · simpa [State.updateRow, Function.update_of_ne heq] using hnone
  task := rfl
  ok := by
    have hg := s.grows_updateRow o hf
    refine hok.grow hg hok.cache (fun o' row' hrow' => ?_) rfl rfl
    by_cases heq : o' = o
    · subst heq
      obtain ⟨row, hold, rfl⟩ : ∃ row, s.rows o' = some row ∧ f row = row' := by
        simpa [State.updateRow] using hrow'
      exact (hrow row hold).mono hg
    · refine (hok.rows o' row' ?_).mono hg
      simpa [State.updateRow, Function.update_of_ne heq] using hrow'

theorem moves_sign (command : Command) (hok : Ok p256AccountId s) (c : Call)
    (hrow : s.rows o = some row) (hkey : s.kms row.keyRef = some key)
    (hcommand : match command with
      | .registerCredential a g => a = row.account ∧ row.registration = some g
      | .write => s.registered row.account = true) :
    Moves p256AccountId c s (s.sign p256AccountId o key command) where
  grows := .of_same rfl rfl rfl
  lock _ _ _ hlock := ⟨hlock, id⟩
  task := rfl
  ok.cache := hok.cache
  ok.rows o' row' hrow' := ⟨(hok.rows o' row' hrow').key, (hok.rows o' row' hrow').registered⟩
  ok.inserted := hok.inserted
  ok.signed x hx := by
    cases List.mem_append.mp hx with
    | inl hold => exact hok.signed x hold
    | inr hnew =>
      obtain rfl := List.mem_singleton.mp hnew
      obtain ⟨k, hk, haccount⟩ := (hok.rows o row hrow).key
      obtain rfl : k = key := Option.some.inj (hk.symm.trans hkey)
      refine ⟨row, hrow, hkey, haccount, ?_⟩
      cases command with
      | registerCredential => exact hcommand
      | write => simpa [haccount] using hcommand

theorem moves_submit (hok : Ok p256AccountId s) (c : Call) (a : AccountId) :
    Moves p256AccountId c s (s.submit a) where
  grows := .of_same rfl rfl rfl
  lock _ _ _ hlock := ⟨hlock, id⟩
  task := rfl
  ok := hok.of_same (.of_same rfl rfl rfl) rfl rfl rfl rfl

-- ---------------------------------------------------------------------------
-- One step
-- ---------------------------------------------------------------------------

theorem taskOk_afterProvision (h : s.IsRegistered o) (write : Bool) :
    TaskOk p256AccountId s c (afterProvision o write) := by
  cases write
  · trivial
  · exact h

theorem Ok.isRegistered (hok : Ok p256AccountId s) (h : s.HasRow o row)
    (hregistered : row.registered = true) : s.IsRegistered o := by
  obtain ⟨row', hrow, hstays⟩ := h
  exact ⟨row', hrow, (hok.rows o row' hrow).registered (hstays.registered hregistered)⟩

theorem Step.inv (hi : Inv p256AccountId s) (h : Step p256AccountId process s s') :
    Inv p256AccountId s' ∧ s.Grows s' := by
  have hok := hi.ok
  have hat : ∀ {c tk}, s.task c = tk → TaskOk p256AccountId s c tk := fun h => h ▸ hi.task _
  cases h with
  | reads c o write hc hrow => exact hi.move (.refl hok c) (State.HasRow.of_rows hrow)
  | readsNone c => exact hi.move (.refl hok c) trivial
  | locks c hc hfree =>
    exact hi.move (moves_lockOrganiser hok hfree c) (by simp [TaskOk, State.lockOrganiser])
  | readsAgain c hc hrow =>
    exact hi.move (moves_unlock hok c) (State.HasRow.of_rows hrow)
  | creates c keyRef key hc hrow hnone =>
    have hcreate := moves_createKey hok hnone c key
    have hkey : (s.createKey keyRef key).kms keyRef = some key := by simp [State.createKey]
    exact hi.move (hcreate.trans (moves_cached hcreate.ok c _ hkey)) ⟨⟨hat hc, hrow⟩, hkey⟩
  | inserts c hc hrow =>
    obtain ⟨halone, hkey⟩ := hat hc
    exact hi.move (.refl hok c) ⟨halone, ⟨_, hkey, rfl⟩, rfl⟩
  | commits c hc =>
    obtain ⟨halone, hfresh⟩ := hat hc
    have hset := moves_setRow hok halone hfresh
    exact hi.move (hset.trans (moves_unlock hset.ok c))
      (State.HasRow.of_rows (by simp [State.unlock, State.setRow]))
  | registeredAlready c hc hregistered =>
    exact hi.move (.refl hok c) (taskOk_afterProvision (hok.isRegistered (hat hc) hregistered) _)
  | findsKey c key hc _ hkey =>
    have hkms := State.keyOf_eq hok hkey
    exact hi.move (moves_cached hok c _ hkms) ⟨hat hc, hkms⟩
  | signsRegistration c signature hc _ =>
    obtain ⟨hrow, hkey⟩ := hat hc
    exact hi.move (.refl hok c) (hrow.hasKey hkey)
  | @storesRegistration o _ _ registration c hc =>
    have hm : Moves p256AccountId c s (s.updateRow o (·.storeRegistration registration)) :=
      moves_updateRow hok c (·.stays_storeRegistration registration)
        (fun row hrow => ⟨(hok.rows o row hrow).key, (hok.rows o row hrow).registered⟩)
    exact hi.move hm (State.HasKey.mono (hat hc) hm.grows)
  | readsRegistration c hc hrow =>
    obtain ⟨row, hrow', hkey⟩ := hat hc
    obtain rfl : row = _ := Option.some.inj (hrow'.symm.trans hrow)
    exact hi.move (.refl hok c) ⟨State.HasRow.of_rows hrow, hkey⟩
  | hasRegistration c hc _ =>
    obtain ⟨hrow, hkey⟩ := hat hc
    exact hi.move (.refl hok c) ⟨hrow, hkey⟩
  | signsRegister c hc hregistration =>
    obtain ⟨hrow, hkey⟩ := hat hc
    obtain ⟨row', hrow', hstays⟩ := hrow
    have hm := moves_sign (.registerCredential _ _) hok c hrow' (hstays.keyRef ▸ hkey)
      ⟨hstays.account.symm, hstays.registration _ hregistration⟩
    exact hi.move (hm.trans (moves_submit hm.ok c _)) ⟨row', hrow', hstays.account⟩
  | accepts a _ =>
    have hg := s.grows_accept a
    exact hi.keep hg (hok.of_same hg rfl rfl rfl rfl) (fun _ _ h => ⟨h, id⟩) rfl
  | hears c hc hregistered =>
    obtain ⟨row, hrow, rfl⟩ := hat hc
    exact hi.move (.refl hok c) ⟨row, hrow, hregistered⟩
  | storesRegistered c hc =>
    obtain ⟨row, hrow, hregistered⟩ := hat hc
    have hm := moves_updateRow hok c AccountRow.stays_storeRegistered (fun row' hrow' =>
      ⟨(hok.rows _ row' hrow').key, fun _ => by
        obtain rfl : row = row' := Option.some.inj (hrow.symm.trans hrow')
        exact hregistered⟩)
    exact hi.move hm (taskOk_afterProvision (State.IsRegistered.mono ⟨row, hrow, hregistered⟩
      hm.grows) _)
  | readsRow c hc hrow =>
    exact hi.move (.refl hok c) ⟨State.HasRow.of_rows hrow, hat hc⟩
  | findsItsKey c key hc hkey =>
    have hkms := State.keyOf_eq hok hkey
    obtain ⟨hrow, hregistered⟩ := hat hc
    exact hi.move (moves_cached hok c _ hkms) ⟨hrow.hasKey hkms, hregistered⟩
  | signs c hc =>
    obtain ⟨⟨row, hrow, hkey⟩, row', hrow', hregistered⟩ := hat hc
    obtain rfl : row = row' := Option.some.inj (hrow.symm.trans hrow')
    have hm := moves_sign .write hok c hrow hkey hregistered
    exact hi.keep hm.grows hm.ok (fun _ _ h => ⟨h, id⟩) rfl
  | stops c => exact hi.move (moves_unlock hok c) trivial
  | restarts p =>
    exact hi.keep (.of_same rfl rfl rfl)
      (hok.restart p) (fun _ _ h => ⟨h, id⟩) rfl

theorem Steps.inv (hi : Inv p256AccountId s) (h : Steps p256AccountId process s s') :
    Inv p256AccountId s' ∧ s.Grows s' := by
  induction h with
  | refl => exact ⟨hi, .refl s⟩
  | step _ hstep ih =>
    obtain ⟨hinv, hgrows⟩ := hstep.inv ih.1
    exact ⟨hinv, ih.2.trans hgrows⟩

/-- Whatever requests an organiser has at once, and wherever they fail or their processes stop. -/
theorem one_authority (h₀ : s.Initial) (h : Steps p256AccountId process s s')
    (h' : Steps p256AccountId process s' s'') :
    s''.inserted.Nodup ∧ s'.RowStays s'' ∧ s''.SignedByRow p256AccountId := by
  obtain ⟨hi, -⟩ := h.inv h₀.inv
  obtain ⟨hi', hgrows⟩ := h'.inv hi
  exact ⟨hi'.ok.inserted.1, hgrows.rowStays, hi'.ok.signed⟩

def State.start : State where
  rows _ := none
  inserted := []
  lock _ := none
  kms _ := none
  cache _ _ := none
  submitted _ := false
  registered _ := false
  signed := []
  task _ := .idle

theorem State.initial_start : State.start.Initial :=
  ⟨fun _ => rfl, rfl, fun _ _ => rfl, rfl, fun _ => rfl⟩

/-- Two first requests at once, in two processes: the second finds the first's row. -/
theorem one_authority_two : ∃ s' : State,
    s'.inserted = [1] ∧ s'.rows 1 = some ⟨7, 5, some ⟨5, 0⟩, true⟩ ∧
    s'.signed.map Signing.command = [.registerCredential 5 ⟨5, 0⟩, .write] ∧
    s'.SignedByRow id := by
  have h₁ : Steps id id State.start _ :=
    (((Steps.refl.step (.readsNone 0 1 true rfl rfl)).step (.readsNone 1 1 true rfl rfl)).step
      (.locks 0 rfl rfl)).step (.creates 0 7 5 rfl rfl rfl)
  have h₂ := (((h₁.step (.inserts 0 rfl rfl)).step (.commits 0 rfl)).step
    (.locks 1 rfl rfl)).step (.readsAgain 1 rfl rfl)
  have h₃ := ((((h₂.step (.findsKey 1 5 rfl rfl rfl)).step (.signsRegistration 1 0 rfl rfl)).step
    (.storesRegistration 1 rfl)).step (.readsRegistration 1 rfl rfl)).step
    (.signsRegister 1 rfl rfl)
  have h₄ := ((h₃.step (.accepts 5 rfl)).step (.hears 1 rfl rfl)).step (.storesRegistered 1 rfl)
  have h₅ := ((h₄.step (.readsRow 1 rfl rfl)).step (.findsItsKey 1 5 rfl rfl)).step (.signs 1 rfl)
  exact ⟨_, rfl, rfl, rfl, (one_authority State.initial_start .refl h₅).2.2⟩

end Kippu.Authorities
