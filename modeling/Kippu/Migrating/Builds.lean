import Kippu.Migrating.Runs

/-!
# What a build ships

`readMigrations` answers a build's migrations in order of their number, which no two share, each
with the checksum of its SQL.
-/

namespace Kippu.Migrating

variable {sha256 : String → String} {builds : List File → Prop} {directory : List File}
variable {all : List Migration} {m m' : Migration}

/-- A migration that some build ships, with its content's checksum. -/
structure Genuine (sha256 : String → String) (builds : List File → Prop) (m : Migration) :
    Prop where
  checksum : m.checksum = sha256 m.sql
  content : ∃ d, builds d ∧ ∃ f ∈ d, f.content = m.sql

structure Shipped (sha256 : String → String) (builds : List File → Prop)
    (all : List Migration) : Prop where
  sorted : all.Pairwise (·.number < ·.number)
  genuine : ∀ m ∈ all, Genuine sha256 builds m

theorem Genuine.eq_of_row (hfree : CollisionFree sha256 builds) (h : Genuine sha256 builds m)
    (h' : Genuine sha256 builds m') (hrow : m.row = m'.row) : m = m' := by
  obtain ⟨d, hd, f, hf, hsql⟩ := h.content
  obtain ⟨d', hd', f', hf', hsql'⟩ := h'.content
  have hid : m.id = m'.id := congrArg Row.id hrow
  have hchecksum : m.checksum = m'.checksum := congrArg Row.checksum hrow
  have hcontent : m.sql = m'.sql := by
    rw [← hsql, ← hsql']
    refine hfree d d' hd hd' f hf f' hf' ?_
    rw [hsql, hsql', ← h.checksum, ← h'.checksum, hchecksum]
  cases m
  cases m'
  simp_all only

theorem Shipped.nodup (h : Shipped sha256 builds all) : all.Nodup :=
  h.sorted.imp fun hlt heq => absurd (congrArg Migration.number heq) (ne_of_lt hlt)

theorem Shipped.eq_of_id (h : Shipped sha256 builds all) (hm : m ∈ all) (hm' : m' ∈ all)
    (hid : m.id = m'.id) : m = m' := by
  have hnumber : m.number = m'.number := by rw [Migration.number, Migration.number, hid]
  have hnodup : (all.map Migration.number).Nodup :=
    List.pairwise_map.mpr (h.sorted.imp fun hlt => ne_of_lt hlt)
  exact List.inj_on_of_nodup_map hnodup hm hm' hnumber

-- ---------------------------------------------------------------------------
-- File names
-- ---------------------------------------------------------------------------

structure Digits (a b c d : Char) : Prop where
  a : a.isDigit
  b : b.isDigit
  c : c.isDigit
  d : d.isDigit

theorem migrationFile_eq {name number : String} (h : MIGRATION_FILE name = some number) :
    ∃ a b c d rest, name.toList = a :: b :: c :: d :: '_' :: rest ∧
      number = String.ofList [a, b, c, d] ∧ Digits a b c d ∧ 4 ≤ rest.length := by
  unfold MIGRATION_FILE at h
  split at h
  · rename_i a b c d rest hname
    split at h
    · rename_i hrest
      cases h
      obtain ⟨hdigits, hsql, -⟩ := hrest
      simp only [List.all_cons, List.all_nil, Bool.and_true, Bool.and_eq_true] at hdigits
      obtain ⟨ha, hb, hc, hd⟩ := hdigits
      have hsuffix := of_decide_eq_true hsql
      exact ⟨a, b, c, d, rest, hname, rfl, ⟨ha, hb, hc, hd⟩, hsuffix.length_le⟩
    · cases h
  · cases h

theorem codeUnits_digit {c : Char} (h : c.isDigit) :
    Utf16.codeUnits c = [c.toNat] ∧ 48 ≤ c.toNat ∧ c.toNat ≤ 57 := by
  have hrange : 48 ≤ c.toNat ∧ c.toNat ≤ 57 := by
    simpa [Char.isDigit, UInt32.le_iff_toNat_le] using h
  refine ⟨?_, hrange⟩
  rw [Utf16.codeUnits, if_pos (by omega)]

theorem number_lt {a b c d a' b' c' d' : Char} (hd : Digits a b c d) (hd' : Digits a' b' c' d')
    {rest rest' : List ℕ} (hle : ¬ a'.toNat :: b'.toNat :: c'.toNat :: d'.toNat :: rest' <
      a.toNat :: b.toNat :: c.toNat :: d.toNat :: rest)
    (hne : [a, b, c, d] ≠ [a', b', c', d']) :
    Nat.ofDigitChars 10 [a, b, c, d] 0 < Nat.ofDigitChars 10 [a', b', c', d'] 0 := by
  have h₁ := (codeUnits_digit hd.a).2
  have h₂ := (codeUnits_digit hd.b).2
  have h₃ := (codeUnits_digit hd.c).2
  have h₄ := (codeUnits_digit hd.d).2
  have h₁' := (codeUnits_digit hd'.a).2
  have h₂' := (codeUnits_digit hd'.b).2
  have h₃' := (codeUnits_digit hd'.c).2
  have h₄' := (codeUnits_digit hd'.d).2
  have hsome : ¬ (a.toNat = a'.toNat ∧ b.toNat = b'.toNat ∧ c.toNat = c'.toNat ∧
      d.toNat = d'.toNat) := by
    rintro ⟨ha, hb, hc, hd⟩
    rw [Char.toNat_inj] at ha hb hc hd
    subst ha hb hc hd
    exact hne rfl
  simp only [List.cons_lt_cons_iff] at hle
  simp only [Nat.ofDigitChars, List.foldl_cons, List.foldl_nil, Char.reduceToNat]
  omega

-- ---------------------------------------------------------------------------
-- `readMigrations`
-- ---------------------------------------------------------------------------

structure ReadFrom (sha256 : String → String) (file : File) (number : String) (m : Migration) :
    Prop where
  digits : ∃ a b c d rest, file.name.toList = a :: b :: c :: d :: rest ∧ Digits a b c d ∧
    number = String.ofList [a, b, c, d] ∧ m.number = Nat.ofDigitChars 10 [a, b, c, d] 0
  sql : file.content = m.sql
  checksum : m.checksum = sha256 m.sql

theorem readFrom_file {file : File} {number : String} (h : MIGRATION_FILE file.name = some number) :
    ReadFrom sha256 file number
      ⟨String.ofList (stem file.name.toList), file.content, sha256 file.content⟩ := by
  obtain ⟨a, b, c, d, rest, hname, hnumber, hdigits, hlength⟩ := migrationFile_eq h
  refine ⟨⟨a, b, c, d, '_' :: rest, hname, hdigits, hnumber, ?_⟩, rfl, rfl⟩
  have hstem : (stem file.name.toList).take 4 = [a, b, c, d] := by
    rw [stem, hname, List.take_take, List.length_cons, List.length_cons, List.length_cons,
      List.length_cons, List.length_cons, Nat.min_eq_left (by omega)]
    rfl
  rw [Migration.number, String.toList_ofList, hstem]

theorem key_eq {file : File} {a b c d : Char} {rest : List Char}
    (h : file.name.toList = a :: b :: c :: d :: rest) (hdigits : Digits a b c d) :
    file.key = a.toNat :: b.toNat :: c.toNat :: d.toNat :: Utf16.encode rest := by
  rw [File.key, h]
  simp only [Utf16.encode, List.flatMap_cons, (codeUnits_digit hdigits.a).1,
    (codeUnits_digit hdigits.b).1, (codeUnits_digit hdigits.c).1, (codeUnits_digit hdigits.d).1,
    List.singleton_append]

theorem ReadFrom.number_lt {f g : File} {n n' : String} {m m' : Migration}
    (h : ReadFrom sha256 f n m) (h' : ReadFrom sha256 g n' m') (hbefore : f.Before g)
    (hne : n ≠ n') : m.number < m'.number := by
  obtain ⟨a, b, c, d, rest, hname, hdigits, rfl, hnumber⟩ := h.digits
  obtain ⟨a', b', c', d', rest', hname', hdigits', rfl, hnumber'⟩ := h'.digits
  rw [hnumber, hnumber']
  have hle : ¬ g.key < f.key := hbefore
  rw [key_eq hname hdigits, key_eq hname' hdigits'] at hle
  exact Migrating.number_lt hdigits hdigits' hle fun heq => hne (by rw [heq])

theorem readFiles_ok {files : List File} {numbers : List String}
    (hsorted : files.Pairwise File.Before) (h : readFiles sha256 files numbers = .ok all) :
    all.Pairwise (·.number < ·.number) ∧
      ∀ m ∈ all, ∃ f ∈ files, ∃ n, n ∉ numbers ∧ ReadFrom sha256 f n m := by
  induction files generalizing numbers all with
  | nil =>
    cases h
    exact ⟨.nil, fun m hm => absurd hm List.not_mem_nil⟩
  | cons file files ih =>
    obtain ⟨hbefore, hrest⟩ := List.pairwise_cons.mp hsorted
    unfold readFiles at h
    split at h
    · cases h
    rename_i number hnumber
    split at h
    · cases h
    rename_i hnew
    cases hfiles : readFiles sha256 files (number :: numbers) with
    | error e =>
      rw [hfiles] at h
      cases h
    | ok migrations =>
      rw [hfiles] at h
      cases h
      obtain ⟨hpair, hread⟩ := ih hrest hfiles
      have hfirst : ReadFrom sha256 file number _ := readFrom_file hnumber
      constructor
      · refine List.pairwise_cons.mpr ⟨fun m' hm' => ?_, hpair⟩
        obtain ⟨g, hg, n, hn, hm'⟩ := hread m' hm'
        refine hfirst.number_lt hm' (hbefore g hg) ?_
        rintro rfl
        exact hn (List.mem_cons_self ..)
      · refine List.forall_mem_cons.mpr ⟨⟨file, List.mem_cons_self .., number, hnew, hfirst⟩, ?_⟩
        intro m' hm'
        obtain ⟨g, hg, n, hn, hm'⟩ := hread m' hm'
        exact ⟨g, List.mem_cons_of_mem _ hg, n, fun h => hn (List.mem_cons_of_mem _ h), hm'⟩

instance : Std.Total File.Before :=
  ⟨fun f g => (List.le_total f.key g.key).imp List.not_lt.mpr List.not_lt.mpr⟩

instance : IsTrans File File.Before :=
  ⟨fun _ _ _ h h' => List.not_lt.mpr (List.le_trans (List.not_lt.mp h) (List.not_lt.mp h'))⟩

/-- A build ships its migrations in order of their number, which no two share. -/
theorem shipped_of_read (hbuild : builds directory)
    (h : readMigrations sha256 directory = .ok all) : Shipped sha256 builds all := by
  obtain ⟨hsorted, hread⟩ := readFiles_ok (List.pairwise_insertionSort File.Before _) h
  refine ⟨hsorted, fun m hm => ?_⟩
  obtain ⟨f, hf, n, -, hread⟩ := hread m hm
  rw [List.mem_insertionSort] at hf
  exact ⟨hread.checksum, directory, hbuild, f, (List.mem_filter.mp hf).1, hread.sql⟩

end Kippu.Migrating
