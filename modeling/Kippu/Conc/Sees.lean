import Kippu.Conc.Prog

/-!
# What a program sees

A program may end with a result where its operations answer so; any of them may answer anything
of its type, as other processes act between them. The snapshots that its statements saw are noted.
-/

namespace Conc

variable {Db Key Err : Type} {Call : Type → Type}

def Op.saw : {β : Type} → Op Db Key Call β → Except Err β → List Db
  | _, .scan _, .ok (db, _) => [db]
  | _, _, _ => []

/-- The program may end with `r`, its statements having seen the snapshots `seen`. -/
inductive Prog.Sees : Prog Db Key Call Err α → List Db → Except Err α → Prop
  | done : Prog.Sees (.done r) [] r
  | call (x : Except Err β) : Prog.Sees (next x) seen r →
      Prog.Sees (.call op next) (op.saw x ++ seen) r

namespace Prog.Sees

variable {m : Prog Db Key Call Err α} {seen : List Db}

theorem andThen {f : Except Err α → Prog Db Key Call Err β} {r : Except Err β}
    (h : (m.andThen f).Sees seen r) :
    ∃ seen₁ seen₂ x, m.Sees seen₁ x ∧ (f x).Sees seen₂ r ∧ seen = seen₁ ++ seen₂ := by
  induction m generalizing seen with
  | done x => exact ⟨[], seen, x, .done, h, rfl⟩
  | call op next ih =>
    cases h with
    | call x h =>
      obtain ⟨seen₁, seen₂, y, hm, hf, rfl⟩ := ih x h
      exact ⟨_, seen₂, y, .call x hm, hf, (List.append_assoc ..).symm⟩

theorem bind {f : α → Prog Db Key Call Err β} {b : β} (h : (m >>= f).Sees seen (.ok b)) :
    ∃ seen₁ seen₂ a, m.Sees seen₁ (.ok a) ∧ (f a).Sees seen₂ (.ok b) ∧ seen = seen₁ ++ seen₂ := by
  obtain ⟨seen₁, seen₂, x, hm, hf, heq⟩ := andThen h
  cases x with
  | ok a => exact ⟨seen₁, seen₂, a, hm, hf, heq⟩
  | error e => cases hf

theorem of_bind {f : α → Prog Db Key Call Err β} {a : α} {r : Except Err β} {seen₁ seen₂ : List Db}
    (hm : m.Sees seen₁ (.ok a)) (hf : (f a).Sees seen₂ r) : (m >>= f).Sees (seen₁ ++ seen₂) r := by
  generalize hok : Except.ok a = x at hm
  induction hm with
  | done =>
    subst hok
    exact hf
  | call y _ ih =>
    rw [List.append_assoc]
    exact .call y (ih hok)

theorem pure {a : α} {r : Except Err α} (h : (Pure.pure a : Prog Db Key Call Err α).Sees seen r) :
    r = .ok a := by
  cases h
  rfl

theorem raise {e : Err} {a : α} : ¬ (Prog.raise e : Prog Db Key Call Err α).Sees seen (.ok a) := by
  intro h
  cases h

theorem attempt {r : Except Err α} (h : m.attempt.Sees seen (.ok r)) : m.Sees seen r := by
  obtain ⟨seen₁, seen₂, x, hm, hf, rfl⟩ := andThen h
  cases hf
  rwa [List.append_nil]

theorem read {f : Db → α} {a : α} (h : (Prog.read f : Prog Db Key Call Err α).Sees seen (.ok a)) :
    ∃ db ∈ seen, f db = a := by
  obtain ⟨seen₁, seen₂, ⟨db, ids⟩, hscan, hpure, rfl⟩ := bind h
  cases pure hpure
  cases hscan with
  | call x hx =>
    cases hx
    exact ⟨db, List.mem_append_left _ (List.mem_append_left _ (List.mem_cons_self ..)), rfl⟩

theorem abandon {e : Err} {a : α} :
    ¬ (Prog.abandon e : Prog Db Key Call Err α).Sees seen (.ok a) := by
  intro h
  obtain ⟨_, _, undone, -, hrelease, -⟩ := bind h
  obtain ⟨_, _, u, -, hend, -⟩ := bind hrelease
  cases undone <;> exact raise hend

theorem transactionWith {undo : α → Bool} {a : α} {committed : Except Err Unit}
    (h : (Prog.transactionWith undo m).Sees seen (.ok (a, committed))) :
    ∃ seen', m.Sees seen' (.ok a) ∧ seen' ⊆ seen := by
  obtain ⟨seen₁, _, u, -, hrest, rfl⟩ := bind h
  obtain ⟨_, seen₂, r, hattempt, hend, rfl⟩ := bind hrest
  have hbody := attempt hattempt
  cases r with
  | error e => exact absurd hend abandon
  | ok a' =>
    obtain ⟨seen₃, seen', v, -, hm, rfl⟩ := bind hbody
    obtain ⟨_, _, c, -, hpure, rfl⟩ := bind hend
    cases pure hpure
    refine ⟨seen', hm, fun db hdb => List.mem_append_right _ (List.mem_append_left _ ?_)⟩
    exact List.mem_append_right _ hdb

theorem transaction {a : α} (h : (Prog.transaction m).Sees seen (.ok a)) :
    ∃ seen', m.Sees seen' (.ok a) ∧ seen' ⊆ seen := by
  obtain ⟨seen₁, seen₂, ⟨a', committed⟩, hwith, hend, rfl⟩ := bind h
  obtain ⟨seen', hm, hsub⟩ := transactionWith hwith
  cases committed with
  | error e => exact absurd hend raise
  | ok u =>
    cases pure hend
    exact ⟨seen', hm, fun db hdb => List.mem_append_left _ (hsub hdb)⟩

theorem of_transaction_read (f : Db → α) (db : Db) :
    (Prog.transaction (Prog.read f) : Prog Db Key Call Err α).Sees [db] (.ok (f db)) :=
  .call (.ok ()) <| .call (.ok ()) <| .call (.ok (db, [])) <| .call (.ok ()) <|
    .call (.ok ()) .done

theorem foldEach {P : γ → Prop} {f : γ → β → Prog Db Key Call Err γ} {xs : List β} {b c : γ}
    (hkeep : ∀ b x, ∀ seen c, x ∈ xs → P b → (f b x).Sees seen (.ok c) → P c) (hb : P b)
    (h : (Prog.foldEach xs b f).Sees seen (.ok c)) : P c := by
  induction xs generalizing b seen with
  | nil =>
    cases pure h
    exact hb
  | cons x xs ih =>
    obtain ⟨seen₁, seen₂, b', hx, hrest, rfl⟩ := bind h
    exact ih (fun b x seen c hmem => hkeep b x seen c (.tail _ hmem))
      (hkeep b x _ b' (List.mem_cons_self ..) hb hx) hrest

end Prog.Sees

end Conc
