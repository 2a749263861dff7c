import Kippu.Conc.System

/-!
# Programs served

What a program answers when no other process runs and the operations it performs have
outcomes of a kind: it can go on at every operation, and every outcome of the kind leads
to the answer. The store it sees is followed through its statements, inside a transaction
and outside one.
-/

namespace Conc

variable {Db Env Key Err : Type} {Call : Type → Type}

def Op.Plain : Op Db Key Call α → Prop
  | .ext _ | .scan _ => False
  | _ => True

abbrev Fair (Db Env Key : Type) (Call : Type → Type) : Type 1 :=
  (β : Type) → Op Db Key Call β → Outcome → Shared Db Env → Prop

abbrev Replies (Db Env : Type) (Call : Type → Type) : Type 1 :=
  (β : Type) → Call β → Choice → Shared Db Env → Prop

/-- The store serves every operation, and calls outside are answered as `C` says. -/
def Serving (C : Replies Db Env Call) : Fair Db Env Key Call
  | _, .ext call, .reply c, d => C _ call c d
  | _, .scan _, .order _, _ => True
  | _, _, .ok, _ => True
  | _, _, _, _ => False

theorem Serving.ok {op : Op Db Key Call α} {o : Outcome} (hop : op.Plain)
    {C : Replies Db Env Call} {d : Shared Db Env} (h : Serving C _ op o d) : o = .ok := by
  cases op with
  | ext call | scan ids => exact absurd hop id
  | _ => cases o <;> first | rfl | exact absurd h id

variable [DecidableEq Key] [Broken Err] [Outside Env Err Call]

variable (F : Fair Db Env Key Call) (p : Pid)

abbrev Ending (Db Env Key Err α : Type) : Type :=
  Except Err α → Local Db Key → Shared Db Env → Prop

/-- A program comes to an end through the outcomes considered, whichever they are, and `Q` holds
there. -/
def Serves : Prog Db Key Call Err α → Ending Db Env Key Err α → Local Db Key → Shared Db Env → Prop
  | .done r, Q, l, d => Q r l d
  | .call op next, Q, l, d =>
      (∃ o, ∃ x : _ × _ × Except Err _, F _ op o d ∧ op.act p l d o = some x) ∧
      ∀ o l' d' r, F _ op o d → op.act p l d o = some (l', d', r) → Serves (next r) Q l' d'

variable {F p} {m : Prog Db Key Call Err α} {Q Q' : Ending Db Env Key Err α} {l : Local Db Key}
  {d : Shared Db Env}

theorem Serves.mono (h : Serves F p m Q l d) (hQ : ∀ r l d, Q r l d → Q' r l d) :
    Serves F p m Q' l d := by
  induction m generalizing l d with
  | done r => exact hQ _ _ _ h
  | call op next ih => exact ⟨h.1, fun o l' d' r hF hact => ih r (h.2 o l' d' r hF hact)⟩

theorem Serves.both (h : Serves F p m Q l d) (h' : Serves F p m Q' l d) :
    ∃ r l d, Q r l d ∧ Q' r l d := by
  induction m generalizing l d with
  | done r => exact ⟨r, l, d, h, h'⟩
  | call op next ih =>
    obtain ⟨o, ⟨l', d', r⟩, hF, hact⟩ := h.1
    exact ih r (h.2 o l' d' r hF hact) (h'.2 o l' d' r hF hact)

theorem Serves.andThen {f : Except Err α → Prog Db Key Call Err β} {Q : Ending Db Env Key Err β}
    (h : Serves F p m (fun r => Serves F p (f r) Q) l d) : Serves F p (m.andThen f) Q l d := by
  induction m generalizing l d with
  | done r => exact h
  | call op next ih => exact ⟨h.1, fun o l' d' r hF hact => ih r (h.2 o l' d' r hF hact)⟩

theorem Serves.perform {op : Op Db Key Call α} (o : Outcome)
    {x : Local Db Key × Shared Db Env × Except Err α} (hF : F _ op o d)
    (hact : op.act p l d o = some x)
    (h : ∀ o l' d' r, F _ op o d → op.act p l d o = some (l', d', r) → Q r l' d') :
    Serves F p (Prog.perform op) Q l d :=
  ⟨⟨o, x, hF, hact⟩, h⟩

theorem Serves.bind {f : α → Prog Db Key Call Err β} {Q : Ending Db Env Key Err β}
    (h : Serves F p m (fun r => match r with
      | .ok a => Serves F p (f a) Q
      | .error e => Q (.error e)) l d) : Serves F p (m >>= f) Q l d := by
  refine Serves.andThen (h.mono fun r l d hr => ?_)
  cases r with
  | ok a => exact hr
  | error e => exact hr

theorem Serves.attempt {Q : Ending Db Env Key Err (Except Err α)}
    (h : Serves F p m (fun r => Q (.ok r)) l d) : Serves F p m.attempt Q l d :=
  Serves.andThen (h.mono fun _ _ _ hQ => hQ)

-- ---------------------------------------------------------------------------
-- Triples
-- ---------------------------------------------------------------------------

abbrev Seen (Db Env Key : Type) : Type := Db → Local Db Key → Shared Db Env → Prop

def AtRest (env : Env) : Seen Db Env Key := fun v l d => l = [] ∧ d = ⟨v, env⟩

def InTx (d₀ : Shared Db Env) : Seen Db Env Key :=
  fun v l d => d = d₀ ∧ ∃ ks u, l = [⟨ks, some u⟩] ∧ u d₀.db = v

variable (F p) in
/-- A program that sees `v` is served, and `Q` holds of its answer and of what it sees then. -/
def Answers (S : Seen Db Env Key) (m : Prog Db Key Call Err α) (v : Db)
    (Q : Except Err α → Db → Prop) : Prop :=
  ∀ l d, S v l d → Serves F p m (fun r l d => ∃ v, S v l d ∧ Q r v) l d

variable {S : Seen Db Env Key} {v : Db} {P : Except Err α → Db → Prop}

theorem Answers.mono {P' : Except Err α → Db → Prop} (h : Answers F p S m v P)
    (hP : ∀ r v, P r v → P' r v) : Answers F p S m v P' := by
  intro l d hS
  refine (h l d hS).mono ?_
  rintro r l d ⟨v, hS, hP'⟩
  exact ⟨v, hS, hP r v hP'⟩

theorem Answers.done {r : Except Err α} (h : P r v) :
    Answers F p S (.done r : Prog Db Key Call Err α) v P := fun _ _ hS => ⟨v, hS, h⟩

theorem Answers.pure {a : α} (h : P (.ok a) v) :
    Answers F p S (Pure.pure a : Prog Db Key Call Err α) v P := .done h

theorem Answers.raise {e : Err} (h : P (.error e) v) :
    Answers F p S (Prog.raise e : Prog Db Key Call Err α) v P := .done h

theorem Answers.andThen {f : Except Err α → Prog Db Key Call Err β} {P : Except Err β → Db → Prop}
    (h : Answers F p S m v fun r v => Answers F p S (f r) v P) :
    Answers F p S (m.andThen f) v P := by
  intro l d hS
  refine Serves.andThen ((h l d hS).mono ?_)
  rintro r l d ⟨v, hS, hf⟩
  exact hf l d hS

theorem Answers.bind {f : α → Prog Db Key Call Err β} {P : Except Err β → Db → Prop}
    (h : Answers F p S m v fun r v => match r with
      | .ok a => Answers F p S (f a) v P
      | .error e => P (.error e) v) : Answers F p S (m >>= f) v P := by
  refine Answers.andThen (h.mono fun r v hr => ?_)
  cases r with
  | ok a => exact hr
  | error e => exact .done hr

theorem Answers.next {f : α → Prog Db Key Call Err β} {P : Except Err β → Db → Prop}
    {R : α → Db → Prop} (h : Answers F p S m v fun r v => ∃ a, r = .ok a ∧ R a v)
    (hf : ∀ a v, R a v → Answers F p S (f a) v P) : Answers F p S (m >>= f) v P := by
  refine Answers.bind (h.mono ?_)
  rintro r v ⟨a, rfl, hR⟩
  exact hf a v hR

theorem Answers.attempt {P : Except Err (Except Err α) → Db → Prop}
    (h : Answers F p S m v fun r => P (.ok r)) : Answers F p S m.attempt v P :=
  Answers.andThen (h.mono fun _ _ hP => .done hP)

theorem Answers.foldEach {f : β → γ → Prog Db Key Call Err β} {I : List γ → β → Db → Prop}
    (hf : ∀ x xs b v, I (x :: xs) b v →
      Answers F p S (f b x) v fun r v => ∃ b, r = .ok b ∧ I xs b v)
    {xs : List γ} {b : β} (h : I xs b v) :
    Answers F p S (Prog.foldEach xs b f) v fun r v => ∃ b, r = .ok b ∧ I [] b v := by
  induction xs generalizing b v with
  | nil => exact .pure ⟨b, rfl, h⟩
  | cons x xs ih => exact Answers.next (hf x xs b v h) fun b v h => ih h

theorem Answers.forEach {f : γ → Prog Db Key Call Err Unit} {I : List γ → Db → Prop}
    (hf : ∀ x xs v, I (x :: xs) v → Answers F p S (f x) v fun r v => r = .ok () ∧ I xs v)
    {xs : List γ} (h : I xs v) :
    Answers F p S (Prog.forEach xs f) v fun r v => r = .ok () ∧ I [] v := by
  induction xs generalizing v with
  | nil => exact .pure ⟨rfl, h⟩
  | cons x xs ih =>
    refine Answers.next (R := fun _ => I xs) ((hf x xs v h).mono ?_) fun _ v h => ih h
    rintro r v ⟨rfl, h⟩
    exact ⟨(), rfl, h⟩

-- ---------------------------------------------------------------------------
-- A store that serves
-- ---------------------------------------------------------------------------

variable {C : Replies Db Env Call} {d₀ : Shared Db Env}

theorem Serves.plain {op : Op Db Key Call α} {l' : Local Db Key} {d' : Shared Db Env}
    {r : Except Err α} (hop : op.Plain) (hF : Serving C _ op .ok d)
    (hact : op.act p l d .ok = some (l', d', r)) (h : Q r l' d') :
    Serves (Serving C) p (Prog.perform op) Q l d := by
  refine Serves.perform .ok hF hact fun o l'' d'' r' hF' hact' => ?_
  obtain rfl := hF'.ok hop
  rw [hact] at hact'
  cases hact'
  exact h

theorem Answers.ext {call : Call α} (c : Choice) (hc : ∀ l d, S v l d → C _ call c d)
    (h : ∀ c l d, S v l d → C _ call c d →
      ∃ r, Outside.run call p c d.env = (d.env, r) ∧ P r v) :
    Answers (Serving C) p S (Prog.ext call) v P := by
  intro l d hS
  refine Serves.perform (.reply c) (hc l d hS) rfl fun o l' d' r hF hact => ?_
  cases o <;> simp only [Op.act, Option.some.injEq, Prod.mk.injEq, reduceCtorEq] at hact
  rename_i c
  obtain ⟨r, hrun, hP⟩ := h c l d hS hF
  rw [hrun] at hact
  obtain ⟨rfl, rfl, rfl⟩ := hact
  exact ⟨v, hS, hP⟩

theorem Answers.scan {ids : Db → Finset ℕ} {P : Except Err (Db × List ℕ) → Db → Prop}
    (h : ∀ ks : List ℕ, ks.Nodup → ks.toFinset = ids v → P (.ok (v, ks)) v) :
    Answers (Serving C) p (InTx d₀) (Prog.scan ids : Prog Db Key Call Err _) v P := by
  rintro l d ⟨rfl, ks, u, rfl, hu⟩
  have hview : Local.view [⟨ks, some u⟩] d.db = v := hu
  refine Serves.perform (.order (ids v).toList) trivial
    (x := ([⟨ks, some u⟩], d, .ok (v, (ids v).toList))) ?_ fun o l' d' r hF hact => ?_
  · simp [Op.act, hview, Finset.nodup_toList]
  · cases o with
    | order js =>
      simp only [Op.act, hview] at hact
      split at hact
      · rename_i hjs
        cases hact
        exact ⟨v, ⟨rfl, ks, u, rfl, hu⟩, h js hjs.1 hjs.2⟩
      · cases hact
    | fail => exact absurd hF id
    | _ => cases hact

theorem Answers.read {f : Db → α} (h : P (.ok (f v)) v) :
    Answers (Serving C) p (InTx d₀) (Prog.read f : Prog Db Key Call Err _) v P :=
  Answers.bind (Answers.scan fun _ _ _ => .pure h)

theorem Answers.lock {k : Key} {P : Except Err Unit → Db → Prop} (h : P (.ok ()) v) :
    Answers (Serving C) p (InTx d₀) (Prog.lock k : Prog Db Key Call Err _) v P := by
  rintro l d ⟨rfl, ks, u, rfl, hu⟩
  have hkeys : Local.keys [⟨ks, some u⟩] = ks := by simp [Local.keys]
  by_cases hk : ks.contains k = true
  · refine Serves.perform .ok trivial (x := ([⟨ks, some u⟩], d, .ok ())) ?_
      fun o l' d' r hF hact => ?_
    · simp only [Op.act, Local.holds, hk, ↓reduceIte]
    · cases o <;> simp only [Op.act, Local.holds, hk, ↓reduceIte, Option.some.injEq, Prod.mk.injEq,
        reduceCtorEq] at hact
      · obtain ⟨rfl, rfl, rfl⟩ := hact
        exact ⟨v, ⟨rfl, ks, u, rfl, hu⟩, h⟩
      · exact absurd hF id
  · refine Serves.perform .ok trivial (x := ([⟨k :: ks, some u⟩], d, .ok ())) ?_
      fun o l' d' r hF hact => ?_
    · simp only [Op.act, Local.holds, hkeys, hk, Local.take, ↓reduceIte, Bool.false_eq_true]
    · cases o <;> simp only [Op.act, Local.holds, hkeys, hk, Local.take, ↓reduceIte,
        Option.some.injEq, Prod.mk.injEq, reduceCtorEq] at hact
      · obtain ⟨rfl, rfl, rfl⟩ := hact
        exact ⟨v, ⟨rfl, k :: ks, u, rfl, hu⟩, h⟩
      · exact absurd hF id

theorem Answers.write {w : Db → Db} {P : Except Err Unit → Db → Prop} (h : P (.ok ()) (w v)) :
    Answers (Serving C) p (InTx d₀) (Prog.write w : Prog Db Key Call Err _) v P := by
  rintro l d ⟨rfl, ks, u, rfl, rfl⟩
  refine Serves.perform .ok trivial (x := ([⟨ks, some (w ∘ u)⟩], d, .ok ())) rfl
    fun o l' d' r hF hact => ?_
  cases o <;> cases hact
  · exact ⟨_, ⟨rfl, ks, _, rfl, rfl⟩, h⟩
  · exact absurd hF id

/-- How a transaction ends: what it wrote is there if it succeeded. -/
def Committed (P : Except Err α → Db → Prop) (v : Db) : Except Err α → Db → Prop
  | .ok a, v' => P (.ok a) v'
  | .error e, v' => v' = v ∧ ∃ v, P (.error e) v

theorem Answers.transaction {env : Env}
    (h : Answers (Serving C) p (InTx ⟨v, env⟩) m v P) :
    Answers (Serving C) p (AtRest env) (Prog.transaction m) v (Committed P v) := by
  rintro l d ⟨rfl, rfl⟩
  have hundo : ∀ (ks : List Key) (u : Db → Db) (e : Err), Serves (Serving C) p
      (Prog.abandon e : Prog Db Key Call Err (α × Except Err Unit))
      (fun r l d => r = .error e ∧ l = [] ∧ d = ⟨v, env⟩) [⟨ks, some u⟩] ⟨v, env⟩ := fun ks u e =>
    Serves.bind (Serves.attempt (.plain trivial trivial rfl
      (Serves.bind (.plain trivial trivial rfl ⟨rfl, rfl, rfl⟩))))
  refine Serves.bind (Serves.bind (.plain trivial trivial rfl ?_))
  refine Serves.bind (Serves.attempt (Serves.bind (.plain trivial trivial rfl ?_)))
  refine (h [⟨[], some id⟩] ⟨v, env⟩ ⟨rfl, [], id, rfl, rfl⟩).mono ?_
  rintro r l d ⟨v', ⟨rfl, ks, u, rfl, rfl⟩, hP⟩
  cases r with
  | error e =>
    refine (hundo ks u e).mono ?_
    rintro r l d ⟨rfl, rfl, rfl⟩
    exact ⟨v, ⟨rfl, rfl⟩, rfl, _, hP⟩
  | ok a =>
    refine Serves.bind (Serves.bind (Serves.attempt (.plain trivial trivial rfl ?_)))
    refine Serves.bind (.plain trivial trivial rfl ?_)
    exact ⟨_, ⟨rfl, rfl⟩, hP⟩

end Conc
