import Kippu.Conc.System

/-!
# One process alone

A program run by one process while no other takes a step: each operation ends with an
outcome of a list, and the process stops where the list ends. Something is noted of every
operation as it happens, and a condition is shown of wherever the process may stop.
-/

namespace Conc

variable {Db Env Key Err : Type} {Call : Type → Type}

variable {m : Prog Db Key Call Err α}

-- ---------------------------------------------------------------------------
-- Programs of which every operation is of a kind
-- ---------------------------------------------------------------------------

def Prog.Only (K : (β : Type) → Op Db Key Call β → Prop) : Prog Db Key Call Err α → Prop
  | .done _ => True
  | .call op next => K _ op ∧ ∀ r, Only K (next r)

variable {K : (β : Type) → Op Db Key Call β → Prop}

theorem Prog.only_pure (a : α) : Prog.Only K (pure a : Prog Db Key Call Err α) := trivial

theorem Prog.only_raise (e : Err) : Prog.Only K (Prog.raise e : Prog Db Key Call Err α) := trivial

theorem Prog.only_perform {op : Op Db Key Call α} (h : K _ op) :
    Prog.Only K (Prog.perform op : Prog Db Key Call Err α) := ⟨h, fun _ => trivial⟩

theorem Prog.only_andThen {f : Except Err α → Prog Db Key Call Err β} (hm : m.Only K)
    (hf : ∀ r, (f r).Only K) : (m.andThen f).Only K := by
  induction m with
  | done r => exact hf r
  | call op next ih => exact ⟨hm.1, fun r => ih r (hm.2 r)⟩

theorem Prog.only_bind {f : α → Prog Db Key Call Err β} (hm : m.Only K)
    (hf : ∀ a, (f a).Only K) : (m >>= f).Only K := by
  refine Prog.only_andThen hm fun r => ?_
  cases r with
  | ok a => exact hf a
  | error e => trivial

theorem Prog.only_map {f : α → β} (hm : m.Only K) : (f <$> m).Only K :=
  Prog.only_bind hm fun _ => trivial

theorem Prog.only_attempt (hm : m.Only K) : m.attempt.Only K :=
  Prog.only_andThen hm fun _ => trivial

theorem Prog.only_ite {c : Prop} [Decidable c] {m' : Prog Db Key Call Err α} (hm : m.Only K)
    (hm' : m'.Only K) : (if c then m else m').Only K := by
  split
  · exact hm
  · exact hm'

theorem Prog.only_forEach {f : β → Prog Db Key Call Err Unit} (hf : ∀ x, (f x).Only K)
    (xs : List β) : (Prog.forEach xs f).Only K := by
  induction xs with
  | nil => exact Prog.only_pure ()
  | cons x xs ih => exact Prog.only_bind (hf x) fun _ => ih

theorem Prog.only_foldEach {f : γ → β → Prog Db Key Call Err γ} (hf : ∀ c x, (f c x).Only K)
    (xs : List β) (c : γ) : (Prog.foldEach xs c f).Only K := by
  induction xs generalizing c with
  | nil => exact Prog.only_pure c
  | cons x xs ih => exact Prog.only_bind (hf c x) ih

-- ---------------------------------------------------------------------------
-- Runs
-- ---------------------------------------------------------------------------

abbrev Note (Db Env Key : Type) (Call : Type → Type) (Noted : Type) : Type 1 :=
  (β : Type) → Op Db Key Call β → Outcome → Shared Db Env → Noted → Noted

structure Alone (Db Env Key : Type) (Call : Type → Type) (Err α Noted : Type) where
  noted : Noted
  sessions : Local Db Key
  data : Shared Db Env
  rest : Prog Db Key Call Err α

variable {Noted : Type} [DecidableEq Key] [Broken Err] [Outside Env Err Call]

def Alone.run (note : Note Db Env Key Call Noted) (p : Pid) :
    List Outcome → Alone Db Env Key Call Err α Noted → Option (Alone Db Env Key Call Err α Noted)
  | [], s => some s
  | o :: os, s => match s.rest with
    | .done _ => none
    | .call op next => (op.act p s.sessions s.data o).bind fun (l, d, r) =>
        run note p os ⟨note _ op o s.data s.noted, l, d, next r⟩

def Alone.failed (s : Alone Db Env Key Call Err α Noted) : Bool :=
  match s.rest with
  | .done (.error _) => true
  | _ => false

abbrev Standing (Db Env Key Noted : Type) : Type := Noted → Local Db Key → Shared Db Env → Prop

variable (note : Note Db Env Key Call Noted) (p : Pid) (I : Standing Db Env Key Noted)

/-- `I` holds wherever a program stops, and `Q` where it ends. -/
def Along : Prog Db Key Call Err α → (Except Err α → Standing Db Env Key Noted) →
    Standing Db Env Key Noted
  | .done r, Q, g, l, d => I g l d ∧ Q r g l d
  | .call op next, Q, g, l, d => I g l d ∧ ∀ o l' d' r, op.act p l d o = some (l', d', r) →
      Along (next r) Q (note _ op o d g) l' d'

variable {note p I} {Q Q' : Except Err α → Standing Db Env Key Noted}
  {g : Noted} {l : Local Db Key} {d : Shared Db Env}

theorem Along.here (h : Along note p I m Q g l d) : I g l d := by
  cases m with
  | done r => exact h.1
  | call op next => exact h.1

theorem Along.sound {os : List Outcome} {s s' : Alone Db Env Key Call Err α Noted}
    (h : Along note p I s.rest Q s.noted s.sessions s.data) (hrun : s.run note p os = some s') :
    I s'.noted s'.sessions s'.data := by
  induction os generalizing s with
  | nil =>
    cases hrun
    exact h.here
  | cons o os ih =>
    obtain ⟨g, l, d, m⟩ := s
    cases m with
    | done r => cases hrun
    | call op next =>
      obtain ⟨⟨l', d', r⟩, hact, hrun⟩ := Option.bind_eq_some_iff.mp hrun
      exact ih (h.2 o l' d' r hact) hrun

theorem Along.mono (h : Along note p I m Q g l d)
    (hQ : ∀ r g l d, I g l d → Q r g l d → Q' r g l d) : Along note p I m Q' g l d := by
  induction m generalizing g l d with
  | done r => exact ⟨h.1, hQ _ _ _ _ h.1 h.2⟩
  | call op next ih => exact ⟨h.1, fun o l' d' r hact => ih r (h.2 o l' d' r hact)⟩

theorem Along.weaken {J : Standing Db Env Key Noted} (hJ : ∀ g l d, J g l d → I g l d)
    (h : Along note p J m Q g l d) : Along note p I m Q g l d := by
  induction m generalizing g l d with
  | done r => exact ⟨hJ _ _ _ h.1, h.2⟩
  | call op next ih => exact ⟨hJ _ _ _ h.1, fun o l' d' r hact => ih r (h.2 o l' d' r hact)⟩

theorem Along.andThen {f : Except Err α → Prog Db Key Call Err β}
    {Q : Except Err β → Standing Db Env Key Noted}
    (h : Along note p I m (fun r => Along note p I (f r) Q) g l d) :
    Along note p I (m.andThen f) Q g l d := by
  induction m generalizing g l d with
  | done r => exact h.2
  | call op next ih => exact ⟨h.1, fun o l' d' r hact => ih r (h.2 o l' d' r hact)⟩

/-- What follows a program that succeeds; where it fails the rest is left out. -/
theorem Along.bind {f : α → Prog Db Key Call Err β} {Q : Except Err β → Standing Db Env Key Noted}
    (h : Along note p I m (fun r => match r with
      | .ok a => Along note p I (f a) Q
      | .error e => fun g l d => I g l d ∧ Q (.error e) g l d) g l d) :
    Along note p I (m >>= f) Q g l d := by
  refine Along.andThen (h.mono fun r g l d _ hr => ?_)
  cases r <;> exact hr

theorem Along.attempt {Q : Except Err (Except Err α) → Standing Db Env Key Noted}
    (h : Along note p I m (fun r => Q (.ok r)) g l d) :
    Along note p I m.attempt Q g l d :=
  Along.andThen (h.mono fun _ _ _ _ hI hq => ⟨hI, hq⟩)

theorem Along.op {op : Op Db Key Call α} (hI : I g l d)
    (h : ∀ o l' d' r, op.act p l d o = some (l', d', r) →
      I (note _ op o d g) l' d' ∧ Q r (note _ op o d g) l' d') :
    Along note p I (Prog.perform op) Q g l d :=
  ⟨hI, fun o l' d' r hact => h o l' d' r hact⟩

theorem Along.only (hm : m.Only K)
    (hkeep : ∀ β (op : Op Db Key Call β), K β op → ∀ g l d o l' d' (r : Except Err β), I g l d →
      op.act p l d o = some (l', d', r) → I (note _ op o d g) l' d')
    (h : I g l d) : Along note p I m (fun _ => I) g l d := by
  induction m generalizing g l d with
  | done r => exact ⟨h, h⟩
  | call op next ih =>
    exact ⟨h, fun o l' d' r hact => ih r (hm.2 r) (hkeep _ op hm.1 g l d o l' d' r h hact)⟩

end Conc
