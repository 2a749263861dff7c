/-!
# Reading a state that moves on

A program that reads a shared state some times, each read of the state as it is then. Between
its reads the state moves on; what is proved of such a program is proved of every such run.
-/

namespace Conc

inductive Reading (σ α : Type)
  | done (a : α)
  | read (next : σ → Reading σ α)

namespace Reading

variable {σ α β : Type}

def bind : Reading σ α → (α → Reading σ β) → Reading σ β
  | done a, f => f a
  | read next, f => read fun s => (next s).bind f

instance : Monad (Reading σ) where
  pure := done
  bind := bind

def ask (get : σ → β) : Reading σ β := read fun s => done (get s)

/-- The result, all read of one state. -/
def now (s : σ) : Reading σ α → α
  | done a => a
  | read next => (next s).now s

@[simp] theorem now_pure (s : σ) (a : α) : (pure a : Reading σ α).now s = a := rfl

@[simp] theorem now_ask (s : σ) (get : σ → β) : (ask get).now s = get s := rfl

@[simp] theorem now_bind (s : σ) (x : Reading σ α) (f : α → Reading σ β) :
    (x >>= f).now s = (f (x.now s)).now s := by
  induction x with
  | done a => rfl
  | read next ih => exact ih s

@[simp] theorem now_map (s : σ) (f : α → β) (x : Reading σ α) :
    (f <$> x).now s = f (x.now s) :=
  now_bind s x fun a => pure (f a)

/-- Whatever states it reads, each from the one before on, the first from `s`: its result and the
last state it read have `P`. -/
def Ensures (le : σ → σ → Prop) (P : σ → α → Prop) : σ → Reading σ α → Prop
  | s, done a => P s a
  | s, read next => ∀ s', le s s' → Ensures le P s' (next s')

variable {le : σ → σ → Prop} {P : σ → α → Prop} {Q : σ → β → Prop} {s s' : σ}

theorem Ensures.bind {x : Reading σ α} {f : α → Reading σ β} (hx : Ensures le P s x)
    (hf : ∀ s' a, P s' a → Ensures le Q s' (f a)) : Ensures le Q s (x >>= f) := by
  induction x generalizing s with
  | done a => exact hf s a hx
  | read next ih => exact fun s' hs => ih s' (hx s' hs)

theorem Ensures.mono {R : σ → α → Prop} {x : Reading σ α} (hx : Ensures le P s x)
    (h : ∀ s a, P s a → R s a) : Ensures le R s x := by
  induction x generalizing s with
  | done a => exact h s a hx
  | read next ih => exact fun s' hs => ih s' (hx s' hs)

theorem Ensures.later {x : Reading σ α} (htrans : ∀ s₁ s₂ s₃, le s₁ s₂ → le s₂ s₃ → le s₁ s₃)
    (hP : ∀ a, P s a → P s' a) (hx : Ensures le P s x) (h : le s s') : Ensures le P s' x := by
  cases x with
  | done a => exact hP a hx
  | read next => exact fun s'' hs => hx s'' (htrans _ _ _ h hs)

theorem Ensures.map {f : α → β} {x : Reading σ α}
    (hx : Ensures le (fun s a => Q s (f a)) s x) : Ensures le Q s (f <$> x) :=
  hx.bind fun _ _ h => h

theorem ensures_ask {get : σ → α} (h : ∀ s', le s s' → P s' (get s')) :
    Ensures le P s (ask get) := h

theorem ensures_once {get : σ → α} {f : α → Reading σ β} (hf : ∀ a, ∃ b, f a = done b)
    (h : ∀ s', le s s' → Q s' ((ask get >>= f).now s')) : Ensures le Q s (ask get >>= f) := by
  intro s' hs
  have hnow := h s' hs
  obtain ⟨b, hb⟩ := hf (get s')
  change Q s' ((f (get s')).now s') at hnow
  change Ensures le Q s' (f (get s'))
  rw [hb] at hnow ⊢
  exact hnow

end Reading

end Conc
