import Mathlib.Data.Nat.Log
import Mathlib.Algebra.Group.Nat.Defs

/-!
# SCALE

Codecs in the SCALE format: a value is written as bytes, and read back from the
front of any bytes that start with it. Each codec carries that law, so composed
codecs have it, and a writer is injective.
-/

namespace Scale

abbrev Bytes := List UInt8

/-- A way to write values of `α` and to read one back, leaving what follows it. -/
structure Codec (α : Type) where
  enc : α → Bytes
  dec : Bytes → Option (α × Bytes)
  /-- The values the format has room for. -/
  Valid : α → Prop
  dec_enc : ∀ a rest, Valid a → dec (enc a ++ rest) = some (a, rest)

theorem Codec.dec_enc_nil (codec : Codec α) (h : codec.Valid a) :
    codec.dec (codec.enc a) = some (a, []) := by
  simpa using codec.dec_enc a [] h

theorem Codec.enc_inj (codec : Codec α) (ha : codec.Valid a) (hb : codec.Valid b)
    (h : codec.enc a = codec.enc b) : a = b := by
  have hdec := codec.dec_enc_nil ha
  rw [h, codec.dec_enc_nil hb] at hdec
  simpa using hdec.symm

-- ---------------------------------------------------------------------------
-- Little-endian numbers
-- ---------------------------------------------------------------------------

/-- The `width` least significant bytes of a number, the least significant first. -/
def le : ℕ → ℕ → Bytes
  | 0, _ => []
  | width + 1, n => UInt8.ofNat n :: le width (n / 256)

def ofLe : Bytes → ℕ
  | [] => 0
  | b :: rest => b.toNat + 256 * ofLe rest

@[simp] theorem length_le (width n : ℕ) : (le width n).length = width := by
  induction width generalizing n with
  | zero => rfl
  | succ width ih => simp [le, ih]

theorem ofLe_le (h : n < 256 ^ width) : ofLe (le width n) = n := by
  induction width generalizing n with
  | zero => simp_all [le, ofLe]
  | succ width ih =>
    have hn : n / 256 < 256 ^ width := by
      rw [Nat.div_lt_iff_lt_mul (by omega)]
      rwa [Nat.pow_succ] at h
    rw [le, ofLe, ih hn, UInt8.toNat_ofNat']
    omega

def take (n : ℕ) (bs : Bytes) : Option (Bytes × Bytes) :=
  if n ≤ bs.length then some (bs.take n, bs.drop n) else none

@[simp] theorem take_append (h : bs.length = n) : take n (bs ++ rest) = some (bs, rest) := by
  simp [take, ← h]

-- ---------------------------------------------------------------------------
-- Primitives
-- ---------------------------------------------------------------------------

def u8 : Codec ℕ where
  enc n := [UInt8.ofNat n]
  dec
    | [] => none
    | b :: rest => some (b.toNat, rest)
  Valid n := n < 256
  dec_enc := by
    intro n rest h
    simp [Nat.mod_eq_of_lt h]

/-- As many bytes as both sides know. -/
def fixed (n : ℕ) : Codec Bytes where
  enc bs := bs
  dec := take n
  Valid bs := bs.length = n
  dec_enc := by
    intro bs rest h
    exact take_append h

def Codec.pair (left : Codec α) (right : Codec β) : Codec (α × β) where
  enc v := left.enc v.1 ++ right.enc v.2
  dec bs := do
    let (a, afterLeft) ← left.dec bs
    let (b, rest) ← right.dec afterLeft
    some ((a, b), rest)
  Valid v := left.Valid v.1 ∧ right.Valid v.2
  dec_enc := by
    rintro ⟨a, b⟩ rest ⟨ha, hb⟩
    simp only [List.append_assoc]
    rw [left.dec_enc a _ ha]
    simp [right.dec_enc b rest hb]

/-- Values of `β` written as values of `α`, some of which are read back. -/
def Codec.imap (codec : Codec α) (write : β → α) (read : α → Option β) (Valid : β → Prop)
    (h : ∀ b, Valid b → codec.Valid (write b) ∧ read (write b) = some b) : Codec β where
  enc b := codec.enc (write b)
  dec bs := do
    let (a, rest) ← codec.dec bs
    let b ← read a
    some (b, rest)
  Valid := Valid
  dec_enc := by
    intro b rest hb
    obtain ⟨ha, hread⟩ := h b hb
    rw [codec.dec_enc _ rest ha]
    simp [hread]

-- ---------------------------------------------------------------------------
-- Compact numbers
-- ---------------------------------------------------------------------------

/-- The two low bits of the first byte say how many bytes there are; in the last
mode its other bits do, for numbers up to 67 bytes long. -/
def encCompact (n : ℕ) : Bytes :=
  if n < 2 ^ 6 then le 1 (4 * n)
  else if n < 2 ^ 14 then le 2 (4 * n + 1)
  else if n < 2 ^ 30 then le 4 (4 * n + 2)
  else UInt8.ofNat (4 * (Nat.log 256 n - 3) + 3) :: le (Nat.log 256 n + 1) n

def decCompact : Bytes → Option (ℕ × Bytes)
  | [] => none
  | b :: rest =>
    match b.toNat % 4 with
    | 0 => some (b.toNat / 4, rest)
    | 1 => (take 2 (b :: rest)).map fun (bs, rest) => (ofLe bs / 4, rest)
    | 2 => (take 4 (b :: rest)).map fun (bs, rest) => (ofLe bs / 4, rest)
    | _ => (take (b.toNat / 4 + 4) rest).map fun (bs, rest) => (ofLe bs, rest)

theorem decCompact_le (hmode : m = 1 ∧ width = 1 ∨ m = 2 ∧ width = 3)
    (h : 4 * n + m < 256 ^ (width + 1)) :
    decCompact (le (width + 1) (4 * n + m) ++ rest) = some (n, rest) := by
  have htake : take (width + 1) (le (width + 1) (4 * n + m) ++ rest) =
      some (le (width + 1) (4 * n + m), rest) := take_append (length_le _ _)
  have hvalue : ofLe (le (width + 1) (4 * n + m)) / 4 = n := by
    rw [ofLe_le h]
    omega
  have hlow : (UInt8.ofNat (4 * n + m)).toNat % 4 = m := by
    rw [UInt8.toNat_ofNat']
    omega
  rcases hmode with ⟨rfl, rfl⟩ | ⟨rfl, rfl⟩
  all_goals
    simp only [le, List.cons_append] at htake hvalue ⊢
    simp only [decCompact, hlow, htake, Option.map_some, hvalue]

theorem decCompact_big (hlow : ¬n < 2 ^ 30) (hhigh : n < 256 ^ 67) :
    decCompact (UInt8.ofNat (4 * (Nat.log 256 n - 3) + 3) :: le (Nat.log 256 n + 1) n ++ rest) =
      some (n, rest) := by
  have hmin : 3 ≤ Nat.log 256 n := Nat.le_log_of_pow_le (by omega) (by omega)
  have hmax : Nat.log 256 n < 67 := Nat.log_lt_of_lt_pow (by omega) hhigh
  have hhead : (UInt8.ofNat (4 * (Nat.log 256 n - 3) + 3)).toNat = 4 * (Nat.log 256 n - 3) + 3 := by
    rw [UInt8.toNat_ofNat']
    omega
  have hmode : (4 * (Nat.log 256 n - 3) + 3) % 4 = 3 := by omega
  have hlength : (4 * (Nat.log 256 n - 3) + 3) / 4 + 4 = Nat.log 256 n + 1 := by omega
  have hvalue : ofLe (le (Nat.log 256 n + 1) n) = n :=
    ofLe_le (Nat.lt_pow_succ_log_self (by omega) n)
  simp only [List.cons_append, decCompact, hhead, hmode, hlength]
  rw [take_append (length_le _ _)]
  simp [hvalue]

/-- A number of at most 67 bytes, in the shortest of four forms. -/
def compact : Codec ℕ where
  enc := encCompact
  dec := decCompact
  Valid n := n < 256 ^ 67
  dec_enc := by
    intro n rest h
    unfold encCompact
    split
    next h6 =>
      have hb : (UInt8.ofNat (4 * n)).toNat = 4 * n := by
        rw [UInt8.toNat_ofNat']
        omega
      have hmode : 4 * n % 4 = 0 := by omega
      have hvalue : 4 * n / 4 = n := by omega
      simp only [le, List.cons_append, List.nil_append, decCompact, hb, hmode, hvalue]
    next h6 =>
    split
    next h14 => exact decCompact_le (Or.inl ⟨rfl, rfl⟩) (by omega)
    next h14 =>
    split
    next h30 => exact decCompact_le (Or.inr ⟨rfl, rfl⟩) (by omega)
    next h30 => exact decCompact_big h30 h

/-- Bytes behind their number. -/
def bytes : Codec Bytes where
  enc bs := encCompact bs.length ++ bs
  dec input := do
    let (n, rest) ← decCompact input
    take n rest
  Valid bs := bs.length < 256 ^ 67
  dec_enc := by
    intro bs rest h
    have hlength := compact.dec_enc bs.length (bs ++ rest) h
    simp only [compact] at hlength
    rw [List.append_assoc, hlength]
    simp

end Scale
