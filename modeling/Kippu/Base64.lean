import Mathlib.Data.List.Basic
import Mathlib.Data.Nat.Notation

/-!
# Base64

Bytes written three at a time as four digits of six bits, with `=` where bytes are missing from
the last three, and read back. Text may be well formed and yet not what its bytes are written as:
the bits of its last digit that belong to no byte are ignored.
-/

namespace Base64

def digit (n : ℕ) : Char :=
  if n < 26 then Char.ofNat (65 + n)
  else if n < 52 then Char.ofNat (71 + n)
  else if n < 62 then Char.ofNat (n - 4)
  else if n = 62 then '+'
  else '/'

def isDigit (c : Char) : Bool :=
  (65 ≤ c.toNat && c.toNat ≤ 90) || (97 ≤ c.toNat && c.toNat ≤ 122) ||
    (48 ≤ c.toNat && c.toNat ≤ 57) || c == '+' || c == '/'

def value (c : Char) : ℕ :=
  if c = '+' then 62
  else if c = '/' then 63
  else if c.toNat < 58 then c.toNat + 4
  else if c.toNat < 91 then c.toNat - 65
  else c.toNat - 71

def byte₁ (w x : Char) : UInt8 := UInt8.ofNat (value w * 4 + value x / 16)

def byte₂ (x y : Char) : UInt8 := UInt8.ofNat (value x % 16 * 16 + value y / 4)

def byte₃ (y z : Char) : UInt8 := UInt8.ofNat (value y % 4 * 64 + value z)

def encode : List UInt8 → List Char
  | [] => []
  | [a] => [digit (a.toNat / 4), digit (a.toNat % 4 * 16), '=', '=']
  | [a, b] =>
    [digit (a.toNat / 4), digit (a.toNat % 4 * 16 + b.toNat / 16), digit (b.toNat % 16 * 4), '=']
  | a :: b :: c :: rest =>
    digit (a.toNat / 4) :: digit (a.toNat % 4 * 16 + b.toNat / 16) ::
      digit (b.toNat % 16 * 4 + c.toNat / 64) :: digit (c.toNat % 64) :: encode rest

/-- The bytes of well-formed text. -/
def decode : List Char → List UInt8
  | w :: x :: y :: z :: rest =>
    if y = '=' then [byte₁ w x]
    else if z = '=' then [byte₁ w x, byte₂ x y]
    else byte₁ w x :: byte₂ x y :: byte₃ y z :: decode rest
  | _ => []

/-- Whether text is digits in fours, the last four with one or two `=` for digits, or none. -/
def wellFormed : List Char → Bool
  | [] => true
  | w :: x :: y :: z :: rest =>
    isDigit w && isDigit x &&
      (isDigit y && isDigit z && wellFormed rest ||
        rest.isEmpty && z == '=' && (isDigit y || y == '='))
  | _ => false

/-- Whether the bits that belong to no byte are zero. -/
def zeroEnded : List Char → Bool
  | _ :: x :: y :: z :: rest =>
    if y = '=' then value x % 16 == 0
    else if z = '=' then value y % 4 == 0
    else zeroEnded rest
  | _ => true

-- ---------------------------------------------------------------------------
-- Digits
-- ---------------------------------------------------------------------------

variable {c w x y z : Char} {cs rest : List Char} {n : ℕ} {a b : UInt8}

theorem isDigit_digit (h : n < 64) : isDigit (digit n) := by
  have : ∀ i : Fin 64, isDigit (digit i) := by decide
  exact this ⟨n, h⟩

theorem value_digit (h : n < 64) : value (digit n) = n := by
  have : ∀ i : Fin 64, value (digit i) = i := by decide
  exact this ⟨n, h⟩

theorem isDigit_iff : isDigit c ↔ (65 ≤ c.toNat ∧ c.toNat ≤ 90) ∨
    (97 ≤ c.toNat ∧ c.toNat ≤ 122) ∨ (48 ≤ c.toNat ∧ c.toNat ≤ 57) ∨ c = '+' ∨ c = '/' := by
  simp [isDigit, or_assoc]

theorem isDigit_ne (h : isDigit c) : c ≠ '=' := by
  rintro rfl
  revert h
  decide

theorem plus_ne (h : c.toNat ≠ 43) : c ≠ '+' := by
  rintro rfl
  exact h rfl

theorem slash_ne (h : c.toNat ≠ 47) : c ≠ '/' := by
  rintro rfl
  exact h rfl

theorem value_cases (h : isDigit c) : value c < 64 ∧ digit (value c) = c := by
  rcases isDigit_iff.mp h with ⟨low, high⟩ | ⟨low, high⟩ | ⟨low, high⟩ | rfl | rfl
  · have hv : value c = c.toNat - 65 := by
      rw [value, if_neg (plus_ne (by omega)), if_neg (slash_ne (by omega)), if_neg (by omega),
        if_pos (by omega)]
    rw [hv, digit, if_pos (by omega), Nat.add_sub_cancel' low, Char.ofNat_toNat]
    exact ⟨by omega, rfl⟩
  · have hv : value c = c.toNat - 71 := by
      rw [value, if_neg (plus_ne (by omega)), if_neg (slash_ne (by omega)), if_neg (by omega),
        if_neg (by omega)]
    rw [hv, digit, if_neg (by omega), if_pos (by omega), Nat.add_sub_cancel' (by omega),
      Char.ofNat_toNat]
    exact ⟨by omega, rfl⟩
  · have hv : value c = c.toNat + 4 := by
      rw [value, if_neg (plus_ne (by omega)), if_neg (slash_ne (by omega)), if_pos (by omega)]
    rw [hv, digit, if_neg (by omega), if_neg (by omega), if_pos (by omega), Nat.add_sub_cancel,
      Char.ofNat_toNat]
    exact ⟨by omega, rfl⟩
  · decide
  · decide

theorem value_lt (h : isDigit c) : value c < 64 := (value_cases h).1

theorem digit_value (h : isDigit c) : digit (value c) = c := (value_cases h).2

-- ---------------------------------------------------------------------------
-- Bytes
-- ---------------------------------------------------------------------------

theorem toNat_ofNat (h : n < 256) : (UInt8.ofNat n).toNat = n := by
  rw [UInt8.toNat_ofNat']
  omega

theorem toNat_byte₁ (hw : isDigit w) (hx : isDigit x) :
    (byte₁ w x).toNat = value w * 4 + value x / 16 := by
  have := value_lt hw
  have := value_lt hx
  exact toNat_ofNat (by omega)

theorem toNat_byte₂ (hx : isDigit x) (hy : isDigit y) :
    (byte₂ x y).toNat = value x % 16 * 16 + value y / 4 := by
  have := value_lt hx
  have := value_lt hy
  exact toNat_ofNat (by omega)

theorem toNat_byte₃ (hy : isDigit y) (hz : isDigit z) :
    (byte₃ y z).toNat = value y % 4 * 64 + value z := by
  have := value_lt hy
  have := value_lt hz
  exact toNat_ofNat (by omega)

theorem ofNat_eq (h : n = a.toNat) : UInt8.ofNat n = a := by rw [h, UInt8.ofNat_toNat]

theorem byte₁_digits (a : UInt8) (h : n < 16) :
    byte₁ (digit (a.toNat / 4)) (digit (a.toNat % 4 * 16 + n)) = a := by
  have := a.toNat_lt
  rw [byte₁, value_digit (by omega), value_digit (by omega)]
  exact ofNat_eq (by omega)

theorem byte₂_digits (m : ℕ) (b : UInt8) (hm : m < 4) (h : n < 4) :
    byte₂ (digit (m * 16 + b.toNat / 16)) (digit (b.toNat % 16 * 4 + n)) = b := by
  have := b.toNat_lt
  rw [byte₂, value_digit (by omega), value_digit (by omega)]
  exact ofNat_eq (by omega)

theorem byte₃_digits (m : ℕ) (c : UInt8) (hm : m < 16) :
    byte₃ (digit (m * 4 + c.toNat / 64)) (digit (c.toNat % 64)) = c := by
  have := c.toNat_lt
  rw [byte₃, value_digit (by omega), value_digit (by omega)]
  exact ofNat_eq (by omega)

-- ---------------------------------------------------------------------------
-- Bytes written and read back
-- ---------------------------------------------------------------------------

theorem wellFormed_encode (bytes : List UInt8) : wellFormed (encode bytes) := by
  induction bytes using encode.induct with
  | case1 => rfl
  | case2 a =>
    have := a.toNat_lt
    simp [encode, wellFormed, isDigit_digit (show a.toNat / 4 < 64 by omega),
      isDigit_digit (show a.toNat % 4 * 16 < 64 by omega)]
  | case3 a b =>
    have := a.toNat_lt
    have := b.toNat_lt
    simp [encode, wellFormed, isDigit_digit (show a.toNat / 4 < 64 by omega),
      isDigit_digit (show a.toNat % 4 * 16 + b.toNat / 16 < 64 by omega),
      isDigit_digit (show b.toNat % 16 * 4 < 64 by omega)]
  | case4 a b c rest ih =>
    have := a.toNat_lt
    have := b.toNat_lt
    have := c.toNat_lt
    simp [encode, wellFormed, ih, isDigit_digit (show a.toNat / 4 < 64 by omega),
      isDigit_digit (show a.toNat % 4 * 16 + b.toNat / 16 < 64 by omega),
      isDigit_digit (show b.toNat % 16 * 4 + c.toNat / 64 < 64 by omega),
      isDigit_digit (show c.toNat % 64 < 64 by omega)]

theorem length_digits (bytes : List UInt8) :
    ((encode bytes).filter (· ≠ '=')).length = (bytes.length * 4 + 2) / 3 := by
  have hdigit : ∀ {n : ℕ} {cs : List Char}, n < 64 →
      (digit n :: cs).filter (· ≠ '=') = digit n :: cs.filter (· ≠ '=') := fun hn =>
    List.filter_cons_of_pos (decide_eq_true (isDigit_ne (isDigit_digit hn)))
  induction bytes using encode.induct with
  | case1 => rfl
  | case2 a =>
    have := a.toNat_lt
    rw [encode, hdigit (by omega), hdigit (by omega)]
    simp
  | case3 a b =>
    have := a.toNat_lt
    have := b.toNat_lt
    rw [encode, hdigit (by omega), hdigit (by omega), hdigit (by omega)]
    simp
  | case4 a b c rest ih =>
    have := a.toNat_lt
    have := b.toNat_lt
    have := c.toNat_lt
    rw [encode, hdigit (by omega), hdigit (by omega), hdigit (by omega), hdigit (by omega)]
    simp only [List.length_cons, ih]
    omega

theorem decode_encode (bytes : List UInt8) : decode (encode bytes) = bytes := by
  induction bytes using encode.induct with
  | case1 => rfl
  | case2 a =>
    have hb : byte₁ (digit (a.toNat / 4)) (digit (a.toNat % 4 * 16)) = a :=
      byte₁_digits a (n := 0) (by omega)
    simp [encode, decode, hb]
  | case3 a b =>
    have := b.toNat_lt
    have hb : byte₂ (digit (a.toNat % 4 * 16 + b.toNat / 16)) (digit (b.toNat % 16 * 4)) = b :=
      byte₂_digits _ b (n := 0) (by omega) (by omega)
    have hne := isDigit_ne (isDigit_digit (show b.toNat % 16 * 4 < 64 by omega))
    simp [encode, decode, hb, hne, byte₁_digits a (show b.toNat / 16 < 16 by omega)]
  | case4 a b c rest ih =>
    have := b.toNat_lt
    have := c.toNat_lt
    have hne := isDigit_ne (isDigit_digit (show b.toNat % 16 * 4 + c.toNat / 64 < 64 by omega))
    have hne' := isDigit_ne (isDigit_digit (show c.toNat % 64 < 64 by omega))
    simp [encode, decode, ih, hne, hne', byte₁_digits a (show b.toNat / 16 < 16 by omega),
      byte₂_digits (a.toNat % 4) b (by omega) (show c.toNat / 64 < 4 by omega),
      byte₃_digits (b.toNat % 16) c (by omega)]

-- ---------------------------------------------------------------------------
-- Text read, and what its bytes are written as
-- ---------------------------------------------------------------------------

theorem wellFormed_quad (h : wellFormed (w :: x :: y :: z :: rest)) : isDigit w ∧ isDigit x ∧
    (isDigit y ∧ isDigit z ∧ wellFormed rest ∨
      rest = [] ∧ z = '=' ∧ (isDigit y ∨ y = '=')) := by
  simpa [wellFormed, and_assoc] using h

theorem decode_quad (h : wellFormed (w :: x :: y :: z :: rest)) :
    (isDigit w ∧ isDigit x ∧ isDigit y ∧ isDigit z ∧ wellFormed rest ∧
      decode (w :: x :: y :: z :: rest) = byte₁ w x :: byte₂ x y :: byte₃ y z :: decode rest ∧
      zeroEnded (w :: x :: y :: z :: rest) = zeroEnded rest) ∨
    (isDigit w ∧ isDigit x ∧ isDigit y ∧ z = '=' ∧ rest = [] ∧
      decode (w :: x :: y :: z :: rest) = [byte₁ w x, byte₂ x y] ∧
      zeroEnded (w :: x :: y :: z :: rest) = (value y % 4 == 0)) ∨
    (isDigit w ∧ isDigit x ∧ y = '=' ∧ z = '=' ∧ rest = [] ∧
      decode (w :: x :: y :: z :: rest) = [byte₁ w x] ∧
      zeroEnded (w :: x :: y :: z :: rest) = (value x % 16 == 0)) := by
  obtain ⟨hw, hx, ⟨hy, hz, hrest⟩ | ⟨rfl, rfl, hy | rfl⟩⟩ := wellFormed_quad h
  · refine .inl ⟨hw, hx, hy, hz, hrest, ?_, ?_⟩
    · rw [decode, if_neg (isDigit_ne hy), if_neg (isDigit_ne hz)]
    · rw [zeroEnded, if_neg (isDigit_ne hy), if_neg (isDigit_ne hz)]
  · refine .inr (.inl ⟨hw, hx, hy, rfl, rfl, ?_, ?_⟩)
    · rw [decode, if_neg (isDigit_ne hy), if_pos rfl]
    · rw [zeroEnded, if_neg (isDigit_ne hy), if_pos rfl]
  · refine .inr (.inr ⟨hw, hx, rfl, rfl, rfl, ?_, ?_⟩)
    · rw [decode, if_pos rfl]
    · rw [zeroEnded, if_pos rfl]

theorem mem_wellFormed (h : wellFormed cs) (hc : c ∈ cs) : isDigit c ∨ c = '=' := by
  induction cs using wellFormed.induct with
  | case1 => cases hc
  | case2 w x y z rest ih =>
    obtain ⟨hw, hx, hrest⟩ := wellFormed_quad h
    simp only [List.mem_cons] at hc
    rcases hc with rfl | rfl | rfl | rfl | hc
    · exact .inl hw
    · exact .inl hx
    · rcases hrest with ⟨hy, -⟩ | ⟨-, -, hy⟩
      · exact .inl hy
      · exact hy
    · rcases hrest with ⟨-, hz, -⟩ | ⟨-, hz, -⟩
      · exact .inl hz
      · exact .inr hz
    · rcases hrest with ⟨-, -, hrest⟩ | ⟨rfl, -⟩
      · exact ih hrest hc
      · cases hc
  | case3 cs hnil hquad => simp [wellFormed] at h

theorem length_decode (h : wellFormed cs) : cs.length = ((decode cs).length + 2) / 3 * 4 := by
  induction cs using wellFormed.induct with
  | case1 => rfl
  | case2 w x y z rest ih =>
    rcases decode_quad h with ⟨-, -, -, -, hrest, hd, -⟩ | ⟨-, -, -, -, rfl, hd, -⟩ |
      ⟨-, -, -, -, rfl, hd, -⟩
    · have := ih hrest
      rw [hd]
      simp only [List.length_cons]
      omega
    · simp [hd]
    · simp [hd]
  | case3 cs hnil hquad => simp [wellFormed] at h

theorem digit_eq_iff (hn : n < 64) (hx : isDigit x) : digit n = x ↔ n = value x := by
  constructor
  · rintro rfl
    exact (value_digit hn).symm
  · rintro rfl
    exact digit_value hx

theorem encode_three (hw : isDigit w) (hx : isDigit x) (hy : isDigit y) (hz : isDigit z)
    (bytes : List UInt8) :
    encode (byte₁ w x :: byte₂ x y :: byte₃ y z :: bytes) = w :: x :: y :: z :: encode bytes := by
  have := value_lt hx
  have := value_lt hy
  have := value_lt hz
  have h₁ : (value w * 4 + value x / 16) / 4 = value w := by omega
  have h₂ : (value w * 4 + value x / 16) % 4 * 16 + (value x % 16 * 16 + value y / 4) / 16 =
      value x := by omega
  have h₃ : (value x % 16 * 16 + value y / 4) % 16 * 4 + (value y % 4 * 64 + value z) / 64 =
      value y := by omega
  have h₄ : (value y % 4 * 64 + value z) % 64 = value z := by omega
  simp only [encode, toNat_byte₁ hw hx, toNat_byte₂ hx hy, toNat_byte₃ hy hz, h₁, h₂, h₃, h₄,
    digit_value hw, digit_value hx, digit_value hy, digit_value hz]

theorem encode_two (hw : isDigit w) (hx : isDigit x) (hy : isDigit y) :
    encode [byte₁ w x, byte₂ x y] = [w, x, digit (value y / 4 * 4), '='] := by
  have := value_lt hx
  have := value_lt hy
  have h₁ : (value w * 4 + value x / 16) / 4 = value w := by omega
  have h₂ : (value w * 4 + value x / 16) % 4 * 16 + (value x % 16 * 16 + value y / 4) / 16 =
      value x := by omega
  have h₃ : (value x % 16 * 16 + value y / 4) % 16 * 4 = value y / 4 * 4 := by omega
  simp only [encode, toNat_byte₁ hw hx, toNat_byte₂ hx hy, h₁, h₂, h₃, digit_value hw,
    digit_value hx]

theorem encode_one (hw : isDigit w) (hx : isDigit x) :
    encode [byte₁ w x] = [w, digit (value x / 16 * 16), '=', '='] := by
  have := value_lt hx
  have h₁ : (value w * 4 + value x / 16) / 4 = value w := by omega
  have h₂ : (value w * 4 + value x / 16) % 4 * 16 = value x / 16 * 16 := by omega
  simp only [encode, toNat_byte₁ hw hx, h₁, h₂, digit_value hw]

/-- Well-formed text is what its bytes are written as when no bit of it is left over. -/
theorem encode_decode_iff (h : wellFormed cs) : encode (decode cs) = cs ↔ zeroEnded cs := by
  induction cs using wellFormed.induct with
  | case1 => simp [decode, encode, zeroEnded]
  | case2 w x y z rest ih =>
    rcases decode_quad h with ⟨hw, hx, hy, hz, hrest, hd, hend⟩ | ⟨hw, hx, hy, rfl, rfl, hd, hend⟩ |
      ⟨hw, hx, rfl, rfl, rfl, hd, hend⟩
    · rw [hd, hend, encode_three hw hx hy hz]
      simpa using ih hrest
    · have := value_lt hy
      rw [hd, hend, encode_two hw hx hy, beq_iff_eq]
      simp only [List.cons.injEq, true_and, and_true,
        digit_eq_iff (n := value y / 4 * 4) (by omega) hy]
      omega
    · have := value_lt hx
      rw [hd, hend, encode_one hw hx, beq_iff_eq]
      simp only [List.cons.injEq, true_and, and_true,
        digit_eq_iff (n := value x / 16 * 16) (by omega) hx]
      omega
  | case3 cs hnil hquad => simp [wellFormed] at h

end Base64
