import Mathlib.Data.Nat.Notation

/-!
# UTF-16

Text as the code units a JavaScript string has, and read back. A string is well-formed where no
surrogate stands alone; one that does is read as U+FFFD.
-/

namespace Utf16

def codeUnits (c : Char) : List ℕ :=
  if c.toNat < 0x10000 then [c.toNat]
  else [0xd800 + (c.toNat - 0x10000) / 0x400, 0xdc00 + (c.toNat - 0x10000) % 0x400]

def encode (text : List Char) : List ℕ := text.flatMap codeUnits

/-- A code unit that is a character. -/
def isPlain (u : ℕ) : Bool := u < 0xd800 || 0xe000 ≤ u && u < 0x10000

def isHigh (u : ℕ) : Bool := 0xd800 ≤ u && u < 0xdc00

def isLow (u : ℕ) : Bool := 0xdc00 ≤ u && u < 0xe000

/-- The characters of a string, `none` for a surrogate that stands alone. -/
def chars : List ℕ → List (Option Char)
  | [] => []
  | u :: rest =>
    if isPlain u then some (Char.ofNat u) :: chars rest
    else match rest with
      | [] => [none]
      | v :: rest =>
        if isHigh u && isLow v then
          some (Char.ofNat (0x10000 + (u - 0xd800) * 0x400 + (v - 0xdc00))) :: chars rest
        else none :: chars (v :: rest)

def isWellFormed (string : List ℕ) : Bool := (chars string).all Option.isSome

def text (string : List ℕ) : List Char := (chars string).map (·.getD '\uFFFD')

theorem toNat_valid (c : Char) : c.toNat < 0xd800 ∨ 0xe000 ≤ c.toNat ∧ c.toNat < 0x110000 := c.valid

theorem chars_plain {u : ℕ} (h : isPlain u) (rest : List ℕ) :
    chars (u :: rest) = some (Char.ofNat u) :: chars rest := by
  rw [chars.eq_def]
  exact if_pos h

theorem chars_pair {u v : ℕ} (hu : isHigh u) (hv : isLow v) (rest : List ℕ) :
    chars (u :: v :: rest) =
      some (Char.ofNat (0x10000 + (u - 0xd800) * 0x400 + (v - 0xdc00))) :: chars rest := by
  have hplain : ¬ isPlain u := by
    simp only [isHigh, isPlain, Bool.and_eq_true, Bool.or_eq_true, decide_eq_true_eq] at hu ⊢
    omega
  rw [chars, if_neg hplain, if_pos (by rw [hu, hv, Bool.and_true])]

theorem chars_codeUnits (c : Char) (rest : List ℕ) :
    chars (codeUnits c ++ rest) = some c :: chars rest := by
  have hvalid := toNat_valid c
  unfold codeUnits
  split
  · rw [List.singleton_append, chars_plain _ rest, Char.ofNat_toNat]
    simp only [isPlain, Bool.and_eq_true, Bool.or_eq_true, decide_eq_true_eq]
    omega
  · have hpair : 0x10000 + (0xd800 + (c.toNat - 0x10000) / 0x400 - 0xd800) * 0x400 +
        (0xdc00 + (c.toNat - 0x10000) % 0x400 - 0xdc00) = c.toNat := by omega
    show chars (_ :: _ :: rest) = _
    rw [chars_pair _ _ rest, hpair, Char.ofNat_toNat]
    · simp only [isHigh, Bool.and_eq_true, decide_eq_true_eq]
      omega
    · simp only [isLow, Bool.and_eq_true, decide_eq_true_eq]
      omega

theorem chars_encode (cs : List Char) : chars (encode cs) = cs.map some := by
  induction cs with
  | nil => rfl
  | cons c cs ih =>
    have hcons : encode (c :: cs) = codeUnits c ++ encode cs := List.flatMap_cons
    rw [hcons, chars_codeUnits, ih, List.map_cons]

theorem isWellFormed_encode (cs : List Char) : isWellFormed (encode cs) := by
  rw [isWellFormed, chars_encode]
  exact List.all_eq_true.mpr fun c hc => by
    obtain ⟨c', -, rfl⟩ := List.mem_map.mp hc
    rfl

theorem text_encode (cs : List Char) : text (encode cs) = cs := by
  rw [text, chars_encode, List.map_map]
  exact List.map_id cs

end Utf16
