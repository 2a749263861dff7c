import Mathlib.Data.List.Basic

/-!
# Hexadecimal

Bytes written as lower-case hexadecimal digits, two a byte, and read back.
-/

namespace Kippu

def hexDigit (n : ℕ) : Char := if n < 10 then Char.ofNat (48 + n) else Char.ofNat (87 + n)

def hexByte (b : UInt8) : List Char := [hexDigit (b.toNat / 16), hexDigit (b.toNat % 16)]

def isHexDigit (c : Char) : Bool :=
  (48 ≤ c.toNat && c.toNat ≤ 57) || (97 ≤ c.toNat && c.toNat ≤ 102)

def hexValue (c : Char) : ℕ := if c.toNat < 58 then c.toNat - 48 else c.toNat - 87

/-- The bytes that hexadecimal digits stand for; none for an odd number of digits. -/
def hexBytes : List Char → Option (List UInt8)
  | [] => some []
  | [_] => none
  | high :: low :: rest =>
    (hexBytes rest).map (UInt8.ofNat (16 * hexValue high + hexValue low) :: ·)

theorem hexDigit_inj (hn : n < 16) (hm : m < 16) (h : hexDigit n = hexDigit m) : n = m := by
  have : ∀ i : Fin 16, ∀ j : Fin 16, hexDigit i = hexDigit j → i = j := by decide
  simpa using this ⟨n, hn⟩ ⟨m, hm⟩ h

theorem hexByte_inj (h : hexByte a = hexByte b) : a = b := by
  simp only [hexByte, List.cons.injEq, and_true] at h
  have ha := a.toNat_lt
  have hb := b.toNat_lt
  have h1 := hexDigit_inj (by omega) (by omega) h.1
  have h2 := hexDigit_inj (by omega) (by omega) h.2
  exact UInt8.toNat_inj.mp (by omega)

theorem flatMap_hexByte_inj {as bs : List UInt8} (h : as.flatMap hexByte = bs.flatMap hexByte) :
    as = bs := by
  induction as generalizing bs with
  | nil =>
    cases bs with
    | nil => rfl
    | cons b bs => simp [hexByte] at h
  | cons a as ih =>
    cases bs with
    | nil => simp [hexByte] at h
    | cons b bs =>
      simp only [List.flatMap_cons] at h
      obtain ⟨hab, hrest⟩ := List.append_inj h (by simp [hexByte])
      rw [hexByte_inj hab, ih hrest]

-- ---------------------------------------------------------------------------
-- Reading back
-- ---------------------------------------------------------------------------

theorem hexValue_hexDigit (hn : n < 16) : hexValue (hexDigit n) = n := by
  have : ∀ i : Fin 16, hexValue (hexDigit i) = i := by decide
  exact this ⟨n, hn⟩

theorem isHexDigit_hexDigit (hn : n < 16) : isHexDigit (hexDigit n) := by
  have : ∀ i : Fin 16, isHexDigit (hexDigit i) := by decide
  exact this ⟨n, hn⟩

theorem hexValue_lt (h : isHexDigit c) : hexValue c < 16 := by
  simp only [isHexDigit, Bool.or_eq_true, Bool.and_eq_true, decide_eq_true_eq] at h
  unfold hexValue
  split <;> omega

theorem hexDigit_hexValue (h : isHexDigit c) : hexDigit (hexValue c) = c := by
  simp only [isHexDigit, Bool.or_eq_true, Bool.and_eq_true, decide_eq_true_eq] at h
  rcases h with ⟨low, high⟩ | ⟨low, high⟩
  · have hv : hexValue c = c.toNat - 48 := by simp only [hexValue]; rw [if_pos (by omega)]
    rw [hexDigit, if_pos (by omega), hv, Nat.add_sub_cancel' low, Char.ofNat_toNat]
  · have hv : hexValue c = c.toNat - 87 := by simp only [hexValue]; rw [if_neg (by omega)]
    rw [hexDigit, if_neg (by omega), hv, Nat.add_sub_cancel' (by omega), Char.ofNat_toNat]

theorem isHexDigit_of_mem_hexByte (h : c ∈ hexByte b) : isHexDigit c := by
  have hb := b.toNat_lt
  simp only [hexByte, List.mem_cons, List.not_mem_nil, or_false] at h
  rcases h with rfl | rfl
  · exact isHexDigit_hexDigit (by omega)
  · exact isHexDigit_hexDigit (by omega)

theorem hexBytes_flatMap (bs : List UInt8) : hexBytes (bs.flatMap hexByte) = some bs := by
  induction bs with
  | nil => rfl
  | cons b bs ih =>
    have hb := b.toNat_lt
    have hbyte : UInt8.ofNat (16 * (b.toNat / 16) + b.toNat % 16) = b := by
      rw [Nat.div_add_mod, UInt8.ofNat_toNat]
    simp [hexByte, hexBytes, ih, hexValue_hexDigit (show b.toNat / 16 < 16 by omega),
      hexValue_hexDigit (show b.toNat % 16 < 16 by omega), hbyte]

theorem hexByte_ofNat (hhigh : isHexDigit high) (hlow : isHexDigit low) :
    hexByte (UInt8.ofNat (16 * hexValue high + hexValue low)) = [high, low] := by
  have h1 := hexValue_lt hhigh
  have h2 := hexValue_lt hlow
  have hn : (UInt8.ofNat (16 * hexValue high + hexValue low)).toNat =
      16 * hexValue high + hexValue low := by
    rw [UInt8.toNat_ofNat']
    omega
  have hdiv : (16 * hexValue high + hexValue low) / 16 = hexValue high := by omega
  have hmod : (16 * hexValue high + hexValue low) % 16 = hexValue low := by omega
  simp only [hexByte, hn, hdiv, hmod, hexDigit_hexValue hhigh, hexDigit_hexValue hlow]

theorem flatMap_hexByte_of_hexBytes (hdigits : ∀ c ∈ cs, isHexDigit c)
    (h : hexBytes cs = some bs) : bs.flatMap hexByte = cs := by
  induction cs using hexBytes.induct generalizing bs with
  | case1 => simp_all [hexBytes]
  | case2 => simp [hexBytes] at h
  | case3 high low rest ih =>
    simp only [hexBytes, Option.map_eq_some_iff] at h
    obtain ⟨tail, htail, rfl⟩ := h
    have hrest := ih (fun c hc => hdigits c (by simp [hc])) htail
    rw [List.flatMap_cons, hexByte_ofNat (hdigits high (by simp)) (hdigits low (by simp)), hrest]
    rfl

end Kippu
