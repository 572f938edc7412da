/-
DatamodelTypes.Text.Hexadecimal — numbers in hexadecimal digits.
-/
import DatamodelTypes.Decimal

namespace DatamodelTypes.Text

/-- The value of a hexadecimal digit, of either case. -/
def hexDigit? (c : Char) : Option Nat :=
  if c.isDigit then some (Decimal.digitValue c)
  else if 'a' ≤ c ∧ c ≤ 'f' then some (c.toNat - 'a'.toNat + 10)
  else if 'A' ≤ c ∧ c ≤ 'F' then some (c.toNat - 'A'.toNat + 10)
  else none

/-- The number that hexadecimal digits write, read behind `start`. -/
def ofHexDigits? : Nat → List Char → Option Nat
  | start, [] => some start
  | start, c :: cs =>
    match hexDigit? c with
    | some digit => ofHexDigits? (start * 16 + digit) cs
    | none => none

theorem hexDigit?_lt {c : Char} {value : Nat} (h : hexDigit? c = some value) : value < 16 := by
  unfold hexDigit? at h
  split at h
  · rename_i hdigit
    cases h
    have hrange : 48 ≤ c.toNat ∧ c.toNat ≤ 57 := by
      simpa [Char.isDigit, UInt32.le_iff_toNat_le] using hdigit
    have hzero : '0'.toNat = 48 := rfl
    unfold Decimal.digitValue
    omega
  · split at h
    · rename_i hlower
      cases h
      have hrange : c.toNat ≤ 'f'.toNat := hlower.2
      have ha : 'a'.toNat = 97 := rfl
      have hf : 'f'.toNat = 102 := rfl
      omega
    · split at h
      · rename_i hupper
        cases h
        have hrange : c.toNat ≤ 'F'.toNat := hupper.2
        have ha : 'A'.toNat = 65 := rfl
        have hf : 'F'.toNat = 70 := rfl
        omega
      · cases h

/-- The number of digits bounds the number they write. -/
theorem ofHexDigits?_lt {start value : Nat} {cs : List Char}
    (h : ofHexDigits? start cs = some value) : value < (start + 1) * Nat.pow 16 cs.length := by
  induction cs generalizing start with
  | nil =>
    cases h
    simp
  | cons c cs ih =>
    unfold ofHexDigits? at h
    split at h
    · rename_i digit hdigit
      have hlt := hexDigit?_lt hdigit
      calc value
        _ < (start * 16 + digit + 1) * Nat.pow 16 cs.length := ih h
        _ ≤ ((start + 1) * 16) * Nat.pow 16 cs.length := Nat.mul_le_mul_right _ (by omega)
        _ = (start + 1) * (Nat.pow 16 cs.length * 16) := by
          rw [Nat.mul_assoc, Nat.mul_comm 16]
    · cases h

end DatamodelTypes.Text
