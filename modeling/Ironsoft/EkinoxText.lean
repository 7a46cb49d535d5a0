import Mathlib.Data.Int.Notation
import Mathlib.Data.Nat.Notation
import Mathlib.Data.List.Basic
import Mathlib.Tactic.SplitIfs

/-!
# Byte strings

A `std::string` is a list of bytes. `sanitizeAndClip` is what every text passes through
before it is published: quotes and backslashes are escaped, control bytes and bytes from
0x80 are replaced, and the result is cut at 300 bytes.
-/
namespace Ironsoft.Ekinox

abbrev Bytes := List UInt8

/-- The bytes of a literal. -/
def bytes (s : String) : Bytes := s.toUTF8.data.toList

/-- `std::to_string` -/
def decimal (n : ℤ) : Bytes := bytes (toString n)

/-- What a byte that is not escaped becomes: control bytes a space, bytes from 0x80 `?`. -/
def plainByte (byte : UInt8) : UInt8 :=
  if byte < 0x20 ∧ byte ≠ 0x0a ∧ byte ≠ 0x0d ∧ byte ≠ 0x09 then 0x20
  else if byte ≥ 0x80 then 0x3f
  else byte

/-- The loop of `sanitize_and_clip` with the output built so far. -/
def sanitizeLoop (maxLen : ℕ) : Bytes → Bytes → Bytes
  | [], out => out
  | byte :: text, out =>
    if byte = 0x5c ∨ byte = 0x22 then
      if out.length + 2 > maxLen then out
      else sanitizeLoop maxLen text (out ++ [0x5c, byte])
    else
      if out.length + 1 > maxLen then out
      else sanitizeLoop maxLen text (out ++ [plainByte byte])

def sanitizeAndClipTo (maxLen : ℕ) (text : Bytes) : Bytes := sanitizeLoop maxLen text []

def sanitizeAndClip (text : Bytes) : Bytes := sanitizeAndClipTo 300 text

theorem sanitizeLoop_extends (maxLen : ℕ) (text out : Bytes) :
    out <+: sanitizeLoop maxLen text out := by
  induction text generalizing out with
  | nil => exact List.prefix_refl out
  | cons byte text ih =>
    unfold sanitizeLoop
    split_ifs
    · exact List.prefix_refl out
    · exact (List.prefix_append _ _).trans (ih _)
    · exact List.prefix_refl out
    · exact (List.prefix_append _ _).trans (ih _)

/-- Nothing that has text is published without text. -/
theorem sanitizeAndClip_ne_nil {text : Bytes} (h : text ≠ []) : sanitizeAndClip text ≠ [] := by
  cases text with
  | nil => exact absurd rfl h
  | cons byte text =>
    unfold sanitizeAndClip sanitizeAndClipTo sanitizeLoop
    split_ifs with hb hl hl
    · simp at hl
    · exact List.ne_nil_of_length_pos
        (Nat.lt_of_lt_of_le (by simp) (sanitizeLoop_extends _ _ _).length_le)
    · simp at hl
    · exact List.ne_nil_of_length_pos
        (Nat.lt_of_lt_of_le (by simp) (sanitizeLoop_extends _ _ _).length_le)

@[simp] theorem sanitizeAndClip_eq_nil {text : Bytes} : sanitizeAndClip text = [] ↔ text = [] := by
  constructor
  · intro h
    by_contra hne
    exact sanitizeAndClip_ne_nil hne h
  · rintro rfl
    rfl

end Ironsoft.Ekinox
