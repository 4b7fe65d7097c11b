import Greenlight.Json.Reader
import Greenlight.Json.Writer
import Mathlib.Tactic.SplitIfs

/-! # Texts that are read back

Main statement: every text is read as the text that it was; characters beyond the first plane come back
from the two surrogates they are written as. -/

namespace Greenlight.Json

/-! ## Escapes -/

theorem hexFour?_hexDigits {n : Nat} (h : n < 0x10000) :
    ∃ a b c d, Text.hexDigits 4 n = [a, b, c, d] ∧ hexFour? a b c d = some n := by
  have hdigit : ∀ d < 16, hexDigit? (Nat.digitChar d) = some d := by decide
  refine ⟨_, _, _, _, rfl, ?_⟩
  simp only [hexFour?, hdigit _ (Nat.mod_lt _ (by decide)), Nat.shiftRight_eq_div_pow]
  simp
  omega

/-- The escape of a character of the first plane. -/
theorem readText_unicodeEscape {n : Nat} (h : n < 0x10000) (hl : isLeading n = false)
    (ht : isTrailing n = false) (rest : List Char) :
    readText (unicodeEscape n ++ rest) =
      (readText rest).map fun (cs, rest) => (Char.ofNat n :: cs, rest) := by
  obtain ⟨a, b, c, d, hdigits, hvalue⟩ := hexFour?_hexDigits h
  rw [unicodeEscape, hdigits]
  simp only [List.cons_append, List.nil_append]
  rw [readText, hvalue]
  simp only [Option.bind_eq_bind, Option.bind_some, hl, ht, Bool.false_eq_true, if_false]
  cases readText rest <;> rfl

/-- The two escapes of a character beyond the first plane. -/
theorem readText_pair {high low : Nat} (hhigh : high < 0x400) (hlow : low < 0x400) (rest : List Char) :
    readText (unicodeEscape (0xD800 + high) ++ unicodeEscape (0xDC00 + low) ++ rest) =
      (readText rest).map fun (cs, rest) => (Char.ofNat (0x10000 + high * 0x400 + low) :: cs, rest) := by
  have hleading : isLeading (0xD800 + high) = true := by simp [isLeading]; omega
  have htrailing : isTrailing (0xDC00 + low) = true := by simp [isTrailing]; omega
  obtain ⟨a, b, c, d, hdigits, hvalue⟩ := hexFour?_hexDigits (n := 0xD800 + high) (by omega)
  obtain ⟨e, f, g, h, hdigits', hvalue'⟩ := hexFour?_hexDigits (n := 0xDC00 + low) (by omega)
  rw [unicodeEscape, unicodeEscape, hdigits, hdigits']
  simp only [List.cons_append, List.nil_append]
  rw [readText, hvalue]
  simp only [Option.bind_eq_bind, Option.bind_some, hleading, if_true, hvalue', htrailing,
    Nat.add_sub_cancel_left]
  cases readText rest <;> rfl

theorem readText_letter {e c : Char} (h : letterEscape? e = some c) (rest : List Char) :
    readText ('\\' :: e :: rest) = (readText rest).map fun (cs, rest) => (c :: cs, rest) := by
  have hne : e ≠ 'u' := by
    rintro rfl
    cases h
  rw [readText, h]
  · cases readText rest <;> rfl
  · intro _ _ _ _ _ heq
    exact absurd heq hne

theorem readText_plain {c : Char} (hquote : c ≠ '"') (hslash : c ≠ '\\') (hc : ¬c.toNat < 32)
    (rest : List Char) :
    readText (c :: rest) = (readText rest).map fun (cs, rest) => (c :: cs, rest) := by
  rw [readText, if_neg hc]
  · cases readText rest <;> rfl
  · exact hquote
  · intro _ _ _ _ _ heq
    exact absurd heq hslash
  · intro _ _ heq
    exact absurd heq hslash

/-! ## Texts -/

theorem readText_escapedChar (c : Char) (rest : List Char) :
    readText (escapedChar c ++ rest) = (readText rest).map fun (cs, rest) => (c :: cs, rest) := by
  have hvalid : c.toNat < 0xD800 ∨ 0xDFFF < c.toNat ∧ c.toNat < 0x110000 := c.valid
  unfold escapedChar
  split_ifs with hquote hslash hline hreturn htab hback hfeed hplain hfirst
  · exact readText_letter (by rw [hquote]; rfl) rest
  · exact readText_letter (by rw [hslash]; rfl) rest
  · exact readText_letter (by rw [hline]; rfl) rest
  · exact readText_letter (by rw [hreturn]; rfl) rest
  · exact readText_letter (by rw [htab]; rfl) rest
  · exact readText_letter (by rw [show c = '\x08' from Char.toNat_inj.1 hback]; rfl) rest
  · exact readText_letter (by rw [show c = '\x0c' from Char.toNat_inj.1 hfeed]; rfl) rest
  · exact readText_plain hquote hslash (by omega) rest
  · rw [readText_unicodeEscape hfirst, Char.ofNat_toNat]
    · simp [isLeading]
      omega
    · simp [isTrailing]
      omega
  · have hcode : 0x10000 + (c.toNat - 0x10000) / 0x400 * 0x400 + (c.toNat - 0x10000) % 0x400 =
        c.toNat := by omega
    rw [readText_pair (by omega) (by omega), hcode, Char.ofNat_toNat]

theorem readText_escaped (cs rest : List Char) :
    readText (cs.flatMap escapedChar ++ '"' :: rest) = some (cs, rest) := by
  induction cs with
  | nil => rfl
  | cons c cs ih =>
    rw [List.flatMap_cons, List.append_assoc, readText_escapedChar, ih]
    rfl

theorem textChars_append (s : String) (rest : List Char) :
    textChars s ++ rest = '"' :: (s.toList.flatMap escapedChar ++ '"' :: rest) := by
  simp [textChars]

theorem readAtom_textChars (s : String) (rest : List Char) :
    readAtom (textChars s ++ rest) = some (.text s, rest) := by
  rw [textChars_append, readAtom, readText_escaped]
  simp

/-- Far planes, too, are written with two surrogates. -/
example : String.ofList (escapedChar (Char.ofNat 0x5d800)) = "\\ud936\\udc00" := by decide

end Greenlight.Json
