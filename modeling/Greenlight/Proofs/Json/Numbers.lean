import Greenlight.Json.Reader
import Greenlight.Json.Writer
import Greenlight.Proofs.Decimal.Digits
import Greenlight.Proofs.Decimal.Shortest

/-! # Numbers that are read back

Main statement: a written number, whole or decimal, is read as the number that it was, whatever follows
it on the line. -/

namespace Greenlight.Json

open Decimal

/-- What follows a value: nothing, a comma or the end of a line. -/
def Ends (rest : List Char) : Prop := ∀ c ∈ rest.head?, c = ',' ∨ c = '\n'

/-- Digits without a leading zero, zero itself apart. -/
structure IsWhole (whole : List Char) : Prop where
  ne_nil : whole ≠ []
  isDigit : ∀ c ∈ whole, c.isDigit = true
  eq_zero : whole.head? = some '0' → whole = ['0']

/-! ## The parts of a number -/

section Parts

variable {digits rest : List Char}

theorem Ends.of_head? {p : Char → Prop} (h : Ends rest) (hcomma : p ',') (hline : p '\n') :
    ∀ c ∈ rest.head?, p c := by
  intro c hc
  rcases h c hc with rfl | rfl
  · exact hcomma
  · exact hline

theorem takeWhile_digits (hd : ∀ c ∈ digits, c.isDigit = true)
    (hr : ∀ c ∈ rest.head?, c.isDigit = false) :
    (digits ++ rest).takeWhile Char.isDigit = digits := by
  rw [List.takeWhile_append_of_pos hd]
  cases rest with
  | nil => simp
  | cons c rest => simp [hr c rfl]

theorem dropWhile_digits (hd : ∀ c ∈ digits, c.isDigit = true)
    (hr : ∀ c ∈ rest.head?, c.isDigit = false) :
    (digits ++ rest).dropWhile Char.isDigit = rest := by
  rw [List.dropWhile_append_of_pos hd]
  cases rest with
  | nil => simp
  | cons c rest => simp [hr c rfl]

theorem readPlaces_point (hne : digits ≠ []) (hd : ∀ c ∈ digits, c.isDigit = true)
    (hr : ∀ c ∈ rest.head?, c.isDigit = false) :
    readPlaces ('.' :: digits ++ rest) = (digits, rest) := by
  rw [List.cons_append, readPlaces, takeWhile_digits hd hr, dropWhile_digits hd hr]
  simp [hne]

theorem readPlaces_of_head? (h : ∀ c ∈ rest.head?, c ≠ '.') : readPlaces rest = ([], rest) := by
  unfold readPlaces
  split
  · exact absurd rfl (h '.' rfl)
  · rfl

theorem readExponent_of_head? (h : ∀ c ∈ rest.head?, ¬(c = 'e' ∨ c = 'E')) :
    readExponent rest = (none, rest) := by
  unfold readExponent
  split
  · next e rest => rw [if_neg (h e rfl)]
  · rfl

theorem readExponent_signed (down : Bool) (hne : digits ≠ []) (hd : ∀ c ∈ digits, c.isDigit = true)
    (hr : ∀ c ∈ rest.head?, c.isDigit = false) :
    readExponent ('e' :: (if down then '-' else '+') :: digits ++ rest) =
      (some (if down then -(digitsValue digits : Int) else digitsValue digits), rest) := by
  have hsign : takeSign ((if down then '-' else '+') :: (digits ++ rest)) = (down, digits ++ rest) := by
    cases down <;> rfl
  have hempty : digits.isEmpty = false := by simpa using hne
  simp only [readExponent, List.cons_append, hsign, takeWhile_digits hd hr, dropWhile_digits hd hr,
    hempty, true_or, if_true, Bool.false_eq_true, if_false]

end Parts

/-! ## Numbers -/

section Numbers

variable {whole places rest : List Char}

/-- The whole part is read up to the first character that is not a digit. -/
theorem readNumber_eq (negative : Bool) (hw : IsWhole whole)
    (hr : ∀ c ∈ rest.head?, c.isDigit = false) :
    readNumber negative (whole ++ rest) =
      let places := readPlaces rest
      let exponent := readExponent places.2
      if places.1.isEmpty ∧ exponent.1 = none then
        some (.int (if negative then -(digitsValue whole : Int) else digitsValue whole), exponent.2)
      else
        some (.real (canonical negative (digitsValue (whole ++ places.1))
          (exponent.1.getD 0 - places.1.length)), exponent.2) := by
  have hread : (if (whole ++ rest).head? = some '0' then ['0'] else
      (whole ++ rest).takeWhile Char.isDigit) = whole := by
    rw [List.head?_append_of_ne_nil _ hw.ne_nil, takeWhile_digits hw.isDigit hr]
    split
    · next hzero => exact (hw.eq_zero hzero).symm
    · rfl
  have hempty : whole.isEmpty = false := by simpa using hw.ne_nil
  unfold readNumber
  simp only [hread, hempty, List.drop_left, Bool.false_eq_true, if_false]

theorem readNumber_int (negative : Bool) (hw : IsWhole whole) (hr : Ends rest) :
    readNumber negative (whole ++ rest) =
      some (.int (if negative then -(digitsValue whole : Int) else digitsValue whole), rest) := by
  have hplaces : readPlaces rest = ([], rest) :=
    readPlaces_of_head? (hr.of_head? (by decide) (by decide))
  have hexponent : readExponent rest = (none, rest) :=
    readExponent_of_head? (hr.of_head? (by decide) (by decide))
  rw [readNumber_eq negative hw (hr.of_head? (by decide) (by decide))]
  simp [hplaces, hexponent]

theorem readNumber_places (negative : Bool) (hw : IsWhole whole) (places : List Char) (hne : places ≠ [])
    (hp : ∀ c ∈ places, c.isDigit = true) (hr : Ends rest) :
    readNumber negative (whole ++ '.' :: places ++ rest) =
      some (.real (canonical negative (digitsValue (whole ++ places)) (-(places.length : Int))), rest) := by
  have hplaces : readPlaces ('.' :: (places ++ rest)) = (places, rest) :=
    readPlaces_point hne hp (hr.of_head? (by decide) (by decide))
  have hexponent : readExponent rest = (none, rest) :=
    readExponent_of_head? (hr.of_head? (by decide) (by decide))
  rw [List.append_assoc, List.cons_append, readNumber_eq negative hw (by simp)]
  simp [hplaces, hexponent, hne]

theorem readNumber_exponent (negative : Bool) (hw : IsWhole whole) (places : List Char)
    (hp : ∀ c ∈ places, c.isDigit = true) (down : Bool) (size : List Char) (hne : size ≠ [])
    (hs : ∀ c ∈ size, c.isDigit = true) (hr : Ends rest) :
    readNumber negative (whole ++ (if places.isEmpty then [] else '.' :: places) ++
        'e' :: (if down then '-' else '+') :: size ++ rest) =
      some (.real (canonical negative (digitsValue (whole ++ places))
        ((if down then -(digitsValue size : Int) else digitsValue size) - places.length)), rest) := by
  have hexponent := readExponent_signed down hne hs (hr.of_head? (p := (·.isDigit = false))
    (by decide) (by decide))
  simp only [List.append_assoc, List.cons_append] at hexponent ⊢
  generalize (if down then '-' else '+') :: (size ++ rest) = tail at *
  have hplaces : readPlaces ((if places.isEmpty then [] else '.' :: places) ++ 'e' :: tail) =
      (places, 'e' :: tail) := by
    cases hempty : places.isEmpty
    · exact readPlaces_point (by simpa using hempty) hp (by simp)
    · obtain rfl := List.isEmpty_iff.1 hempty
      exact readPlaces_of_head? (by simp)
  rw [readNumber_eq negative hw (by cases places <;> simp)]
  simp only [hplaces, hexponent]
  simp

end Numbers

/-! ## Written numbers -/

theorem isWhole_digitChars (n : Nat) : IsWhole (digitChars n) where
  ne_nil := digitChars_ne_nil n
  isDigit := fun _ => isDigit_of_mem_digitChars
  eq_zero := fun h => by
    by_cases hn : n = 0
    · subst hn
      rfl
    · exact absurd h (head?_digitChars hn)

theorem isWhole_of_prefix {n : Nat} (h : n ≠ 0) {whole : List Char} (hne : whole ≠ []) (rest : List Char)
    (hd : ∀ c ∈ rest, c.isDigit = true) (hw : whole <+: digitChars n ++ rest) : IsWhole whole where
  ne_nil := hne
  isDigit := fun c hc => by
    rcases List.mem_append.1 (hw.subset hc) with hc | hc
    · exact isDigit_of_mem_digitChars hc
    · exact hd c hc
  eq_zero := fun hzero => by
    obtain ⟨more, hmore⟩ := hw
    have hhead := congrArg List.head? hmore
    rw [List.head?_append_of_ne_nil _ hne, List.head?_append_of_ne_nil _ (digitChars_ne_nil n)] at hhead
    exact absurd (hhead ▸ hzero) (head?_digitChars h)

/-- The characters of a decimal without its sign. -/
def sizeChars (digits : Nat) (exponent : Int) : List Char :=
  (Decimal.text (.finite false digits exponent)).toList

section Forms

variable {digits : Nat} {exponent : Int} {rest : List Char}

theorem isDigit_of_mem_zeros {zeros : Nat} {c : Char} (h : c ∈ List.replicate zeros '0') :
    c.isDigit = true := by
  rw [List.eq_of_mem_replicate h]
  rfl

theorem readNumber_positional (negative : Bool) (hd : digits ≠ 0) (he : exponent < 0) (hr : Ends rest) :
    readNumber negative
        ((positional (digitChars digits) (exponent + (digitChars digits).length)).toList ++ rest) =
      some (.real (canonical negative digits exponent), rest) := by
  have hvalue := digitsValue_digitChars digits
  have hdigits : ∀ c ∈ digitChars digits, c.isDigit = true := fun c => isDigit_of_mem_digitChars
  have hne := digitChars_ne_nil digits
  unfold positional
  split
  · next hpoint =>
      have hplaces : ∀ c ∈ List.replicate (-(exponent + (digitChars digits).length)).toNat '0' ++
          digitChars digits, c.isDigit = true :=
        List.forall_mem_append.2 ⟨fun c => isDigit_of_mem_zeros, hdigits⟩
      have hread := readNumber_places negative (isWhole_digitChars 0) _
        (List.append_ne_nil_of_right_ne_nil _ hne) hplaces hr
      have hzero : digitsValue (digitChars 0 ++ (List.replicate
          (-(exponent + (digitChars digits).length)).toNat '0' ++ digitChars digits)) = digits := by
        rw [← List.append_assoc, show digitChars 0 = List.replicate 1 '0' from rfl,
          List.replicate_append_replicate, digitsValue_zeros_append, hvalue]
      have hlength : (-((List.replicate (-(exponent + (digitChars digits).length)).toNat '0' ++
          digitChars digits).length : Int)) = exponent := by
        rw [List.length_append, List.length_replicate]
        omega
      rw [hzero, hlength] at hread
      simpa [show digitChars 0 = ['0'] from rfl] using hread
  · next hpoint =>
      rw [if_pos (by omega)]
      generalize hat : (exponent + (digitChars digits).length).toNat = point
      have hwhole : IsWhole ((digitChars digits).take point) :=
        isWhole_of_prefix hd (by simp [hne]; omega) [] (by simp)
          (by simpa using List.take_prefix point _)
      have hread := readNumber_places negative hwhole ((digitChars digits).drop point)
        (by simp; omega) (fun c hc => hdigits c (List.mem_of_mem_drop hc)) hr
      have hlength : (-(((digitChars digits).drop point).length : Int)) = exponent := by
        rw [List.length_drop]
        omega
      rw [List.take_append_drop, hvalue, hlength] at hread
      simpa using hread

theorem readNumber_zeros (negative : Bool) (hd : digits ≠ 0) (he : 0 ≤ exponent) (hr : Ends rest) :
    readNumber negative
        ((positional (digitChars digits) (exponent + (digitChars digits).length) ++ ".0").toList ++ rest) =
      some (.real (canonical negative (digits * 10 ^ (exponent.toNat + 1)) (-1)), rest) := by
  have hlength := length_digitChars_pos digits
  have hzeros : (exponent + (digitChars digits).length).toNat - (digitChars digits).length =
      exponent.toNat := by omega
  unfold positional
  rw [if_neg (by omega), if_neg (by omega), hzeros]
  have hwhole : IsWhole (digitChars digits ++ List.replicate exponent.toNat '0') :=
    isWhole_of_prefix hd (by simp [digitChars_ne_nil]) _ (fun c => isDigit_of_mem_zeros) List.prefix_rfl
  have hread := readNumber_places negative hwhole ['0'] (List.cons_ne_nil _ _)
    (List.forall_mem_singleton.2 rfl) hr
  have hvalue : digitsValue (digitChars digits ++ List.replicate exponent.toNat '0' ++ ['0']) =
      digits * 10 ^ (exponent.toNat + 1) := by
    rw [List.append_assoc, ← List.replicate_succ', digitsValue_append_zeros, digitsValue_digitChars]
  rw [hvalue] at hread
  simpa using hread

theorem readNumber_scientific (negative : Bool) (hd : digits ≠ 0) (hr : Ends rest) :
    readNumber negative
        ((scientific (digitChars digits) (exponent + (digitChars digits).length - 1)).toList ++ rest) =
      some (.real (canonical negative digits exponent), rest) := by
  have hne := digitChars_ne_nil digits
  have hlength := length_digitChars_pos digits
  generalize hat : exponent + (digitChars digits).length - 1 = leading
  -- the exponent is written with a leading zero or without one
  have hsize : ∃ zeros, (if (digitChars leading.natAbs).length < 2 then
      '0' :: digitChars leading.natAbs else digitChars leading.natAbs) =
        List.replicate zeros '0' ++ digitChars leading.natAbs := by
    split
    · exact ⟨1, rfl⟩
    · exact ⟨0, rfl⟩
  obtain ⟨zeros, hsize⟩ := hsize
  have hwhole : IsWhole ((digitChars digits).take 1) :=
    isWhole_of_prefix hd (by simp [hne]) [] (by simp) (by simpa using List.take_prefix 1 _)
  have hread := readNumber_exponent negative hwhole ((digitChars digits).drop 1)
    (fun c hc => isDigit_of_mem_digitChars (List.mem_of_mem_drop hc)) (decide (leading < 0))
    (List.replicate zeros '0' ++ digitChars leading.natAbs)
    (List.append_ne_nil_of_right_ne_nil _ (digitChars_ne_nil _))
    (List.forall_mem_append.2 ⟨fun c => isDigit_of_mem_zeros, fun c => isDigit_of_mem_digitChars⟩) hr
  have hexponent : (if decide (leading < 0) = true then -(leading.natAbs : Int) else leading.natAbs) -
      (((digitChars digits).drop 1).length : Int) = exponent := by
    rw [List.length_drop]
    simp only [decide_eq_true_eq]
    split <;> omega
  rw [List.take_append_drop, digitsValue_zeros_append, digitsValue_digitChars, digitsValue_digitChars,
    hexponent] at hread
  unfold scientific
  simp only [hsize]
  simpa using hread

end Forms

theorem readNumber_sizeChars {negative : Bool} {digits : Nat} {exponent : Int}
    (h : IsCanonical (.finite negative digits exponent)) {rest : List Char} (hr : Ends rest) :
    readNumber negative (sizeChars digits exponent ++ rest) =
      some (.real (.finite negative digits exponent), rest) := by
  have hcanonical := canonical_of_isCanonical h
  rcases h with hd | ⟨rfl, rfl⟩
  · have hzero := ne_zero_of_mod_ne_zero hd
    unfold sizeChars Decimal.text
    simp only [if_neg hzero, signText, Bool.false_eq_true, if_false, String.empty_append]
    split
    · split
      · next he => rw [readNumber_positional negative hzero he hr, hcanonical]
      · next he =>
          rw [readNumber_zeros negative hzero (not_lt.1 he) hr, canonical_mul hd]
          congr 4
          omega
    · rw [readNumber_scientific negative hzero hr, hcanonical]
  · have hread := readNumber_places negative (isWhole_digitChars 0) ['0'] (List.cons_ne_nil _ _)
      (List.forall_mem_singleton.2 rfl) hr
    rw [show digitsValue (digitChars 0 ++ ['0']) = 0 from rfl, canonical_zero] at hread
    exact hread

/-! ## Numbers as values -/

theorem exists_digit_of_readNumber {negative : Bool} {cs : List Char} {answer : Json × List Char}
    (h : readNumber negative cs = some answer) : ∃ c rest, cs = c :: rest ∧ c.isDigit = true := by
  cases cs with
  | nil => cases h
  | cons c rest =>
    refine ⟨c, rest, rfl, ?_⟩
    by_contra hc
    have hne : c ≠ '0' := by
      rintro rfl
      exact hc rfl
    simp [readNumber, hc, hne] at h

theorem readAtom_of_isDigit {c : Char} (hc : c.isDigit = true) (rest : List Char) :
    readAtom (c :: rest) = readNumber false (c :: rest) := by
  rw [readAtom] <;>
    · intro _ heq
      cases heq
      exact absurd hc (by decide)

theorem readAtom_minus {c : Char} (hc : c.isDigit = true) (rest : List Char) :
    readAtom ('-' :: c :: rest) = readNumber true (c :: rest) := by
  rw [readAtom]
  intro _ heq
  cases heq
  exact absurd hc (by decide)

/-- A number with its sign is read as the number without it. -/
theorem readAtom_signed (negative : Bool) {body rest : List Char} {json : Json}
    (h : readNumber negative (body ++ rest) = some (json, rest)) :
    readAtom ((if negative then '-' :: body else body) ++ rest) = some (json, rest) := by
  obtain ⟨c, more, hbody, hc⟩ := exists_digit_of_readNumber h
  cases negative with
  | false => exact (hbody ▸ readAtom_of_isDigit hc more).trans h
  | true => exact (hbody ▸ readAtom_minus hc more).trans h

theorem readAtom_intChars (n : Int) {rest : List Char} (hr : Ends rest) :
    readAtom (intChars n ++ rest) = some (.int n, rest) := by
  have hread := readNumber_int (decide (n < 0)) (isWhole_digitChars n.natAbs) hr
  have hvalue : (if decide (n < 0) = true then -(n.natAbs : Int) else n.natAbs) = n := by
    simp only [decide_eq_true_eq]
    split <;> omega
  rw [digitsValue_digitChars, hvalue] at hread
  simpa [intChars] using readAtom_signed _ hread

theorem realChars_finite (negative : Bool) (digits : Nat) (exponent : Int) :
    realChars (.finite negative digits exponent) =
      if negative then '-' :: sizeChars digits exponent else sizeChars digits exponent := by
  cases negative with
  | false => rfl
  | true =>
    simp only [realChars, sizeChars, Decimal.text, signText, String.toList_append]
    rfl

theorem readAtom_realChars {d : Decimal} (h : IsCanonical d) {rest : List Char} (hr : Ends rest) :
    readAtom (realChars d ++ rest) = some (.real d, rest) := by
  cases d with
  | undefined => rfl
  | infinite negative => cases negative <;> rfl
  | finite negative digits exponent =>
    rw [realChars_finite]
    exact readAtom_signed negative (readNumber_sizeChars h hr)

end Greenlight.Json
