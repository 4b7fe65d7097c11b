import Greenlight.Proofs.Failing
import Greenlight.Proofs.Text.Utf8

/-! # Encoded texts

Strict reading takes the encodings of texts and nothing else. Main statement: lenient reading gives an
encoded text back whatever follows it, and shows a replacement character where no character is
encoded. -/

namespace Greenlight.Text

variable {b : UInt8} {rest bytes : List UInt8} {c : Char} {n more : Nat}

/-! ## The bytes of a character -/

theorem isTail_iff : isTail b = true ↔ 128 ≤ b.toNat ∧ b.toNat < 192 := by
  simp [isTail, UInt8.le_iff_toNat_le, UInt8.lt_iff_toNat_lt]

theorem isSecond_iff {first second : UInt8} : isSecond first second = true ↔
    isTail second = true ∧ (first.toNat = 224 → 160 ≤ second.toNat) ∧
      (first.toNat = 237 → second.toNat < 160) ∧ (first.toNat = 240 → 144 ≤ second.toNat) ∧
      (first.toNat = 244 → second.toNat < 144) := by
  simp only [isSecond, Bool.and_eq_true, beq_iff_eq, ← UInt8.toNat_inj]
  refine and_congr_right fun _ => ?_
  split <;> [skip; split <;> [skip; split <;> [skip; split]]] <;>
    simp_all [UInt8.le_iff_toNat_le, UInt8.lt_iff_toNat_lt]

/-- Bytes of one character, and its number. -/
inductive Spells : List UInt8 → Nat → Prop where
  | one {a : UInt8} (ha : a.toNat < 128) : Spells [a] a.toNat
  | two {a b : UInt8} (ha : 194 ≤ a.toNat ∧ a.toNat < 224) (hb : isTail b = true) :
      Spells [a, b] ((a.toNat - 192) * 64 + (b.toNat - 128))
  | three {a b c : UInt8} (ha : 224 ≤ a.toNat ∧ a.toNat < 240) (hb : isSecond a b = true)
      (hc : isTail c = true) :
      Spells [a, b, c] (((a.toNat - 224) * 64 + (b.toNat - 128)) * 64 + (c.toNat - 128))
  | four {a b c d : UInt8} (ha : 240 ≤ a.toNat ∧ a.toNat < 245) (hb : isSecond a b = true)
      (hc : isTail c = true) (hd : isTail d = true) :
      Spells [a, b, c, d]
        ((((a.toNat - 240) * 64 + (b.toNat - 128)) * 64 + (c.toNat - 128)) * 64 + (d.toNat - 128))

theorem Spells.isValidChar (h : Spells bytes n) : n.isValidChar := by
  unfold Nat.isValidChar
  cases h with
  | one ha => omega
  | two ha hb =>
    rw [isTail_iff] at hb
    omega
  | three ha hb hc =>
    rw [isSecond_iff, isTail_iff] at hb
    rw [isTail_iff] at hc
    omega
  | four ha hb hc hd =>
    rw [isSecond_iff, isTail_iff] at hb
    rw [isTail_iff] at hc hd
    omega

/-- No character has two spellings: overlong ones are refused. -/
theorem Spells.unique {others : List UInt8} {m : Nat} (h : Spells bytes n) (ho : Spells others m)
    (hnm : n = m) : bytes = others := by
  cases h <;> cases ho <;>
    simp_all only [isSecond_iff, isTail_iff, List.cons.injEq, ← UInt8.toNat_inj, and_true, and_false,
      reduceCtorEq] <;>
    omega

theorem spells_encodeChar (c : Char) : Spells (String.utf8EncodeChar c) c.toNat := by
  have hvalid : c.val.toNat < 0xD800 ∨ 0xDFFF < c.val.toNat ∧ c.val.toNat < 0x110000 := c.valid
  have htail (n : Nat) : isTail (UInt8.ofNat (n % 64 + 128)) = true := by
    rw [isTail_iff, UInt8.toNat_ofNat']
    omega
  unfold String.utf8EncodeChar Char.toNat
  generalize c.val.toNat = n at hvalid ⊢
  dsimp only
  split
  · have hs := @Spells.one (UInt8.ofNat n)
    simp only [UInt8.toNat_ofNat'] at hs
    convert hs (by omega) using 1
    omega
  · split
    · have hs := @Spells.two (UInt8.ofNat (n / 64 % 32 + 192)) (UInt8.ofNat (n % 64 + 128))
      simp only [UInt8.toNat_ofNat'] at hs
      convert hs (by omega) (htail n) using 1
      omega
    · split
      · have hs := @Spells.three (UInt8.ofNat (n / 4096 % 16 + 224))
          (UInt8.ofNat (n / 64 % 64 + 128)) (UInt8.ofNat (n % 64 + 128))
        simp only [UInt8.toNat_ofNat', isSecond_iff, htail, true_and] at hs
        convert hs (by omega) (by omega) trivial using 1
        omega
      · have hs := @Spells.four (UInt8.ofNat (n / 262144 % 8 + 240))
          (UInt8.ofNat (n / 4096 % 64 + 128)) (UInt8.ofNat (n / 64 % 64 + 128))
          (UInt8.ofNat (n % 64 + 128))
        simp only [UInt8.toNat_ofNat', isSecond_iff, htail, true_and] at hs
        convert hs (by omega) (by omega) trivial trivial using 1
        omega

theorem exists_encodeChar (c : Char) : ∃ b tails, String.utf8EncodeChar c = b :: tails := by
  have h := spells_encodeChar c
  cases hb : String.utf8EncodeChar c with
  | nil =>
    rw [hb] at h
    cases h
  | cons b tails => exact ⟨b, tails, rfl⟩

/-! ## The piece that is read -/

theorem utf8Piece_of_spells {tails : List UInt8} (h : Spells (b :: tails) n) (later : List UInt8) :
    utf8Piece b (tails ++ later) = .char (Char.ofNat n) tails.length := by
  cases h with
  | one ha => simp [utf8Piece, UInt8.lt_iff_toNat_lt, ha]
  | two ha hb =>
    have hsecond := isSecond_iff.2 ⟨hb, (by omega : b.toNat = 224 → _), by omega, by omega, by omega⟩
    have hsize : ¬b.toNat < 128 ∧ ¬b.toNat < 194 ∧ ¬244 < b.toNat := by omega
    simp [utf8Piece, UInt8.lt_iff_toNat_lt, charOfGroups, hsize, ha, hsecond]
  | three ha hb hc =>
    have hsize : ¬b.toNat < 128 ∧ ¬b.toNat < 194 ∧ ¬244 < b.toNat ∧ ¬b.toNat < 224 := by omega
    simp [utf8Piece, UInt8.lt_iff_toNat_lt, charOfGroups, hsize, ha, hb, hc]
  | four ha hb hc hd =>
    have hsize : ¬b.toNat < 128 ∧ ¬b.toNat < 194 ∧ ¬244 < b.toNat ∧ ¬b.toNat < 224 ∧
        ¬b.toNat < 240 := by omega
    simp [utf8Piece, UInt8.lt_iff_toNat_lt, charOfGroups, hsize, hb, hc, hd]

theorem spells_of_utf8Piece (h : utf8Piece b rest = .char c more) :
    ∃ tails later, rest = tails ++ later ∧ Spells (b :: tails) c.toNat ∧ tails.length = more := by
  have hread {n : Nat} {tails : List UInt8} (later : List UInt8) (hs : Spells (b :: tails) n) :
      ∃ tails' later', tails ++ later = tails' ++ later' ∧
        Spells (b :: tails') (Char.ofNat n).toNat ∧ tails'.length = tails.length := by
    refine ⟨tails, later, rfl, ?_, rfl⟩
    rwa [Char.ofNat, dif_pos hs.isValidChar]
  have hrange (h : ¬(b < 0xC2 || 0xF4 < b)) : 194 ≤ b.toNat ∧ b.toNat ≤ 244 := by
    simpa [UInt8.le_iff_toNat_le] using h
  have hlt {limit : UInt8} (h : b < limit) : b.toNat < limit.toNat := UInt8.lt_iff_toNat_lt.1 h
  have hge {limit : UInt8} (h : ¬b < limit) : limit.toNat ≤ b.toNat :=
    UInt8.le_iff_toNat_le.1 (UInt8.not_lt.1 h)
  revert h
  fun_cases utf8Piece b rest <;> simp only [reduceCtorEq, false_imp_iff, Utf8Piece.char.injEq] <;>
    rintro ⟨rfl, rfl⟩
  case case1 ha => exact hread rest (.one (hlt ha))
  case case5 _ hstart s later hs ha =>
    have hb : 194 ≤ b.toNat ∧ b.toNat < 224 := ⟨(hrange hstart).1, hlt ha⟩
    rw [Bool.not_eq_true', Bool.not_eq_false] at hs
    exact hread later (.two hb (isSecond_iff.1 hs).1)
  case case8 _ _ s hs ha t later ht ha' =>
    have hb : 224 ≤ b.toNat ∧ b.toNat < 240 := ⟨hge ha, hlt ha'⟩
    rw [Bool.not_eq_true', Bool.not_eq_false] at hs ht
    exact hread later (.three hb hs ht)
  case case11 _ hstart s hs _ t ht ha u later hu =>
    have hb : 240 ≤ b.toNat ∧ b.toNat < 245 := ⟨hge ha, Nat.lt_succ_of_le (hrange hstart).2⟩
    rw [Bool.not_eq_true', Bool.not_eq_false] at hs ht hu
    exact hread later (.four hb hs ht hu)

/-- A character is read where its encoding stands. -/
theorem utf8Piece_eq_char_iff : utf8Piece b rest = .char c more ↔
    ∃ tails later, rest = tails ++ later ∧ String.utf8EncodeChar c = b :: tails ∧
      tails.length = more := by
  constructor
  · intro h
    obtain ⟨tails, later, hrest, hs, hm⟩ := spells_of_utf8Piece h
    exact ⟨tails, later, hrest, (spells_encodeChar c).unique hs rfl, hm⟩
  · rintro ⟨tails, later, rfl, hc, rfl⟩
    have hs := spells_encodeChar c
    rw [hc] at hs
    rw [utf8Piece_of_spells hs, Char.ofNat_toNat]

/-! ## Texts -/

theorem encode_eq (s : String) : encode s = s.toList.flatMap String.utf8EncodeChar := by
  rw [encode, String.toUTF8, ← String.utf8Encode_toList, List.utf8Encode, List.toList_data_toByteArray]

theorem decodeFrom_flatMap (position : Nat) (cs : List Char) :
    decodeFrom position (cs.flatMap String.utf8EncodeChar) = .ok cs := by
  induction cs generalizing position with
  | nil => rw [List.flatMap_nil, decodeFrom]
  | cons c cs ih =>
    obtain ⟨b, tails, hc⟩ := exists_encodeChar c
    have hpiece : utf8Piece b (tails ++ cs.flatMap String.utf8EncodeChar) = .char c tails.length :=
      utf8Piece_eq_char_iff.2 ⟨tails, _, rfl, hc, rfl⟩
    rw [List.flatMap_cons, hc, List.cons_append, decodeFrom]
    split
    · next hp =>
        rw [hpiece, Utf8Piece.char.injEq] at hp
        obtain ⟨rfl, rfl⟩ := hp
        rw [List.drop_left, ih]
        rfl
    · next hp =>
        rw [hpiece] at hp
        cases hp

theorem eq_flatMap_of_decodeFrom {position : Nat} {cs : List Char}
    (h : decodeFrom position bytes = .ok cs) : bytes = cs.flatMap String.utf8EncodeChar := by
  fun_induction decodeFrom position bytes generalizing cs with
  | case1 =>
    cases h
    rfl
  | case2 position b rest c more hp ih =>
    obtain ⟨cs, hcs, rfl⟩ := map_eq_ok_iff.1 h
    obtain ⟨tails, later, rfl, hc, rfl⟩ := utf8Piece_eq_char_iff.1 hp
    rw [List.drop_left] at ih hcs
    rw [List.flatMap_cons, hc, List.cons_append, ← ih hcs]
  | case3 => cases h

/-- Strict reading is the inverse of encoding. -/
theorem decode_eq_ok_iff {s : String} : decode bytes = .ok s.toList ↔ bytes = encode s := by
  rw [encode_eq]
  constructor
  · exact eq_flatMap_of_decodeFrom
  · rintro rfl
    exact decodeFrom_flatMap 0 s.toList

/-- Texts with the same bytes are the same. -/
theorem encode_inj {s other : String} : encode s = encode other ↔ s = other := by
  rw [← decode_eq_ok_iff, decode_eq_ok_iff.2 rfl, Except.ok.injEq, String.toList_inj]

/-- An encoded text is read as that text, whatever follows it. -/
theorem decodeLossy_encode_append (s : String) (rest : List UInt8) :
    decodeLossy (encode s ++ rest) = s.toList ++ decodeLossy rest := by
  rw [encode_eq]
  induction s.toList with
  | nil => rfl
  | cons c cs ih =>
    obtain ⟨b, tails, hc⟩ := exists_encodeChar c
    have hpiece : utf8Piece b (tails ++ (cs.flatMap String.utf8EncodeChar ++ rest)) =
        .char c tails.length := utf8Piece_eq_char_iff.2 ⟨tails, _, rfl, hc, rfl⟩
    rw [List.flatMap_cons, hc, List.append_assoc, List.cons_append, decodeLossy_cons, hpiece]
    simp only [Utf8Piece.shown, Utf8Piece.more, List.drop_left, ih, List.cons_append]

theorem decodeLossy_encode (s : String) : decodeLossy (encode s) = s.toList := by
  simpa [decodeLossy_nil] using decodeLossy_encode_append s []

/-- Where no character is encoded, one replacement character stands for a byte and some that could only
stand behind it. -/
theorem decodeLossy_of_not_encoded (h : ∀ c, ¬String.utf8EncodeChar c <+: b :: rest) :
    ∃ n, (∀ x ∈ rest.take n, isTail x = true) ∧
      decodeLossy (b :: rest) = '\uFFFD' :: decodeLossy (rest.drop n) := by
  refine ⟨(utf8Piece b rest).more, (utf8Piece_more b rest).2, ?_⟩
  rw [decodeLossy_cons]
  cases hp : utf8Piece b rest with
  | defect cause more => rfl
  | char c more =>
    obtain ⟨tails, later, rfl, hc, -⟩ := utf8Piece_eq_char_iff.1 hp
    refine absurd ⟨later, ?_⟩ (h c)
    rw [hc, List.cons_append]

example : decodeLossy [104, 0xC3, 0xA9, 0xC3] = ['h', '\u00E9', '\uFFFD'] := by decide +kernel

end Greenlight.Text
