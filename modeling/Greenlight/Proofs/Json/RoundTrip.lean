import Greenlight.Proofs.Json.Numbers
import Greenlight.Proofs.Json.Texts

/-! # Values that are read back

Main statement: a written value is read as the value that it was. -/

namespace Greenlight.Json

/-- The decimals in a value are canonical. -/
inductive IsPlain : Json → Prop where
  | null : IsPlain .null
  | bool (b : Bool) : IsPlain (.bool b)
  | int (n : Int) : IsPlain (.int n)
  | real {d : Decimal} (h : d.IsCanonical) : IsPlain (.real d)
  | text (s : String) : IsPlain (.text s)
  | list {items : List Json} (h : ∀ item ∈ items, IsPlain item) : IsPlain (.list items)
  | object {entries : List (String × Json)} (h : ∀ entry ∈ entries, IsPlain entry.2) :
      IsPlain (.object entries)

/-! ## Layout -/

/-- The characters begin a value: neither white space nor the end of a list. -/
def Begins (cs : List Char) : Prop := ∃ c rest, cs = c :: rest ∧ isSpace c = false ∧ c ≠ ']'

theorem skipSpace_of_begins {cs : List Char} (h : Begins cs) : skipSpace cs = cs := by
  obtain ⟨c, rest, rfl, hc, -⟩ := h
  rw [skipSpace, List.dropWhile_cons_of_neg (by simp [hc])]

theorem skipSpace_newLine_append (level : Nat) (cs : List Char) :
    skipSpace (newLine level ++ cs) = skipSpace cs :=
  List.dropWhile_append_of_pos fun c hc => by
    rcases List.mem_cons.1 hc with rfl | hc
    · rfl
    · rw [List.eq_of_mem_replicate hc]
      rfl

theorem Begins.append {cs : List Char} (h : Begins cs) (rest : List Char) : Begins (cs ++ rest) := by
  obtain ⟨c, more, rfl, hc⟩ := h
  exact ⟨c, more ++ rest, rfl, hc⟩

theorem begins_of_isDigit {c : Char} (hc : c.isDigit = true) (rest : List Char) : Begins (c :: rest) := by
  refine ⟨c, rest, rfl, ?_, ?_⟩
  · by_contra hspace
    simp only [isSpace, Bool.not_eq_false, Bool.or_eq_true, beq_iff_eq] at hspace
    rcases hspace with ((rfl | rfl) | rfl) | rfl <;> exact absurd hc (by decide)
  · rintro rfl
    exact absurd hc (by decide)

theorem begins_signed (negative : Bool) {body : List Char} {json : Json}
    (h : readNumber negative body = some (json, [])) :
    Begins (if negative then '-' :: body else body) := by
  obtain ⟨c, rest, rfl, hc⟩ := exists_digit_of_readNumber h
  cases negative with
  | false => exact begins_of_isDigit hc rest
  | true => exact ⟨_, _, rfl, rfl, by decide⟩

theorem begins_valueChars {json : Json} (h : IsPlain json) (level : Nat) :
    Begins (valueChars level json) := by
  have hend : Ends [] := nofun
  cases h with
  | null => exact ⟨_, _, rfl, rfl, by decide⟩
  | bool b => cases b <;> exact ⟨_, _, rfl, rfl, by decide⟩
  | int n =>
    have hread := readNumber_int (decide (n < 0)) (isWhole_digitChars n.natAbs) hend
    rw [List.append_nil] at hread
    simpa [valueChars, intChars] using begins_signed _ hread
  | @real d hd =>
    cases d with
    | undefined => exact ⟨_, _, rfl, rfl, by decide⟩
    | infinite negative => cases negative <;> exact ⟨_, _, rfl, rfl, by decide⟩
    | finite negative digits exponent =>
      have hread := readNumber_sizeChars hd hend
      rw [List.append_nil] at hread
      rw [valueChars, realChars_finite]
      exact begins_signed negative hread
  | text => exact ⟨_, _, rfl, rfl, by decide⟩
  | @list items => cases items <;> exact ⟨_, _, rfl, rfl, by decide⟩
  | @object entries =>
    cases entries with
    | nil => exact ⟨_, _, rfl, rfl, by decide⟩
    | cons => exact ⟨_, _, rfl, rfl, by decide⟩

theorem begins_comma (rest : List Char) : Begins (',' :: rest) := ⟨_, _, rfl, rfl, by decide⟩

theorem begins_colon (rest : List Char) : Begins (':' :: rest) := ⟨_, _, rfl, rfl, by decide⟩

theorem skipSpace_space (rest : List Char) : skipSpace (' ' :: rest) = skipSpace rest := rfl

/-! ## Reading back -/

/-- Wherever the value stands and whatever ends it, enough steps read it. -/
def ReadsBack (json : Json) : Prop :=
  ∀ level fuel rest, Ends rest → (valueChars level json).length < fuel →
    readValue fuel (valueChars level json ++ rest) = some (json, rest)

section Steps

variable {fuel level : Nat} {cs next rest : List Char} {item : Json} {items : List Json} {key : String}
  {entries : List (String × Json)}

theorem readItems_last (h : readValue fuel cs = some (item, newLine level ++ ']' :: rest)) :
    readItems (fuel + 1) cs = some ([item], rest) := by
  rw [readItems, h]
  simp only [Option.bind_eq_bind, Option.bind_some, skipSpace_newLine_append]
  rfl

theorem readItems_comma (h : readValue fuel cs = some (item, ',' :: (newLine level ++ next)))
    (hn : Begins next) (hm : readItems fuel next = some (items, rest)) :
    readItems (fuel + 1) cs = some (item :: items, rest) := by
  rw [readItems, h]
  simp only [Option.bind_eq_bind, Option.bind_some, skipSpace_of_begins (begins_comma _),
    skipSpace_newLine_append, skipSpace_of_begins hn, hm]
  rfl

theorem readEntries_last (hc : Begins cs)
    (h : readValue fuel cs = some (item, newLine level ++ '}' :: rest)) :
    readEntries (fuel + 1) (textChars key ++ ':' :: ' ' :: cs) = some ([(key, item)], rest) := by
  rw [textChars_append, readEntries, readText_escaped]
  simp only [Option.bind_eq_bind, Option.bind_some, skipSpace_of_begins (begins_colon _),
    skipSpace_space, skipSpace_of_begins hc, h, skipSpace_newLine_append, String.ofList_toList]
  rfl

theorem readEntries_comma (hc : Begins cs)
    (h : readValue fuel cs = some (item, ',' :: (newLine level ++ next))) (hn : Begins next)
    (hm : readEntries fuel next = some (entries, rest)) :
    readEntries (fuel + 1) (textChars key ++ ':' :: ' ' :: cs) = some ((key, item) :: entries, rest) := by
  rw [textChars_append, readEntries, readText_escaped]
  simp only [Option.bind_eq_bind, Option.bind_some, skipSpace_of_begins (begins_colon _),
    skipSpace_space, skipSpace_of_begins hc, h, skipSpace_of_begins (begins_comma _),
    skipSpace_newLine_append, skipSpace_of_begins hn, hm, String.ofList_toList]
  rfl

end Steps

theorem ends_newLine (level : Nat) (rest : List Char) : Ends (newLine level ++ rest) := by
  simp [newLine, Ends]

theorem ends_itemsChars (level : Nat) (items : List Json) {rest : List Char} (h : Ends rest) :
    Ends (itemsChars level items ++ rest) := by
  cases items with
  | nil => exact h
  | cons => simp [itemsChars, Ends]

theorem ends_entriesChars (level : Nat) (entries : List (String × Json)) {rest : List Char}
    (h : Ends rest) : Ends (entriesChars level entries ++ rest) := by
  cases entries with
  | nil => exact h
  | cons => simp [entriesChars, Ends]

theorem readItems_itemsChars {item : Json} {items : List Json} (level outer fuel : Nat)
    (rest : List Char) (hp : ∀ v ∈ item :: items, IsPlain v) (h : ∀ v ∈ item :: items, ReadsBack v)
    (hf : (valueChars level item).length + (itemsChars level items).length < fuel) :
    readItems (fuel + 1) (valueChars level item ++
        (itemsChars level items ++ (newLine outer ++ ']' :: rest))) = some (item :: items, rest) := by
  induction items generalizing item fuel with
  | nil =>
    exact readItems_last (h item (.head _) level fuel _ (ends_newLine outer _) (by omega))
  | cons next items ih =>
    obtain ⟨-, hp⟩ := List.forall_mem_cons.1 hp
    obtain ⟨hitem, h⟩ := List.forall_mem_cons.1 h
    obtain ⟨fuel, rfl⟩ := Nat.exists_eq_succ_of_ne_zero (Nat.ne_of_gt (Nat.zero_lt_of_lt hf))
    simp only [itemsChars, List.length_cons, List.length_append] at hf
    have hread := hitem level (fuel + 1) _ (ends_itemsChars level (next :: items)
      (ends_newLine outer (']' :: rest))) (by omega)
    simp only [itemsChars, List.cons_append, List.append_assoc] at hread ⊢
    exact readItems_comma hread ((begins_valueChars (hp next (.head _)) level).append _)
      (ih _ hp h (by omega))

theorem readEntries_entriesChars {entry : String × Json} {entries : List (String × Json)}
    (level outer fuel : Nat) (rest : List Char)
    (hp : ∀ e ∈ entry :: entries, IsPlain e.2) (h : ∀ e ∈ entry :: entries, ReadsBack e.2)
    (hf : (valueChars level entry.2).length + (entriesChars level entries).length < fuel) :
    readEntries (fuel + 1) (textChars entry.1 ++ ':' :: ' ' :: (valueChars level entry.2 ++
        (entriesChars level entries ++ (newLine outer ++ '}' :: rest)))) =
      some (entry :: entries, rest) := by
  induction entries generalizing entry fuel with
  | nil =>
    have hread := h entry (.head _) level fuel _ (ends_newLine outer ('}' :: rest)) (by omega)
    exact readEntries_last ((begins_valueChars (hp entry (.head _)) level).append _) hread
  | cons next entries ih =>
    obtain ⟨hplain, hp⟩ := List.forall_mem_cons.1 hp
    obtain ⟨hentry, h⟩ := List.forall_mem_cons.1 h
    obtain ⟨fuel, rfl⟩ := Nat.exists_eq_succ_of_ne_zero (Nat.ne_of_gt (Nat.zero_lt_of_lt hf))
    simp only [entriesChars, List.length_cons, List.length_append] at hf
    have hread := hentry level (fuel + 1) _ (ends_entriesChars level (next :: entries)
      (ends_newLine outer ('}' :: rest))) (by omega)
    have hmore := ih fuel hp h (by omega)
    have hbegins : Begins (textChars next.1 ++ ':' :: ' ' :: (valueChars level next.2 ++
        (entriesChars level entries ++ (newLine outer ++ '}' :: rest)))) := ⟨_, _, rfl, rfl, by decide⟩
    obtain ⟨key, value⟩ := next
    simp only [entriesChars, List.cons_append, List.append_assoc, List.nil_append] at hread ⊢
    exact readEntries_comma ((begins_valueChars hplain level).append _) hread hbegins hmore

theorem readValue_of_readAtom {cs : List Char} {answer : Json × List Char} (fuel : Nat)
    (h : readAtom cs = some answer) : readValue (fuel + 1) cs = some answer := by
  rw [readValue]
  · exact h
  all_goals
    rintro rest rfl
    simp [readAtom, readNumber] at h

theorem readValue_list {fuel : Nat} (level : Nat) {cs rest : List Char} {items : List Json} (hc : Begins cs)
    (h : readItems fuel cs = some (items, rest)) :
    readValue (fuel + 1) ('[' :: (newLine level ++ cs)) = some (.list items, rest) := by
  have hspace := skipSpace_of_begins hc
  obtain ⟨c, more, rfl, -, hne⟩ := hc
  simp only [readValue, skipSpace_newLine_append, hspace]
  split
  · next heq => exact absurd (List.cons.inj heq).1 hne
  · rw [h]
    rfl

theorem readValue_object {fuel : Nat} (level : Nat) {cs rest : List Char} {entries : List (String × Json)}
    (h : readEntries fuel ('"' :: cs) = some (entries, rest)) :
    readValue (fuel + 1) ('{' :: (newLine level ++ '"' :: cs)) = some (.object entries, rest) := by
  have hspace : skipSpace ('"' :: cs) = '"' :: cs := rfl
  simp [readValue, skipSpace_newLine_append, hspace, h]

theorem ReadsBack.of_readAtom {json : Json}
    (h : ∀ level rest, Ends rest → readAtom (valueChars level json ++ rest) = some (json, rest)) :
    ReadsBack json := by
  intro level fuel rest hr hf
  obtain ⟨fuel, rfl⟩ := Nat.exists_eq_succ_of_ne_zero (Nat.ne_of_gt (Nat.zero_lt_of_lt hf))
  exact readValue_of_readAtom fuel (h level rest hr)

theorem readsBack_of_isPlain {json : Json} (h : IsPlain json) : ReadsBack json := by
  induction h with
  | null => exact .of_readAtom fun _ _ _ => rfl
  | bool b => cases b <;> exact .of_readAtom fun _ _ _ => rfl
  | int n => exact .of_readAtom fun _ _ hr => readAtom_intChars n hr
  | real hd => exact .of_readAtom fun _ _ hr => readAtom_realChars hd hr
  | text s => exact .of_readAtom fun _ rest _ => readAtom_textChars s rest
  | @list items hp ih =>
    intro level fuel rest hr hf
    obtain ⟨fuel, rfl⟩ := Nat.exists_eq_succ_of_ne_zero (Nat.ne_of_gt (Nat.zero_lt_of_lt hf))
    cases items with
    | nil => rfl
    | cons item items =>
      simp only [valueChars, List.length_cons, List.length_append] at hf
      obtain ⟨fuel, rfl⟩ := Nat.exists_eq_succ_of_ne_zero (Nat.ne_of_gt (by omega : 0 < fuel))
      have hread := readItems_itemsChars (level + 1) level fuel rest
        hp ih (by omega)
      have hbegins := (begins_valueChars (hp item (.head _)) (level + 1)).append
        (itemsChars (level + 1) items ++ (newLine level ++ ']' :: rest))
      simpa [valueChars] using readValue_list (level + 1) hbegins hread
  | @object entries hp ih =>
    intro level fuel rest hr hf
    obtain ⟨fuel, rfl⟩ := Nat.exists_eq_succ_of_ne_zero (Nat.ne_of_gt (Nat.zero_lt_of_lt hf))
    cases entries with
    | nil => rfl
    | cons entry entries =>
      obtain ⟨key, value⟩ := entry
      simp only [valueChars, List.length_cons, List.length_append] at hf
      obtain ⟨fuel, rfl⟩ := Nat.exists_eq_succ_of_ne_zero (Nat.ne_of_gt (by omega : 0 < fuel))
      have hfuel : (valueChars (level + 1) value).length + (entriesChars (level + 1) entries).length <
          fuel := by omega
      have hread := readEntries_entriesChars _ level _ rest hp ih hfuel
      rw [textChars_append] at hread
      simpa [valueChars, textChars] using readValue_object (level + 1) hread

/-- A written value is read as the value that it was, with white space behind it or without. -/
theorem read?_write {json : Json} (h : IsPlain json) {rest : String} (hr : Ends rest.toList)
    (hs : (skipSpace rest.toList).isEmpty = true) : read? (json.write ++ rest) = some json := by
  have hread := readsBack_of_isPlain h 0
    (2 * (valueChars 0 json ++ rest.toList).length + 2) rest.toList hr (by simp; omega)
  rw [read?, write, String.toList_append, String.toList_ofList, readChars?,
    skipSpace_of_begins ((begins_valueChars h 0).append _), hread]
  exact if_pos hs

end Greenlight.Json
