import Greenlight.Proofs.Text.Pieces
import Greenlight.Text.Blank
import Mathlib.Data.List.DropRight
import Mathlib.Data.List.Infix

/-! # Stripped texts

A text that stripping does not change has no blank at either end; a stripped text is one. Such texts with
marks between them make another one. -/

namespace Greenlight.Text

theorem stripEndChars_eq (cs : List Char) :
    stripEndChars cs = (stripStartChars cs.reverse).reverse := rfl

/-- Stripping changes nothing when neither end is stripped. -/
theorem stripChars_eq_self_iff {cs : List Char} :
    stripChars cs = cs ↔ stripStartChars cs = cs ∧ stripEndChars cs = cs := by
  constructor
  · intro h
    have hsuffix : stripStartChars cs <:+ cs := List.dropWhile_suffix _
    have hend : (stripEndChars (stripStartChars cs)).length ≤ (stripStartChars cs).length := by
      have hle := (List.dropWhile_suffix isBlank (l := (stripStartChars cs).reverse)).length_le
      rw [List.length_reverse] at hle
      rwa [stripEndChars_eq, List.length_reverse]
    have hstart : stripStartChars cs = cs := by
      refine hsuffix.eq_of_length_le ?_
      rwa [← stripChars, h] at hend
    refine ⟨hstart, ?_⟩
    rwa [stripChars, hstart] at h
  · rintro ⟨hstart, hend⟩
    rw [stripChars, hstart, hend]

theorem stripStartChars_append_cons {cs ds : List Char} {c : Char} (h : stripStartChars cs = cs)
    (hc : isBlank c = false) : stripStartChars (cs ++ c :: ds) = cs ++ c :: ds := by
  cases cs with
  | nil => exact List.dropWhile_cons_of_neg (Bool.eq_false_iff.1 hc)
  | cons a rest =>
    refine List.dropWhile_cons_of_neg fun ha => ?_
    -- a blank in front would be gone
    have hle := (List.dropWhile_suffix isBlank (l := rest)).length_le
    rw [stripStartChars, List.dropWhile_cons_of_pos ha] at h
    rw [h] at hle
    exact absurd hle (Nat.not_succ_le_self _)

theorem stripEndChars_append_cons {cs ds : List Char} {c : Char} (h : stripEndChars ds = ds)
    (hc : isBlank c = false) : stripEndChars (cs ++ c :: ds) = cs ++ c :: ds := by
  have hreverse : stripStartChars ds.reverse = ds.reverse := by
    rw [stripEndChars_eq] at h
    rw [← List.reverse_reverse (stripStartChars ds.reverse), h]
  rw [stripEndChars_eq, List.reverse_append, List.reverse_cons, List.append_assoc,
    List.singleton_append, stripStartChars_append_cons hreverse hc]
  simp

/-- Nothing is left of a text exactly if all of it is blank. -/
theorem stripEndChars_eq_nil_iff {cs : List Char} :
    stripEndChars cs = [] ↔ ∀ c ∈ cs, isBlank c = true :=
  List.rdropWhile_eq_nil_iff

/-- Of blanks at the end none is left. -/
theorem stripEndChars_append_blanks {cs blanks : List Char} {c : Char} (hc : isBlank c = false)
    (hb : ∀ b ∈ blanks, isBlank b = true) : stripEndChars (cs ++ c :: blanks) = cs ++ [c] := by
  have hreverse : (cs ++ c :: blanks).reverse = blanks.reverse ++ c :: cs.reverse := by simp
  have hblanks : ∀ b ∈ blanks.reverse, isBlank b = true := fun b hm => hb b (List.mem_reverse.1 hm)
  rw [stripEndChars, hreverse, List.dropWhile_append_of_pos hblanks,
    List.dropWhile_cons_of_neg (Bool.eq_false_iff.1 hc)]
  simp

theorem strip_eq_self_iff {s : String} : strip s = s ↔ stripChars s.toList = s.toList := by
  rw [← toList_strip, String.toList_inj]

/-- Nothing is cut off a text that has no blank at either end. -/
theorem strip_eq_self_iff_ends {s : String} :
    strip s = s ↔ (∀ c, s.toList.head? = some c → isBlank c = false) ∧
      ∀ c, s.toList.getLast? = some c → isBlank c = false := by
  have hstart (cs : List Char) :
      stripStartChars cs = cs ↔ ∀ c, cs.head? = some c → isBlank c = false := by
    cases cs with
    | nil => simp [stripStartChars]
    | cons c rest =>
      rw [stripStartChars, List.dropWhile_eq_self_iff]
      simp
  rw [strip_eq_self_iff, stripChars_eq_self_iff, hstart, stripEndChars_eq, List.reverse_eq_iff, hstart,
    List.head?_reverse]

/-- Cutting blanks off the end uncovers none at the start. -/
theorem stripStartChars_stripEndChars {cs : List Char} (h : stripStartChars cs = cs) :
    stripStartChars (stripEndChars cs) = stripEndChars cs := by
  obtain ⟨cut, hcut⟩ : stripEndChars cs <+: cs := List.rdropWhile_prefix isBlank cs
  cases hc : stripEndChars cs with
  | nil => rfl
  | cons c rest =>
    rw [hc] at hcut
    rw [← hcut] at h
    apply List.dropWhile_cons_of_neg
    exact List.dropWhile_eq_self_iff.1 h (Nat.zero_lt_succ _)

theorem strip_strip (s : String) : strip (strip s) = strip s := by
  have hstart : stripStartChars (stripStartChars s.toList) = stripStartChars s.toList :=
    List.dropWhile_idempotent isBlank s.toList
  rw [strip_eq_self_iff, toList_strip, stripChars_eq_self_iff]
  constructor
  · exact stripStartChars_stripEndChars hstart
  · exact List.rdropWhile_idempotent isBlank _

theorem mem_of_mem_strip {s : String} {c : Char} (h : c ∈ (strip s).toList) : c ∈ s.toList := by
  have hstart : stripChars s.toList <+: stripStartChars s.toList :=
    List.rdropWhile_prefix isBlank _
  rw [toList_strip] at h
  exact (List.dropWhile_suffix isBlank).subset (hstart.subset h)

/-- Blanks around a text are cut off with those that it has itself. -/
theorem strip_padded {front s back : String} (hf : ∀ c ∈ front.toList, isBlank c = true)
    (hb : ∀ c ∈ back.toList, isBlank c = true) : strip (front ++ s ++ back) = strip s := by
  have hend (cs : List Char) : stripEndChars (cs ++ back.toList) = stripEndChars cs := by
    have hreverse : ∀ c ∈ back.toList.reverse, isBlank c = true := fun c hm =>
      hb c (List.mem_reverse.1 hm)
    rw [stripEndChars, List.reverse_append, List.dropWhile_append_of_pos hreverse, stripEndChars]
  rw [strip, strip, String.toList_append, String.toList_append, List.append_assoc, stripChars, stripChars,
    stripStartChars, List.dropWhile_append_of_pos hf, List.dropWhile_append]
  split
  · next hblank =>
    rw [List.dropWhile_eq_nil_iff.2 hb, stripStartChars, List.isEmpty_iff.1 hblank]
  · rw [hend, stripStartChars]

/-- A mark between texts without blanks at their ends. -/
theorem strip_append_append {s t mark : String} {c : Char} (hs : strip s = s) (ht : strip t = t)
    (hm : mark.toList = [c]) (hc : isBlank c = false) : strip (s ++ mark ++ t) = s ++ mark ++ t := by
  rw [strip_eq_self_iff, stripChars_eq_self_iff] at hs ht ⊢
  rw [String.toList_append, String.toList_append, hm, List.append_assoc, List.singleton_append]
  exact ⟨stripStartChars_append_cons hs.1 hc, stripEndChars_append_cons ht.2 hc⟩

theorem strip_join {mark : String} {c : Char} {parts : List String} (hm : mark.toList = [c])
    (hc : isBlank c = false) (h : ∀ part ∈ parts, strip part = part) :
    strip (join mark parts) = join mark parts := by
  induction parts with
  | nil => rfl
  | cons first more ih =>
    obtain ⟨hfirst, hmore⟩ := List.forall_mem_cons.1 h
    cases more with
    | nil => rwa [join_singleton]
    | cons next more =>
      rw [join_cons_cons]
      exact strip_append_append hfirst (ih hmore) hm hc

end Greenlight.Text
