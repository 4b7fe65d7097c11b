import Greenlight.Fault
import Greenlight.Proofs.Agreeing
import Mathlib.Data.List.Perm.Subperm

/-! # Values that are alike

The collections of a document have numbers, and so do its undefined numbers. The same value has other
numbers in another document: two values are alike if one of them is the other one with new numbers. Main
statement: values that are alike have contents that are alike, and they are shown and written alike. -/

namespace Greenlight

/-! ## Data -/

/-- Data that are the same, up to the origins of undefined numbers. -/
inductive Datum.Alike : Datum → Datum → Prop where
  | same (d : Datum) : Alike d d
  | undefined (m n : Nat) : Alike (.undefined m) (.undefined n)

namespace Datum.Alike

variable {d e : Datum}

theorem shown_eq (h : d.Alike e) : d.shown = e.shown := by
  cases h <;> rfl

theorem toText_eq (h : d.Alike e) : d.toText = e.toText := by
  cases h <;> rfl

theorem toFloat_eq (h : d.Alike e) : d.toFloat = e.toFloat := by
  cases h <;> rfl

theorem toInt_eq (h : d.Alike e) : d.toInt = e.toInt := by
  cases h <;> rfl

theorem holds_eq (h : d.Alike e) : d.holds = e.holds := by
  cases h <;> rfl

theorem slotSeed?_eq (h : d.Alike e) : d.slotSeed? = e.slotSeed? := by
  cases h <;> rfl

/-- Members with a slot are the same. -/
theorem eq_of_slotSeed? (h : d.Alike e) {seed : Nat} (hs : d.slotSeed? = some seed) : d = e := by
  cases h with
  | same => rfl
  | undefined => cases hs

end Datum.Alike

/-- Members that all have slots are the same. -/
theorem Datum.eq_of_mapM_slotSeed? {members others : List Datum} {seeds : List Nat}
    (h : List.Forall₂ Datum.Alike members others) (hs : members.mapM slotSeed? = some seeds) :
    members = others := by
  induction h generalizing seeds with
  | nil => rfl
  | cons hab _ ih =>
    simp only [List.mapM_cons, Option.bind_eq_bind, Option.bind_eq_some_iff] at hs
    obtain ⟨seed, hseed, rest, hrest, -⟩ := hs
    rw [hab.eq_of_slotSeed? hseed, ih hrest]

/-- Sets that are alike are shown in the same order. -/
theorem Datum.arranged_alike {members others : List Datum}
    (h : List.Forall₂ Datum.Alike members others) :
    List.Forall₂ Datum.Alike (arranged members) (arranged others) := by
  have hseeds : members.mapM slotSeed? = others.mapM slotSeed? := by
    induction h with
    | nil => rfl
    | cons hab _ ih => rw [List.mapM_cons, List.mapM_cons, hab.slotSeed?_eq, ih]
  cases hs : members.mapM slotSeed? with
  | none => simpa only [arranged, ← hseeds, hs] using h
  | some seeds =>
    rw [eq_of_mapM_slotSeed? h hs]
    exact List.forall₂_same.2 fun d _ => .same d

namespace Value

/-! ## Graphs -/

/-- Nodes that are alike when collections are renumbered. -/
inductive Node.Alike (r : Nat → Nat → Prop) : Node → Node → Prop where
  | datum {d e : Datum} (h : d.Alike e) : Alike r (.datum d) (.datum e)
  | collection {m n : Nat} (h : r m n) : Alike r (.collection m) (.collection n)

/-- Collections that are alike when collections are renumbered. -/
inductive Collection.Alike (r : Nat → Nat → Prop) : Collection → Collection → Prop where
  | pair {a b c d : Node} (hfirst : a.Alike r c) (hsecond : b.Alike r d) :
    Alike r (.pair a b) (.pair c d)
  | list {items others : List Node} (h : List.Forall₂ (Node.Alike r) items others) :
    Alike r (.list items) (.list others)
  | set {members others : List Datum} (h : List.Forall₂ Datum.Alike members others) :
    Alike r (.set members) (.set others)
  | map {entries others : List (Datum × Node)}
    (h : List.Forall₂ (fun e o => e.1.Alike o.1 ∧ e.2.Alike r o.2) entries others) :
    Alike r (.map entries) (.map others)

theorem Node.Alike.refl (a : Node) : a.Alike Eq a := by
  cases a with
  | datum d => exact .datum (.same d)
  | collection n => exact .collection rfl

namespace Collection.Alike

theorem refl (c : Collection) : c.Alike Eq c := by
  cases c with
  | pair a b => exact .pair (.refl a) (.refl b)
  | list items => exact .list (List.forall₂_same.2 fun item _ => .refl item)
  | set members => exact .set (List.forall₂_same.2 fun d _ => .same d)
  | map entries => exact .map (List.forall₂_same.2 fun e _ => ⟨.same e.1, .refl e.2⟩)

theorem cutOff_eq {r : Nat → Nat → Prop} {c d : Collection} (h : c.Alike r d) :
    c.cutOff = d.cutOff := by
  cases h <;> rfl

end Collection.Alike

/-- A renumbering of the collections of a graph as those of another one. -/
structure Renumbering (g h : Graph) (r : Nat → Nat → Prop) : Prop where
  unique : Relator.BiUnique r
  collections : ∀ m n, r m n → Option.Rel (Collection.Alike r) g[m]? h[n]?

theorem Renumbering.refl (g : Graph) : Renumbering g g Eq := by
  refine ⟨⟨fun _ _ _ h h' => h.trans h'.symm, fun _ _ _ h h' => h.symm.trans h'⟩, ?_⟩
  rintro m _ rfl
  cases g[m]? with
  | none => exact .none
  | some c => exact .some (.refl c)

/-- The collections that are opened are different ones of the graph, and there is depth left for all
others. -/
structure Graph.Opened (g : Graph) (depth : Nat) (opened : List Nat) : Prop where
  nodup : opened.Nodup
  lt_size : ∀ n ∈ opened, n < g.size
  depth : g.size < depth + opened.length

namespace Graph.Opened

variable {g : Graph} {depth : Nat} {opened : List Nat}

theorem start (g : Graph) : g.Opened (g.size + 1) [] := ⟨.nil, nofun, Nat.lt_succ_self _⟩

theorem depth_ne_zero (h : g.Opened depth opened) : depth ≠ 0 := by
  rintro rfl
  have hsub : opened ⊆ List.range g.size := fun n hn => List.mem_range.2 (h.lt_size n hn)
  have hle := (h.nodup.subperm hsub).length_le
  have hdepth := h.depth
  rw [List.length_range] at hle
  omega

theorem push (h : g.Opened (depth + 1) opened) {n : Nat} (hn : n ∉ opened) {c : Collection}
    (hc : g[n]? = some c) : g.Opened depth (n :: opened) := by
  constructor
  · exact List.nodup_cons.2 ⟨hn, h.nodup⟩
  · exact List.forall_mem_cons.2 ⟨(Array.getElem?_eq_some_iff.1 hc).1, h.lt_size⟩
  · have hdepth := h.depth
    rw [List.length_cons]
    omega

end Graph.Opened

/-- Nodes that are alike are shown alike inside collections that match by the renumbering. -/
theorem Renumbering.shown_eq {g h : Graph} {r : Nat → Nat → Prop} (hr : Renumbering g h r)
    {depth depth' : Nat} {opened opened' : List Nat} (hg : g.Opened depth opened)
    (hh : h.Opened depth' opened') (hopened : List.Forall₂ r opened opened') {a b : Node}
    (hab : a.Alike r b) : Graph.shown g depth opened a = Graph.shown h depth' opened' b := by
  -- the graphs may differ in size, so that each has a depth of its own
  induction depth generalizing depth' opened opened' a b with
  | zero => exact absurd rfl hg.depth_ne_zero
  | succ depth ih =>
    obtain ⟨depth', rfl⟩ := Nat.exists_eq_succ_of_ne_zero hh.depth_ne_zero
    cases hab with
    | datum hd => simpa only [Graph.shown] using hd.shown_eq
    | @collection m n hmn =>
      have hmem : m ∈ opened ↔ n ∈ opened' := List.rel_mem hr.unique hmn hopened
      have hrel := hr.collections m n hmn
      simp only [Graph.shown]
      generalize hc : g[m]? = c at hrel
      generalize hd : h[n]? = d at hrel
      cases hrel with
      | none => rfl
      | @some c d hcd =>
        simp only [List.contains_iff_mem, hmem, hcd.cutOff_eq]
        split
        · rfl
        · next hn =>
          have hinner : ∀ x y, Node.Alike r x y →
              Graph.shown g depth (m :: opened) x = Graph.shown h depth' (n :: opened') y :=
            fun x y => ih (hg.push (hmem.not.2 hn) hc) (hh.push hn hd) (.cons hmn hopened)
          cases hcd with
          | pair hfirst hsecond => simp only [hinner _ _ hfirst, hinner _ _ hsecond]
          | list hitems => simp only [mapM_congr_forall₂ hinner hitems]
          | @set members others hmembers =>
            have hempty : members.isEmpty = others.isEmpty := by
              cases hmembers <;> rfl
            have hshown := mapM_congr_forall₂ (fun _ _ hd => Datum.Alike.shown_eq hd)
              (Datum.arranged_alike hmembers)
            simp only [hempty, hshown]
          | map hentries =>
            have hentry (e o : Datum × Node) (heo : e.1.Alike o.1 ∧ e.2.Alike r o.2) :
                (do return (← e.1.shown) ++ ": " ++ (← Graph.shown g depth (m :: opened) e.2)) =
                  do return (← o.1.shown) ++ ": " ++ (← Graph.shown h depth' (n :: opened') o.2) := by
              rw [heo.1.shown_eq, hinner _ _ heo.2]
            simp only [mapM_congr_forall₂ hentry hentries]

/-! ## Values -/

/-- Values that are the same up to the numbers of their collections and undefined numbers. -/
def Alike (v w : Value) : Prop :=
  ∃ r, Renumbering v.graph w.graph r ∧ v.node.Alike r w.node

/-- Contents whose parts are alike. -/
inductive Content.Alike : Content → Content → Prop where
  | datum {d e : Datum} (h : d.Alike e) : Alike (.datum d) (.datum e)
  | pair {a b c d : Value} (hfirst : a.Alike c) (hsecond : b.Alike d) :
    Alike (.pair a b) (.pair c d)
  | list {items others : List Value} (h : List.Forall₂ Value.Alike items others) :
    Alike (.list items) (.list others)
  | set {members others : List Datum} (h : List.Forall₂ Datum.Alike members others) :
    Alike (.set members) (.set others)
  | map {entries others : List (Datum × Value)}
    (h : List.Forall₂ (fun e o => e.1.Alike o.1 ∧ e.2.Alike o.2) entries others) :
    Alike (.map entries) (.map others)

namespace Alike

variable {v w : Value}

theorem refl (v : Value) : v.Alike v := ⟨Eq, .refl v.graph, .refl v.node⟩

/-- A text is the same in every document. -/
theorem of_same_text {s : String} (hv : v.text? = some s) (hw : w.text? = some s) : v.Alike w := by
  have hnode {u : Value} (hu : u.text? = some s) : u.node = .datum (.text s) := by
    unfold Value.text? at hu
    split at hu
    · next t ha =>
      cases hu
      exact ha
    · cases hu
  refine ⟨fun _ _ => False, ⟨⟨?_, ?_⟩, ?_⟩, ?_⟩
  · exact fun _ _ _ => False.elim
  · exact fun _ _ _ => False.elim
  · exact fun _ _ => False.elim
  · rw [hnode hv, hnode hw]
    exact .datum (.same _)

theorem of_text? {s : String} (h : v.text? = some s) : v.Alike (.text s) := of_same_text h rfl

theorem content (h : v.Alike w) : v.content.Alike w.content := by
  obtain ⟨g, a⟩ := v
  obtain ⟨g', b⟩ := w
  obtain ⟨r, hr, hab⟩ := h
  unfold Value.content
  dsimp only at hr hab ⊢
  cases hab with
  | datum hd => exact .datum hd
  | @collection m n hmn =>
    have hrel := hr.collections m n hmn
    dsimp only
    generalize g[m]? = c at hrel
    generalize g'[n]? = d at hrel
    cases hrel with
    | none => exact .datum (.same .null)
    | some hcd =>
      cases hcd with
      | pair hfirst hsecond => exact .pair ⟨r, hr, hfirst⟩ ⟨r, hr, hsecond⟩
      | list hitems =>
        refine .list (List.forall₂_map_left_iff.2 (List.forall₂_map_right_iff.2 ?_))
        exact hitems.imp fun _ _ hi => ⟨r, hr, hi⟩
      | set hmembers => exact .set hmembers
      | map hentries =>
        refine .map (List.forall₂_map_left_iff.2 (List.forall₂_map_right_iff.2 ?_))
        exact hentries.imp fun _ _ ⟨hk, hi⟩ => ⟨hk, r, hr, hi⟩

theorem shown_eq (h : v.Alike w) : v.shown = w.shown := by
  obtain ⟨r, hr, hab⟩ := h
  exact hr.shown_eq (.start _) (.start _) .nil hab

theorem toText_eq (h : v.Alike w) : v.toText = w.toText := by
  have hshown := h.shown_eq
  obtain ⟨g, a⟩ := v
  obtain ⟨g', b⟩ := w
  obtain ⟨r, -, hab⟩ := h
  cases hab with
  | datum hd => exact hd.toText_eq
  | collection => exact hshown

theorem text?_eq (h : v.Alike w) : v.text? = w.text? := by
  obtain ⟨g, a⟩ := v
  obtain ⟨g', b⟩ := w
  obtain ⟨r, -, hab⟩ := h
  cases hab with
  | datum hd => cases hd <;> rfl
  | collection => rfl

theorem items? (h : v.Alike w) : Option.Rel (List.Forall₂ Value.Alike) v.items? w.items? := by
  unfold Value.items?
  have hc := h.content
  generalize v.content = a, w.content = b at hc ⊢
  cases hc with
  | pair hfirst hsecond => exact .some (.cons hfirst (.cons hsecond .nil))
  | list hitems => exact .some hitems
  | datum | set | map => exact .none

theorem holds_eq (h : v.Alike w) : v.holds = w.holds := by
  unfold Value.holds
  have hc := h.content
  generalize v.content = a, w.content = b at hc ⊢
  cases hc with
  | datum hd => exact hd.holds_eq
  | pair => rfl
  | list hparts | set hparts | map hparts => cases hparts <;> rfl

theorem toFloat_eq (h : v.Alike w) : v.toFloat = w.toFloat := by
  unfold Value.toFloat
  have hc := h.content
  generalize v.content = a, w.content = b at hc ⊢
  cases hc with
  | datum hd => exact hd.toFloat_eq
  | pair | list | set | map => rfl

theorem toInt_eq (h : v.Alike w) : v.toInt = w.toInt := by
  unfold Value.toInt
  have hc := h.content
  generalize v.content = a, w.content = b at hc ⊢
  cases hc with
  | datum hd => exact hd.toInt_eq
  | pair | list | set | map => rfl

theorem written_eq (h : v.Alike w) : v.written = w.written := by
  rw [Value.written, Value.written, h.toText_eq]

theorem refuse_eq (h : v.Alike w) {α : Type} (fault : String → Fault) :
    (v.refuse fault : Except Fault α) = w.refuse fault := by
  rw [Value.refuse, Value.refuse, h.shown_eq]

end Alike

/-- Of entries that are alike the values under a key are alike. -/
theorem lookup_alike {entries found : List (Datum × Value)}
    (h : List.Forall₂ (fun e o => e.1.Alike o.1 ∧ e.2.Alike o.2) entries found) (key : String) :
    Option.Rel Value.Alike (lookup entries key) (lookup found key) := by
  induction h with
  | nil => exact .none
  | @cons e o rest rest' heo _ ih =>
    obtain ⟨d, v⟩ := e
    obtain ⟨d', v'⟩ := o
    obtain ⟨hd, hv⟩ := heo
    unfold lookup at ih ⊢
    cases hd with
    | undefined => exact ih
    | same =>
      rw [List.find?_cons, List.find?_cons]
      dsimp only
      split
      · exact .some hv
      · exact ih

end Value

end Greenlight
