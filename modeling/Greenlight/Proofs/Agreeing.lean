import Greenlight.Proofs.Failing
import Mathlib.Data.List.Perm.Basic

/-! # Computations that agree

Two computations agree if they fail alike, or have results that are related. -/

namespace Greenlight

variable {ε α β γ δ : Type} {R : α → β → Prop} {S : γ → δ → Prop}

/-! ## Steps for the elements of a list -/

theorem mapM_congr_forall₂ {f : α → Except ε γ} {g : β → Except ε γ}
    (hfg : ∀ a b, R a b → f a = g b) {xs : List α} {ys : List β} (h : List.Forall₂ R xs ys) :
    xs.mapM f = ys.mapM g := by
  induction h with
  | nil => rfl
  | cons hab _ ih => rw [List.mapM_cons, List.mapM_cons, hfg _ _ hab, ih]

theorem foldlM_congr_forall₂ {f : γ → α → Except ε γ} {g : γ → β → Except ε γ}
    (hfg : ∀ found a b, R a b → f found a = g found b) {xs : List α} {ys : List β}
    (h : List.Forall₂ R xs ys) (start : γ) : xs.foldlM f start = ys.foldlM g start := by
  induction h generalizing start with
  | nil => rfl
  | cons hab _ ih =>
    rw [List.foldlM_cons, List.foldlM_cons, hfg start _ _ hab]
    exact congrArg _ (funext ih)

/-- What is the same of elements that are related is the same row. -/
theorem map_eq_map_of_forall₂ {f : α → γ} {g : β → γ} (hfg : ∀ a b, R a b → f a = g b) {xs : List α}
    {ys : List β} (h : List.Forall₂ R xs ys) : xs.map f = ys.map g := by
  induction h with
  | nil => rfl
  | cons hab _ ih => rw [List.map_cons, List.map_cons, hfg _ _ hab, ih]

/-! ## Results that are related -/

theorem rel_of_eq {R : α → α → Prop} (hR : ∀ a, R a a) {x y : Option α} (h : x = y) :
    Option.Rel R x y := by
  subst h
  cases x with
  | none => exact .none
  | some a => exact .some (hR a)

/-- Both computations fail with the same error, or both have results, which are related. -/
inductive Agrees (R : α → β → Prop) : Except ε α → Except ε β → Prop where
  | error (e : ε) : Agrees R (.error e) (.error e)
  | ok {a : α} {b : β} (h : R a b) : Agrees R (.ok a) (.ok b)

namespace Agrees

variable {x : Except ε α} {y : Except ε β}

theorem bind {f : α → Except ε γ} {g : β → Except ε δ} (h : Agrees R x y)
    (hfg : ∀ a b, R a b → Agrees S (f a) (g b)) : Agrees S (x >>= f) (y >>= g) := by
  cases h with
  | error e => exact .error e
  | ok hab => exact hfg _ _ hab

/-- One and the same step in front of computations that agree. -/
theorem bind_left {f : α → Except ε γ} {g : α → Except ε δ}
    (hfg : ∀ a, Agrees S (f a) (g a)) : Agrees S (x >>= f) (x >>= g) := by
  cases x with
  | error e => exact .error e
  | ok a => exact hfg a

/-- One and the same step in front of computations that agree after each of its results. -/
theorem bind_left_of_ok {f : α → Except ε γ} {g : α → Except ε δ}
    (hfg : ∀ a, x = .ok a → Agrees S (f a) (g a)) : Agrees S (x >>= f) (x >>= g) := by
  cases x with
  | error e => exact .error e
  | ok a => exact hfg a rfl

/-- What is computed from related results is the same. -/
theorem bind_eq {f : α → Except ε γ} {g : β → Except ε γ} (h : Agrees R x y)
    (hfg : ∀ a b, R a b → f a = g b) : x >>= f = y >>= g := by
  cases h with
  | error e => rfl
  | ok hab => exact hfg _ _ hab

theorem bind_of_eq {x y : Except ε α} {f : α → Except ε γ} {g : α → Except ε δ} (h : x = y)
    (hfg : ∀ a, Agrees S (f a) (g a)) : Agrees S (x >>= f) (y >>= g) :=
  h ▸ bind_left hfg

theorem mapM {f : α → Except ε γ} {g : β → Except ε δ} (hfg : ∀ a b, R a b → Agrees S (f a) (g b))
    {xs : List α} {ys : List β} (h : List.Forall₂ R xs ys) :
    Agrees (List.Forall₂ S) (xs.mapM f) (ys.mapM g) := by
  induction h with
  | nil => exact .ok .nil
  | cons hab _ ih =>
    rw [List.mapM_cons, List.mapM_cons]
    exact (hfg _ _ hab).bind fun _ _ hcd => ih.bind fun _ _ hrest => .ok (.cons hcd hrest)

theorem trans {T : β → γ → Prop} {U : α → γ → Prop} {z : Except ε γ}
    (hU : ∀ a b c, R a b → T b c → U a c) (h : Agrees R x y) (hz : Agrees T y z) :
    Agrees U x z := by
  cases h with
  | error e =>
    cases hz
    exact .error e
  | ok hab =>
    cases hz with
    | ok hbc => exact .ok (hU _ _ _ hab hbc)

/-- Steps that can only fail in one way may be taken in any order. -/
theorem mapM_of_perm {f : α → Except ε γ} {e : ε} {xs ys : List α} (h : xs.Perm ys)
    (hf : ∀ x, FailsOnly (· = e) (f x)) : Agrees List.Perm (xs.mapM f) (ys.mapM f) := by
  induction h with
  | nil => exact .ok .nil
  | cons x _ ih =>
    rw [List.mapM_cons, List.mapM_cons]
    exact .bind_left fun b => ih.bind fun _ _ hrest => .ok (hrest.cons b)
  | swap x y rest =>
    simp only [List.mapM_cons]
    cases hx : f x with
    | error ex =>
      obtain rfl := hf x ex hx
      cases hy : f y with
      | error ey =>
        obtain rfl := hf y ey hy
        exact .error _
      | ok b => exact .error _
    | ok a =>
      cases hy : f y with
      | error ey => exact .error ey
      | ok b =>
        cases rest.mapM f with
        | error er => exact .error er
        | ok cs => exact .ok (List.Perm.swap a b cs)
  | trans _ _ ih ih' =>
    refine trans ?_ ih ih'
    exact fun _ _ _ hab hbc => hab.trans hbc

end Agrees

end Greenlight
