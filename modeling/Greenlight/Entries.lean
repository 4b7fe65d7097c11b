/-! # Named entries

Lists in which each name stands at most once, in the order in which the names first came. -/

namespace Greenlight.Entries

/-- The value under a name. -/
def get? {α : Type} (entries : List (String × α)) (name : String) : Option α :=
  (entries.find? (·.1 == name)).map (·.2)

/-- Puts a value at the place of its name, or at the end if the name is new. -/
def put {α : Type} (name : String) (a : α) : List (String × α) → List (String × α)
  | [] => [(name, a)]
  | (k, b) :: rest => if k = name then (k, a) :: rest else (k, b) :: put name a rest

/-- The entries without a name. -/
def erase {α : Type} (name : String) (entries : List (String × α)) : List (String × α) :=
  entries.filter (·.1 != name)

/-- Entries with others put over them. -/
def merge {α : Type} (entries others : List (String × α)) : List (String × α) :=
  others.foldl (fun found (name, a) => put name a found) entries

/-- The value after another one was put. -/
theorem get?_put {α : Type} (entries : List (String × α)) (name x : String) (a : α) :
    get? (put name a entries) x = if name = x then some a else get? entries x := by
  induction entries with
  | nil => by_cases h : name = x <;> simp [get?, put, h]
  | cons entry rest ih =>
    obtain ⟨k, b⟩ := entry
    unfold get? at ih ⊢
    by_cases hk : k = name
    · subst hk
      by_cases hx : k = x <;> simp [put, hx]
    · by_cases hx : k = x
      · subst hx
        simp [put, hk, Ne.symm hk]
      · simpa [put, hk, hx] using ih

/-- The value in two lists one after the other: the first one counts. -/
theorem get?_append {α : Type} (entries others : List (String × α)) (x : String) :
    get? (entries ++ others) x = (get? entries x).or (get? others x) := by
  unfold get?
  rw [List.find?_append, Option.map_or]

/-- The value after others were put over the entries: theirs, of which a later one counts, or the one
from before. -/
theorem get?_merge {α : Type} (entries others : List (String × α)) (x : String) :
    get? (merge entries others) x = (get? others.reverse x).or (get? entries x) := by
  induction others generalizing entries with
  | nil => simp [merge, get?]
  | cons entry rest ih =>
    obtain ⟨k, a⟩ := entry
    have hlast : get? ((k, a) :: rest).reverse x =
        (get? rest.reverse x).or (if k = x then some a else none) := by
      rw [List.reverse_cons, get?_append]
      by_cases h : k = x <;> simp [get?, h]
    change get? (merge (put k a entries) rest) x = _
    rw [ih, get?_put, hlast, Option.or_assoc]
    by_cases h : k = x <;> simp [h]

end Greenlight.Entries
