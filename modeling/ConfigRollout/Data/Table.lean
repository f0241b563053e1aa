/-!
# Keyed tables

A table is a list of entries with distinct keys, in the order in which the keys were first
written. Writing a key again replaces its value in place. The stores of the program keep their
objects in tables and sort them only when they show them.

Main statement: a looked-up key after `upsert` (`lookup_upsert`).
-/

set_option autoImplicit false

namespace ConfigRollout.Table

variable {κ α : Type} [DecidableEq κ]

/-- The value of a key. -/
def lookup (k : κ) : List (κ × α) → Option α
  | [] => none
  | (k', v) :: rest => if k = k' then some v else lookup k rest

/-- The table with the key bound to the value: replaced in place, or added at the end. -/
def upsert (k : κ) (v : α) : List (κ × α) → List (κ × α)
  | [] => [(k, v)]
  | (k', v') :: rest => if k = k' then (k, v) :: rest else (k', v') :: upsert k v rest

/-- After `upsert` the key finds the new value and every other key finds what it found. -/
theorem lookup_upsert (k k' : κ) (v : α) (t : List (κ × α)) :
    lookup k' (upsert k v t) = if k' = k then some v else lookup k' t := by
  induction t with
  | nil => simp [upsert, lookup]
  | cons e rest ih =>
    obtain ⟨k₁, v₁⟩ := e
    by_cases h : k = k₁
    · subst h
      by_cases h' : k' = k <;> simp [upsert, lookup, h']
    · simp only [upsert, h, if_false, lookup]
      by_cases h' : k' = k₁
      · subst h'
        simp [Ne.symm h]
      · simp [h', ih]

end ConfigRollout.Table
