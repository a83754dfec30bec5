import Listing.Text.Basic

/-!
# Values by key

A list of values with a key for each, in the order in which the keys came.
-/

namespace Listing

/-- Values by key. -/
abbrev Keyed (α : Type) := List (Text × α)

namespace Keyed

variable {α : Type}

/-- The value of a key. -/
def get? : Keyed α → Text → Option α
  | [], _ => none
  | (k, value) :: entries, key => if k = key then some value else get? entries key

/-- Gives a key a value, in the place of the one it has or else at the end. -/
def put (key : Text) (value : α) : Keyed α → Keyed α
  | [] => [(key, value)]
  | (k, old) :: entries =>
    if k = key then (k, value) :: entries else (k, old) :: put key value entries

/-- The values of all keys but one. -/
def erase (key : Text) (entries : Keyed α) : Keyed α := entries.filter (·.1 != key)

theorem get?_put (entries : Keyed α) (key other : Text) (value : α) :
    get? (put key value entries) other = if key = other then some value else get? entries other := by
  induction entries with
  | nil => rfl
  | cons entry entries ih =>
    obtain ⟨k, old⟩ := entry
    by_cases hk : k = key
    · by_cases ho : key = other <;> simp [put, get?, hk, ho]
    · by_cases ho : k = other
      · subst ho
        simp [put, get?, hk, Ne.symm hk]
      · simp [put, get?, hk, ho, ih]

end Keyed

end Listing
