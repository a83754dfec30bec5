import Listing.Toml.Moment
import Listing.Toml.Value

/-!
# Marked tables

A moment can be written as a table whose first key is a certain mark and whose first value is the
moment as a string. All other entries of such a table are passed over.
-/

namespace Listing.Toml

/-- The key that marks a table as a moment. -/
def momentMark : Text := "$__toml_private_datetime".toList

/-- The moment that the value of a mark stands for. -/
def markedMoment? : Toml → Option Toml
  | .string t => (moment? .loose t).map .moment
  | _ => none

mutual

/-- The value with a moment in the place of every marked table, if each is marked rightly. -/
def settle? : Toml → Option Toml
  | .array isExtensible items => (settleItems? items).map (.array isExtensible)
  | .table form [] => some (.table form [])
  | .table form ((key, value) :: entries) =>
    if key = momentMark then markedMoment? value
    else
      match settle? value, settleEntries? entries with
      | some value, some entries => some (.table form ((key, value) :: entries))
      | _, _ => none
  | .string t => some (.string t)
  | .integer n => some (.integer n)
  | .float x => some (.float x)
  | .boolean b => some (.boolean b)
  | .moment t => some (.moment t)

/-- The items of an array with moments in the place of marked tables. -/
def settleItems? : List Toml → Option (List Toml)
  | [] => some []
  | item :: items =>
    match settle? item, settleItems? items with
    | some item, some items => some (item :: items)
    | _, _ => none

/-- The entries of a table with moments in the place of marked tables. -/
def settleEntries? : List (Text × Toml) → Option (List (Text × Toml))
  | [] => some []
  | (key, value) :: entries =>
    match settle? value, settleEntries? entries with
    | some value, some entries => some ((key, value) :: entries)
    | _, _ => none

end

end Listing.Toml
