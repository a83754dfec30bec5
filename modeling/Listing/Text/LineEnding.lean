import Listing.Text.Basic

/-!
# Line endings

A line may end in a line feed, a carriage return, or a carriage return and a line feed. Reading a
listing starts by writing each of these as one line feed.
-/

namespace Listing.Text

/-- Every line ending as a single line feed. -/
def unifyLineEndings : Text → Text
  | [] => []
  | '\r' :: '\n' :: t => '\n' :: unifyLineEndings t
  | c :: t => (if c = '\r' then '\n' else c) :: unifyLineEndings t

/-- No carriage return is left. -/
theorem cr_not_mem_unifyLineEndings (t : Text) : '\r' ∉ unifyLineEndings t := by
  fun_induction unifyLineEndings t with
  | case1 => simp
  | case2 t ih => simp [ih]
  | case3 c t h ih =>
    by_cases hc : c = '\r'
    · simp [hc, ih]
    · simp [hc, ih, Ne.symm hc]

/-- Text without carriage returns is unchanged. -/
theorem unifyLineEndings_of_cr_not_mem {t : Text} (h : '\r' ∉ t) : unifyLineEndings t = t := by
  fun_induction unifyLineEndings t with
  | case1 => rfl
  | case2 t ih => simp at h
  | case3 c t hct ih =>
    simp only [List.mem_cons, not_or] at h
    simp [ih h.2, Ne.symm h.1]

end Listing.Text
