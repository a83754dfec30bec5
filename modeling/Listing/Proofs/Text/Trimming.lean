import Mathlib
import Listing.Text.Blank
import Listing.Text.Number

/-!
# Trimming

What is left of a text when the characters at its ends that satisfy a test are dropped. Trimming the
end of two texts put together trims the second and goes on with the first only if nothing is left.
-/

namespace Listing.Text

variable {p : Char → Bool}

theorem trimEnd_eq_rdropWhile (p : Char → Bool) (t : Text) : trimEnd p t = t.rdropWhile p := rfl

theorem trimEnd_eq_nil_iff {t : Text} : trimEnd p t = [] ↔ ∀ c ∈ t, p c = true := by
  rw [trimEnd_eq_rdropWhile, List.rdropWhile_eq_nil_iff]

theorem trimEnd_isPrefix (p : Char → Bool) (t : Text) : trimEnd p t <+: t :=
  List.rdropWhile_prefix p t

theorem trimEnd_trimEnd (p : Char → Bool) (t : Text) : trimEnd p (trimEnd p t) = trimEnd p t :=
  List.rdropWhile_idempotent p t

/-- Nothing is dropped exactly if the last character stays. -/
theorem trimEnd_eq_self_iff {t : Text} : trimEnd p t = t ↔ t.getLast?.any p = false := by
  rw [trimEnd_eq_rdropWhile, List.rdropWhile_eq_self_iff]
  cases t using List.reverseRecOn with
  | nil => simp
  | append_singleton t c => simp

theorem trimEnd_concat (p : Char → Bool) (t : Text) (c : Char) :
    trimEnd p (t ++ [c]) = if p c then trimEnd p t else t ++ [c] :=
  List.rdropWhile_concat p t c

/-- Trimming two texts put together. -/
theorem trimEnd_append (p : Char → Bool) (s t : Text) :
    trimEnd p (s ++ t) = if trimEnd p t = [] then trimEnd p s else s ++ trimEnd p t := by
  induction t using List.reverseRecOn with
  | nil => simp [trimEnd]
  | append_singleton t c ih =>
    rw [← List.append_assoc, trimEnd_concat, trimEnd_concat, ih]
    cases blank : p c with
    | true => simp
    | false => simp

/-- What stays of a text that does not stay as it is has a character at its end that stays. -/
theorem getLast?_trimEnd_any (p : Char → Bool) (t : Text) :
    (trimEnd p t).getLast?.any p = false := by
  rw [← trimEnd_eq_self_iff]
  exact trimEnd_trimEnd p t

/-- Of a text that starts with a character that stays, trimming keeps this character. -/
theorem trimEnd_cons {c : Char} (stays : p c = false) (t : Text) :
    trimEnd p (c :: t) = c :: trimEnd p t := by
  rw [← List.singleton_append, trimEnd_append]
  split
  · next gone =>
    rw [gone]
    exact trimEnd_eq_self_iff.2 (by simp [stays])
  · rfl

theorem trim_trim (p : Char → Bool) (t : Text) : trim p (trim p t) = trim p t := by
  unfold trim
  cases start : t.dropWhile p with
  | nil => rfl
  | cons c s =>
    have stays : p c = false := by
      have head := List.head_dropWhile_not p (l := t) (by simp [start])
      simpa [start] using head
    rw [trimEnd_cons stays, List.dropWhile_cons, if_neg (by simp [stays]), trimEnd_cons stays,
      trimEnd_trimEnd]

theorem trim_subset (p : Char → Bool) (t : Text) : trim p t ⊆ t := by
  intro c member
  exact (List.dropWhile_sublist p).subset ((trimEnd_isPrefix p _).subset member)

theorem trimBlanks_trimBlanks (t : Text) : trimBlanks (trimBlanks t) = trimBlanks t :=
  trim_trim isBlank t

/-- A space in front of a text is trimmed. -/
theorem trimBlanks_space_cons (t : Text) : trimBlanks (' ' :: t) = trimBlanks t := rfl

/-- Whether a text ends in a blank. -/
def endsInBlank (t : Text) : Bool := t.getLast?.any isBlank

theorem trimBlankEnd_eq_self_iff {t : Text} : trimBlankEnd t = t ↔ t.endsInBlank = false :=
  trimEnd_eq_self_iff

theorem endsInBlank_trimBlankEnd (t : Text) : (trimBlankEnd t).endsInBlank = false :=
  getLast?_trimEnd_any isBlank t

theorem endsInBlank_append {t : Text} (nonempty : t ≠ []) (s : Text) :
    (s ++ t).endsInBlank = t.endsInBlank := by
  unfold endsInBlank
  rw [List.getLast?_append_of_ne_nil s nonempty]

theorem endsInBlank_concat (s : Text) (c : Char) : (s ++ [c]).endsInBlank = isBlank c := by
  simp [endsInBlank]

theorem endsInBlank_eq_false_of_forall {t : Text} (solid : ∀ c ∈ t, isBlank c = false) :
    t.endsInBlank = false := by
  cases t using List.reverseRecOn with
  | nil => rfl
  | append_singleton t c =>
    rw [endsInBlank_concat]
    exact solid c (by simp)

theorem trimBlankEnd_append (s t : Text) : trimBlankEnd (s ++ t) =
    if trimBlankEnd t = [] then trimBlankEnd s else s ++ trimBlankEnd t :=
  trimEnd_append isBlank s t

/-- Trimming stops behind a character that is not blank. -/
theorem trimBlankEnd_append_cons {c : Char} (solid : isBlank c = false) (s t : Text) :
    trimBlankEnd (s ++ c :: t) = s ++ c :: trimBlankEnd t := by
  have behind : trimBlankEnd (c :: t) = c :: trimBlankEnd t := trimEnd_cons solid t
  rw [trimBlankEnd_append, behind, if_neg (List.cons_ne_nil _ _)]

theorem trimBlankEnd_spaces (n : Nat) : trimBlankEnd (spaces n) = [] := by
  apply trimEnd_eq_nil_iff.2
  intro c member
  rw [List.eq_of_mem_replicate member]
  rfl

/-- Trimming the end of a text beforehand makes no difference. -/
theorem trimBlankEnd_append_trimBlankEnd (s t : Text) :
    trimBlankEnd (s ++ trimBlankEnd t) = trimBlankEnd (s ++ t) := by
  have again : trimBlankEnd (trimBlankEnd t) = trimBlankEnd t := trimEnd_trimEnd isBlank t
  rw [trimBlankEnd_append, trimBlankEnd_append, again]

/-! ## Which characters are blank -/

/-- The code points of the blanks. -/
def blanks : List Nat :=
  List.range' 9 5 ++ [0x20, 0x85, 0xA0, 0x1680] ++ List.range' 0x2000 11 ++
    [0x2028, 0x2029, 0x202F, 0x205F, 0x3000]

theorem mem_blanks_of_isBlank {c : Char} (blank : isBlank c = true) : c.toNat ∈ blanks := by
  simp only [isBlank, Bool.or_eq_true, Bool.and_eq_true, decide_eq_true_eq, beq_iff_eq] at blank
  simp only [blanks, List.mem_append, List.mem_range'_1, List.mem_cons, List.not_mem_nil]
  omega

/-- A test that fails at each blank tells that a character is none. -/
theorem isBlank_eq_false_of {p : Char → Bool}
    (table : blanks.all (fun n => !p (Char.ofNat n)) = true) {c : Char} (holds : p c = true) :
    isBlank c = false := by
  cases blank : isBlank c with
  | false => rfl
  | true =>
    have fails := List.all_eq_true.1 table _ (mem_blanks_of_isBlank blank)
    rw [Char.ofNat_toNat, holds] at fails
    cases fails

theorem isBlank_of_isAlphanumeric {c : Char} (alphanumeric : isAlphanumeric c = true) :
    isBlank c = false :=
  isBlank_eq_false_of (by decide +kernel) alphanumeric

theorem isBlank_of_isDigit {c : Char} (digit : c.isDigit = true) : isBlank c = false :=
  isBlank_eq_false_of (by decide +kernel) digit

theorem isBlank_toUpper (c : Char) : isBlank c.toUpper = isBlank c := by
  cases lower : c.isLower with
  | false => rw [Char.toUpper_eq_of_not_isLower (by simp [lower])]
  | true =>
    have upper : c.toUpper.isUpper = true := by simp [Char.isAlpha, lower]
    rw [isBlank_eq_false_of (p := Char.isUpper) (by decide +kernel) upper,
      isBlank_eq_false_of (p := Char.isLower) (by decide +kernel) lower]

theorem endsInBlank_toUpper (t : Text) : (toUpper t).endsInBlank = t.endsInBlank := by
  unfold endsInBlank toUpper
  rw [List.getLast?_map, Option.any_map]
  congr 1
  funext c
  exact isBlank_toUpper c

end Listing.Text
