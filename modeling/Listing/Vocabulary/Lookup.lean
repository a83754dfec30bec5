import Listing.Text.Basic

/-!
# Looking up a word

A vocabulary is a list of entries with a word for each. The entry found at the start of a text is
the one with the longest word that the text begins with, so that `print#` is not read as `print`
and `<>` not as `<`. Words are written in lower case and match letters of either case.
-/

namespace Listing.Vocabulary

/-- Whether a text begins with a word, its ASCII letters taken in lower case. -/
def beginsWith : Text → Text → Bool
  | [], _ => true
  | _ :: _, [] => false
  | w :: word, c :: t => w == c.toLower && beginsWith word t

/-- The entry with the longest word that the text `t` begins with. -/
def longestAt? {α : Type} (word : α → Text) (t : Text) : List α → Option α
  | [] => none
  | a :: entries =>
    match longestAt? word t entries with
    | none => if beginsWith (word a) t then some a else none
    | some b =>
      if beginsWith (word a) t && (word b).length < (word a).length then some a else some b

/-- A word is found at the start of a text exactly when it spells the text's first letters. -/
theorem beginsWith_iff {word t : Text} :
    beginsWith word t = true ↔ word = Text.toLower (t.take word.length) := by
  induction word generalizing t with
  | nil => simp [beginsWith, Text.toLower]
  | cons w word ih =>
    cases t with
    | nil => simp [beginsWith, Text.toLower]
    | cons c t =>
      rw [beginsWith, Bool.and_eq_true, beq_iff_eq, ih]
      simp [Text.toLower]

/-- What is found is an entry of the vocabulary, and the text begins with its word. -/
theorem longestAt?_eq_some {α : Type} {word : α → Text} {t : Text} {entries : List α} {a : α}
    (h : longestAt? word t entries = some a) : a ∈ entries ∧ beginsWith (word a) t = true := by
  induction entries generalizing a with
  | nil => simp [longestAt?] at h
  | cons b entries ih =>
    rw [longestAt?] at h
    split at h
    · split at h
      · cases h
        exact ⟨by simp, by assumption⟩
      · cases h
    · next c hc =>
      split at h
      · next hb =>
        cases h
        rw [Bool.and_eq_true] at hb
        exact ⟨by simp, hb.1⟩
      · cases h
        exact ⟨List.mem_cons_of_mem _ (ih hc).1, (ih hc).2⟩

end Listing.Vocabulary
