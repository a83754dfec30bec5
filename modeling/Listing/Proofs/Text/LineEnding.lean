import Listing.Text.LineEnding

/-!
# Lines of a text

The lines of a text are what stands between its line endings. Line endings of three kinds are told
apart only if they do not meet: a carriage return takes in a line feed that comes right behind it,
also one that was to end an empty line. So two texts with a line ending in between may have fewer
line endings than expected, but the same lines, as long as empty lines are left out.

Main statements: `unifyLineEndings_append`, by which line endings are unified in two texts one after
the other, unless the cut goes through a line ending; and `lines_append_ending`, by which any line
ending separates the lines in front of it from those behind it, with `lines_terminate` for any number
of them.
-/

namespace Listing

/-- The ways to end a line. -/
inductive LineEnding where
  | lf | crlf | cr
  deriving DecidableEq, Repr

namespace LineEnding

/-- The characters of a line ending. -/
def text : LineEnding → Text
  | .lf => ['\n']
  | .crlf => ['\r', '\n']
  | .cr => ['\r']

end LineEnding

namespace Text

/-! ## Unifying line endings -/

theorem unifyLineEndings_cons {c : Char} {t : Text} (apart : c = '\r' → t.head? ≠ some '\n') :
    unifyLineEndings (c :: t) = (if c = '\r' then '\n' else c) :: unifyLineEndings t := by
  rw [unifyLineEndings.eq_def]
  split
  · contradiction
  · next t together =>
    cases together
    exact absurd rfl (apart rfl)
  · next d u _ same =>
    cases same
    rfl

theorem unifyLineEndings_append {s t : Text}
    (apart : s.getLast? = some '\r' → t.head? ≠ some '\n') :
    unifyLineEndings (s ++ t) = unifyLineEndings s ++ unifyLineEndings t := by
  fun_induction unifyLineEndings s with
  | case1 => rfl
  | case2 s ih =>
    have later : s.getLast? = some '\r' → t.head? ≠ some '\n' := by
      intro ends
      exact apart (by simp [List.getLast?_cons, ends])
    rw [List.cons_append, List.cons_append, unifyLineEndings, ih later]
    rfl
  | case3 c s other ih =>
    have later : s.getLast? = some '\r' → t.head? ≠ some '\n' := by
      intro ends
      exact apart (by simp [List.getLast?_cons, ends])
    have apartHere : c = '\r' → (s ++ t).head? ≠ some '\n' := by
      rintro rfl
      cases s with
      | nil => exact apart rfl
      | cons d s =>
        rintro feed
        cases feed
        exact other s rfl rfl
    rw [List.cons_append, unifyLineEndings_cons apartHere, ih later]
    rfl

/-! ## Lines -/

/-- The lines of a text, empty ones left out. -/
def lines (t : Text) : List Text := ((unifyLineEndings t).splitOn '\n').filter (· ≠ [])

theorem lines_nil : lines [] = [] := rfl

theorem lines_of_unifyLineEndings_eq {s t u : Text}
    (unified : unifyLineEndings u = unifyLineEndings s ++ '\n' :: unifyLineEndings t) :
    lines u = lines s ++ lines t := by
  unfold lines
  rw [unified, List.splitOn_append_cons_self, List.filter_append]

theorem lines_append_feed {s : Text} (closed : s.getLast? ≠ some '\r') (t : Text) :
    lines (s ++ '\n' :: t) = lines s ++ lines t := by
  apply lines_of_unifyLineEndings_eq
  rw [unifyLineEndings_append fun torn => absurd torn closed, unifyLineEndings_cons (by simp)]
  rfl

theorem lines_feed_cons (t : Text) : lines ('\n' :: t) = lines t :=
  lines_append_feed (s := []) (by decide) t

/-- A carriage return ends a line whatever follows it. If this is a line feed, it is taken in, and
    no line is lost, since the line that it would end is empty. -/
theorem lines_append_return (s t : Text) : lines (s ++ '\r' :: t) = lines s ++ lines t := by
  have before : unifyLineEndings (s ++ '\r' :: t) =
      unifyLineEndings s ++ unifyLineEndings ('\r' :: t) :=
    unifyLineEndings_append fun _ => by simp
  by_cases feed : t.head? = some '\n'
  · obtain ⟨u, rfl⟩ := List.head?_eq_some_iff.1 feed
    rw [lines_feed_cons]
    apply lines_of_unifyLineEndings_eq
    rw [before, unifyLineEndings]
  · apply lines_of_unifyLineEndings_eq
    rw [before, unifyLineEndings_cons fun _ => feed]
    rfl

/-- A line ending separates the lines in front of it from those behind it. -/
theorem lines_append_ending (s : Text) (ending : LineEnding) (t : Text) :
    lines (s ++ ending.text ++ t) = lines s ++ lines t := by
  rw [List.append_assoc]
  cases ending with
  | lf =>
    by_cases torn : s.getLast? = some '\r'
    · -- the line feed belongs to the carriage return, which has ended the line
      obtain ⟨front, rfl⟩ := List.getLast?_eq_some_iff.1 torn
      rw [List.append_assoc, lines_append_return front []]
      change lines (front ++ '\r' :: '\n' :: t) = _
      rw [lines_append_return, lines_feed_cons, lines_nil, List.append_nil]
    · exact lines_append_feed torn t
  | crlf =>
    change lines (s ++ '\r' :: '\n' :: t) = _
    rw [lines_append_return, lines_feed_cons]
  | cr => exact lines_append_return s t

/-- Lines of text, each with the line ending behind it. -/
def terminate (ended : List (Text × LineEnding)) : Text :=
  ended.flatMap fun (line, ending) => line ++ ending.text

/-- How its lines are ended does not matter for the lines of a text. -/
theorem lines_terminate (ended : List (Text × LineEnding)) :
    lines (terminate ended) = ended.flatMap fun (line, _) => lines line := by
  induction ended with
  | nil => rfl
  | cons first ended ih =>
    obtain ⟨line, ending⟩ := first
    change lines (line ++ ending.text ++ terminate ended) = _
    rw [lines_append_ending, ih]
    rfl

end Text

end Listing
