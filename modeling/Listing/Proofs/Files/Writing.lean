import Mathlib
import Listing.Files.Workspace

/-!
# What writing changes

To write to a path the names on its way are looked up, and every one but the last has to lead to a
folder. What is written is put where the path leads to, which is no folder. So nothing on the way
changes, the path still leads there, and it is the only place that changes.

Main statements: `read_of_write`, what was written is read back; and `received_of_writeOutput`, which
says of a whole workspace that the target of an output is all that changes.
-/

namespace Listing

/-- A computation of two steps succeeds if both do. -/
theorem bind_eq_ok_iff {ε α β : Type} {x : Except ε α} {f : α → Except ε β} {b : β} :
    x >>= f = .ok b ↔ ∃ a, x = .ok a ∧ f a = .ok b := by
  cases x with
  | error e =>
    constructor
    · intro done
      cases done
    · rintro ⟨a, done, -⟩
      cases done
  | ok a =>
    constructor
    · intro done
      exact ⟨a, rfl, done⟩
    · rintro ⟨_, same, done⟩
      cases same
      exact done

namespace Folder

variable {f g : Folder} {p q r : Path} {e : Entry}

/-! ## Places in a folder -/

theorem find?_insert_of_ne (other : q ≠ p) : (f.insert p e).find? q = f.find? q := by
  unfold find? insert
  split
  · rfl
  · rw [Std.TreeMap.getElem?_insert, if_neg]
    intro same
    exact other (Std.LawfulEqCmp.compare_eq_iff_eq.1 same).symm

theorem find?_insert_self (inside : p.isAbove = false) : (f.insert p e).find? p = some e := by
  unfold find? insert
  rw [if_neg (by simp [inside]), Std.TreeMap.getElem?_insert, if_pos]
  exact Std.LawfulEqCmp.compare_eq_iff_eq.2 rfl

theorem isAbove_eq_false (noFolder : f.find? p ≠ some .directory) : p.isAbove = false := by
  by_contra above
  exact noFolder (if_pos (by simpa using above))

/-! ## The way of a path -/

/-- A name is looked up in a folder. -/
theorem find?_of_step {name : Text} (steps : f.step p name = .ok q) :
    f.find? p = some .directory := by
  unfold step at steps
  split at steps
  · cases steps
  · cases steps
  · assumption

theorem step_congr (same : f.find? p = g.find? p) (name : Text) : f.step p name = g.step p name := by
  unfold step
  rw [same]

theorem walk_cons_eq_ok_iff {name : Text} {names : List Text} :
    f.walk q (name :: names) = .ok r ↔ ∃ p, f.step q name = .ok p ∧ f.walk p names = .ok r := by
  rw [walk]
  cases f.step q name with
  | ok p => simp
  | error e => simp

/-- What is put in the place of no folder is on no way. -/
theorem walk_insert (noFolder : f.find? p ≠ some .directory) {names : List Text}
    (walks : f.walk q names = .ok r) : (f.insert p e).walk q names = .ok r := by
  induction names generalizing q with
  | nil => exact walks
  | cons name names ih =>
    obtain ⟨next, steps, onward⟩ := walk_cons_eq_ok_iff.1 walks
    have other : q ≠ p := by
      rintro rfl
      exact noFolder (find?_of_step steps)
    refine walk_cons_eq_ok_iff.2 ⟨next, ?_, ih onward⟩
    rw [step_congr (find?_insert_of_ne other), steps]

/-- A way that ends by staying where it is ends in a folder. -/
theorem find?_of_walk_here {names : List Text} (walks : f.walk q (names ++ [Path.here]) = .ok r) :
    f.find? r = some .directory := by
  induction names generalizing q with
  | nil =>
    obtain ⟨next, steps, onward⟩ := walk_cons_eq_ok_iff.1 walks
    have folder := find?_of_step steps
    rw [step, folder] at steps
    cases steps
    cases onward
    exact folder
  | cons name names ih =>
    obtain ⟨next, -, onward⟩ := walk_cons_eq_ok_iff.1 walks
    exact ih onward

theorem resolve_eq_ok {path : Text} {names : List Text} (leads : f.resolve path names = .ok p) :
    f.walk (Path.start path) names = .ok p := by
  unfold resolve at leads
  split_ifs at leads
  exact leads

theorem resolve_insert (noFolder : f.find? p ≠ some .directory) {path : Text} {names : List Text}
    (leads : f.resolve path names = .ok r) : (f.insert p e).resolve path names = .ok r := by
  unfold resolve at leads ⊢
  split_ifs at leads ⊢
  exact walk_insert noFolder leads

/-! ## Writing -/

/-- What is written is put where the path leads to, which is no folder. -/
theorem write_eq_ok {path : Text} {content : Bytes} (written : f.write path content = .ok g) :
    ∃ p, f.resolve path (Path.names path) = .ok p ∧ Path.endsInSlash path = false ∧
      f.find? p ≠ some .directory ∧ g = f.insert p (.file content) := by
  unfold write at written
  obtain ⟨p, leads, puts⟩ := bind_eq_ok_iff.1 written
  have noFolder : f.find? p ≠ some .directory := by
    intro folder
    rw [folder] at puts
    cases puts
  -- a slash at the end asks for a folder, and there nothing can be put
  have slash : Path.endsInSlash path = false := by
    by_contra ends
    rw [namesToWrite, if_pos (by simpa using ends)] at leads
    exact noFolder (find?_of_walk_here (resolve_eq_ok leads))
  refine ⟨p, ?_, slash, noFolder, ?_⟩
  · rwa [namesToWrite, if_neg (by simp [slash])] at leads
  · split at puts
    · cases puts
    · cases puts
      rfl

/-- What was written to a path is read from it. -/
theorem read_of_write {path : Text} {content : Bytes} (written : f.write path content = .ok g) :
    g.read path = .ok content := by
  obtain ⟨p, leads, slash, noFolder, rfl⟩ := write_eq_ok written
  have here : (f.insert p (.file content)).find? p = some (.file content) :=
    find?_insert_self (isAbove_eq_false noFolder)
  refine bind_eq_ok_iff.2 ⟨p, resolve_insert noFolder leads, ?_⟩
  rw [here]
  exact if_neg (by simp [slash])

end Folder

namespace Workspace

/-- What becomes of a workspace when a text is written to a path, and nothing else. Standard output
    is extended by the text; or the file at the path holds the text, while every other place is as
    before. -/
inductive Received (w : Workspace) (path text : Text) : Workspace → Prop
  | standard (isStandard : path = standardPath) :
      Received w path text { w with output := w.output ++ Utf8.encode text }
  | file {folder : Folder} {p : Path} (isFile : path ≠ standardPath)
      (leads : w.folder.resolve path (Path.names path) = .ok p)
      (content : folder.find? p = some (.file (Utf8.encode text)))
      (others : ∀ q ≠ p, folder.find? q = w.folder.find? q)
      (reads : folder.read path = .ok (Utf8.encode text)) :
      Received w path text { w with folder }

theorem received_of_writeOutput {w v : Workspace} {path text : Text}
    (written : w.writeOutput path text = .ok v) : w.Received path text v := by
  unfold writeOutput at written
  split_ifs at written with target
  · cases written
    exact .standard target
  · split at written
    · next folder changed =>
      cases written
      obtain ⟨p, leads, -, noFolder, rfl⟩ := Folder.write_eq_ok changed
      refine .file target leads ?_ ?_ (Folder.read_of_write changed)
      · exact Folder.find?_insert_self (Folder.isAbove_eq_false noFolder)
      · exact fun q other => Folder.find?_insert_of_ne other
    · cases written

end Workspace

end Listing
