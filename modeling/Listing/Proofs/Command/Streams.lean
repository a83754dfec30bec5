import Listing.Proofs.Command.Effects
import Listing.Proofs.Text.Utf8

/-!
# Files and standard streams

A source can come from a file or from standard input, and the result can go to a file or to standard
output. A file is read leniently and standard input strictly, which is the same for the bytes of a
text. Where a result can be written does not depend on what is written. So the outcome of a command is
that of its settings and its source.

Main statements: `run_of_gives`, and `perform_streams` for the arguments of the program.
-/

namespace Listing

/-- What can be written to a path with one content can be written with any other. -/
theorem Folder.exists_write_of_write {f g : Folder} {path : Text} {content : Bytes}
    (written : f.write path content = .ok g) (other : Bytes) : ∃ h, f.write path other = .ok h := by
  obtain ⟨p, leads, slash, noFolder, -⟩ := write_eq_ok written
  refine ⟨f.insert p (.file other), bind_eq_ok_iff.2 ⟨p, ?_, ?_⟩⟩
  · rwa [namesToWrite, if_neg (by simp [slash])]
  · split
    · contradiction
    · rfl

namespace Workspace

variable {w : Workspace} {path t : Text}

/-- Whether the bytes of a text are what is read at a path, from a file or from standard input. -/
def Gives (w : Workspace) (path t : Text) : Prop :=
  if path = standardPath then w.input = Utf8.encode t
  else w.folder.read path = .ok (Utf8.encode t)

/-- Whether a path can be written to: it stands for standard output, or for a file that can be
    made or changed. -/
def Takes (w : Workspace) (path : Text) : Prop :=
  path = standardPath ∨ ∃ content folder, w.folder.write path content = .ok folder

theorem readSource_of_gives (gives : w.Gives path t) : w.readSource path = .ok t := by
  unfold Gives at gives
  unfold readSource
  split_ifs at gives ⊢ with standard
  · rw [gives, Utf8.decode?_encode]
  · rw [gives]
    dsimp only
    rw [Utf8.decodeLenient_encode]

theorem exists_writeOutput_of_takes (takes : w.Takes path) (text : Text) :
    ∃ v, w.writeOutput path text = .ok v ∧ w.Received path text v := by
  have written : ∃ v, w.writeOutput path text = .ok v := by
    unfold writeOutput
    split_ifs with standard
    · exact ⟨_, rfl⟩
    · obtain ⟨content, folder, changed⟩ := takes.resolve_left standard
      obtain ⟨next, changed⟩ := Folder.exists_write_of_write changed (Utf8.encode text)
      rw [changed]
      exact ⟨_, rfl⟩
  obtain ⟨v, written⟩ := written
  exact ⟨v, written, received_of_writeOutput written⟩

end Workspace

namespace Command

/-- What comes of a command with the given settings and source, apart from where they come from. -/
def outcome (c : Command) (loaded : Except SettingsError Settings) (source : Text) :
    Except CommandError Text :=
  match loaded with
  | .error e => .error (.settings e)
  | .ok s =>
    match ((Registry.standard s.render).reformat s.reformat c.format source).result with
    | .error e => .error (.process (.format e))
    | .ok text => .ok text

/-- A command with a source that is there, and an output that can be written to, fails or succeeds as
    its outcome does. -/
theorem run_of_gives {c : Command} {w : Workspace} {t : Text} (gives : w.Gives c.input t)
    (takes : w.Takes c.output) :
    match c.outcome (Settings.load w.folder c.layers) t with
    | .error e => (c.run w).code = e.code
    | .ok text => (c.run w).code = 0 ∧ w.Received c.output text (c.run w).workspace := by
  unfold run outcome
  cases Settings.load w.folder c.layers with
  | error e => rfl
  | ok s =>
    dsimp only
    unfold Workspace.process
    rw [Workspace.readSource_of_gives gives]
    dsimp only
    cases formatted :
        ((Registry.standard s.render).reformat s.reformat c.format t).result with
    | error e => rfl
    | ok text =>
      obtain ⟨v, written, received⟩ := Workspace.exists_writeOutput_of_takes takes text
      dsimp only
      rw [written]
      exact ⟨rfl, received⟩

/-- Two commands that differ in their paths alone. -/
def SameOptions (c base : Command) : Prop :=
  c = { base with input := c.input, output := c.output }

theorem SameOptions.layers {c base : Command} (same : c.SameOptions base) : c.layers = base.layers := by
  rw [same]
  rfl

theorem SameOptions.outcome {c base : Command} (same : c.SameOptions base) :
    c.outcome = base.outcome := by
  rw [same]
  rfl

end Command

namespace Request

/-- With one source text, however it is given, and the same settings, options and format, the program
    ends with one exit code and, if that is 0, leaves the same text wherever it is sent to. -/
theorem perform_streams (base : Command) (t : Text) (loaded : Except SettingsError Settings) :
    ∃ code text, (code = 0 ↔ base.outcome loaded t = .ok text) ∧
      ∀ (arguments : List Text) (c : Command) (w : Workspace), parse? arguments = some (.run c) →
        c.SameOptions base → Settings.load w.folder base.layers = loaded → w.Gives c.input t →
        w.Takes c.output → (perform arguments w).code = code ∧
          (code = 0 → w.Received c.output text (perform arguments w).workspace) := by
  have runs : ∀ {arguments : List Text} {c : Command} {w : Workspace},
      parse? arguments = some (.run c) → perform arguments w = c.run w := by
    intro arguments c w asked
    simp [perform, asked]
  cases result : base.outcome loaded t with
  | error e =>
    have failed := e.code_ne_zero
    refine ⟨e.code, [], by simp [failed], ?_⟩
    intro arguments c w asked same settings gives takes
    have ends := Command.run_of_gives gives takes
    rw [same.layers, same.outcome, settings, result] at ends
    rw [runs asked]
    exact ⟨ends, fun done => absurd done failed⟩
  | ok text =>
    refine ⟨0, text, by simp, ?_⟩
    intro arguments c w asked same settings gives takes
    have ends := Command.run_of_gives gives takes
    rw [same.layers, same.outcome, settings, result] at ends
    rw [runs asked]
    exact ⟨ends.1, fun _ => ends.2⟩

/-- A text with letters of two and four bytes, in all four ways. -/
theorem perform_streams_four :
    let source := "10 é:𝛼".toList
    let w : Workspace :=
      ⟨Folder.empty.insert ["a".toList] (.file (Utf8.encode source)), Utf8.encode source, []⟩
    ∃ text, ∀ input ∈ ["a".toList, "-".toList], ∀ output ∈ ["b".toList, "-".toList],
      (perform [input, "--split-lines".toList, output] w).code = 0 ∧
        w.Received output text (perform [input, "--split-lines".toList, output] w).workspace := by
  intro source w
  let base : Command := ⟨[], [], true, false, false, none, "basic".toList⟩
  obtain ⟨code, text, -, agree⟩ :=
    perform_streams base source (Settings.load w.folder base.layers)
  have asked : ∀ input ∈ ["a".toList, "-".toList], ∀ output ∈ ["b".toList, "-".toList],
      parse? [input, "--split-lines".toList, output] = some (.run { base with input, output }) := by
    decide +kernel
  have gives : ∀ input ∈ ["a".toList, "-".toList], w.Gives input source := by
    unfold Workspace.Gives
    decide +kernel
  have takes : ∀ output ∈ ["b".toList, "-".toList], w.Takes output := by
    rw [List.forall_mem_cons, List.forall_mem_singleton]
    exact ⟨Or.inr ⟨[], _, rfl⟩, Or.inl rfl⟩
  have agrees := fun input here output there =>
    agree _ _ w (asked input here output there) rfl rfl (gives input here) (takes output there)
  have done : code = 0 := by
    rw [← (agrees "-".toList (by simp) "-".toList (by simp)).1]
    decide +kernel
  refine ⟨text, fun input here output there => ?_⟩
  have ends := agrees input here output there
  exact ⟨ends.1.trans done, ends.2 done⟩

end Request

end Listing
