import Listing.Proofs.Program.Spread
import Listing.Proofs.Reformat.Idempotence
import Listing.Proofs.Text.LineEnding

/-!
# Reformatting line by line

Reading, splitting, explaining and writing a listing treat every line by itself. Nothing that stands
on one line of a text, be it a string or a remark without an end, has an effect on another one, and
it does not matter how a line is ended.

Main statements: `ofText_append_ending`, by which two texts with a line ending in between are read
one after the other; `reformat_basic_eq_flatMap`, by which a listing is made line by line; and from
these `reformat_append_ending` for two texts and `reformat_terminate` for the choice of line endings.
-/

namespace Listing

namespace Program

/-! ## Reading -/

/-- A program is read off the lines of a text. Empty ones give nothing. -/
theorem lines_ofText_eq_filterMap (source : Text) :
    (ofText source).lines = (Text.lines source).filterMap Line.ofText? := by
  have empty : Line.ofText? [] = none := by
    unfold Line.ofText?
    rw [Text.tokens_nil]
  rw [ofText_lines, Text.lines, List.filterMap_filter]
  congr 1
  funext t
  by_cases blank : t = []
  · subst blank
    simp [empty]
  · simp [blank]

theorem ofText_append_ending (s : Text) (ending : LineEnding) (t : Text) :
    (ofText (s ++ ending.text ++ t)).lines = (ofText s).lines ++ (ofText t).lines := by
  simp only [lines_ofText_eq_filterMap]
  rw [Text.lines_append_ending, List.filterMap_append]

theorem ofText_terminate (ended : List (Text × LineEnding)) :
    (ofText (Text.terminate ended)).lines = ended.flatMap fun (line, _) => (ofText line).lines := by
  rw [lines_ofText_eq_filterMap, Text.lines_terminate, List.filterMap_flatMap]
  apply List.flatMap_congr
  intro l _
  exact (lines_ofText_eq_filterMap l.1).symm

/-! ## The steps in between -/

theorem lines_splitStep (p : Program) (enabled : Bool) :
    (p.splitStep enabled).result.lines =
      p.lines.flatMap fun l => if enabled then l.spread else [l] := by
  cases enabled with
  | false => simp [splitStep]
  | true => exact p.lines_split

theorem lines_explainStep (p : Program) (enabled : Bool) :
    (p.explainStep enabled).result.lines =
      p.lines.map fun l => if enabled then l.explain else l := by
  cases enabled with
  | false => simp [explainStep]
  | true => rfl

end Program

/-- The part of a listing that becomes of a line. -/
def Line.listing (options : RenderOptions) (steps : ReformatOptions) (l : Line) : Text :=
  (if steps.splitLines then l.spread else [l]).flatMap fun m =>
    (if steps.addExplanations then m.explain else m).render options ++ ['\n']

namespace Registry

/-- A listing is made line by line. -/
theorem reformat_basic_eq_flatMap (options : RenderOptions) (steps : ReformatOptions)
    (source : Text) :
    ((standard options).reformat steps "basic".toList source).result =
      .ok ((Program.ofText source).lines.flatMap (Line.listing options steps)) := by
  rw [reformat_basic_result options steps.splitLines steps.addExplanations source, Program.render,
    Program.lines_explainStep, Program.lines_splitStep, List.flatMap_map, List.flatMap_assoc]
  rfl

end Registry

/-- The listing of two texts with a line ending in between is that of the first one, followed by
    that of the second one. -/
theorem reformat_append_ending (options : RenderOptions) (steps : ReformatOptions) (s : Text)
    (ending : LineEnding) (t : Text) :
    let run := fun text =>
      ((Registry.standard options).reformat steps "basic".toList text).result
    ∃ first second, run s = .ok first ∧ run t = .ok second ∧
      run (s ++ ending.text ++ t) = .ok (first ++ second) := by
  intro run
  have runs : ∀ text, run text =
      .ok ((Program.ofText text).lines.flatMap (Line.listing options steps)) :=
    Registry.reformat_basic_eq_flatMap options steps
  refine ⟨_, _, runs s, runs t, ?_⟩
  rw [runs, Program.ofText_append_ending, List.flatMap_append]

/-- In every format but those for tokens it makes no difference how the lines of a text are ended. -/
theorem reformat_terminate {format : Text} (noDump : TokenFormat.ofName? format = none)
    (r : Registry) (steps : ReformatOptions) (ended : List (Text × LineEnding)) :
    (r.reformat steps format (Text.terminate ended)).result =
      (r.reformat steps format
        (Text.terminate (ended.map fun (line, _) => (line, .lf)))).result := by
  have same : Program.ofText (Text.terminate ended) =
      Program.ofText (Text.terminate (ended.map fun (line, _) => (line, .lf))) := by
    apply congrArg Program.mk
    change (Program.ofText _).lines = (Program.ofText _).lines
    rw [Program.ofText_terminate, Program.ofText_terminate, List.flatMap_map]
  rw [Registry.reformat_result noDump, Registry.reformat_result noDump, same]

/-- The line feed of an empty line is taken in by the carriage return in front of it. -/
theorem reformat_terminate_mixed :
    let run := fun format source => ((Registry.standard .default).reformat ⟨true, true⟩
      format source).result
    TokenFormat.ofName? "basic".toList = none ∧ TokenFormat.ofName? "json".toList = none ∧
      TokenFormat.ofName? "yaml".toList = none ∧
      run "basic".toList "10 a:b\r\n20 c\r\n".toList = run "basic".toList "10 a:b\n\n20 c\n".toList ∧
      run "json".toList "10 a:b\r\n20 c\r\n".toList = run "json".toList "10 a:b\n\n20 c\n".toList ∧
      run "yaml".toList "10 a:b\r\n20 c\r\n".toList = run "yaml".toList "10 a:b\n\n20 c\n".toList := by
  intro run
  have basic : TokenFormat.ofName? "basic".toList = none := by decide
  have json : TokenFormat.ofName? "json".toList = none := by decide
  have yaml : TokenFormat.ofName? "yaml".toList = none := by decide
  let ended : List (Text × LineEnding) :=
    [("10 a:b".toList, .cr), ([], .lf), ("20 c".toList, .crlf)]
  refine ⟨basic, json, yaml, ?_, ?_, ?_⟩
  · exact reformat_terminate basic _ _ ended
  · exact reformat_terminate json _ _ ended
  · exact reformat_terminate yaml _ _ ended

end Listing
