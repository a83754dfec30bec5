import Listing.Proofs.Format.History
import Listing.Proofs.Program.RoundTrip

/-!
# Reformatting twice

Reformatting a listing that was reformatted changes nothing, if lines are not explained. The listing
is read as the program trimmed; its lines are whole where lines were split, so that they stay as
they are; and they are written as before.

Main statement: `reformat_reformat`.
-/

namespace Listing

namespace Registry

/-- A listing is what the format of listings gives. -/
theorem reformat_basic_result (options : RenderOptions) (splitting explaining : Bool)
    (source : Text) :
    ((standard options).reformat ⟨splitting, explaining⟩ "basic".toList source).result =
      .ok ((((Program.ofText source).splitStep splitting).result.explainStep
        explaining).result.render options) := by
  have found : (standard options).get? "basic".toList = some (.basic options) := by
    unfold standard
    rw [get?_register, get?_register, get?_register]
    rfl
  rw [reformat_result (by decide), serialize, found]
  rfl

end Registry

namespace Program

variable {options : RenderOptions}

/-- A program with its lines trimmed is written as before. -/
theorem render_map_trimmed {lines : List Line} (form : ∀ l ∈ lines, l.WellFormed) :
    render options ⟨lines.map Line.trimmed⟩ = render options ⟨lines⟩ := by
  have written := render_map_congr (h := id) fun l member => (form l member).render_trimmed options
  rwa [List.map_id] at written

end Program

/-- Reformatting a listing that was reformatted gives the same listing. -/
theorem reformat_reformat (source : Text) (splitting : Bool) (before after : Nat)
    (uppercase : Bool) :
    let run := fun text => ((Registry.standard (.spaced before after uppercase)).reformat
      ⟨splitting, false⟩ "basic".toList text).result
    ∃ listing, run source = .ok listing ∧ run listing = .ok listing := by
  intro run
  have runs : ∀ text, run text =
      .ok (((Program.ofText text).splitStep splitting).result.render
        (.spaced before after uppercase)) := fun text =>
    Registry.reformat_basic_result _ splitting false text
  refine ⟨_, runs source, ?_⟩
  have form : ∀ l ∈ ((Program.ofText source).splitStep splitting).result.lines, l.WellFormed :=
    fun l member => Program.wellFormed_splitStep member
  have whole : ∀ l : Line, l.WellFormed → l.isWhole = true → l.trimmed.isWhole = true :=
    fun l valid whole => valid.isWhole_trimmed.trans whole
  rw [runs, Program.ofText_render rfl form, Program.splitStep_map whole,
    Program.render_map_trimmed form]

end Listing
