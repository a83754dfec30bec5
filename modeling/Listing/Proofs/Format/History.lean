import Mathlib
import Listing.Reformat

/-!
# The history of a registry

A registry is told by the formatters that were registered, in their order: under each name it holds
the one that was registered last. Its names, its answers to whether a format exists, and the formats
that a source text can be written in all follow from that. The names of the token dumps are answered
before the registry is asked, so that a formatter of such a name is never used.

Main statements: `get?_registerAll_empty`, what a registry holds after any history;
`mem_availableFormats`; and `views_registerAll`, by which its views agree.
-/

namespace Listing

/-- Texts are compared as words in a dictionary are. -/
theorem Text.compare_eq_lt_iff (s t : Text) : compare s t = .lt ↔ s < t := by
  change List.compareLex compare s t = .lt ↔ s < t
  induction s generalizing t with
  | nil => cases t <;> simp [List.compareLex_nil_nil, List.compareLex_nil_cons]
  | cons c s ih =>
    cases t with
    | nil => simp [List.compareLex_cons_nil]
    | cons d t =>
      rw [List.compareLex_cons_cons, Ordering.then_eq_lt, ih, List.cons_lt_cons_iff,
        compare_lt_iff_lt, Std.compare_eq_iff_eq]

namespace Registry

theorem get?_register (r : Registry) (f : Formatter) (name : Text) :
    (r.register f).get? name = if f.name = name then some f else r.get? name := by
  unfold register get?
  rw [Std.TreeMap.getElem?_insert]
  simp only [Std.LawfulEqCmp.compare_eq_iff_eq]

/-- What is written of a text depends on the program that is read, unless it is the tokens. -/
theorem reformat_result {format : Text} (noDump : TokenFormat.ofName? format = none) (r : Registry)
    (steps : ReformatOptions) (source : Text) :
    (r.reformat steps format source).result =
      r.serialize (((Program.ofText source).splitStep steps.splitLines).result.explainStep
        steps.addExplanations).result format := by
  unfold reformat
  rw [noDump]
  rfl

/-! ## Views of one registry -/

theorem pairwise_names (r : Registry) : r.names.Pairwise (· < ·) := by
  unfold names
  simpa only [Text.compare_eq_lt_iff] using Std.TreeMap.ordered_keys (t := r.formatters)

theorem mem_names (r : Registry) (name : Text) : name ∈ r.names ↔ r.has name = true := by
  unfold names has
  rw [Std.TreeMap.mem_keys, Std.TreeMap.contains_iff_mem]

theorem isSome_get? (r : Registry) (name : Text) : (r.get? name).isSome = r.has name :=
  Std.TreeMap.isSome_getElem?_eq_contains

theorem mem_availableFormats (r : Registry) (name : Text) :
    name ∈ r.availableFormats ↔ r.has name = true ∨ (TokenFormat.ofName? name).isSome = true := by
  have dumps : (TokenFormat.ofName? name).isSome = true ↔
      name = TokenFormat.jsonName ∨ name = TokenFormat.taggedName := by
    unfold TokenFormat.ofName?
    split_ifs <;> simp_all
  unfold availableFormats
  rw [List.mem_mergeSort, List.mem_append, mem_names, dumps]
  simp

/-! ## Registration -/

/-- The registry after further formatters have been registered. -/
def registerAll (r : Registry) (formatters : List Formatter) : Registry :=
  formatters.foldl register r

/-- A formatter is the last one of its name among those that were registered. -/
def LastNamed (registered : List Formatter) (name : Text) (f : Formatter) : Prop :=
  ∃ before after, registered = before ++ f :: after ∧ f.name = name ∧ ∀ g ∈ after, g.name ≠ name

/-- Another registration hides the earlier ones of its name and no others. -/
theorem lastNamed_concat_iff {registered : List Formatter} {g : Formatter} {name : Text}
    {f : Formatter} : LastNamed (registered ++ [g]) name f ↔
      if g.name = name then g = f else LastNamed registered name f := by
  constructor
  · rintro ⟨before, after, same, named, later⟩
    rcases List.eq_nil_or_concat' after with rfl | ⟨after, h, rfl⟩
    · obtain ⟨-, last⟩ := List.append_inj' same rfl
      rw [List.singleton_inj] at last
      rw [last, if_pos named]
    · rw [← List.cons_append, ← List.append_assoc] at same
      obtain ⟨init, last⟩ := List.append_inj' same rfl
      rw [List.singleton_inj] at last
      rw [List.forall_mem_append, List.forall_mem_singleton, ← last] at later
      rw [if_neg later.2]
      exact ⟨before, after, init, named, later.1⟩
  · intro last
    split_ifs at last with named
    · subst last
      exact ⟨registered, [], rfl, named, by simp⟩
    · obtain ⟨before, after, rfl, under, later⟩ := last
      refine ⟨before, after ++ [g], by simp, under, ?_⟩
      rw [List.forall_mem_append, List.forall_mem_singleton]
      exact ⟨later, named⟩

/-- A registry that starts without formatters holds those that were registered last. -/
theorem get?_registerAll_empty (registered : List Formatter) (name : Text) (f : Formatter) :
    (empty.registerAll registered).get? name = some f ↔ LastNamed registered name f := by
  induction registered using List.reverseRecOn with
  | nil => simp [registerAll, LastNamed, empty, get?]
  | append_singleton registered g ih =>
    rw [registerAll, List.foldl_concat, ← registerAll, get?_register, lastNamed_concat_iff]
    split_ifs
    · simp
    · exact ih

/-- The registries that a history starts from: an empty one, or all formats, with default options or
    others. -/
inductive Start where
  | empty
  | standard (options : RenderOptions)

/-- The registry at the start. -/
def Start.registry : Start → Registry
  | .empty => Registry.empty
  | .standard options => Registry.standard options

/-- The formatters of the registry at the start. -/
def Start.formatters : Start → List Formatter
  | .empty => []
  | .standard options => [.basic options, .json, .yaml]

/-- What is there at the start was registered as all else. -/
theorem Start.registerAll_registry (start : Start) (formatters : List Formatter) :
    start.registry.registerAll formatters =
      Registry.empty.registerAll (start.formatters ++ formatters) := by
  have registered : start.registry = Registry.empty.registerAll start.formatters := by
    cases start <;> rfl
  rw [registered, registerAll, registerAll, registerAll, List.foldl_append]

/-- The formatters at the start always succeed. -/
theorem Start.serialize_eq_ok {start : Start} {f : Formatter} (member : f ∈ start.formatters)
    (p : Program) : ∃ t, f.serialize p = .ok t := by
  cases start with
  | empty => cases member
  | standard options =>
    simp only [formatters, List.mem_cons, List.not_mem_nil, or_false] at member
    rcases member with rfl | rfl | rfl
    · exact ⟨p.render options, rfl⟩
    · exact ⟨p.toJson, rfl⟩
    · exact ⟨p.toYaml, rfl⟩

/-! ## Reformatting -/

/-- A format is missing exactly if it is not available, provided that what is registered under its
    name never says so itself. -/
theorem reformat_eq_notFound_iff {r : Registry} {name : Text}
    (sound : ∀ f, r.get? name = some f → ∀ p, f.serialize p ≠ .error (.notFound name))
    (steps : ReformatOptions) (source : Text) :
    (r.reformat steps name source).result = .error (.notFound name) ↔
      name ∉ r.availableFormats := by
  rw [mem_availableFormats, ← isSome_get?, not_or]
  cases dump : TokenFormat.ofName? name with
  | some d => simp [reformat, dump]
  | none =>
    rw [reformat_result dump]
    cases found : r.get? name with
    | some f => simp [serialize, found, sound f found]
    | none => simp [serialize, found]

/-- The views of a registry agree after any history. Its names are in strictly ascending order, and
    they are those under which it has a formatter and those under which one is found, which is then
    the one that was registered last under that name. A source text meets a missing format exactly if
    its name is not among the available ones. -/
theorem views_registerAll (start : Start) (formatters : List Formatter) :
    let r := start.registry.registerAll formatters
    r.names.Pairwise (· < ·) ∧
    (∀ name, (name ∈ r.names ↔ r.has name = true) ∧ (name ∈ r.names ↔ (r.get? name).isSome = true)) ∧
    (∀ name f, r.get? name = some f ↔ LastNamed (start.formatters ++ formatters) name f) ∧
    ((∀ f ∈ formatters, ∀ p missing, f.serialize p ≠ .error (.notFound missing)) →
      ∀ steps source name, (r.reformat steps name source).result = .error (.notFound name) ↔
        name ∉ r.availableFormats) := by
  intro r
  have last : ∀ name f, r.get? name = some f ↔ LastNamed (start.formatters ++ formatters) name f := by
    intro name f
    rw [← get?_registerAll_empty, ← start.registerAll_registry]
  refine ⟨r.pairwise_names, ?_, last, ?_⟩
  · intro name
    rw [r.isSome_get?]
    exact ⟨r.mem_names name, r.mem_names name⟩
  · intro sound steps source name
    apply reformat_eq_notFound_iff
    intro f found p
    obtain ⟨before, after, whole, -, -⟩ := (last name f).1 found
    have member : f ∈ start.formatters ++ formatters := by simp [whole]
    rcases List.mem_append.1 member with initial | later
    · obtain ⟨t, succeeds⟩ := Start.serialize_eq_ok initial p
      simp [succeeds]
    · exact sound f later p name

/-- Formatters that count lines take the place of `json` and stand beside a token dump. The count of
    no lines fails, but not for want of a format. -/
theorem views_registerAll_counters :
    let count : Text → Formatter := fun name => ⟨name, "", fun p =>
      if p.lines = [] then .error (.serialization "empty program")
      else .ok ("lines=".toList ++ Text.ofNat p.lines.length)⟩
    let formatters := [count "json".toList, count TokenFormat.jsonName]
    let r := (Start.standard RenderOptions.default).registry.registerAll formatters
    (∀ f ∈ formatters, ∀ p missing, f.serialize p ≠ .error (.notFound missing)) ∧
    r.get? "json".toList = some (count "json".toList) ∧
    r.names = ["basic".toList, "json".toList, TokenFormat.jsonName, "yaml".toList] ∧
    (∀ steps source, (r.reformat steps "xml".toList source).result =
      .error (.notFound "xml".toList)) ∧
    ∀ steps source, (r.reformat steps TokenFormat.jsonName source).result ≠
      .error (.notFound TokenFormat.jsonName) := by
  intro count formatters r
  obtain ⟨-, -, last, missing⟩ := views_registerAll (.standard RenderOptions.default) formatters
  have sound : ∀ f ∈ formatters, ∀ p missing, f.serialize p ≠ .error (.notFound missing) := by
    intro f member p missing
    simp only [formatters, List.mem_cons, List.not_mem_nil, or_false] at member
    rcases member with rfl | rfl
    all_goals
      simp only [count]
      split_ifs <;> simp
  refine ⟨sound, (last _ _).2 ?_, by decide +kernel, ?_, ?_⟩
  · exact ⟨_, [count TokenFormat.jsonName], rfl, rfl, by decide +kernel⟩
  · intro steps source
    rw [missing sound, mem_availableFormats]
    decide +kernel
  · intro steps source
    rw [Ne, missing sound, not_not, mem_availableFormats]
    decide +kernel

end Registry

end Listing
