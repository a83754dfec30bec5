import Mathlib
import Listing.Command.Run

/-!
# Where options stand

Arguments are made of parts: a path, a switch, or a setting with its value, which is one argument or
two as it is written. Reading a part takes what it gives and goes on behind it, and no part says
anything about the others unless it gives the same once more. So what the arguments give can be told
from their parts in any order, except that the first path is the input and the second the output.

Main statements: `parseFrom_arguments`, the arguments are read part by part; `foldlM_take`, what a
sequence of parts gives; and `perform_reordered`.
-/

namespace Listing.Request

/-! ## Parts of the arguments -/

/-- How a setting and its value are written. -/
inductive Spelling where
  /-- `--format yaml` -/
  | longApart
  /-- `--format=yaml` -/
  | longJoined
  /-- `-f yaml` -/
  | shortApart
  /-- `-fyaml` -/
  | shortJoined
  deriving DecidableEq, Repr

/-- The long name of a switch. -/
def Switch.name : Switch → Text
  | .splitLines => "split-lines".toList
  | .addExplanations => "add-explanations".toList
  | .verbose => "verbose".toList

/-- The long name of a setting. -/
def Setting.name : Setting → Text
  | .settings => "config".toList
  | .format => "format".toList

/-- The short name of a setting. -/
def Setting.letter : Setting → Char
  | .settings => 'c'
  | .format => 'f'

/-- A part of the arguments as it is written. A path, and the value of a setting, cannot be taken for
    an option. -/
inductive Part where
  | path (p : Text) (plain : p = ['-'] ∨ p.head? ≠ some '-')
  | switch (s : Switch)
  | shortVerbose
  | setting (s : Setting) (spelling : Spelling) (value : Text) (nonempty : value ≠ [])
      (plain : value.head? ≠ some '-')
  deriving DecidableEq

namespace Part

/-- The arguments that a part is written as. -/
def arguments : Part → List Text
  | .path p _ => [p]
  | .switch s => ['-' :: '-' :: s.name]
  | .shortVerbose => [['-', 'v']]
  | .setting s .longApart value _ _ => ['-' :: '-' :: s.name, value]
  | .setting s .longJoined value _ _ => ['-' :: '-' :: s.name ++ '=' :: value]
  | .setting s .shortApart value _ _ => [['-', s.letter], value]
  | .setting s .shortJoined value _ _ => ['-' :: s.letter :: value]

/-- The path that a part is. -/
def path? : Part → Option Text
  | .path p _ => some p
  | _ => none

/-- The option that a part gives. -/
def option? : Part → Option CommandOption
  | .path _ _ => none
  | .switch s => some (.switch s)
  | .shortVerbose => some (.switch .verbose)
  | .setting s _ _ _ _ => some (.setting s)

/-- The value that a setting gets. Right behind a letter, an equals sign in front of the value is not
    part of it. -/
def valueOf (spelling : Spelling) (value : Text) : Text :=
  match spelling, value with
  | .shortJoined, '=' :: value => value
  | _, value => value

/-- The value that a part gives to a setting. -/
def value? (s : Setting) : Part → Option Text
  | .setting other spelling value _ _ => if other = s then some (valueOf spelling value) else none
  | _ => none

/-- What a part adds to what has been given. -/
def take (g : Given) : Part → Option Given
  | .path p _ => g.addPath p
  | .switch s => g.turnOn s
  | .shortVerbose => g.turnOn .verbose
  | .setting s spelling value _ _ => g.set (valueOf spelling value) s

end Part

/-! ## Reading a part -/

theorem isOption_eq_false {t : Text} (plain : t = ['-'] ∨ t.head? ≠ some '-') :
    isOption t = false := by
  rcases plain with rfl | other
  · rfl
  · unfold isOption
    split
    · exact absurd rfl other
    · rfl

theorem readArgument_of_plain {t : Text} (plain : t = ['-'] ∨ t.head? ≠ some '-') (g : Given) :
    readArgument g t = (g.addPath t).map .next := by
  unfold readArgument
  split
  · simp at plain
  · simp at plain
  · rfl

theorem readLong_switch (g : Given) (s : Switch) : readLong g s.name = (g.turnOn s).map .next := by
  have whole : s.name.takeWhile (· != '=') = s.name ∧ s.name.dropWhile (· != '=') = [] ∧
      ofLongName? s.name = some (.switch s) := by
    cases s <;> decide +kernel
  unfold readLong
  rw [whole.1, whole.2.1, whole.2.2]
  rfl

theorem ofLongName?_setting (s : Setting) : ofLongName? s.name = some (.setting s) := by
  cases s <;> decide +kernel

theorem equals_not_mem_name (s : Setting) : ∀ c ∈ s.name, (c != '=') = true := by
  rw [← List.all_eq_true]
  cases s <;> decide

theorem readLong_setting (g : Given) (s : Setting) : readLong g s.name = some (.value g s) := by
  have whole := equals_not_mem_name s
  unfold readLong
  rw [List.takeWhile_eq_self_iff.2 whole, List.dropWhile_eq_nil_iff.2 whole, ofLongName?_setting]
  rfl

theorem readLong_joined (g : Given) (s : Setting) (value : Text) :
    readLong g (s.name ++ '=' :: value) = (g.set value s).map .next := by
  have whole := equals_not_mem_name s
  have front : (s.name ++ '=' :: value).takeWhile (· != '=') = s.name := by
    rw [List.takeWhile_append_of_pos whole]
    simp
  have behind : (s.name ++ '=' :: value).dropWhile (· != '=') = '=' :: value := by
    rw [List.dropWhile_append_of_pos whole]
    simp
  unfold readLong
  rw [front, behind, ofLongName?_setting]
  rfl

theorem ofShortName?_letter (s : Setting) : ofShortName? s.letter = some (.setting s) := by
  cases s <;> rfl

theorem readShort_setting (g : Given) (s : Setting) :
    readShort g [s.letter] = some (.value g s) := by
  rw [readShort, ofShortName?_letter]

theorem readShort_joined (g : Given) (s : Setting) {value : Text} (nonempty : value ≠ []) :
    readShort g (s.letter :: value) = (g.set (Part.valueOf .shortJoined value) s).map .next := by
  obtain ⟨c, rest, rfl⟩ := List.exists_cons_of_ne_nil nonempty
  rw [readShort, ofShortName?_letter]
  by_cases equals : c = '='
  · subst equals
    rfl
  · simp [Part.valueOf, equals]

/-- An argument that is complete by itself. -/
theorem parseFrom_of_next {g : Given} {argument : Text} {taken : Option Given}
    (other : argument ≠ ['-', '-']) (reads : readArgument g argument = taken.map .next)
    (rest : List Text) : parseFrom g (argument :: rest) = taken.bind (parseFrom · rest) := by
  rw [parseFrom, if_neg other, reads]
  cases taken with
  | none => rfl
  | some g => rfl

/-- An argument whose value is the next one. -/
theorem parseFrom_of_value {g : Given} {argument value : Text} {s : Setting}
    (other : argument ≠ ['-', '-']) (reads : readArgument g argument = some (.value g s))
    (plain : value.head? ≠ some '-') (rest : List Text) :
    parseFrom g (argument :: value :: rest) = (g.set value s).bind (parseFrom · rest) := by
  rw [parseFrom, if_neg other, reads]
  dsimp only
  rw [if_neg (by simp [isOption_eq_false (Or.inr plain)])]
  cases g.set value s with
  | none => rfl
  | some g => rfl

/-- A part is read by taking what it gives. What follows is read by itself. -/
theorem parseFrom_arguments_append (part : Part) (g : Given) (rest : List Text) :
    parseFrom g (part.arguments ++ rest) = (part.take g).bind (parseFrom · rest) := by
  cases part with
  | path p plain =>
    have other : p ≠ ['-', '-'] := by
      rintro rfl
      simp at plain
    exact parseFrom_of_next other (readArgument_of_plain plain g) rest
  | switch s =>
    have other : '-' :: '-' :: s.name ≠ ['-', '-'] := by
      cases s <;> decide
    exact parseFrom_of_next other (readLong_switch g s) rest
  | shortVerbose =>
    have reads : readArgument g ['-', 'v'] = (g.turnOn .verbose).map .next := by
      cases taken : g.turnOn .verbose <;> simp [readArgument, readShort, ofShortName?, taken]
    exact parseFrom_of_next (by decide) reads rest
  | setting s spelling value nonempty plain =>
    have named : s.name ≠ [] := by
      cases s <;> decide
    have long : ∀ tail, '-' :: '-' :: (s.name ++ tail) ≠ ['-', '-'] := by
      simp [named]
    have short : s.letter ≠ '-' := by
      cases s <;> decide
    have shortReads : ∀ tail, readArgument g ('-' :: s.letter :: tail) =
        readShort g (s.letter :: tail) := by
      cases s <;> exact fun _ => rfl
    cases spelling with
    | longApart =>
      have other := long []
      rw [List.append_nil] at other
      exact parseFrom_of_value other (readLong_setting g s) plain rest
    | longJoined => exact parseFrom_of_next (long _) (readLong_joined g s value) rest
    | shortApart =>
      refine parseFrom_of_value (by simp [short]) ?_ plain rest
      rw [shortReads, readShort_setting]
    | shortJoined =>
      have reads := readShort_joined g s nonempty
      rw [← shortReads] at reads
      exact parseFrom_of_next (by simp [short]) reads rest

/-- Arguments are read part by part. -/
theorem parseFrom_arguments (parts : List Part) (g : Given) :
    parseFrom g (parts.flatMap Part.arguments) = (parts.foldlM Part.take g).bind Given.request? := by
  induction parts generalizing g with
  | nil => rfl
  | cons part parts ih =>
    rw [List.flatMap_cons, parseFrom_arguments_append, List.foldlM_cons]
    cases part.take g with
    | none => rfl
    | some g => exact ih g

/-! ## What parts give -/

/-- The options that parts give. -/
def options (parts : List Part) : List CommandOption := parts.filterMap Part.option?

/-- What parts give. Only for the paths their order matters. -/
def given (parts : List Part) : Given where
  splitLines := (options parts).contains (.switch .splitLines)
  addExplanations := (options parts).contains (.switch .addExplanations)
  verbose := (options parts).contains (.switch .verbose)
  settings := (parts.filterMap (Part.value? .settings)).head?
  format := (parts.filterMap (Part.value? .format)).head?
  paths := parts.filterMap Part.path?

/-- Parts of which each gives another option, and at most two are paths. -/
structure Compatible (parts : List Part) : Prop where
  once : (options parts).Nodup
  paths : (parts.filterMap Part.path?).length ≤ 2

/-- A setting has as many values as it is given. -/
theorem length_values (s : Setting) (parts : List Part) :
    (parts.filterMap (Part.value? s)).length = (options parts).count (.setting s) := by
  rw [options, List.count_filterMap, List.length_filterMap_eq_countP]
  apply List.countP_congr
  intro part _
  cases part with
  | path p plain => simp [Part.value?, Part.option?]
  | switch other => simp [Part.value?, Part.option?]
  | shortVerbose => simp [Part.value?, Part.option?]
  | setting other spelling value nonempty plain => simp [Part.value?, Part.option?]

theorem values_eq_nil {s : Setting} {parts : List Part} (new : .setting s ∉ options parts) :
    parts.filterMap (Part.value? s) = [] := by
  rw [← List.length_eq_zero_iff, length_values, List.count_eq_zero_of_not_mem new]

theorem filterMap_concat {α : Type} (f : Part → Option α) (parts : List Part) (part : Part) :
    (parts ++ [part]).filterMap f = parts.filterMap f ++ (f part).toList := by
  cases gives : f part <;> simp [gives]

theorem options_concat (parts : List Part) (part : Part) :
    options (parts ++ [part]) = options parts ++ part.option?.toList :=
  filterMap_concat Part.option? parts part

namespace Compatible

variable {parts : List Part} {part : Part}

theorem front (compatible : Compatible (parts ++ [part])) : Compatible parts where
  once := by
    have once := compatible.once
    rw [options_concat] at once
    exact once.of_append_left
  paths := by
    have paths := compatible.paths
    rw [filterMap_concat, List.length_append] at paths
    omega

/-- What the last of some parts gives has not been given before it. -/
theorem new (compatible : Compatible (parts ++ [part])) {option : CommandOption}
    (gives : part.option? = some option) : option ∉ options parts := by
  have once := compatible.once
  rw [options_concat, gives] at once
  exact fun member => List.disjoint_of_nodup_append once member (by simp)

/-- Each part adds what it gives. -/
theorem take_given (compatible : Compatible (parts ++ [part])) :
    part.take (given parts) = some (given (parts ++ [part])) := by
  have new : ∀ {option}, part.option? = some option → option ∉ options parts := compatible.new
  unfold given
  rw [options_concat, filterMap_concat, filterMap_concat, filterMap_concat]
  cases part with
  | path p plain =>
    have few : (parts.filterMap Part.path?).length < 2 := by
      have paths := compatible.paths
      rw [filterMap_concat, List.length_append] at paths
      exact Nat.lt_of_succ_le paths
    simp [Part.take, Given.addPath, few, Part.option?, Part.value?, Part.path?]
  | switch s =>
    have fresh := new rfl
    cases s <;> simp [Part.take, Given.turnOn, fresh, Part.option?, Part.value?, Part.path?]
  | shortVerbose =>
    have fresh := new rfl
    simp [Part.take, Given.turnOn, fresh, Part.option?, Part.value?, Part.path?]
  | setting s spelling value nonempty plain =>
    have fresh := values_eq_nil (new rfl)
    cases s <;> simp [Part.take, Given.set, fresh, Part.option?, Part.value?, Part.path?]

end Compatible

theorem foldlM_take {parts : List Part} (compatible : Compatible parts) :
    parts.foldlM Part.take {} = some (given parts) := by
  induction parts using List.reverseRecOn with
  | nil => rfl
  | append_singleton parts part ih =>
    rw [List.foldlM_append, ih compatible.front]
    simpa using compatible.take_given

/-- The values of a setting that is given at most once do not depend on the order of the parts. -/
theorem values_perm {parts others : List Part} (once : (options parts).Nodup)
    (reordered : others.Perm parts) (s : Setting) :
    others.filterMap (Part.value? s) = parts.filterMap (Part.value? s) := by
  have perm := reordered.filterMap (Part.value? s)
  have few : (parts.filterMap (Part.value? s)).length ≤ 1 := by
    rw [length_values]
    exact List.nodup_iff_count_le_one.1 once _
  match parts.filterMap (Part.value? s), few, perm with
  | [], _, perm => exact perm.eq_nil
  | [value], _, perm => exact List.perm_singleton.1 perm

/-- The command with the given input and output that parts ask for. -/
def command (parts : List Part) (input output : Text) : Command where
  input := input
  output := output
  splitLines := (options parts).contains (.switch .splitLines)
  addExplanations := (options parts).contains (.switch .addExplanations)
  isVerbose := (options parts).contains (.switch .verbose)
  settings := (parts.filterMap (Part.value? .settings)).head?
  format := (parts.filterMap (Part.value? .format)).head?.getD "basic".toList

/-- Two paths and options of which each is given at most once ask for a command. -/
theorem parse?_arguments {parts : List Part} {input output : Text} (once : (options parts).Nodup)
    (paths : parts.filterMap Part.path? = [input, output]) :
    parse? (parts.flatMap Part.arguments) = some (.run (command parts input output)) := by
  have compatible : Compatible parts := ⟨once, by simp [paths]⟩
  have gathered : (given parts).paths = [input, output] := paths
  rw [parse?, parseFrom_arguments, foldlM_take compatible, Option.bind_some, Given.request?, gathered]
  rfl

theorem command_perm {parts others : List Part} (once : (options parts).Nodup)
    (reordered : others.Perm parts) (input output : Text) :
    command others input output = command parts input output := by
  have same : (options others).Perm (options parts) := reordered.filterMap _
  have contains : ∀ option, (options others).contains option = (options parts).contains option := by
    intro option
    rw [Bool.eq_iff_iff, List.contains_iff_mem, List.contains_iff_mem]
    exact same.mem_iff
  unfold command
  rw [contains, contains, contains, values_perm once reordered, values_perm once reordered]

/-- Two paths and options of which each is given at most once make a command that does not depend on
    where the options stand, nor does anything that comes of it. -/
theorem perform_reordered {parts others : List Part} {input output : Text}
    (once : (options parts).Nodup) (paths : parts.filterMap Part.path? = [input, output])
    (reordered : others.Perm parts) (ordered : others.filterMap Part.path? = [input, output])
    (w : Workspace) :
    parse? (others.flatMap Part.arguments) = some (.run (command parts input output)) ∧
      perform (others.flatMap Part.arguments) w = perform (parts.flatMap Part.arguments) w := by
  have same : (options others).Perm (options parts) := reordered.filterMap _
  have asked := parse?_arguments (same.nodup_iff.2 once) ordered
  rw [command_perm once reordered] at asked
  refine ⟨asked, ?_⟩
  unfold perform
  rw [asked, parse?_arguments once paths]

/-- The value of an option can be the same as a path, wherever it stands. -/
theorem perform_reordered_among_paths :
    let w : Workspace := ⟨Folder.empty, Utf8.encode "10 a:b".toList, []⟩
    let report := perform
      ["-".toList, "--split-lines".toList, "-f".toList, "json".toList, "json".toList, "-v".toList] w
    perform
        ["-v".toList, "-f".toList, "json".toList, "-".toList, "json".toList, "--split-lines".toList]
        w = report ∧ report.code = 0 := by
  intro w report
  let standard : Part := .path ['-'] (Or.inl rfl)
  let file : Part := .path "json".toList (Or.inr (by decide))
  let format : Part := .setting .format .shortApart "json".toList (by decide) (by decide)
  have reordered : [.shortVerbose, format, standard, file, .switch .splitLines].Perm
      [standard, .switch .splitLines, format, file, .shortVerbose] := by
    decide +kernel
  exact ⟨(perform_reordered (by decide) rfl reordered rfl w).2, by decide +kernel⟩

end Listing.Request
