import Listing.Proofs.Settings.Fields

/-!
# Layers one over the other

Each setting has a place of its own, a name in the table of a group. A layer that gives values to some
settings changes the places of these and no other, so that every setting can be followed by itself
through all layers: a value that is laid later takes the place of an earlier one, and what no layer
names stays as it is. Single values are laid behind all files, wherever they stand among the layers.

`Sets` says this of one step, from a tree to the next: it names, for every setting, the value that the
step gives to it, if any. Steps are put together by `Sets.trans`, where the later value counts.

Main statements: `sets_layPairs`, a file; `sets_layFiles` and `sets_layOverrides`, the layers;
`ofNode_layText_defaultText`, the defaults; and `load_of_proper`, the settings that come of all.
-/

namespace Listing

/-! ## The settings -/

/-- The values of a kind. -/
def Expected.Value : Expected → Type
  | .boolean => Bool
  | .string => Text

instance : (e : Expected) → DecidableEq e.Value
  | .boolean => inferInstanceAs (DecidableEq Bool)
  | .string => inferInstanceAs (DecidableEq Text)

/-- A value without parts, if it is of the kind. -/
def Expected.ofScalar? : (e : Expected) → Scalar → Option e.Value
  | .boolean, .boolean b => some b
  | .string, .string t => some t
  | _, _ => none

/-- A TOML value, if it is of the kind. -/
def Expected.ofToml? : (e : Expected) → Toml → Option e.Value
  | .boolean, .boolean b => some b
  | .string, .string t => some t
  | _, _ => none

/-- The entries of a TOML table. -/
def Toml.entries? : Toml → Option (Keyed Toml)
  | .table _ entries => some entries
  | _ => none

namespace Settings

/-- The settings by name. -/
inductive Key where
  | splitLines | addExplanations | separator | uppercase
  deriving DecidableEq, Repr

instance : Fintype Key where
  elems := {.splitLines, .addExplanations, .separator, .uppercase}
  complete k := by cases k <;> decide

instance : Fintype Group where
  elems := {.reformat, .render}
  complete g := by cases g <;> decide

namespace Key

/-- The group of a setting. -/
def group : Key → Group
  | .splitLines | .addExplanations => .reformat
  | .separator | .uppercase => .render

/-- The kind of value that a setting needs. -/
def expected : Key → Expected
  | .separator => .string
  | .splitLines | .addExplanations | .uppercase => .boolean

/-- The values of a setting. -/
abbrev Value (k : Key) : Type := k.expected.Value

/-- How a setting is read. -/
def field : (k : Key) → Field k.Value
  | .splitLines => Settings.splitLines
  | .addExplanations => Settings.addExplanations
  | .separator => Settings.separator
  | .uppercase => Settings.uppercase

/-- The place of a setting among those of its group. -/
def position : Key → Nat
  | .splitLines | .separator => 0
  | .addExplanations | .uppercase => 1

/-- The key path of a setting, as it is written. -/
def path (k : Key) : Text := k.group.key ++ '.' :: k.field.name

/-- The value of a setting. -/
def get (s : Settings) : (k : Key) → k.Value
  | .splitLines => s.reformat.splitLines
  | .addExplanations => s.reformat.addExplanations
  | .separator => s.render.separator
  | .uppercase => s.render.uppercase

end Key

theorem eq_of_get {s t : Settings} (same : ∀ k : Key, k.get s = k.get t) : s = t := by
  obtain ⟨⟨_, _⟩, ⟨_, _⟩⟩ := s
  obtain ⟨⟨_, _⟩, ⟨_, _⟩⟩ := t
  cases same .splitLines
  cases same .addExplanations
  cases same .separator
  cases same .uppercase
  rfl

/-! ## What layers say -/

/-- The value that a table gives to a setting of its group. -/
def Key.inTable? (k : Key) (entries : Keyed Toml) : Option k.Value :=
  (entries.filterMap fun e =>
    if e.1 = k.field.name then k.expected.ofToml? e.2 else none).getLast?

/-- The value that an entry of a document gives to a setting. -/
def Key.inEntry? (k : Key) (e : Text × Toml) : Option k.Value :=
  if e.1 = k.group.key then e.2.entries?.bind k.inTable? else none

/-- The value that a document gives to a setting. -/
def Key.inDocument? (k : Key) (document : Keyed Toml) : Option k.Value :=
  (document.filterMap k.inEntry?).getLast?

/-- Whether a table holds nothing but settings of a group, with values of the kinds they need. -/
def IsTableOf (group : Group) (entries : Keyed Toml) : Prop :=
  ∀ e ∈ entries, ∃ k : Key, k.group = group ∧ e.1 = k.field.name ∧
    (k.expected.ofToml? e.2).isSome = true

instance (group : Group) (entries : Keyed Toml) : Decidable (IsTableOf group entries) :=
  inferInstanceAs (Decidable (∀ e ∈ entries, ∃ k : Key, k.group = group ∧ e.1 = k.field.name ∧
    (k.expected.ofToml? e.2).isSome = true))

/-- Whether a document holds nothing but settings in the tables of their groups. -/
def IsDocument (document : Keyed Toml) : Prop :=
  ∀ e ∈ document, ∃ group : Group, e.1 = group.key ∧
    ∃ entries ∈ e.2.entries?, IsTableOf group entries

instance (document : Keyed Toml) : Decidable (IsDocument document) :=
  inferInstanceAs (Decidable (∀ e ∈ document, ∃ group : Group, e.1 = group.key ∧
    ∃ entries ∈ e.2.entries?, IsTableOf group entries))

/-- The document in the settings file at a path. -/
def documentAt? (folder : Folder) (path : Text) : Option (Keyed Toml) :=
  (findFile? folder path).bind fun file =>
    (Utf8.decode? file.2).bind fun t => (Toml.parse? t).bind Toml.entries?

/-- Whether a layer can be laid: a file that is there holds settings, and one that is not there is not
    required; a value is one for a setting, of the kind that it needs. -/
def Layer.IsProper (folder : Folder) : Layer → Prop
  | .file path isRequired => (isRequired = false ∧ findFile? folder path = none) ∨
      ∃ document ∈ documentAt? folder path, IsDocument document
  | .value key v => ∃ k : Key, key = k.path ∧ (k.expected.ofScalar? v).isSome = true

instance (folder : Folder) : DecidablePred (Layer.IsProper folder)
  | .file path isRequired => inferInstanceAs
      (Decidable ((isRequired = false ∧ findFile? folder path = none) ∨
        ∃ document ∈ documentAt? folder path, IsDocument document))
  | .value key v => inferInstanceAs
      (Decidable (∃ k : Key, key = k.path ∧ (k.expected.ofScalar? v).isSome = true))

/-- The value that a layer gives to a setting as a file. -/
def Layer.filed? (folder : Folder) (k : Key) : Layer → Option k.Value
  | .file path _ => (documentAt? folder path).bind k.inDocument?
  | .value _ _ => none

/-- The value that a layer gives to a setting as a single value. -/
def Layer.override? (k : Key) : Layer → Option k.Value
  | .file _ _ => none
  | .value key v => if key = k.path then k.expected.ofScalar? v else none

theorem getLast?_filterMap_cons {α β : Type} (f : α → Option β) (a : α) (l : List α) :
    ((a :: l).filterMap f).getLast? = (l.filterMap f).getLast?.or (f a) := by
  cases here : f a with
  | none => simp [here]
  | some b =>
    rw [List.filterMap_cons_some here, List.getLast?_cons]
    cases (l.filterMap f).getLast? <;> rfl

/-! ## Places -/

/-- Whether a group holds a setting with the given value. -/
def Key.HasIn (k : Key) (node : Node) (a : k.Value) : Prop :=
  ∃ origin entries value, node = .table origin entries ∧
    Keyed.get? entries k.field.name = some value ∧ k.field.read value = .ok a

/-- Whether a tree holds a setting with the given value, in the table of its group. -/
def Key.Has (k : Key) (root : Node) (a : k.Value) : Prop :=
  ∃ node, root.child? k.group.key = some node ∧ k.HasIn node a

/-- The value to be found behind a step: the one that the step gives, or else what held before. -/
def Behind {α : Type} (given : Option α) (before : α → Prop) (a : α) : Prop :=
  given = some a ∨ given = none ∧ before a

namespace Behind

variable {α : Type} {given first second : Option α} {before next : α → Prop} {a : α}

theorem of_none (behind : Behind none before a) : before a := by
  rcases behind with here | ⟨-, held⟩
  · cases here
  · exact held

theorem eq_of_some {b : α} (behind : Behind (some b) before a) : b = a := by
  rcases behind with here | ⟨nothing, -⟩
  · exact Option.some.inj here
  · cases nothing

theorem mono (imp : ∀ a, before a → next a) (behind : Behind given before a) :
    Behind given next a :=
  behind.imp_right fun ⟨nothing, held⟩ => ⟨nothing, imp a held⟩

/-- Of two steps, the first is what held before the second. -/
theorem of_or (behind : Behind (second.or first) before a) :
    Behind second (Behind first before) a := by
  cases second with
  | none =>
    rw [Option.none_or] at behind
    exact Or.inr ⟨rfl, behind⟩
  | some b =>
    rw [Option.some_or] at behind
    exact Or.inl (congrArg some behind.eq_of_some)

theorem getD (held : before a) : Behind given before (given.getD a) := by
  cases given with
  | none => exact Or.inr ⟨rfl, held⟩
  | some b => exact Or.inl rfl

end Behind

/-- A step from a tree to another that gives values to some settings and leaves the others alone. A
    setting that is given a value need not have had one. -/
def Sets (root next : Node) (given : (k : Key) → Option k.Value) : Prop :=
  ∀ (k : Key) (a : k.Value), Behind (given k) (k.Has root) a → k.Has next a

theorem Sets.refl (root : Node) : Sets root root fun _ => none := fun _ _ has => has.of_none

theorem Sets.trans {root mid next : Node} {first second : (k : Key) → Option k.Value}
    (before : Sets root mid first) (after : Sets mid next second) :
    Sets root next fun k => (second k).or (first k) :=
  fun k a has => after k a (has.of_or.mono (before k))

/-- Steps one after the other, each for an item of a list. The last item that gives a value to a
    setting counts. -/
theorem Sets.cons {α : Type} {root mid next : Node} {f : (k : Key) → α → Option k.Value} {x : α}
    {items : List α} (first : Sets root mid fun k => f k x)
    (others : Sets mid next fun k => (items.filterMap (f k)).getLast?) :
    Sets root next fun k => ((x :: items).filterMap (f k)).getLast? := by
  have last : (fun k => ((x :: items).filterMap (f k)).getLast?) =
      fun k => (items.filterMap (f k)).getLast?.or (f k x) :=
    funext fun k => getLast?_filterMap_cons (f k) x items
  rw [last]
  exact first.trans others

/-! ## Names and values -/

theorem lowercase_name (k : Key) : Text.lowercase k.field.name = k.field.name := by
  cases k <;> decide +kernel

theorem lowercase_key (group : Group) : Text.lowercase group.key = group.key := by
  cases group <;> decide +kernel

theorem parse?_path (k : Key) :
    KeyPath.parse? k.path = some [.child k.group.key, .child k.field.name] := by
  cases k <;> decide +kernel

theorem parse?_key (group : Group) : KeyPath.parse? group.key = some [.child group.key] := by
  cases group <;> decide +kernel

/-- No two settings of a group have one name. -/
theorem eq_of_name {k l : Key} (group : k.group = l.group) (name : k.field.name = l.field.name) :
    k = l := by
  have table : ∀ k l : Key, k.group = l.group → k.field.name = l.field.name → k = l := by
    decide +kernel
  exact table k l group name

theorem path_injective {k l : Key} (same : k.path = l.path) : k = l := by
  have table : ∀ k l : Key, k.path = l.path → k = l := by
    decide +kernel
  exact table k l same

theorem read_of_ofScalar? {k : Key} {v : Scalar} {a : k.Value}
    (right : k.expected.ofScalar? v = some a) (origin : Option Text) :
    k.field.read (.scalar origin v) = .ok a := by
  cases k <;> cases v <;> cases right <;> rfl

/-- A TOML value of a kind that a setting needs is a value without parts. -/
theorem exists_of_ofToml? {e : Expected} {v : Toml} {a : e.Value} (right : e.ofToml? v = some a) :
    ∃ x, e.ofScalar? x = some a ∧ ∀ origin, Node.ofToml origin v = .scalar origin x := by
  cases e with
  | boolean =>
    cases v with
    | boolean b => exact ⟨.boolean b, right, fun _ => rfl⟩
    | _ => cases right
  | string =>
    cases v with
    | string t => exact ⟨.string t, right, fun _ => rfl⟩
    | _ => cases right

/-! ## One step -/

section Group

variable {k : Key} {node value : Node} {a : k.Value}

theorem Key.HasIn.withChild_self (reads : k.field.read value = .ok a) :
    k.HasIn (node.withChild k.field.name value) a := by
  cases node with
  | table origin entries =>
    exact ⟨origin, _, value, rfl, by rw [Keyed.get?_put, if_pos rfl], reads⟩
  | scalar origin old => exact ⟨none, _, value, rfl, if_pos rfl, reads⟩
  | array origin items => exact ⟨none, _, value, rfl, if_pos rfl, reads⟩

theorem Key.HasIn.withChild_of_ne {name : Text} (has : k.HasIn node a)
    (other : name ≠ k.field.name) : k.HasIn (node.withChild name value) a := by
  obtain ⟨origin, entries, old, rfl, found, reads⟩ := has
  exact ⟨origin, _, old, rfl, by rwa [Keyed.get?_put, if_neg other], reads⟩

/-- The entries of a table are laid over a group one by one. -/
theorem Key.HasIn.assignAll {entries : Keyed Toml} (table : IsTableOf k.group entries)
    (has : Behind (k.inTable? entries) (k.HasIn node) a) (origin : Option Text) :
    k.HasIn (node.assignAll (Node.ofTomlEntries origin entries)) a := by
  induction entries generalizing node with
  | nil => exact has.of_none
  | cons e entries ih =>
    obtain ⟨name, v⟩ := e
    obtain ⟨⟨l, group, named, right⟩, others⟩ := List.forall_mem_cons.1 table
    dsimp only at named right
    subst named
    obtain ⟨b, right⟩ := Option.isSome_iff_exists.1 right
    obtain ⟨x, scalar, laid⟩ := exists_of_ofToml? right
    rw [Key.inTable?, getLast?_filterMap_cons] at has
    rw [Node.ofTomlEntries, Node.assignAll, laid, Node.assign, lowercase_name]
    apply ih others
    refine has.of_or.mono ?_
    dsimp only
    by_cases same : l = k
    · subst same
      rw [if_pos rfl, right]
      intro _ has
      cases has.eq_of_some
      exact .withChild_self (read_of_ofScalar? scalar origin)
    · have other : l.field.name ≠ k.field.name := fun name => same (eq_of_name group name)
      rw [if_neg other]
      intro _ has
      exact has.of_none.withChild_of_ne other

end Group

/-- A step that changes one group changes the settings of that group. -/
theorem sets_of_group {root default : Node} {group : Group} {given : (k : Key) → Option k.Value}
    (change : Node → Node)
    (inside : ∀ (k : Key) (a : k.Value) node, k.group = group →
      Behind (given k) (k.HasIn node) a → k.HasIn (change node) a)
    (outside : ∀ k : Key, k.group ≠ group → given k = none) :
    Sets root (root.withChild group.key (change ((root.child? group.key).getD default))) given := by
  intro k a has
  unfold Key.Has
  rw [child?_withChild]
  by_cases here : k.group = group
  · subst here
    rw [if_pos rfl]
    refine ⟨_, rfl, inside k a _ rfl (has.mono ?_)⟩
    rintro b ⟨node, found, held⟩
    rw [found]
    exact held
  · rw [outside k here] at has
    rw [if_neg (fun same => here (key_injective same).symm)]
    exact has.of_none

/-- The table of a group is laid over a tree. -/
theorem sets_assign {group : Group} {entries : Keyed Toml} (table : IsTableOf group entries)
    (origin : Option Text) (root : Node) :
    Sets root (root.assign group.key (.table origin (Node.ofTomlEntries origin entries)))
      fun k => if group.key = k.group.key then k.inTable? entries else none := by
  rw [Node.assign, lowercase_key]
  apply sets_of_group fun node => node.assignAll (Node.ofTomlEntries origin entries)
  · rintro k a node rfl has
    rw [if_pos rfl] at has
    exact .assignAll table has origin
  · intro k other
    rw [if_neg (fun same => other (key_injective same).symm)]

/-- The pairs of a document are laid over a tree. -/
theorem sets_layPairs {document : Keyed Toml} (isDocument : IsDocument document) (origin : Text)
    (root : Node) : ∃ next, layPairs origin document root = .ok next ∧
      Sets root next fun k => k.inDocument? document := by
  induction document generalizing root with
  | nil => exact ⟨root, rfl, Sets.refl root⟩
  | cons e document ih =>
    obtain ⟨key, v⟩ := e
    obtain ⟨⟨group, named, entries, here, table⟩, others⟩ := List.forall_mem_cons.1 isDocument
    dsimp only at named here
    subst named
    cases v with
    | table form inner =>
      cases here
      obtain ⟨next, laid, sets⟩ := ih others
        (root.assign group.key (.table (some origin) (Node.ofTomlEntries (some origin) entries)))
      refine ⟨next, ?_, ?_⟩
      · rw [layPairs, parse?_key]
        exact laid
      · exact .cons (f := Key.inEntry?) (sets_assign table (some origin) root) sets
    | _ => cases here

/-! ## Layers -/

section Layers

variable {folder : Folder} {layers : List Layer}

/-- A text that is read as a document is laid pair by pair. -/
theorem layText_eq_layPairs {t : Text} {document : Keyed Toml}
    (reads : (Toml.parse? t).bind Toml.entries? = some document) (origin : Text) (root : Node) :
    layText origin t root = layPairs origin document root := by
  obtain ⟨v, parsed, entries⟩ := Option.bind_eq_some_iff.1 reads
  rw [layText, parsed]
  cases v with
  | table form inner =>
    cases entries
    rfl
  | _ => cases entries

/-- A file that is there is read as its document. -/
theorem exists_of_documentAt? {path : Text} {document : Keyed Toml}
    (there : documentAt? folder path = some document) :
    ∃ origin t, readFile folder path = .ok (origin, t) ∧
      (Toml.parse? t).bind Toml.entries? = some document := by
  unfold documentAt? at there
  obtain ⟨⟨origin, bytes⟩, found, there⟩ := Option.bind_eq_some_iff.1 there
  obtain ⟨t, decoded, reads⟩ := Option.bind_eq_some_iff.1 there
  refine ⟨origin, t, ?_, reads⟩
  unfold readFile
  rw [found]
  dsimp only at decoded ⊢
  rw [decoded]

theorem sets_layFiles (proper : ∀ layer ∈ layers, layer.IsProper folder) (root : Node) :
    ∃ next, layFiles folder layers root = .ok next ∧
      Sets root next fun k => (layers.filterMap (Layer.filed? folder k)).getLast? := by
  induction layers generalizing root with
  | nil => exact ⟨root, rfl, Sets.refl root⟩
  | cons layer layers ih =>
    obtain ⟨here, others⟩ := List.forall_mem_cons.1 proper
    cases layer with
    | value key v =>
      obtain ⟨next, laid, sets⟩ := ih others root
      exact ⟨next, laid, .cons (Sets.refl root) sets⟩
    | file path isRequired =>
      rcases here with ⟨optional, absent⟩ | ⟨document, there, isDocument⟩
      · obtain ⟨next, laid, sets⟩ := ih others root
        refine ⟨next, ?_, .cons ?_ sets⟩
        · rw [layFiles, readFile, absent, optional]
          exact laid
        · have nothing : documentAt? folder path = none := by
            rw [documentAt?, absent, Option.bind_none]
          simp only [Layer.filed?, nothing, Option.bind_none]
          exact Sets.refl root
      · rw [Option.mem_def] at there
        obtain ⟨origin, t, found, reads⟩ := exists_of_documentAt? there
        obtain ⟨mid, first, before⟩ := sets_layPairs isDocument origin root
        obtain ⟨next, laid, sets⟩ := ih others mid
        refine ⟨next, ?_, .cons ?_ sets⟩
        · rw [layFiles, found]
          dsimp only
          rw [layText_eq_layPairs reads, first]
          exact laid
        · simp only [Layer.filed?, there, Option.bind_some]
          exact before

/-- A single value for a setting is laid over a tree. -/
theorem sets_setAt? {l : Key} {v : Scalar} (right : (l.expected.ofScalar? v).isSome = true)
    (root : Node) :
    ∃ next, root.setAt? [.child l.group.key, .child l.field.name] (.scalar none v) = some next ∧
      Sets root next fun k => if l.path = k.path then k.expected.ofScalar? v else none := by
  refine ⟨_, setAt?_eq_some (lowercase_name l) root v, ?_⟩
  apply sets_of_group fun node => node.withChild l.field.name (.scalar none v)
  · intro k a node group has
    by_cases same : l = k
    · subst same
      obtain ⟨b, right⟩ := Option.isSome_iff_exists.1 right
      rw [if_pos rfl, right] at has
      cases has.eq_of_some
      exact .withChild_self (read_of_ofScalar? right none)
    · rw [if_neg (fun paths => same (path_injective paths))] at has
      exact has.of_none.withChild_of_ne fun name => same (eq_of_name group.symm name)
  · intro k other
    rw [if_neg]
    intro paths
    exact other (by rw [path_injective paths])

theorem sets_layOverrides (proper : ∀ layer ∈ layers, layer.IsProper folder) :
    ∃ values, overrides layers = .ok values ∧ ∀ root, ∃ next,
      layOverrides values root = .ok next ∧
        Sets root next fun k => (layers.filterMap (Layer.override? k)).getLast? := by
  induction layers with
  | nil => exact ⟨[], rfl, fun root => ⟨root, rfl, Sets.refl root⟩⟩
  | cons layer layers ih =>
    obtain ⟨here, others⟩ := List.forall_mem_cons.1 proper
    obtain ⟨values, read, lay⟩ := ih others
    cases layer with
    | file path isRequired =>
      refine ⟨values, read, fun root => ?_⟩
      obtain ⟨next, laid, sets⟩ := lay root
      exact ⟨next, laid, .cons (Sets.refl root) sets⟩
    | value key v =>
      obtain ⟨l, rfl, right⟩ := here
      refine ⟨⟨[.child l.group.key, .child l.field.name], v⟩ :: values, ?_, fun root => ?_⟩
      · rw [overrides, parse?_path, read]
        rfl
      · obtain ⟨mid, first, before⟩ := sets_setAt? right root
        obtain ⟨next, laid, sets⟩ := lay mid
        refine ⟨next, ?_, .cons before sets⟩
        rw [layOverrides, first]
        exact laid

end Layers

/-! ## The settings of all layers -/

theorem has_default (k : Key) : k.Has default.toNode (k.get default) := by
  cases k <;> exact ⟨_, rfl, _, _, _, rfl, rfl, rfl⟩

theorem value?_of_has {k : Key} {root : Node} {a : k.Value} (has : k.Has root a) :
    k.field.value? k.group k.position root = some a := by
  obtain ⟨node, found, origin, entries, value, rfl, there, reads⟩ := has
  rw [Field.value?, found, Option.bind_some, Field.valueIn?, there, Option.bind_some,
    toOption_eq_some_iff, reads]

/-- A tree that holds every setting holds settings. -/
theorem exists_ofNode {root : Node} {values : (k : Key) → k.Value}
    (has : ∀ k : Key, k.Has root (values k)) :
    ∃ s, ofNode root = .ok s ∧ ∀ k : Key, k.get s = values k := by
  refine ⟨⟨⟨values .splitLines, values .addExplanations⟩, ⟨values .separator, values .uppercase⟩⟩,
    ofNode_eq_ok_iff.2 ⟨?_, ?_, ?_, ?_⟩, ?_⟩
  · exact value?_of_has (has .splitLines)
  · exact value?_of_has (has .addExplanations)
  · exact value?_of_has (has .separator)
  · exact value?_of_has (has .uppercase)
  · intro k
    cases k <;> rfl

/-- The file that comes with the program names every setting, each with its default. -/
theorem exists_defaultText : ∃ document ∈ (Toml.parse? defaultText).bind Toml.entries?,
    IsDocument document ∧ ∀ k : Key, k.inDocument? document = some (k.get default) := by
  decide +kernel

/-- Whatever it is laid over, that file makes up the defaults. -/
theorem ofNode_layText_defaultText (origin : Text) (root : Node) :
    ∃ next, layText origin defaultText root = .ok next ∧ ofNode next = .ok default := by
  obtain ⟨document, reads, isDocument, defaults⟩ := exists_defaultText
  obtain ⟨next, laid, sets⟩ := sets_layPairs isDocument origin root
  obtain ⟨s, settings, each⟩ :=
    exists_ofNode fun k => sets k (k.get default) (Or.inl (defaults k))
  refine ⟨next, ?_, ?_⟩
  · rw [layText_eq_layPairs reads, laid]
  · rw [settings, eq_of_get each]

/-- Layers that can be laid make up settings. Each setting has the last of the single values that are
    given to it, or else the value of the last file that has one, or else its default. -/
theorem load_of_proper {folder : Folder} {layers : List Layer}
    (proper : ∀ layer ∈ layers, layer.IsProper folder) :
    ∃ s, load folder layers = .ok s ∧ ∀ k : Key, k.get s =
      ((layers.filterMap (Layer.override? k)).getLast?.or
        (layers.filterMap (Layer.filed? folder k)).getLast?).getD (k.get default) := by
  obtain ⟨values, read, lay⟩ := sets_layOverrides proper
  obtain ⟨mid, files, filed⟩ := sets_layFiles proper default.toNode
  obtain ⟨root, laid, sets⟩ := lay mid
  obtain ⟨s, settings, each⟩ :=
    exists_ofNode fun k => filed.trans sets k _ (.getD (has_default k))
  refine ⟨s, ?_, each⟩
  unfold load
  simp only [bind_eq_ok_iff]
  exact ⟨values, read, mid, files, root, laid, settings⟩

/-- A single value in front of all files is stronger than they are. A file that is not there says
    nothing, one file says nothing about what only the other names, and what no layer names is left
    to its default. -/
theorem load_of_proper_partial_files :
    let file := fun text : String => Entry.file (Utf8.encode text.toList)
    let folder := (Folder.empty.place "etc/a.toml".toList (file
        "[reformat]\nsplit_lines=true\nadd_explanations=true\n[render]\nstatement_separator='x'")).place
      "b.toml".toList (file "render.statement_separator=' : '")
    load folder [.value "reformat.add_explanations".toList (.boolean false),
        .file "etc/a.toml".toList true, .file "c".toList false, .file "b".toList true] =
      .ok ⟨⟨true, false⟩, ⟨" : ".toList, false⟩⟩ ∧
    load folder [.value "render.uppercase_keywords".toList (.boolean true),
        .file "c".toList false] = .ok ⟨⟨false, false⟩, ⟨":".toList, true⟩⟩ := by
  intro file folder
  have loads : ∀ {layers : List Layer} {s : Settings},
      (∀ layer ∈ layers, layer.IsProper folder) →
      (∀ k : Key, ((layers.filterMap (Layer.override? k)).getLast?.or
        (layers.filterMap (Layer.filed? folder k)).getLast?).getD (k.get default) = k.get s) →
      load folder layers = .ok s := by
    intro layers s proper values
    obtain ⟨t, loaded, each⟩ := load_of_proper proper
    rw [loaded, eq_of_get fun k => (each k).trans (values k)]
  constructor
  · exact loads (by decide +kernel) (by decide +kernel)
  · exact loads (by decide +kernel) (by decide +kernel)

end Settings

end Listing
