import Rulebook.RuleTree
import Rulebook.Proofs.Json.Members
import Rulebook.Proofs.Depth

/-!
# Rule trees by recursion

The defects of a rule tree as a recursion on the tree would report them, without a stack. A rule
beyond the bound is one defect, wherever it is met; a combination reports its fields in the order
of their table, each with the defects of the rules it holds; a leaf reports its own fields. The
recursion is on the size of the rule, and `ruleDefects_eq` is the one equation that proofs use.

The file also says which rules a rule combines, how deep the deepest rule of a tree lies, and that a
tree within the bound has no rule reported as too deep.
-/

set_option autoImplicit false

namespace Rulebook

/-- A value of a kind that is declared for its field has no defect. -/
theorem kindDefects_eq_nil {field : Text} {expected : List Kind} {actual : Kind} :
    kindDefects field expected actual = [] ↔ expected = [] ∨ actual ∈ expected := by
  unfold kindDefects
  split
  · next h => simp [h]
  · next h => simp [h]

namespace RuleTree

/-! ## The rules that a rule combines -/

/-- What a combination field holds is no larger than its value. -/
theorem size_le_of_mem_heldRules {value held : Json} (h : held ∈ heldRules value) :
    held.size ≤ value.size := by
  cases value with
  | arr items => exact Nat.le_of_lt (Json.size_lt_of_mem h)
  | _ => exact Nat.le_of_eq (congrArg Json.size (List.mem_singleton.mp h))

/-- What a rule holds in one of its fields is smaller than the rule. -/
theorem size_lt_of_held {node : Members} {name : Text} {value held : Json}
    (found : node.get? name = some value) (h : held ∈ heldRules value) :
    held.size < (Json.obj node).size :=
  Nat.lt_of_le_of_lt (size_le_of_mem_heldRules h) (Json.size_lt_of_get? found)

/-- What a combination field holds nests no deeper than its value. -/
theorem nesting_le_of_mem_heldRules {value held : Json} (h : held ∈ heldRules value) :
    held.nesting ≤ value.nesting := by
  cases value with
  | arr items => exact Nat.le_of_lt (Json.nesting_lt_of_mem h)
  | _ => exact Nat.le_of_eq (congrArg Json.nesting (List.mem_singleton.mp h))

/-- The rule that a value is, if it is an object. -/
def asRule? : Json → Option Members
  | .obj node => some node
  | _ => none

/-- The values that are rules are the objects. -/
theorem asRule?_eq_some {value : Json} {node : Members} :
    asRule? value = some node ↔ value = .obj node := by
  cases value <;> simp [asRule?]

/-- What a combination field of a right kind holds. -/
def heldIn (name : Text) (spec : FieldSpec) (node : Members) : List Json :=
  match node.get? name with
  | none => []
  | some value =>
    match kindDefects name spec.kinds value.kind with
    | [] => heldRules value
    | _ => []

/-- The rules that a rule combines, in the order of its fields. -/
def children (node : Members) : List Members :=
  combinationFields.flatMap fun (name, spec) => (heldIn name spec node).filterMap asRule?

/-- What is held in a field is found there. -/
theorem mem_heldIn {name : Text} {spec : FieldSpec} {node : Members} {held : Json} :
    held ∈ heldIn name spec node ↔
      ∃ value, node.get? name = some value ∧ kindDefects name spec.kinds value.kind = [] ∧
        held ∈ heldRules value := by
  unfold heldIn
  cases node.get? name with
  | none => simp
  | some value =>
    cases hk : kindDefects name spec.kinds value.kind <;> simp [hk]

/-- A rule combines another one if it holds it in a combination field of a right kind. -/
theorem mem_children {node child : Members} :
    child ∈ children node ↔
      ∃ name spec, (name, spec) ∈ combinationFields ∧ .obj child ∈ heldIn name spec node := by
  simp only [children, List.mem_flatMap, List.mem_filterMap, asRule?_eq_some, Prod.exists,
    exists_eq_right]

/-- A rule that another one combines is smaller. -/
theorem size_lt_of_mem_children {node child : Members} (h : child ∈ children node) :
    (Json.obj child).size < (Json.obj node).size := by
  obtain ⟨name, spec, -, held⟩ := mem_children.mp h
  obtain ⟨value, found, -, mem⟩ := mem_heldIn.mp held
  exact size_lt_of_held found mem

/-- A child is nested less deeply than its node. -/
theorem nesting_lt_of_mem_children {node child : Members} (h : child ∈ children node) :
    (Json.obj child).nesting < (Json.obj node).nesting := by
  obtain ⟨name, spec, -, held⟩ := mem_children.mp h
  obtain ⟨value, found, -, mem⟩ := mem_heldIn.mp held
  exact Nat.lt_of_le_of_lt (nesting_le_of_mem_heldRules mem) (Json.nesting_lt_of_get? found)

/-- Induction on rules: a property holds of every rule if it holds of each rule whose combined rules
all have it. -/
theorem node_induction {motive : Members → Prop}
    (step : ∀ node, (∀ child ∈ children node, motive child) → motive node) (node : Members) :
    motive node := by
  induction hn : (Json.obj node).size using Nat.strongRecOn generalizing node with
  | ind size ih =>
    apply step
    intro child h
    have lt := size_lt_of_mem_children h
    exact ih _ (hn ▸ lt) child rfl

/-! ## Depth -/

/-- The depth of the deepest rule in a tree whose root lies at a given depth. -/
def deepest (depth : Nat) (node : Members) : Nat :=
  ((children node).attach.map fun ⟨child, _⟩ => deepest (depth + 1) child).foldr max depth
termination_by (Json.obj node).size
decreasing_by exact size_lt_of_mem_children ‹_›

/-- The greatest of several depths and a given one is admitted exactly if all of them are. -/
theorem admits_foldr_max {bound : DepthBound} {depth : Nat} {depths : List Nat} :
    bound.Admits (depths.foldr max depth) ↔
      bound.Admits depth ∧ ∀ other ∈ depths, bound.Admits other := by
  induction depths with
  | nil => simp
  | cons first rest ih =>
    have max_iff {a b : Nat} : bound.Admits (max a b) ↔ bound.Admits a ∧ bound.Admits b := by
      refine ⟨fun h => ⟨h.mono (Nat.le_max_left a b), h.mono (Nat.le_max_right a b)⟩, ?_⟩
      rintro ⟨ha, hb⟩
      rcases Nat.le_total a b with le | le
      · rwa [Nat.max_eq_right le]
      · rwa [Nat.max_eq_left le]
    rw [List.foldr_cons, max_iff, ih, List.forall_mem_cons]
    exact and_left_comm

/-- A tree is within a bound exactly if its root is and the trees that the root combines are. -/
theorem admits_deepest {bound : DepthBound} {depth : Nat} {node : Members} :
    bound.Admits (deepest depth node) ↔
      bound.Admits depth ∧ ∀ child ∈ children node, bound.Admits (deepest (depth + 1) child) := by
  rw [deepest, admits_foldr_max]
  simp only [List.mem_map, List.mem_attach, true_and, Subtype.exists]
  constructor
  · rintro ⟨root, below⟩
    exact ⟨root, fun child h => below _ ⟨child, h, rfl⟩⟩
  · rintro ⟨root, below⟩
    refine ⟨root, ?_⟩
    rintro _ ⟨child, h, rfl⟩
    exact below child h

/-- A tree is within a bound that admits as many levels as its root nests. -/
theorem admits_deepest_of_nesting {bound : DepthBound} {depth : Nat} {node : Members}
    (h : bound.Admits (depth + (Json.obj node).nesting)) : bound.Admits (deepest depth node) := by
  induction node using node_induction generalizing depth with
  | step node ih =>
    refine admits_deepest.mpr ⟨h.mono (Nat.le_add_right _ _), ?_⟩
    intro child combined
    have := nesting_lt_of_mem_children combined
    exact ih child combined (h.mono (by omega))

/-! ## Defects -/

/-- The defects of a value that a combination field holds, those of a rule being given. -/
def heldDefects (rule : Members → List Defect) (name : Text) : Json → List Defect
  | .obj child => rule child
  | value => kindDefects name [.object] value.kind

/-- The defects of a combination field of a rule, those of the rules it holds being given: a value
of a wrong kind is one defect, and what a value of a right kind holds is reported in place. -/
def combinationDefects (rule : Members → List Defect) (name : Text) (spec : FieldSpec)
    (node : Members) : List Defect :=
  match node.get? name with
  | none => []
  | some value =>
    match kindDefects name spec.kinds value.kind with
    | [] => (heldRules value).flatMap (heldDefects rule name)
    | defects => defects

/-- The defects of a rule at a depth, by recursion: a rule beyond the bound is one defect, a
combination has the defects of its fields in the order `if`, `then`, `and`, `or`, and a leaf has
those of its condition and then those of its property. -/
def ruleDefects (bound : DepthBound) (depth : Nat) (node : Members) : List Defect :=
  if bound.isExceededBy depth then [.tooDeep bound]
  else if isCombination node then
    combinationFields.flatMap fun (name, spec) =>
      match _found : node.get? name with
      | none => []
      | some value =>
        match kindDefects name spec.kinds value.kind with
        | [] => (heldRules value).attach.flatMap fun held =>
          match _rule : held.val with
          | .obj child => ruleDefects bound (depth + 1) child
          | other => kindDefects name [.object] other.kind
        | defects => defects
  else (leafParts node).flatten
termination_by (Json.obj node).size
decreasing_by exact size_lt_of_held _found (_rule ▸ held.property)

/-- The recursion in one equation. -/
theorem ruleDefects_eq (bound : DepthBound) (depth : Nat) (node : Members) :
    ruleDefects bound depth node =
      if bound.isExceededBy depth then [.tooDeep bound]
      else if isCombination node then
        combinationFields.flatMap fun (name, spec) =>
          combinationDefects (ruleDefects bound (depth + 1)) name spec node
      else (leafParts node).flatten := by
  rw [ruleDefects]
  congr 3
  funext ⟨name, spec⟩
  dsimp only
  unfold combinationDefects
  split
  · next absent => rw [absent]
  · next value found =>
    rw [found]
    dsimp only
    cases kindDefects name spec.kinds value.kind with
    | cons defect more => rfl
    | nil =>
      dsimp only
      rw [List.flatMap_subtype (g := heldDefects (ruleDefects bound (depth + 1)) name),
        List.unattach_attach]
      intro held h
      cases held <;> rfl

/-- What a combination field reports is the wrong kind of a value or a defect of a rule that it
holds. -/
theorem mem_combinationDefects {rule : Members → List Defect} {name : Text} {spec : FieldSpec}
    {node : Members} {defect : Defect} (h : defect ∈ combinationDefects rule name spec node) :
    (∃ expected actual, defect = .wrongKind name expected actual) ∨
      ∃ child, .obj child ∈ heldIn name spec node ∧ defect ∈ rule child := by
  have wrong {expected : List Kind} {actual : Kind}
      (h : defect ∈ kindDefects name expected actual) :
      ∃ expected actual, defect = .wrongKind name expected actual := by
    unfold kindDefects at h
    split at h
    · cases h
    · exact ⟨_, _, List.mem_singleton.mp h⟩
  unfold combinationDefects at h
  cases found : node.get? name with
  | none => simp [found] at h
  | some value =>
    rw [found] at h
    dsimp only at h
    cases hk : kindDefects name spec.kinds value.kind with
    | cons first more =>
      rw [hk] at h
      dsimp only at h
      rw [← hk] at h
      exact Or.inl (wrong h)
    | nil =>
      rw [hk] at h
      obtain ⟨held, mem, h⟩ := List.mem_flatMap.mp h
      cases held with
      | obj child => exact Or.inr ⟨child, mem_heldIn.mpr ⟨value, found, hk, mem⟩, h⟩
      | _ => exact Or.inl (wrong h)

/-! ## Rules that are too deep -/

/-- The kind of a value is no matter of depth. -/
theorem tooDeep_not_mem_kindDefects {bound : DepthBound} {field : Text} {expected : List Kind}
    {actual : Kind} : .tooDeep bound ∉ kindDefects field expected actual := by
  unfold kindDefects
  split <;> simp

/-- A condition is no matter of depth. -/
theorem tooDeep_not_mem_conditionDefects {bound : DepthBound} {node : Members} :
    .tooDeep bound ∉ conditionDefects node := by
  unfold conditionDefects
  split
  · split
    · rw [List.mem_flatMap]
      rintro ⟨field, -, h⟩
      unfold additionalDefects at h
      dsimp only at h
      split at h
      · split at h <;> simp at h
      · exact tooDeep_not_mem_kindDefects h
    · simp
  · simp
  · simp

/-- A leaf is no matter of depth. -/
theorem tooDeep_not_mem_leafParts {bound : DepthBound} {node : Members} :
    ∀ part ∈ leafParts node, .tooDeep bound ∉ part := by
  intro part h
  obtain ⟨⟨name, spec⟩, field, rfl⟩ := List.mem_map.mp h
  dsimp only
  have shallow (value : Json) : .tooDeep bound ∉ shallowCheck node spec.check value := by
    simp only [ruleFields, List.mem_cons, Prod.mk.injEq, List.not_mem_nil, or_false] at field
    rcases field with ⟨-, rfl⟩ | ⟨-, rfl⟩
    · exact tooDeep_not_mem_conditionDefects
    · exact List.not_mem_nil
  unfold fieldDefects
  split
  · split <;> simp
  · split
    · exact shallow _
    · exact tooDeep_not_mem_kindDefects

/-- In a tree within the bound no rule is reported as too deep. -/
theorem tooDeep_not_mem_ruleDefects {bound : DepthBound} {depth : Nat} {node : Members}
    (h : bound.Admits (deepest depth node)) : .tooDeep bound ∉ ruleDefects bound depth node := by
  induction node using node_induction generalizing depth with
  | step node ih =>
    obtain ⟨root, below⟩ := admits_deepest.mp h
    rw [ruleDefects_eq, if_neg (by rw [root]; exact Bool.false_ne_true)]
    split
    · rw [List.mem_flatMap]
      rintro ⟨⟨name, spec⟩, field, mem⟩
      rcases mem_combinationDefects mem with ⟨expected, actual, h⟩ | ⟨child, held, h⟩
      · cases h
      · have combined : child ∈ children node := mem_children.mpr ⟨name, spec, field, held⟩
        exact ih child combined (below child combined) h
    · rw [List.mem_flatten]
      rintro ⟨part, mem, h⟩
      exact tooDeep_not_mem_leafParts part mem h

/-- Only the bound of the walk is reported as exceeded. -/
theorem eq_of_tooDeep_mem_ruleDefects {bound other : DepthBound} {depth : Nat} {node : Members}
    (h : .tooDeep other ∈ ruleDefects bound depth node) : other = bound := by
  induction node using node_induction generalizing depth with
  | step node ih =>
    rw [ruleDefects_eq] at h
    split at h
    · exact Defect.tooDeep.inj (List.mem_singleton.mp h)
    · split at h
      · obtain ⟨⟨name, spec⟩, field, mem⟩ := List.mem_flatMap.mp h
        rcases mem_combinationDefects mem with ⟨expected, actual, h⟩ | ⟨child, held, h⟩
        · cases h
        · exact ih child (mem_children.mpr ⟨name, spec, field, held⟩) h
      · obtain ⟨part, mem, h⟩ := List.mem_flatten.mp h
        exact absurd h (tooDeep_not_mem_leafParts part mem)

end RuleTree

end Rulebook
