import Rulebook.Proofs.RuleTree.Walk

/-!
# Rule trees under two bounds

Two bounds prune a tree at different levels. What the recursion reports under the narrower bound is,
the depth defect aside, a part of what it reports under the wider one, in the same order: `pruned`
takes the depth defect out, and `pruned_ruleDefects_sublist` compares what is left, by induction on
the rule. A tree that lies within both bounds is reported alike under both.

`LiesAt` says which rules are in a tree and at which depth. The depth defect is reported exactly if
one of them lies beyond the bound.
-/

set_option autoImplicit false

namespace Rulebook

/-- Parts that grow in place make a list that grows. -/
theorem flatMap_sublist_flatMap {α β : Type} {l : List α} {f g : α → List β}
    (h : ∀ a ∈ l, (f a).Sublist (g a)) : (l.flatMap f).Sublist (l.flatMap g) := by
  induction l with
  | nil => exact List.Sublist.refl _
  | cons a rest ih =>
    rw [List.forall_mem_cons] at h
    rw [List.flatMap_cons, List.flatMap_cons]
    exact h.1.append (ih h.2)

section KeepFirst

variable {α : Type} [DecidableEq α] {a : α} {l : List α}

/-- Keeping the first of an item keeps all others. -/
theorem filter_keepFirst : (keepFirst a l).filter (· ≠ a) = l.filter (· ≠ a) := by
  induction l with
  | nil => rfl
  | cons b rest ih =>
    rw [keepFirst]
    split
    · next same => simp [same, List.filter_filter]
    · next other => simp only [List.filter_cons, ih]

/-- Keeping the first of an item adds nothing. -/
theorem mem_of_mem_keepFirst {b : α} (h : b ∈ keepFirst a l) : b ∈ l := by
  induction l with
  | nil => exact h
  | cons c rest ih =>
    rw [keepFirst] at h
    split at h
    · rcases List.mem_cons.mp h with rfl | later
      · exact List.mem_cons_self
      · exact List.mem_cons_of_mem _ (List.mem_of_mem_filter later)
    · rcases List.mem_cons.mp h with rfl | later
      · exact List.mem_cons_self
      · exact List.mem_cons_of_mem _ (ih later)

/-- Keeping the first of an item keeps it. -/
theorem mem_keepFirst : a ∈ keepFirst a l ↔ a ∈ l := by
  refine ⟨mem_of_mem_keepFirst, fun h => ?_⟩
  induction l with
  | nil => exact h
  | cons b rest ih =>
    rw [keepFirst]
    split
    · next same => simp [same]
    · next other =>
      rcases List.mem_cons.mp h with same | later
      · exact absurd same.symm other
      · exact List.mem_cons_of_mem _ (ih later)

/-- Keeping the first of an item leaves one at most. -/
theorem count_keepFirst_le_one : (keepFirst a l).count a ≤ 1 := by
  induction l with
  | nil => simp [keepFirst]
  | cons b rest ih =>
    rw [keepFirst]
    split
    · next same =>
      have none_left : (rest.filter (· ≠ a)).count a = 0 := by
        rw [List.count_eq_zero]
        simp
      rw [List.count_cons, none_left]
      split <;> omega
    · next other =>
      rw [List.count_cons_of_ne other]
      exact ih

end KeepFirst

namespace RuleTree

/-! ## Rules and their depths -/

/-- A rule lies in the tree under a root of a given depth: it is the root, or it lies in a tree that
the root combines, one level further down. -/
inductive LiesAt : Members → Nat → Members → Nat → Prop where
  | root {node : Members} {depth : Nat} : LiesAt node depth node depth
  | inside {node child rule : Members} {depth level : Nat} (combined : child ∈ children node)
      (lies : LiesAt child (depth + 1) rule level) : LiesAt node depth rule level

/-- A bound admits the deepest rule of a tree exactly if it admits every rule of the tree. -/
theorem admits_deepest_iff_liesAt {bound : DepthBound} {depth : Nat} {node : Members} :
    bound.Admits (deepest depth node) ↔
      ∀ rule level, LiesAt node depth rule level → bound.Admits level := by
  induction node using node_induction generalizing depth with
  | step node ih =>
    rw [admits_deepest]
    constructor
    · rintro ⟨root, below⟩ rule level lies
      cases lies with
      | root => exact root
      | inside combined lies => exact (ih _ combined).mp (below _ combined) rule level lies
    · intro all
      refine ⟨all node depth .root, fun child combined => ?_⟩
      exact (ih child combined).mpr fun rule level lies => all rule level (.inside combined lies)

/-! ## What a combination reports -/

/-- A rule within the bound reports its fields or, as a leaf, its parts. -/
theorem ruleDefects_of_admits {bound : DepthBound} {depth : Nat} {node : Members}
    (within : bound.Admits depth) :
    ruleDefects bound depth node =
      if isCombination node then
        combinationFields.flatMap fun field =>
          combinationDefects (ruleDefects bound (depth + 1)) field.1 field.2 node
      else (leafParts node).flatten := by
  rw [ruleDefects_eq, if_neg (by rw [within]; exact Bool.false_ne_true)]

/-- A rule beyond the bound is one defect. -/
theorem ruleDefects_of_not_admits {bound : DepthBound} {depth : Nat} {node : Members}
    (beyond : ¬ bound.Admits depth) : ruleDefects bound depth node = [.tooDeep bound] := by
  rw [ruleDefects_eq, if_pos (DepthBound.not_admits.mp beyond)]

/-- The defects in the kind of the value of a combination field. -/
def valueDefects (name : Text) (spec : FieldSpec) (node : Members) : List Defect :=
  match node.get? name with
  | none => []
  | some value => kindDefects name spec.kinds value.kind

/-- A combination field reports the kind of its value and then what the value holds. -/
theorem combinationDefects_eq {rule : Members → List Defect} {name : Text} {spec : FieldSpec}
    {node : Members} :
    combinationDefects rule name spec node =
      valueDefects name spec node ++ (heldIn name spec node).flatMap (heldDefects rule name) := by
  unfold combinationDefects valueDefects heldIn
  cases node.get? name with
  | none => rfl
  | some value =>
    dsimp only
    cases kinds : kindDefects name spec.kinds value.kind <;> simp

/-- A rule that combines another one is a combination. -/
theorem isCombination_of_mem_children {node child : Members} (h : child ∈ children node) :
    isCombination node = true := by
  obtain ⟨name, spec, field, held⟩ := mem_children.mp h
  obtain ⟨value, found, -, -⟩ := mem_heldIn.mp held
  exact List.any_eq_true.mpr ⟨(name, spec), field, Members.has_iff.mpr ⟨value, found⟩⟩

/-- What is reported of a value itself is no matter of depth. -/
theorem tooDeep_not_mem_valueDefects {bound : DepthBound} {name : Text} {spec : FieldSpec}
    {node : Members} : .tooDeep bound ∉ valueDefects name spec node := by
  unfold valueDefects
  split
  · exact List.not_mem_nil
  · exact tooDeep_not_mem_kindDefects

/-- A field reports the same if the same is reported of every rule that it holds. -/
theorem combinationDefects_congr {rule other : Members → List Defect} {name : Text}
    {spec : FieldSpec} {node : Members}
    (h : ∀ child, .obj child ∈ heldIn name spec node → rule child = other child) :
    combinationDefects rule name spec node = combinationDefects other name spec node := by
  rw [combinationDefects_eq, combinationDefects_eq]
  congr 1
  apply List.flatMap_congr
  intro held mem
  cases held with
  | obj child => exact h child mem
  | _ => rfl

/-! ## Pruned trees -/

/-- What is reported besides the depth. -/
def pruned (bound : DepthBound) (defects : List Defect) : List Defect :=
  defects.filter (· ≠ .tooDeep bound)

/-- Where the depth is not reported, everything is reported besides it. -/
theorem pruned_eq_self {bound : DepthBound} {defects : List Defect}
    (h : .tooDeep bound ∉ defects) : pruned bound defects = defects := by
  rw [pruned, List.filter_eq_self]
  intro defect mem
  exact decide_eq_true fun same => h (same ▸ mem)

/-- What two reports have besides the depth is what each of them has. -/
theorem pruned_append {bound : DepthBound} {defects more : List Defect} :
    pruned bound (defects ++ more) = pruned bound defects ++ pruned bound more :=
  List.filter_append ..

/-- What reports one after another have besides the depth is what each of them has. -/
theorem pruned_flatMap {α : Type} {bound : DepthBound} {parts : List α} {f : α → List Defect} :
    pruned bound (parts.flatMap f) = parts.flatMap fun part => pruned bound (f part) :=
  List.filter_flatMap

/-- What a field reports besides the depth grows with what is reported of the rules it holds. -/
theorem pruned_combinationDefects_sublist {bound wider : DepthBound}
    {rule other : Members → List Defect} {name : Text} {spec : FieldSpec} {node : Members}
    (h : ∀ child, .obj child ∈ heldIn name spec node →
      (pruned bound (rule child)).Sublist (pruned wider (other child))) :
    (pruned bound (combinationDefects rule name spec node)).Sublist
      (pruned wider (combinationDefects other name spec node)) := by
  have value (limit : DepthBound) :
      pruned limit (valueDefects name spec node) = valueDefects name spec node :=
    pruned_eq_self tooDeep_not_mem_valueDefects
  rw [combinationDefects_eq, combinationDefects_eq, pruned_append, pruned_append, value, value,
    pruned_flatMap, pruned_flatMap]
  apply List.Sublist.append_left
  apply flatMap_sublist_flatMap
  intro held mem
  cases held with
  | obj child => exact h child mem
  | _ =>
    simp only [heldDefects]
    rw [pruned_eq_self tooDeep_not_mem_kindDefects, pruned_eq_self tooDeep_not_mem_kindDefects]

/-- A wider bound reports no less besides the depth, and in the same order. -/
theorem pruned_ruleDefects_sublist {bound wider : DepthBound} (le : bound.AtMost wider)
    {depth : Nat} {node : Members} :
    (pruned bound (ruleDefects bound depth node)).Sublist
      (pruned wider (ruleDefects wider depth node)) := by
  induction node using node_induction generalizing depth with
  | step node ih =>
    by_cases within : bound.Admits depth
    · have wider_within : wider.Admits depth := le depth within
      rw [ruleDefects_of_admits within, ruleDefects_of_admits wider_within]
      split
      · rw [pruned_flatMap, pruned_flatMap]
        apply flatMap_sublist_flatMap
        rintro ⟨name, spec⟩ field
        apply pruned_combinationDefects_sublist
        intro child held
        exact ih child (mem_children.mpr ⟨name, spec, field, held⟩)
      · have leaf (limit : DepthBound) : .tooDeep limit ∉ (leafParts node).flatten := by
          rw [List.mem_flatten]
          rintro ⟨part, mem, h⟩
          exact tooDeep_not_mem_leafParts part mem h
        rw [pruned_eq_self (leaf bound), pruned_eq_self (leaf wider)]
    · have nothing_left : pruned bound [.tooDeep bound] = [] := by simp [pruned]
      rw [ruleDefects_of_not_admits within, nothing_left]
      exact List.nil_sublist _

/-! ## The depth defect -/

/-- The depth defect is reported exactly if the deepest rule lies beyond the bound. -/
theorem tooDeep_mem_ruleDefects_iff {bound : DepthBound} {depth : Nat} {node : Members} :
    .tooDeep bound ∈ ruleDefects bound depth node ↔ ¬ bound.Admits (deepest depth node) := by
  constructor
  · intro reported within
    exact tooDeep_not_mem_ruleDefects within reported
  · intro beyond
    induction node using node_induction generalizing depth with
    | step node ih =>
      by_cases within : bound.Admits depth
      · have some_child : ∃ child ∈ children node, ¬ bound.Admits (deepest (depth + 1) child) := by
          rw [admits_deepest] at beyond
          push Not at beyond
          exact beyond within
        obtain ⟨child, combined, deeper⟩ := some_child
        obtain ⟨name, spec, field, held⟩ := mem_children.mp combined
        rw [ruleDefects_of_admits within, if_pos (isCombination_of_mem_children combined),
          List.mem_flatMap]
        refine ⟨(name, spec), field, ?_⟩
        rw [combinationDefects_eq, List.mem_append, List.mem_flatMap]
        exact Or.inr ⟨.obj child, held, ih child combined deeper⟩
      · rw [ruleDefects_of_not_admits within]
        exact List.mem_singleton_self _

/-- Bounds that admit all rules of a tree have the same reported. -/
theorem ruleDefects_eq_of_admits {bound other : DepthBound} {depth : Nat} {node : Members}
    (within : bound.Admits (deepest depth node)) (within' : other.Admits (deepest depth node)) :
    ruleDefects bound depth node = ruleDefects other depth node := by
  induction node using node_induction generalizing depth with
  | step node ih =>
    obtain ⟨root, below⟩ := admits_deepest.mp within
    obtain ⟨root', below'⟩ := admits_deepest.mp within'
    rw [ruleDefects_of_admits root, ruleDefects_of_admits root']
    split
    · apply List.flatMap_congr
      rintro ⟨name, spec⟩ field
      apply combinationDefects_congr
      intro child held
      have combined : child ∈ children node := mem_children.mpr ⟨name, spec, field, held⟩
      exact ih child combined (below child combined) (below' child combined)
    · rfl

/-! ## Walks -/

/-- What is reported of a tree besides the depth only grows with the bound. -/
theorem pruned_nodeDefects_sublist {bound wider : DepthBound} (le : bound.AtMost wider)
    {node : Members} :
    (pruned bound (nodeDefects bound node)).Sublist (pruned wider (nodeDefects wider node)) := by
  rw [nodeDefects_eq_keepFirst, nodeDefects_eq_keepFirst, pruned, pruned, filter_keepFirst,
    filter_keepFirst]
  exact pruned_ruleDefects_sublist le

/-- The depth of a tree is reported exactly if its deepest node is beyond the bound. -/
theorem tooDeep_mem_nodeDefects_iff {bound : DepthBound} {node : Members} :
    .tooDeep bound ∈ nodeDefects bound node ↔ ¬ bound.Admits (deepest 1 node) := by
  rw [nodeDefects_eq_keepFirst, mem_keepFirst, tooDeep_mem_ruleDefects_iff]

/-- Under bounds that both admit a tree the same is reported of it. -/
theorem nodeDefects_eq_of_admits {bound other : DepthBound} {node : Members}
    (within : bound.Admits (deepest 1 node)) (within' : other.Admits (deepest 1 node)) :
    nodeDefects bound node = nodeDefects other node := by
  rw [nodeDefects_eq_keepFirst, nodeDefects_eq_keepFirst,
    keepFirst_of_not_mem (tooDeep_not_mem_ruleDefects within),
    keepFirst_of_not_mem (tooDeep_not_mem_ruleDefects within'),
    ruleDefects_eq_of_admits within within']

end RuleTree

end Rulebook
