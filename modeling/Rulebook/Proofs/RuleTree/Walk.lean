import Rulebook.Proofs.RuleTree.Recursion

/-!
# The walk and the recursion report the same

The walk over a rule tree keeps a stack of work and a mark that says whether a rule has been found
too deep. Two facts carry everything here, and both are about one step.

* **Outcome**: what a walk has found, followed by what its stack still owes, where what an item owes
  is said by the recursion. No step changes the outcome. The mark decides how repetitions of the
  depth defect are left out: all of them once it is set, all but the first before.
* **Weight**: three for each value below a rule that is still to be taken up and one for each report.
  Every step makes it smaller, so a walk ends within three times the size of its root.

At the start the outcome is the recursion on the root without repetitions of the depth defect, and at
the end it is what has been found.
-/

set_option autoImplicit false

namespace Rulebook

/-! ## Lists without repetitions of one element -/

/-- A list without the occurrences of an element behind its first. -/
def keepFirst {α : Type} [DecidableEq α] (a : α) : List α → List α
  | [] => []
  | b :: rest => if b = a then b :: rest.filter (· ≠ a) else b :: keepFirst a rest

/-- The first element of a list is never left out. -/
theorem keepFirst_eq_nil {α : Type} [DecidableEq α] {a : α} {l : List α} :
    keepFirst a l = [] ↔ l = [] := by
  cases l with
  | nil => simp [keepFirst]
  | cons b rest =>
    rw [keepFirst]
    split <;> simp

/-- A list that does not hold the element stays as it is. -/
theorem keepFirst_of_not_mem {α : Type} [DecidableEq α] {a : α} {l : List α} (h : a ∉ l) :
    keepFirst a l = l := by
  induction l with
  | nil => rfl
  | cons b rest ih =>
    rw [List.mem_cons, not_or] at h
    rw [keepFirst, if_neg (Ne.symm h.1), ih h.2]

/-- A beginning that does not hold the element stays as it is. -/
theorem keepFirst_append {α : Type} [DecidableEq α] {a : α} {l more : List α} (h : a ∉ l) :
    keepFirst a (l ++ more) = l ++ keepFirst a more := by
  induction l with
  | nil => rfl
  | cons b rest ih =>
    rw [List.mem_cons, not_or] at h
    rw [List.cons_append, keepFirst, if_neg (Ne.symm h.1), ih h.2, List.cons_append]

/-- Leaving out repetitions of an element leaves out those of its image, if no other element has the
same image. -/
theorem map_keepFirst {α β : Type} [DecidableEq α] [DecidableEq β] {f : α → β} {a : α} {l : List α}
    (h : ∀ b ∈ l, f b = f a → b = a) : (keepFirst a l).map f = keepFirst (f a) (l.map f) := by
  induction l with
  | nil => rfl
  | cons b rest ih =>
    rw [List.forall_mem_cons] at h
    rw [List.map_cons, keepFirst, keepFirst]
    by_cases same : b = a
    · rw [if_pos same, if_pos (congrArg f same), List.map_cons, List.filter_map]
      congr 2
      apply List.filter_congr
      intro c mem
      have : f c = f a ↔ c = a := ⟨h.2 c mem, congrArg f⟩
      simp [this]
    · rw [if_neg same, if_neg fun image => same (h.1 image), List.map_cons, ih h.2]

namespace RuleTree

/-! ## What an item owes -/

namespace Item

/-- What a piece of work will report, by recursion. -/
def owed (bound : DepthBound) : Item → List Defect
  | .report defects => defects
  | .visit node depth => ruleDefects bound depth node

/-- Whether the defects that a piece of work holds ready are no matter of depth. -/
def IsPlain (bound : DepthBound) : Item → Prop
  | .report defects => .tooDeep bound ∉ defects
  | .visit _ _ => True

/-- How many steps a piece of work may take at most. -/
def weight : Item → Nat
  | .report _ => 1
  | .visit node _ => 3 * (Json.obj node).size

/-- Every piece of work takes a step. -/
theorem one_le_weight (item : Item) : 1 ≤ item.weight := by
  cases item with
  | report defects => exact Nat.le_refl 1
  | visit node depth =>
    have := Json.one_le_size (.obj node)
    simp only [weight]
    omega

end Item

/-- What is held makes work that owes what the recursion reports for it. -/
theorem owed_heldItem (bound : DepthBound) (name : Text) (depth : Nat) (held : Json) :
    (heldItem name depth held).owed bound =
      heldDefects (ruleDefects bound (depth + 1)) name held := by
  cases held <;> rfl

/-- The work that a rule within the bound makes owes what the recursion reports for the rule. -/
theorem owed_expand {bound : DepthBound} {depth : Nat} (node : Members) (h : bound.Admits depth) :
    (expand node depth).flatMap (Item.owed bound) = ruleDefects bound depth node := by
  rw [ruleDefects_eq, if_neg (by rw [h]; exact Bool.false_ne_true)]
  unfold expand
  split
  · rw [List.flatMap_assoc]
    congr 1
    funext ⟨name, spec⟩
    dsimp only
    unfold combinationDefects
    cases node.get? name with
    | none => rfl
    | some value =>
      dsimp only
      unfold combinationItems
      cases kindDefects name spec.kinds value.kind with
      | cons defect more => simp [Item.owed]
      | nil =>
        dsimp only
        rw [List.flatMap_map]
        exact congrArg (List.flatMap · _) (funext (owed_heldItem bound name depth))
  · rw [List.flatMap_map, List.flatten_eq_flatMap]
    rfl

/-- The work that a combination field makes holds no depth defect ready. -/
theorem isPlain_combinationItems {bound : DepthBound} {name : Text} {spec : FieldSpec} {depth : Nat}
    {value : Json} : ∀ item ∈ combinationItems name spec depth value, item.IsPlain bound := by
  intro item h
  unfold combinationItems at h
  cases hk : kindDefects name spec.kinds value.kind with
  | cons defect more =>
    rw [hk] at h
    rw [List.mem_singleton.mp h, ← hk]
    exact tooDeep_not_mem_kindDefects
  | nil =>
    rw [hk] at h
    obtain ⟨held, -, rfl⟩ := List.mem_map.mp h
    cases held with
    | obj child => trivial
    | _ => exact tooDeep_not_mem_kindDefects

/-- The work that a rule makes holds no depth defect ready. -/
theorem isPlain_expand {bound : DepthBound} {node : Members} {depth : Nat} :
    ∀ item ∈ expand node depth, item.IsPlain bound := by
  intro item h
  unfold expand at h
  split at h
  · obtain ⟨⟨name, spec⟩, -, h⟩ := List.mem_flatMap.mp h
    dsimp only at h
    split at h
    · cases h
    · exact isPlain_combinationItems item h
  · obtain ⟨part, mem, rfl⟩ := List.mem_map.mp h
    exact tooDeep_not_mem_leafParts part mem

/-! ## How much work there is -/

/-- What is held makes work of at most three times its size. -/
theorem weight_heldItem_le (name : Text) (depth : Nat) (held : Json) :
    (heldItem name depth held).weight ≤ 3 * held.size := by
  have := Json.one_le_size held
  cases held with
  | obj child => exact Nat.le_refl _
  | _ =>
    simp only [heldItem, Item.weight]
    omega

/-- Several held values make work of at most three times their size. -/
theorem sum_weight_heldItem_le (name : Text) (depth : Nat) (items : List Json) :
    ((items.map (heldItem name depth)).map Item.weight).sum ≤ 3 * Json.sizeItems items := by
  induction items with
  | nil => simp
  | cons item rest ih =>
    have := weight_heldItem_le name depth item
    simp only [List.map_cons, List.sum_cons, Json.sizeItems]
    omega

/-- A combination field makes work of at most three times the size of its value. -/
theorem sum_weight_combinationItems_le (name : Text) (spec : FieldSpec) (depth : Nat)
    (value : Json) :
    ((combinationItems name spec depth value).map Item.weight).sum ≤ 3 * value.size := by
  have positive := Json.one_le_size value
  have whole := weight_heldItem_le name depth value
  unfold combinationItems
  split
  · cases value with
    | arr items =>
      have := sum_weight_heldItem_le name depth items
      simp only [heldRules, Json.size]
      omega
    | _ => simpa [heldRules] using whole
  · simp only [List.map_cons, List.map_nil, List.sum_cons, List.sum_nil, Item.weight]
    omega

/-- A field of a rule makes work of at most three times the size of what is found there. -/
theorem sum_weight_field_le (node : Members) (depth : Nat) (field : Text × FieldSpec) :
    ((match node.get? field.1 with
      | none => []
      | some value => combinationItems field.1 field.2 depth value).map Item.weight).sum ≤
      3 * Json.sizeAt node field.1 := by
  cases found : node.get? field.1 with
  | none => simp
  | some value =>
    have : Json.sizeAt node field.1 = value.size := by simp [Json.sizeAt, found]
    rw [this]
    exact sum_weight_combinationItems_le field.1 field.2 depth value

/-- Parts that make work of at most three times their sizes make so together. -/
theorem sum_weight_flatMap_le {α : Type} {parts : List α} {f : α → List Item} {size : α → Nat}
    (h : ∀ part, ((f part).map Item.weight).sum ≤ 3 * size part) :
    ((parts.flatMap f).map Item.weight).sum ≤ 3 * (parts.map size).sum := by
  induction parts with
  | nil => simp
  | cons part rest ih =>
    have := h part
    simp only [List.flatMap_cons, List.map_append, List.sum_append, List.map_cons, List.sum_cons]
    omega

/-- Taking up a rule costs one step and makes work for the rest of its weight at most. -/
theorem sum_weight_expand_lt (node : Members) (depth : Nat) :
    ((expand node depth).map Item.weight).sum < (Item.visit node depth).weight := by
  have size : (Json.obj node).size = 1 + Json.sizeMembers node := by rw [Json.size]
  unfold expand
  split
  · -- No two combination fields have one name, so their values are different members.
    have distinct : (combinationFields.map Prod.fst).Nodup := by decide
    have values := Json.sum_sizeAt_le distinct node
    refine Nat.lt_of_le_of_lt (sum_weight_flatMap_le (sum_weight_field_le node depth)) ?_
    rw [List.map_map] at values
    have sizes : (fun field : Text × FieldSpec => Json.sizeAt node field.1) =
        Json.sizeAt node ∘ Prod.fst := rfl
    rw [sizes]
    simp only [Item.weight]
    omega
  · simp only [leafParts, ruleFields, List.map_cons, List.map_nil, List.sum_cons, List.sum_nil,
      Item.weight]
    omega

/-! ## One step -/

namespace Walk

/-- Whether no work left holds a depth defect ready. -/
def IsPlain (bound : DepthBound) (w : Walk) : Prop := ∀ item ∈ w.stack, item.IsPlain bound

/-- How many steps a walk may still take at most. -/
def weight (w : Walk) : Nat := (w.stack.map Item.weight).sum

/-- What a walk owes: the defects of the work left, without the depth defect if it has been found
already and without its repetitions if it has not. -/
def owed (bound : DepthBound) (w : Walk) : List Defect :=
  if w.reachedBound then (w.stack.flatMap (Item.owed bound)).filter (· ≠ .tooDeep bound)
  else keepFirst (.tooDeep bound) (w.stack.flatMap (Item.owed bound))

/-- What a walk will have found in the end. -/
def outcome (bound : DepthBound) (w : Walk) : List Defect := w.found.reverse ++ w.owed bound

/-- A step leaves no depth defect held ready. -/
theorem isPlain_step {bound : DepthBound} {w : Walk} (h : w.IsPlain bound) :
    (w.step bound).IsPlain bound := by
  intro item mem
  unfold step at mem
  split at mem
  · exact h item mem
  · next defects rest eq => exact h item (eq ▸ List.mem_cons_of_mem _ mem)
  · next node depth rest eq =>
    have left : ∀ item ∈ rest, item.IsPlain bound := fun item mem =>
      h item (eq ▸ List.mem_cons_of_mem _ mem)
    split at mem
    · exact left item mem
    · rcases List.mem_append.mp mem with made | old
      · exact isPlain_expand item made
      · exact left item old

/-- A step makes a walk that has work left lighter. -/
theorem weight_step_lt {bound : DepthBound} {w : Walk} (h : w.stack ≠ []) :
    (w.step bound).weight < w.weight := by
  unfold step
  split
  · next eq => exact absurd eq h
  · next defects rest eq =>
    simp only [weight, eq, List.map_cons, List.sum_cons, Item.weight]
    omega
  · next node depth rest eq =>
    have := Item.one_le_weight (.visit node depth)
    have := sum_weight_expand_lt node depth
    split
    · simp only [weight, eq, List.map_cons, List.sum_cons]
      omega
    · simp only [weight, eq, List.map_cons, List.sum_cons, List.map_append, List.sum_append]
      omega

/-- A step does not change the outcome. -/
theorem outcome_step {bound : DepthBound} {w : Walk} (h : w.IsPlain bound) :
    (w.step bound).outcome bound = w.outcome bound := by
  unfold step
  split
  · rfl
  · next defects rest eq =>
    have plain : .tooDeep bound ∉ defects := h (.report defects) (eq ▸ List.mem_cons_self)
    simp only [outcome, owed, eq, List.flatMap_cons, Item.owed, List.reverse_append,
      List.reverse_reverse, List.append_assoc, List.append_cancel_left_eq]
    split
    · have kept : defects.filter (· ≠ .tooDeep bound) = defects := by
        apply List.filter_eq_self.mpr
        intro defect mem
        exact decide_eq_true fun same => plain (same ▸ mem)
      rw [List.filter_append, kept]
    · rw [keepFirst_append plain]
  · next node depth rest eq =>
    split
    · next exceeded =>
      -- The recursion reports the rule as too deep: left out, or kept as the first.
      have alone : ruleDefects bound depth node = [.tooDeep bound] := by
        rw [ruleDefects_eq, if_pos exceeded]
      cases mark : w.reachedBound with
      | true => simp [outcome, owed, eq, mark, Item.owed, alone]
      | false => simp [outcome, owed, eq, mark, Item.owed, alone, keepFirst]
    · next within =>
      have admitted : bound.Admits depth := Bool.eq_false_iff.mpr within
      simp only [outcome, owed, eq, List.flatMap_cons, List.flatMap_append, owed_expand node admitted,
        Item.owed]

/-! ## The whole walk -/

/-- A walk does not change the outcome. -/
theorem outcome_run {bound : DepthBound} {w : Walk} (steps : Nat) (h : w.IsPlain bound) :
    (w.run bound steps).outcome bound = w.outcome bound := by
  induction steps generalizing w with
  | zero => rfl
  | succ steps ih =>
    rw [run]
    split
    · rfl
    · rw [ih (isPlain_step h), outcome_step h]

/-- A walk that may take as many steps as it weighs has no work left. -/
theorem stack_run_eq_nil {bound : DepthBound} {w : Walk} {steps : Nat} (h : w.weight ≤ steps) :
    (w.run bound steps).stack = [] := by
  induction steps generalizing w with
  | zero =>
    cases eq : w.stack with
    | nil => rw [run, eq]
    | cons item rest =>
      have := Item.one_le_weight item
      simp only [weight, eq, List.map_cons, List.sum_cons] at h
      omega
  | succ steps ih =>
    rw [run]
    split
    · next empty => exact List.isEmpty_iff.mp empty
    · next more =>
      apply ih
      have : (w.step bound).weight < w.weight := weight_step_lt (by simpa using more)
      omega

end Walk

/-- The walk finds what the recursion reports, the depth defect only once. -/
theorem nodeDefects_eq_keepFirst (bound : DepthBound) (node : Members) :
    nodeDefects bound node = keepFirst (.tooDeep bound) (ruleDefects bound 1 node) := by
  have plain : (Walk.start node).IsPlain bound := by
    intro item mem
    rw [List.mem_singleton.mp mem]
    trivial
  have weight : (Walk.start node).weight = 3 * (Json.obj node).size := by
    simp [Walk.weight, Walk.start, Item.weight]
  have outcome := Walk.outcome_run (3 * (Json.obj node).size) plain
  have empty : ((Walk.start node).run bound (3 * (Json.obj node).size)).stack = [] :=
    Walk.stack_run_eq_nil (Nat.le_of_eq weight)
  have initial : (Walk.start node).outcome bound =
      keepFirst (.tooDeep bound) (ruleDefects bound 1 node) := by
    simp [Walk.outcome, Walk.owed, Walk.start, Item.owed]
  have final : ((Walk.start node).run bound (3 * (Json.obj node).size)).outcome bound =
      nodeDefects bound node := by
    simp [Walk.outcome, Walk.owed, empty, nodeDefects, keepFirst]
  rw [← final, outcome, initial]

/-! ## Messages -/

/-- Under one label, a message of the depth defect belongs to no other cause. -/
theorem exists_eq_tooDeep_of_message {label : Text} {bound : DepthBound} {defect : Defect}
    (h : defect.message label = (Defect.tooDeep bound).message label) :
    ∃ other, defect = .tooDeep other := by
  have details : defect.detail = (Defect.tooDeep bound).detail := List.append_cancel_left h
  cases defect with
  | tooDeep other => exact ⟨other, rfl⟩
  | _ => simp [Defect.detail, Text.ofString, CodePoint.ofChar] at details

/-- The messages of a walk are those of the recursion in their order, without repetitions of the
message on depth; within the bound they are exactly those of the recursion. -/
theorem messages_walk_eq_recursion (label : Text) (bound : DepthBound) (node : Members) :
    let recursion := (ruleDefects bound 1 node).map (Defect.message label)
    let walk := (defects bound (.obj node)).map (Defect.message label)
    walk = keepFirst
        (label ++ (" rule nested too deeply: exceeds maximum depth of " ++ bound.text)) recursion ∧
      (bound.Admits (deepest 1 node) → walk = recursion) := by
  intro recursion walk
  have found : defects bound (.obj node) = keepFirst (.tooDeep bound) (ruleDefects bound 1 node) :=
    nodeDefects_eq_keepFirst bound node
  constructor
  · refine (congrArg (List.map _) found).trans (map_keepFirst ?_)
    intro defect mem same
    obtain ⟨other, rfl⟩ := exists_eq_tooDeep_of_message same
    rw [eq_of_tooDeep_mem_ruleDefects mem]
  · intro within
    have none_deep := tooDeep_not_mem_ruleDefects within
    exact congrArg (List.map _) (found.trans (keepFirst_of_not_mem none_deep))

/-- A junction with a rule, a number and a branch to a leaf without a property, five levels being
allowed: the messages of the recursion. -/
theorem messages_walk_of_junction :
    let node : Members := [("and", .arr [
      .obj [("condition", .str "is_true"), ("property", .str "p")],
      .int 5,
      .obj [("if", .obj [("condition", .str "is_true")])]])]
    (DepthBound.integer 5).Admits (deepest 1 node) ∧
      (defects (.integer 5) (.obj node)).map (Defect.message "r") =
        (ruleDefects (.integer 5) 1 node).map (Defect.message "r") ∧
      (defects (.integer 5) (.obj node)).map (Defect.message "r") = ([
        "r: Type for field and, was expected to be object, not number",
        "r missing required field: property"] : List Text) := by
  intro node
  have within : (DepthBound.integer 5).Admits (deepest 1 node) :=
    admits_deepest_of_nesting (by decide)
  exact ⟨within, (messages_walk_eq_recursion "r" (.integer 5) node).2 within, by decide +kernel⟩

end RuleTree

end Rulebook
