import Rulebook.Proofs.RuleTree.Pruning
import Rulebook.Proofs.Document.Verdict

/-!
# Documents under two bounds

Only the field that holds the rule of a rule set depends on the bound, so the defects of a rule set
are those of its tree between two lists that no bound changes and that are no matter of depth
(`exists_ruleSetDefects_eq`). What is known of trees under two bounds carries over to rule sets
through that equation, to their messages because under one label no other defect has the message on
depth, and to documents element by element.
-/

set_option autoImplicit false

namespace Rulebook.Document

open RuleTree

/-! ## Rule sets -/

/-- The tree of a rule set, if its rule is an object. -/
def tree? (ruleSet : Members) : Option Members := (ruleSet.get? "rule").bind asRule?

/-- The tree of a rule set is the object in its field `rule`. -/
theorem tree?_eq_some {ruleSet node : Members} :
    tree? ruleSet = some node ↔ ruleSet.get? "rule" = some (.obj node) := by
  unfold tree?
  cases ruleSet.get? "rule" with
  | none => simp
  | some value => simp [asRule?_eq_some]

/-- The defects of the tree of a rule set. -/
def treeDefects (bound : DepthBound) (ruleSet : Members) : List Defect :=
  (tree? ruleSet).elim [] (nodeDefects bound)

/-- A field whose check is no matter of depth has no depth defect. -/
theorem tooDeep_not_mem_fieldDefects {bound : DepthBound} {nested : NestedCheck → Json → List Defect}
    {name : Text} {spec : FieldSpec} {container : Members}
    (shallow : ∀ value, .tooDeep bound ∉ nested spec.check value) :
    .tooDeep bound ∉ Rulebook.fieldDefects nested name spec container := by
  unfold Rulebook.fieldDefects
  split
  · split <;> simp
  · split
    · exact shallow _
    · exact tooDeep_not_mem_kindDefects

/-- No action is too deep. -/
theorem tooDeep_not_mem_actionsDefects {bound : DepthBound} {actions : Json} :
    .tooDeep bound ∉ actionsDefects actions := by
  rw [actionsDefects, List.mem_flatMap]
  rintro ⟨action, -, h⟩
  cases action with
  | obj members =>
    obtain ⟨⟨key, value⟩, -, h⟩ := List.mem_flatMap.mp h
    dsimp only at h
    unfold actionKeyDefects at h
    split at h
    · simp at h
    · exact tooDeep_not_mem_kindDefects h
  | _ => exact tooDeep_not_mem_kindDefects h

/-- What is wrong with the rule of a rule set outside of its tree: it is absent or no object. -/
def rootDefects (ruleSet : Members) : List Defect :=
  match ruleSet.get? "rule" with
  | none => [.missingField "rule"]
  | some value => kindDefects "rule" [.object] value.kind

/-- The field `rule` has the defects of its root and those of its tree. -/
theorem fieldDefects_rule (bound : DepthBound) (ruleSet : Members) :
    fieldDefects bound "rule" { required := true, kinds := [.object], check := .ruleTree } ruleSet =
      rootDefects ruleSet ++ treeDefects bound ruleSet := by
  unfold fieldDefects Rulebook.fieldDefects rootDefects treeDefects tree?
  cases ruleSet.get? "rule" with
  | none => rfl
  | some value => cases value <;> rfl

/-- What is wrong with a root is no matter of depth. -/
theorem tooDeep_not_mem_rootDefects {bound : DepthBound} {ruleSet : Members} :
    .tooDeep bound ∉ rootDefects ruleSet := by
  unfold rootDefects
  split
  · simp
  · exact tooDeep_not_mem_kindDefects

/-- The defects of a rule set are those of its tree between defects that no bound changes and that
are no matter of depth. -/
theorem exists_ruleSetDefects_eq (ruleSet : Members) :
    ∃ before after, ∀ bound,
      ruleSetDefects bound ruleSet = before ++ (treeDefects bound ruleSet ++ after) ∧
      .tooDeep bound ∉ before ∧ .tooDeep bound ∉ after := by
  -- The checks of the other fields take no bound.
  let shallow (name : Text) (spec : FieldSpec) : List Defect :=
    Rulebook.fieldDefects (shallowCheck ruleSet) name spec ruleSet
  let id := shallow "id" { kinds := [.string] }
  let description := shallow "description" { kinds := [.string] }
  let actions := shallow "actions" { kinds := [.array], check := .actions }
  refine ⟨id ++ (description ++ rootDefects ruleSet), actions, fun bound => ⟨?_, ?_, ?_⟩⟩
  · have fields : ruleSetDefects bound ruleSet =
        id ++ (description ++ (fieldDefects bound "rule"
          { required := true, kinds := [.object], check := .ruleTree } ruleSet ++
            (actions ++ []))) := rfl
    rw [fields, fieldDefects_rule, List.append_nil]
    simp only [List.append_assoc]
  · rw [List.mem_append, List.mem_append, not_or, not_or]
    refine ⟨?_, ?_, tooDeep_not_mem_rootDefects⟩
    · exact tooDeep_not_mem_fieldDefects fun _ => List.not_mem_nil
    · exact tooDeep_not_mem_fieldDefects fun _ => List.not_mem_nil
  · exact tooDeep_not_mem_fieldDefects fun _ => tooDeep_not_mem_actionsDefects

/-- What is reported of a rule set besides the depth only grows with the bound. -/
theorem pruned_ruleSetDefects_sublist {bound wider : DepthBound} (le : bound.AtMost wider)
    (ruleSet : Members) :
    (pruned bound (ruleSetDefects bound ruleSet)).Sublist
      (pruned wider (ruleSetDefects wider ruleSet)) := by
  obtain ⟨before, after, parts⟩ := exists_ruleSetDefects_eq ruleSet
  have split (limit : DepthBound) : pruned limit (ruleSetDefects limit ruleSet) =
      before ++ (pruned limit (treeDefects limit ruleSet) ++ after) := by
    obtain ⟨eq, plain_before, plain_after⟩ := parts limit
    rw [eq, pruned_append, pruned_append, pruned_eq_self plain_before, pruned_eq_self plain_after]
  rw [split, split]
  apply List.Sublist.append_left
  apply List.Sublist.append_right
  unfold treeDefects
  cases tree? ruleSet with
  | none => exact List.Sublist.refl _
  | some node => exact pruned_nodeDefects_sublist le

/-- A rule set is too deep exactly if its tree has a node beyond the bound. -/
theorem tooDeep_mem_ruleSetDefects_iff {bound : DepthBound} {ruleSet : Members} :
    .tooDeep bound ∈ ruleSetDefects bound ruleSet ↔
      ∃ node, tree? ruleSet = some node ∧ ¬ bound.Admits (deepest 1 node) := by
  obtain ⟨before, after, parts⟩ := exists_ruleSetDefects_eq ruleSet
  obtain ⟨eq, plain_before, plain_after⟩ := parts bound
  rw [eq, List.mem_append, List.mem_append, or_iff_right plain_before, or_iff_left plain_after]
  unfold treeDefects
  cases tree? ruleSet with
  | none => simp
  | some node => simp [tooDeep_mem_nodeDefects_iff]

/-- Only the bound of a validation is reported as exceeded. -/
theorem eq_of_tooDeep_mem_ruleSetDefects {bound other : DepthBound} {ruleSet : Members}
    (h : .tooDeep other ∈ ruleSetDefects bound ruleSet) : other = bound := by
  obtain ⟨before, after, parts⟩ := exists_ruleSetDefects_eq ruleSet
  rw [(parts bound).1, List.mem_append, List.mem_append, or_iff_right (parts other).2.1,
    or_iff_left (parts other).2.2] at h
  unfold treeDefects at h
  cases tree : tree? ruleSet with
  | none =>
    rw [tree] at h
    cases h
  | some node =>
    rw [tree] at h
    have reported : .tooDeep other ∈ nodeDefects bound node := h
    rw [nodeDefects_eq_keepFirst] at reported
    exact eq_of_tooDeep_mem_ruleDefects (mem_of_mem_keepFirst reported)

/-- A rule set is told to be too deep once at most. -/
theorem count_tooDeep_ruleSetDefects_le_one {bound : DepthBound} {ruleSet : Members} :
    (ruleSetDefects bound ruleSet).count (.tooDeep bound) ≤ 1 := by
  obtain ⟨before, after, parts⟩ := exists_ruleSetDefects_eq ruleSet
  obtain ⟨eq, plain_before, plain_after⟩ := parts bound
  rw [eq, List.count_append, List.count_append, List.count_eq_zero_of_not_mem plain_before,
    List.count_eq_zero_of_not_mem plain_after, Nat.zero_add, Nat.add_zero]
  unfold treeDefects
  cases tree? ruleSet with
  | none => simp
  | some node =>
    rw [Option.elim_some, nodeDefects_eq_keepFirst]
    exact count_keepFirst_le_one

/-- Bounds that admit all rules of a rule set find the same defects. -/
theorem ruleSetDefects_eq_of_admits {bound other : DepthBound} {ruleSet : Members}
    (within : ∀ node, tree? ruleSet = some node → bound.Admits (deepest 1 node))
    (within' : ∀ node, tree? ruleSet = some node → other.Admits (deepest 1 node)) :
    ruleSetDefects bound ruleSet = ruleSetDefects other ruleSet := by
  obtain ⟨before, after, parts⟩ := exists_ruleSetDefects_eq ruleSet
  rw [(parts bound).1, (parts other).1]
  unfold treeDefects
  cases tree : tree? ruleSet with
  | none => rfl
  | some node =>
    rw [Option.elim_some, Option.elim_some,
      nodeDefects_eq_of_admits (within node tree) (within' node tree)]

/-! ## Messages -/

/-- The messages of a rule set under a label. -/
def ruleSetMessages (label : Text) (bound : DepthBound) (ruleSet : Members) : List Text :=
  (ruleSetDefects bound ruleSet).map (Defect.message label)

/-- The message on depth under a label. -/
def depthMessage (label : Text) (bound : DepthBound) : Text :=
  label ++ (" rule nested too deeply: exceeds maximum depth of " ++ bound.text)

/-- Among the messages of a rule set, that on depth comes from the depth defect alone. -/
theorem message_eq_depthMessage_iff (label : Text) {bound : DepthBound} {ruleSet : Members}
    {defect : Defect} (mem : defect ∈ ruleSetDefects bound ruleSet) :
    defect.message label = depthMessage label bound ↔ defect = .tooDeep bound := by
  constructor
  · intro same
    obtain ⟨other, rfl⟩ := exists_eq_tooDeep_of_message same
    rw [eq_of_tooDeep_mem_ruleSetDefects mem]
  · rintro rfl
    rfl

/-- Taking the message on depth out of the messages takes out the depth defect. -/
theorem filter_ruleSetMessages (label : Text) (bound : DepthBound) (ruleSet : Members) :
    (ruleSetMessages label bound ruleSet).filter (· ≠ depthMessage label bound) =
      (pruned bound (ruleSetDefects bound ruleSet)).map (Defect.message label) := by
  rw [ruleSetMessages, List.filter_map, pruned]
  congr 1
  apply List.filter_congr
  intro defect mem
  have := message_eq_depthMessage_iff label mem
  simp [this]

/-- The message on the depth is there exactly if the rule set is too deep. -/
theorem depthMessage_mem_iff {label : Text} {bound : DepthBound} {ruleSet : Members} :
    depthMessage label bound ∈ ruleSetMessages label bound ruleSet ↔
      .tooDeep bound ∈ ruleSetDefects bound ruleSet := by
  rw [ruleSetMessages, List.mem_map]
  constructor
  · rintro ⟨defect, mem, same⟩
    rwa [← (message_eq_depthMessage_iff label mem).mp same]
  · intro mem
    exact ⟨.tooDeep bound, mem, rfl⟩

/-- The message on the depth of a rule set is there once at most. -/
theorem count_depthMessage_le_one {label : Text} {bound : DepthBound} {ruleSet : Members} :
    (ruleSetMessages label bound ruleSet).count (depthMessage label bound) ≤ 1 := by
  rw [ruleSetMessages, List.count, List.countP_map]
  have only_depth : (ruleSetDefects bound ruleSet).countP
        ((· == depthMessage label bound) ∘ Defect.message label) =
      (ruleSetDefects bound ruleSet).countP (· == .tooDeep bound) := by
    apply List.countP_congr
    intro defect mem
    simpa using message_eq_depthMessage_iff label mem
  rw [only_depth]
  exact count_tooDeep_ruleSetDefects_le_one

/-! ## Documents -/

/-- The depth of the deepest rule of an element, zero if it holds no rule. -/
def deepestOfElement : Json → Nat
  | .obj ruleSet => ((tree? ruleSet).map (deepest 1)).getD 0
  | _ => 0

/-- The depth of the deepest rule of a document, zero if it holds no rule. -/
def deepestRule (ruleSets : List Json) : Nat := (ruleSets.map deepestOfElement).foldr max 0

/-- Bounds that admit the deepest rule of a document have the same messages. -/
theorem messages_eq_of_admits {bound other : DepthBound} {ruleSets : List Json}
    (within : bound.Admits (deepestRule ruleSets)) (within' : other.Admits (deepestRule ruleSets)) :
    messages bound ruleSets = messages other ruleSets := by
  have admitted {limit : DepthBound} (h : limit.Admits (deepestRule ruleSets)) {ruleSet : Members}
      (mem : .obj ruleSet ∈ ruleSets) (node : Members) (tree : tree? ruleSet = some node) :
      limit.Admits (deepest 1 node) := by
    have element := (admits_foldr_max.mp h).2 _ (List.mem_map_of_mem mem)
    simpa [deepestOfElement, tree] using element
  unfold messages
  apply List.flatMap_congr
  rintro ⟨element, position⟩ listed
  have mem : element ∈ ruleSets := List.mem_of_getElem? (List.mk_mem_zipIdx_iff_getElem?.mp listed)
  dsimp only [elementMessages]
  congr 1
  cases element with
  | obj ruleSet =>
    exact ruleSetDefects_eq_of_admits (admitted within mem) (admitted within' mem)
  | _ => rfl

/-- A wider bound takes no message from a rule set but that on depth, which comes at most once and
exactly if a rule of its tree lies beyond the bound; without it the messages are the same. So a document
that is valid under a bound is so under every wider one, and the verdict on it is the same under all
bounds that admit its deepest rule. -/
theorem messages_grow_with_bound {bound wider : DepthBound} (le : bound.AtMost wider) :
    (∀ label ruleSet,
      ((ruleSetMessages label bound ruleSet).filter (· ≠ depthMessage label bound)).Sublist
        ((ruleSetMessages label wider ruleSet).filter (· ≠ depthMessage label wider)) ∧
      (∀ limit, (ruleSetMessages label limit ruleSet).count (depthMessage label limit) ≤ 1) ∧
      (∀ limit, depthMessage label limit ∈ ruleSetMessages label limit ruleSet ↔
        ∃ root rule level, ruleSet.get? "rule" = some (.obj root) ∧ LiesAt root 1 rule level ∧
          limit.isExceededBy level = true) ∧
      (depthMessage label bound ∉ ruleSetMessages label bound ruleSet →
        ruleSetMessages label bound ruleSet = ruleSetMessages label wider ruleSet)) ∧
    (∀ content, validate bound content = .valid → validate wider content = .valid) ∧
    (∀ content, (∀ ruleSets, parse content = .ok ruleSets → bound.Admits (deepestRule ruleSets)) →
      validate bound content = validate wider content) := by
  refine ⟨fun label ruleSet => ⟨?_, fun limit => count_depthMessage_le_one, fun limit => ?_, ?_⟩,
    fun content valid => validate_mono le valid, fun content within => ?_⟩
  · rw [filter_ruleSetMessages, filter_ruleSetMessages]
    exact (pruned_ruleSetDefects_sublist le ruleSet).map _
  · rw [depthMessage_mem_iff, tooDeep_mem_ruleSetDefects_iff]
    simp only [tree?_eq_some, admits_deepest_iff_liesAt, not_forall, DepthBound.not_admits,
      exists_prop, exists_and_left]
  · intro absent
    rw [depthMessage_mem_iff, tooDeep_mem_ruleSetDefects_iff] at absent
    have within : ∀ node, tree? ruleSet = some node → bound.Admits (deepest 1 node) := by
      intro node tree
      by_contra beyond
      exact absent ⟨node, tree, beyond⟩
    rw [ruleSetMessages, ruleSetMessages,
      ruleSetDefects_eq_of_admits within fun node tree => le _ (within node tree)]
  · cases read : parse content with
    | error cause => rw [validate_of_error read, validate_of_error read]
    | ok ruleSets =>
      have deepest_within := within ruleSets read
      rw [validate_of_ok read, validate_of_ok read,
        messages_eq_of_admits deepest_within (le _ deepest_within)]

/-- A junction over a number and a leaf without a property, under the bounds one, two and three. -/
theorem messages_of_junction_grow :
    let ruleSet : Members := [("rule", .obj [("and", .arr [
      .obj [("condition", .str "is_true")], .int 5])])]
    let kind : Text := "r: Type for field and, was expected to be object, not number"
    let deep : Text := "r rule nested too deeply: exceeds maximum depth of 1"
    (DepthBound.integer 1).AtMost (.integer 2) ∧ (DepthBound.integer 2).AtMost (.integer 3) ∧
      ruleSetMessages "r" (.integer 1) ruleSet = [deep, kind] ∧
      [kind].Sublist ((ruleSetMessages "r" (.integer 2) ruleSet).filter
        (· ≠ depthMessage "r" (.integer 2))) ∧
      depthMessage "r" (.integer 2) ∉ ruleSetMessages "r" (.integer 2) ruleSet ∧
      ruleSetMessages "r" (.integer 2) ruleSet = ruleSetMessages "r" (.integer 3) ruleSet ∧
      validate (.integer 1) (.value (.str "[]")) = .valid ∧
      validate (.integer 2) (.value (.str "[]")) = .valid := by
  intro ruleSet kind deep
  have first : (DepthBound.integer 1).AtMost (.integer 2) := DepthBound.atMost_integer (by decide)
  have second : (DepthBound.integer 2).AtMost (.integer 3) := DepthBound.atMost_integer (by decide)
  obtain ⟨grow, valid, -⟩ := messages_grow_with_bound first
  obtain ⟨grow_on, -⟩ := messages_grow_with_bound second
  have listed : ruleSetMessages "r" (.integer 1) ruleSet = [deep, kind] := by decide +kernel
  have kept : (ruleSetMessages "r" (.integer 1) ruleSet).filter
      (· ≠ depthMessage "r" (.integer 1)) = [kind] := by
    rw [listed]
    decide +kernel
  have absent : depthMessage "r" (.integer 2) ∉ ruleSetMessages "r" (.integer 2) ruleSet := by
    decide +kernel
  have empty : validate (.integer 1) (.value (.str "[]")) = .valid := by decide +kernel
  exact ⟨first, second, listed, kept ▸ (grow "r" ruleSet).1, absent,
    (grow_on "r" ruleSet).2.2.2 absent, empty, valid _ empty⟩

end Rulebook.Document
