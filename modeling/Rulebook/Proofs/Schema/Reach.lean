import Rulebook.Schema.Reach
import Rulebook.Proofs.Lists
import Rulebook.Proofs.Schema.Agreement

/-!
# Which documents have a report

A check opens six steps for each level of a value at most, since a junction, which takes eight, nests two
levels unless it is empty. So a document of at most 164 levels has a report (`report?_of_nesting`). Where
there is a report, it lists what violates the exported schema, and it is empty exactly if the validator
accepts the document (`report?_eq_some_nil_iff`).
-/

set_option autoImplicit false

namespace Rulebook.Schema

mutual

/-- The steps to the deepest rule in a rule: six a level, but for the last one, which holds no rule. -/
theorem ruleSteps_le (v : Json) : ruleSteps v ≤ 6 * v.nesting - 4 := by
  match v with
  | .obj members =>
    have := memberSteps_le members
    rw [ruleSteps, Json.nesting]
    omega
  | .null | .bool _ | .int _ | .float _ | .str _ | .arr _ => exact Nat.zero_le _

/-- The same of the items of a junction. -/
theorem itemSteps_le (items : List Json) : itemSteps items ≤ 6 * Json.nestingItems items - 4 := by
  match items with
  | [] => exact Nat.zero_le _
  | item :: rest =>
    have first := ruleSteps_le item
    have others := itemSteps_le rest
    rw [itemSteps, Json.nestingItems]
    omega

/-- The same of the members of a rule, counted from the rules that they hold. -/
theorem memberSteps_le (members : Members) :
    memberSteps members ≤ 6 * Json.nestingMembers members + 2 := by
  match members with
  | [] => exact Nat.zero_le _
  | (key, .obj branch) :: rest =>
    have first := memberSteps_le branch
    have others := memberSteps_le rest
    rw [memberSteps, Json.nestingMembers, Json.nesting, branchSteps]
    split_ifs <;> omega
  | (key, .arr items) :: rest =>
    have first := itemSteps_le items
    have others := memberSteps_le rest
    rw [memberSteps, Json.nestingMembers, Json.nesting, junctionSteps]
    split_ifs <;> omega
  | (key, .null) :: rest | (key, .bool _) :: rest | (key, .int _) :: rest
  | (key, .float _) :: rest | (key, .str _) :: rest =>
    -- What is neither an object nor an array holds no rule.
    change memberSteps rest ≤ _
    have others := memberSteps_le rest
    rw [Json.nestingMembers]
    omega

end

/-- The steps to the deepest rule in an element, which lies a level below the element. -/
theorem elementSteps_le (element : Json) : elementSteps element ≤ 6 * (element.nesting - 1) - 4 := by
  cases element with
  | obj members =>
    rw [elementSteps]
    cases found : Members.get? members "rule" with
    | none => exact Nat.zero_le _
    | some rule =>
      have inner := ruleSteps_le rule
      have below := Json.nesting_lt_of_get? found
      change ruleSteps rule ≤ _
      omega
  | null | bool _ | int _ | float _ | str _ | arr _ => exact Nat.zero_le _

/-- The steps to the deepest rule in a document, which lies two levels below the document. -/
theorem documentSteps_le (v : Json) : documentSteps v ≤ 6 * (v.nesting - 2) - 4 := by
  cases v with
  | arr elements =>
    rw [documentSteps, foldl_max_map, Nat.zero_max]
    apply Finset.sup_le
    intro element mem
    have inner := elementSteps_le element
    have below := Json.nesting_lt_of_mem (List.mem_toFinset.mp mem)
    omega
  | null | bool _ | int _ | float _ | str _ | obj _ => exact Nat.zero_le _

/-- A document that nests no deeper than this has a report. -/
theorem report?_of_nesting {v : Json} (h : v.nesting ≤ 164) : report? v = some (errors v) := by
  have steps := documentSteps_le v
  rw [report?, if_pos]
  rw [stepLimit]
  omega

/-- A report lists what violates the exported schema. -/
theorem eq_errors_of_report? {v : Json} {messages : List Text} (h : report? v = some messages) :
    messages = errors v := by
  unfold report? at h
  split_ifs at h
  cases h
  rfl

/-- Where there is a report on a document whose rules lie within a bound, it is empty exactly if each text of
the document is valid under the bound. -/
theorem report?_eq_some_nil_iff {bound : DepthBound} {source : Text} {v : Json}
    (h : Json.Reader.strictDocument source = .ok v) (within : DocumentWithin bound v)
    (reported : (report? v).isSome) :
    report? v = some [] ↔ (validate bound (.value (.str source))).IsAccepted := by
  obtain ⟨messages, found⟩ := Option.isSome_iff_exists.mp reported
  rw [isAccepted_iff_errors_eq_nil h within, found, eq_errors_of_report? found, Option.some.injEq]

end Rulebook.Schema
