import Rulebook.Proofs.RuleTree.Walk

/-!
# How long a walk takes

A walk takes one piece of work after the other for as long as there is any. `EndsAfter` says this
without a limit on the number of pieces: a walk that has no work left ends at once, and any other ends one
piece after the walk that a step leads to. Every walk ends, with no more pieces than it weighs, because a
step makes it lighter by at least one.

At the start a walk weighs three times the size of its root. The three are made use of: a rule without
members is taken up, and then both fields that it lacks are reported.
-/

set_option autoImplicit false

namespace Rulebook.RuleTree

namespace Walk

/-- A walk takes exactly so many pieces of work until none is left, and then it is in the last state. -/
inductive EndsAfter (bound : DepthBound) : Nat → Walk → Walk → Prop where
  | idle {w : Walk} (none_left : w.stack = []) : EndsAfter bound 0 w w
  | busy {pops : Nat} {w last : Walk} (work : w.stack ≠ [])
      (rest : EndsAfter bound pops (w.step bound) last) : EndsAfter bound (pops + 1) w last

variable {bound : DepthBound} {pops : Nat} {w last : Walk}

/-- A walk ends with nothing left to do. -/
theorem EndsAfter.stack_eq_nil (h : EndsAfter bound pops w last) : last.stack = [] := by
  induction h with
  | idle none_left => exact none_left
  | busy _ _ ih => exact ih

/-- A walk takes no more pieces of work than it weighs. -/
theorem EndsAfter.pops_le_weight (h : EndsAfter bound pops w last) : pops ≤ w.weight := by
  induction h with
  | idle => exact Nat.zero_le _
  | @busy pops w last work _ ih =>
    have lighter : (w.step bound).weight < w.weight := weight_step_lt work
    omega

/-- A walk ends in one way. -/
theorem EndsAfter.unique {pops' : Nat} {last' : Walk} (h : EndsAfter bound pops w last)
    (h' : EndsAfter bound pops' w last') : pops' = pops ∧ last' = last := by
  induction h generalizing pops' with
  | idle none_left =>
    cases h' with
    | idle => exact ⟨rfl, rfl⟩
    | busy work => exact absurd none_left work
  | busy work _ ih =>
    cases h' with
    | idle none_left => exact absurd none_left work
    | busy _ rest =>
      obtain ⟨same, rfl⟩ := ih rest
      exact ⟨congrArg (· + 1) same, rfl⟩

/-- Every walk ends. -/
theorem exists_endsAfter (bound : DepthBound) (w : Walk) :
    ∃ pops last, EndsAfter bound pops w last := by
  induction weighs : w.weight using Nat.strongRecOn generalizing w with
  | ind weight ih =>
    by_cases none_left : w.stack = []
    · exact ⟨0, w, .idle none_left⟩
    · have lighter : (w.step bound).weight < w.weight := weight_step_lt none_left
      obtain ⟨pops, last, rest⟩ := ih _ (weighs ▸ lighter) (w.step bound) rfl
      exact ⟨pops + 1, last, .busy none_left rest⟩

/-- A walk that may take as many pieces of work as it needs, or more, comes to its last state. -/
theorem EndsAfter.run_eq (h : EndsAfter bound pops w last) {steps : Nat} (enough : pops ≤ steps) :
    w.run bound steps = last := by
  induction h generalizing steps with
  | @idle w none_left =>
    cases steps with
    | zero => rfl
    | succ steps => rw [run, none_left, List.isEmpty_nil, if_pos rfl]
  | @busy pops w last work _ ih =>
    obtain ⟨more, rfl⟩ : ∃ more, steps = more + 1 := ⟨steps - 1, by omega⟩
    have nonempty : w.stack.isEmpty = false := List.isEmpty_eq_false_iff.mpr work
    rw [run, nonempty, if_neg Bool.false_ne_true]
    exact ih (by omega)

/-- A walk begins with three times the size of its tree. -/
theorem weight_start (node : Members) : (start node).weight = 3 * (Json.obj node).size := by
  simp [weight, start, Item.weight]

end Walk

/-- The walk from a root ends, in one way only. It takes at most three pieces of work for each value in the
tree of the root, whatever the bound, and what it has found by then are the defects of the tree. -/
theorem walk_ends_within_size (bound : DepthBound) (node : Members) :
    ∃ pops last, Walk.EndsAfter bound pops (Walk.start node) last ∧
      pops ≤ 3 * (Json.obj node).size ∧ last.stack = [] ∧
      last.found.reverse = nodeDefects bound node ∧
      ∀ other last', Walk.EndsAfter bound other (Walk.start node) last' →
        other = pops ∧ last' = last := by
  obtain ⟨pops, last, ends⟩ := Walk.exists_endsAfter bound (Walk.start node)
  have le : pops ≤ 3 * (Json.obj node).size := Walk.weight_start node ▸ ends.pops_le_weight
  refine ⟨pops, last, ends, le, ends.stack_eq_nil, ?_, fun other last' => ends.unique⟩
  rw [nodeDefects, ends.run_eq le]

/-- A rule without members takes three pieces of work for its one value. -/
example : ∃ last, Walk.EndsAfter (.integer 64) 3 (Walk.start []) last ∧ (Json.obj []).size = 1 :=
  ⟨_, .busy (by decide) (.busy (by decide) (.busy (by decide) (.idle rfl))), rfl⟩

end Rulebook.RuleTree
