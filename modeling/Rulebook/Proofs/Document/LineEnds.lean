import Rulebook.CommandLine.FileTree
import Rulebook.Proofs.Document.Verdict
import Rulebook.Proofs.Json.LineEnds

/-!
# Line ends in documents

A file is read with unified line ends, while a text that is handed in is taken as it is. The verdict is
the same for both: the strict reader finds the same rule sets in both texts or the same fault, and a
fault shows the difference only by its place.
-/

set_option autoImplicit false

namespace Rulebook

/-- What two messages have in common that differ at most in the place of a fault in a JSON text. -/
inductive EqualButForPlace : Option Text → Option Text → Prop where
  | equal (message : Option Text) : EqualButForPlace message message
  | placed (cause : Json.Reader.Cause) (p q : Text.Place) :
      EqualButForPlace (some ("Invalid JSON - " ++ (cause.message ++ ": " ++ p.describe)))
        (some ("Invalid JSON - " ++ (cause.message ++ ": " ++ q.describe)))

namespace Document

/-- A fault that is found in another place is told by the same message but for the place. -/
theorem message_unified (t u : Text) (fault : Json.Reader.Fault) :
    EqualButForPlace (some (Critical.notJson t fault).message)
      (some (Critical.notJson u fault.unified).message) := by
  cases fault with
  | misplaced cause rest => exact .placed cause _ _
  | constant name => exact .equal _
  | tooManyDigits count => exact .equal _
  | tooDeep => exact .equal _

/-- What comes of a text with unified line ends: the same rule sets, or the same critical cause but for
the place of its fault. -/
theorem parse_unifyLineEnds (t : Text) :
    (∃ ruleSets, parse (.value (.str t)) = .ok ruleSets ∧
      parse (.value (.str t.unifyLineEnds)) = .ok ruleSets) ∨
    ∃ cause cause', parse (.value (.str t)) = .error cause ∧
      parse (.value (.str t.unifyLineEnds)) = .error cause' ∧
      EqualButForPlace (some cause.message) (some cause'.message) := by
  have read := Json.Reader.strictDocument_unifyLineEnds t
  simp only [parse, parseText]
  rw [read]
  cases found : Json.Reader.strictDocument t with
  | error fault =>
    right
    exact ⟨_, _, rfl, rfl, message_unified t t.unifyLineEnds fault⟩
  | ok v =>
    cases v with
    | arr ruleSets =>
      left
      exact ⟨ruleSets, rfl, rfl⟩
    | _ =>
      right
      exact ⟨_, _, rfl, rfl, .equal _⟩

/-- The text that a file holds and the text that is read from the file, with unified line ends, have
the same rule sets, if any, and the same verdict; only the place of a fault in a JSON text may be told
otherwise. -/
theorem verdict_ignores_line_ends (t : Text) (bound : DepthBound) :
    let u := t.unifyLineEnds
    (∀ bytes, Utf8.decode bytes = .ok t → fileText bytes = .ok u) ∧
    (∀ ruleSets, parse (.value (.str t)) = .ok ruleSets ↔
      parse (.value (.str u)) = .ok ruleSets) ∧
    (validate bound (.value (.str t))).isValid = (validate bound (.value (.str u))).isValid ∧
    (validate bound (.value (.str t))).errors = (validate bound (.value (.str u))).errors ∧
    EqualButForPlace (validate bound (.value (.str t))).critical?
      (validate bound (.value (.str u))).critical? := by
  intro u
  refine ⟨?_, ?_⟩
  · intro bytes decoded
    rw [fileText, decoded]
  · rcases parse_unifyLineEnds t with ⟨ruleSets, of_t, of_u⟩ | ⟨cause, cause', of_t, of_u, alike⟩
    · rw [validate_of_ok of_t, validate_of_ok of_u, of_t, of_u]
      exact ⟨fun _ => Iff.rfl, rfl, rfl, .equal _⟩
    · rw [validate_of_error of_t, validate_of_error of_u, of_t, of_u]
      refine ⟨fun ruleSets => ?_, rfl, rfl, alike⟩
      constructor
      · intro impossible
        cases impossible
      · intro impossible
        cases impossible

/-- A file with a pair between two brackets and a lone carriage return behind them, which is read as a
text with two line feeds. -/
theorem verdict_ignores_pair_and_lone_return :
    let t : Text := ['[', '\r', '\n', ']', '\r']
    let u : Text := ['[', '\n', ']', '\n']
    let bytes : List UInt8 := [0x5B, 0x0D, 0x0A, 0x5D, 0x0D]
    Utf8.decode bytes = .ok t ∧ fileText bytes = .ok u ∧
      parse (.value (.str t)) = .ok [] ∧ parse (.value (.str u)) = .ok [] := by
  intro t u bytes
  have decoded : Utf8.decode bytes = .ok t := by decide +kernel
  have alike := verdict_ignores_line_ends t (.integer 64)
  have read : parse (.value (.str t)) = .ok [] := rfl
  exact ⟨decoded, alike.1 bytes decoded, read, (alike.2.1 []).mp read⟩

end Document

end Rulebook
