import Rulebook.Proofs.Registry.Store

/-!
# Writes as sessions

A write goes through a session, statement by statement. Statements change the documents that the
session works on; everyone else sees those that are committed. A statement that fails ends the
session, and what is not committed by then is gone.

A creation makes the other documents of the name inactive before it inserts its own, and a change does
so before it assigns its fields, so the documents that the session works on have changed already when
the insertion or the assignment fails. `committed_of_fault` says that none of it remains, since the
commit is the last statement. `result_creation` and `result_alteration` say that the sessions come to
what the writes of the registry come to.
-/

set_option autoImplicit false

namespace Rulebook

/-- A statement of a session. -/
inductive Statement where
  | deactivate (name : Text) (kept : Option Nat)
  | insert (new : NewDocument)
  | assign (d : StoredDocument) (c : DocumentChange)
  | commit

/-- A session on the documents of a registry. -/
structure Session where
  /-- The documents that everyone else sees. -/
  committed : List StoredDocument
  /-- The documents that the session works on. -/
  working : List StoredDocument

namespace Session

/-- The session that is about to work on documents. -/
def start (documents : List StoredDocument) : Session :=
  { committed := documents, working := documents }

/-- The session after a statement, unless the statement fails. -/
def execute (s : Session) : Statement → Except StoreFault Session
  | .deactivate name kept =>
    .ok { s with working := Registry.deactivateOthers name kept s.working }
  | .insert new =>
    (Registry.insert new s.working).map fun added => { s with working := added.2 }
  | .assign d c =>
    (Registry.changed d c).map fun after =>
      { s with working := s.working.map fun x => if x.id = d.id then after else x }
  | .commit => .ok { s with committed := s.working }

/-- The session after statements up to the first that fails, and its fault. -/
def run (s : Session) : List Statement → Session × Option StoreFault
  | [] => (s, none)
  | statement :: rest =>
    match s.execute statement with
    | .ok next => next.run rest
    | .error fault => (s, some fault)

/-- What a session comes to: a fault, or the documents that it has committed. -/
def result : Session × Option StoreFault → Except StoreFault (List StoredDocument)
  | (s, none) => .ok s.committed
  | (_, some fault) => .error fault

variable {s next : Session} {statement : Statement} {body : List Statement} {fault : StoreFault}

/-- No statement but a commit changes what everyone else sees. -/
theorem committed_execute (ran : s.execute statement = .ok next) (other : statement ≠ .commit) :
    next.committed = s.committed := by
  cases statement with
  | deactivate name kept =>
    cases ran
    rfl
  | insert new =>
    rw [execute] at ran
    cases added : Registry.insert new s.working with
    | error fault => simp [added, Except.map] at ran
    | ok documents =>
      simp only [added, Except.map, Except.ok.injEq] at ran
      rw [← ran]
  | assign d c =>
    rw [execute] at ran
    cases changed : Registry.changed d c with
    | error fault => simp [changed, Except.map] at ran
    | ok after =>
      simp only [changed, Except.map, Except.ok.injEq] at ran
      rw [← ran]
  | commit => exact absurd rfl other

/-- Statements without a commit change nothing that everyone else sees. -/
theorem committed_run (uncommitted : .commit ∉ body) : (s.run body).1.committed = s.committed := by
  induction body generalizing s with
  | nil => rfl
  | cons statement rest ih =>
    have other : statement ≠ .commit := fun same => uncommitted (same ▸ List.mem_cons_self)
    have later : .commit ∉ rest := fun mem => uncommitted (List.mem_cons_of_mem _ mem)
    rw [run]
    cases ran : s.execute statement with
    | error fault => rfl
    | ok next =>
      dsimp only
      rw [ih later, committed_execute ran other]

/-- A session goes on with further statements where it has had no fault. -/
theorem run_append (more : List Statement) : s.run (body ++ more) =
    match s.run body with
    | (next, none) => next.run more
    | (next, some fault) => (next, some fault) := by
  induction body generalizing s with
  | nil => rfl
  | cons statement rest ih =>
    rw [List.cons_append, run, run]
    cases s.execute statement with
    | error fault => rfl
    | ok next => exact ih

/-- A session whose commit comes last leaves the documents as they were if a statement fails, whatever
it has worked on them by then. -/
theorem committed_of_fault (uncommitted : .commit ∉ body)
    (failed : (s.run (body ++ [.commit])).2 = some fault) :
    (s.run (body ++ [.commit])).1.committed = s.committed := by
  have before := committed_run (s := s) uncommitted
  rw [run_append] at failed ⊢
  cases ran : s.run body with
  | mk reached stopped =>
    rw [ran] at before failed
    cases stopped with
    | none => cases failed
    | some other => exact before

/-- A session whose commit comes last has committed what it comes to, or nothing. -/
theorem committed_eq (uncommitted : .commit ∉ body) :
    (s.run (body ++ [.commit])).1.committed =
      match result (s.run (body ++ [.commit])) with
      | .ok documents => documents
      | .error _ => s.committed := by
  have kept {fault : StoreFault} (failed : (s.run (body ++ [.commit])).2 = some fault) :
      (s.run (body ++ [.commit])).1.committed = s.committed := committed_of_fault uncommitted failed
  cases ran : s.run (body ++ [.commit]) with
  | mk ended stopped =>
    rw [ran] at kept
    cases stopped with
    | none => rfl
    | some fault => exact kept rfl

/-- What the session of a write comes to if its last statement but the commit is reached. -/
theorem result_write (body : List Statement) (reached : Session) (last : Statement)
    (ran : s.run body = (reached, none)) :
    result (s.run (body ++ [last] ++ [.commit])) =
      (reached.execute last).map fun next => next.working := by
  rw [List.append_assoc, run_append, ran]
  simp only [List.singleton_append, run]
  cases reached.execute last <;> rfl

end Session

namespace Registry

/-- The statements that make the others of a name inactive if a document becomes active. -/
def preparation (becomesActive : Bool) (name : Text) (kept : Option Nat) : List Statement :=
  if becomesActive then [.deactivate name kept] else []

/-- The statements of a creation before its commit. -/
def creation (new : NewDocument) : List Statement :=
  preparation new.active new.name none ++ [.insert new]

/-- The statements of a change before its commit. -/
def alteration (d : StoredDocument) (c : DocumentChange) : List Statement :=
  preparation (c.active = .set true) d.name (some d.id) ++ [.assign d c]

variable {r : Registry} {new : NewDocument} {c : DocumentChange} {d : StoredDocument}

/-- The preparation changes what a session works on and commits nothing. -/
theorem run_preparation (becomesActive : Bool) (name : Text) (kept : Option Nat)
    (documents : List StoredDocument) :
    (Session.start documents).run (preparation becomesActive name kept) =
      ({ committed := documents, working := prepared becomesActive name kept documents }, none) := by
  cases becomesActive <;> rfl

/-- A creation does not commit before its end. -/
theorem commit_not_mem_creation : .commit ∉ creation new := by
  cases h : new.active <;> simp [creation, preparation, h]

/-- A change does not commit before its end. -/
theorem commit_not_mem_alteration : .commit ∉ alteration d c := by
  by_cases h : c.active = .set true <;> simp [alteration, preparation, h]

/-- The session of a creation comes to what the creation comes to. -/
theorem result_creation :
    Session.result ((Session.start r.documents).run (creation new ++ [.commit])) =
      (r.create new).map fun write => write.2.documents := by
  rw [creation, Session.result_write _ _ _ (run_preparation _ _ _ _), create_eq_map, Session.execute]
  cases insert new (prepared new.active new.name none r.documents) <;> rfl

/-- The session of a change comes to what the change comes to. -/
theorem result_alteration :
    Session.result ((Session.start r.documents).run (alteration d c ++ [.commit])) =
      (r.change d c).map fun write => write.2.documents := by
  rw [alteration, Session.result_write _ _ _ (run_preparation _ _ _ _), Session.execute]
  simp only [change, prepared, decide_eq_true_eq]
  cases changed d c <;> rfl

/-- The documents that a write leaves: those it comes to, or those from before. -/
def documentsAfter (r : Registry) :
    Except StoreFault (StoredDocument × Registry) → List StoredDocument
  | .ok (_, after) => after.documents
  | .error _ => r.documents

/-- The session of a creation commits what the creation leaves, or nothing. -/
theorem committed_creation :
    ((Session.start r.documents).run (creation new ++ [.commit])).1.committed =
      r.documentsAfter (r.create new) := by
  rw [Session.committed_eq commit_not_mem_creation, result_creation]
  cases r.create new <;> rfl

/-- The session of a change commits what the change leaves, or nothing. -/
theorem committed_alteration :
    ((Session.start r.documents).run (alteration d c ++ [.commit])).1.committed =
      r.documentsAfter (r.change d c) := by
  rw [Session.committed_eq commit_not_mem_alteration, result_alteration]
  cases r.change d c <;> rfl

end Registry

end Rulebook
