import Mathlib
import ReqSys.Foundation.Numbering
import ReqSys.ServiceCases.Provenance

/-!
# Service management: the numbers of assignments and approvals

Assignments and approvals are numbered within their case. The next number is one more than the
largest one that the session has read, and nothing in the tables keeps two sessions from inserting
the same number: the column is not part of a unique key.

In every interleaving the numbers are rooted (`Provenance`): a row has number 1 or follows one of
the same case, and an assignment records the holder of *a* row with the previous number.
`numbered_iff` is what it takes for the numbers to be `1, …, n`: every row that is committed still
is the next one.
-/

namespace ReqSys

namespace ServiceCases

/-- The assignments of every case are numbered `1, …, n`, the approvals too, and every assignment
but the first records the group and the assignee of the one before it. -/
structure Tables.Numbered (db : Tables) : Prop where
  assignments : ∀ c, ∃ n, (Table.numbers CaseAssignment.caseId CaseAssignment.sequence c
    db.assignments).Perm (List.range' 1 n)
  approvals : ∀ c, ∃ n, (Table.numbers CaseApproval.caseId CaseApproval.sequence c
    db.approvals).Perm (List.range' 1 n)
  previous : ∀ a ∈ db.assignments, ∀ b ∈ db.assignments, b.caseId = a.caseId →
    a.sequence = b.sequence + 1 →
      a.previousGroup = some b.assignmentGroup ∧ a.previousAssignee = b.assignee

/-- The number of the row still is the next one of its case. -/
def Write.StillNext (db : Tables) : Write → Prop
  | assignment r =>
    r.sequence = nextSequence ((db.currentAssignment r.caseId).map CaseAssignment.sequence)
  | approval r => r.sequence = nextSequence ((db.lastApproval r.caseId).map CaseApproval.sequence)
  | _ => True

instance (db : Tables) : DecidablePred (Write.StillNext db)
  | .assignment r => inferInstanceAs (Decidable (r.sequence = _))
  | .approval r => inferInstanceAs (Decidable (r.sequence = _))
  | .link _ | .rootCause _ | .sla _ | .decision _ _ | .evidence _ => instDecidableTrue

/-- The row that a call commits still is the next one of its case. -/
def CommitsNext (db : Tables) (x : ℕ × OpStmt × OpEnv) : Prop :=
  ∀ c ∈ db.committed x, c.1.StillNext db

instance (db : Tables) (x : ℕ × OpStmt × OpEnv) : Decidable (CommitsNext db x) :=
  inferInstanceAs (Decidable (∀ c ∈ db.committed x, c.1.StillNext db))

/-! ## One statement -/

section Step

variable {db db' : Tables}

theorem Provenance.rooted_assignments (h : Provenance db) :
    Table.Rooted CaseAssignment.caseId CaseAssignment.sequence db.assignments := by
  intro a ha
  rcases h.assignments a ha with ⟨hone, -⟩ | ⟨b, hb, hcase, hseq, -⟩
  · exact .inl hone
  · exact .inr ⟨b, hb, hcase, hseq⟩

theorem Provenance.rooted_approvals (h : Provenance db) :
    Table.Rooted CaseApproval.caseId CaseApproval.sequence db.approvals :=
  h.approvals

/-- Numbers are `1, …, n` as soon as they are unique; the holders before are then the right ones. -/
theorem Provenance.numbered_iff (h : Provenance db) : db.Numbered ↔
    Table.Keyed (fun a : CaseAssignment ↦ (a.caseId, a.sequence)) db.assignments ∧
      Table.Keyed (fun a : CaseApproval ↦ (a.caseId, a.sequence)) db.approvals := by
  rw [Table.keyed_iff_perm_range h.rooted_approvals]
  constructor
  · exact fun hnum ↦ ⟨(Table.keyed_iff_perm_range h.rooted_assignments).mpr hnum.assignments,
      hnum.approvals⟩
  · rintro ⟨hkeyed, happrovals⟩
    refine ⟨(Table.keyed_iff_perm_range h.rooted_assignments).mp hkeyed, happrovals,
      fun a ha b hb hcase hseq ↦ ?_⟩
    rcases h.assignments a ha with ⟨hone, -⟩ | ⟨b', hb', hcase', hseq', hgroup, hassignee⟩
    · have := h.rooted_assignments.one_le hb
      omega
    · have hsame : b' = b := hkeyed.eq_of_key_eq hb' hb
        (Prod.ext (hcase'.trans hcase.symm) (by simp only; omega))
      subst hsame
      exact ⟨hgroup, hassignee⟩

variable {t : EventType} {op : OpStmt} {i : ℕ} {e : OpEnv}

/-- **A statement keeps the numbers** exactly when the row it commits still is the next one. -/
theorem numbered_exec (hI : Provenance db) (h : db.Numbered) (hop : op.Logs t)
    (hkeeps : provenance.Keeps i db (opMachine.exec i op e db).1) :
    (opMachine.exec i op e db).1.Numbered ↔ CommitsNext db (i, op, e) := by
  obtain ⟨hassign, happrove⟩ := hI.numbered_iff.mp h
  have hI' : Provenance (opMachine.exec i op e db).1 := hkeeps.inv
  rw [hI'.numbered_iff]
  obtain ⟨hnone, d, hexec, -⟩ | ⟨w, ev, hsome, hexec, -⟩ := exec_cases hop i e db
  · rw [hexec]
    exact iff_of_true ⟨hassign, happrove⟩ (forall_committed_of_none hnone)
  · rw [CommitsNext, forall_committed_iff hsome, hexec]
    rw [hexec] at hI'
    cases w with
    | assignment r =>
      refine (and_iff_left happrove).trans ?_
      exact Table.keyed_concat_iff hassign hI.rooted_assignments hI'.rooted_assignments
    | approval r =>
      refine (and_iff_right hassign).trans ?_
      exact Table.keyed_concat_iff happrove hI.rooted_approvals hI'.rooted_approvals
    | decision id d =>
      refine iff_of_true ⟨hassign, ?_⟩ trivial
      have hcolumns : (Table.update CaseApproval.approvalId id (CaseApproval.decide d)
          db.approvals).map (fun a ↦ (a.caseId, a.sequence))
          = db.approvals.map fun a ↦ (a.caseId, a.sequence) := by
        refine Table.map_update (fun a ↦ ?_) _
        rfl
      exact (congrArg List.Nodup hcolumns).mpr happrove
    | _ => exact iff_of_true ⟨hassign, happrove⟩ trivial

end Step

/-! ## Whole runs -/

/-- The operations in which every row that is committed still is the next one of its case. -/
def nextCommits (cfg : OpConfig) : TransitionSystem OpSessions OpMove :=
  (operations cfg).restrict fun p m ↦ ∀ x ∈ p.nextCall m.1, CommitsNext p.store x

theorem numbered_init : ({} : Tables).Numbered :=
  ⟨fun _ ↦ ⟨0, List.Perm.nil⟩, fun _ ↦ ⟨0, List.Perm.nil⟩,
    fun _ ha ↦ absurd ha List.not_mem_nil⟩

/-- The inputs of a session, with the id that `uuid4` gives it. -/
def sampleUuid (uuid4 : String) : OpEnv where
  toEnv := { sampleEnv with uuid4 }

/-- Session 1 assigns a case; session 2 loads the case before or after that, and then assigns it. -/
def sampleAssignments (before after : ℕ) : List (Move OpRequest OpEnv) :=
  sampleAlone 0 (.create sampleCreate "c-1")
    ++ .start 2 (.assign sampleCaseId (sampleAssignment "campo" "e-2") "c-3")
      :: List.replicate before (.advance 2 (sampleUuid "a-2"))
    ++ sampleAlone 1 (.assign sampleCaseId sampleRedes "c-2")
    ++ List.replicate after (.advance 2 (sampleUuid "a-2"))

end ServiceCases

end ReqSys
