import RunArchive.Run.Error

/-!
# Valid summaries

The check of a summary decides its validity, and a summary that is accepted is handed on as it is.
-/

namespace RunArchive.Summary

variable {summary : Summary}

theorem check_valid (valid : summary.Valid) : summary.check = .ok () := by
  rcases valid with ⟨counted, ordered⟩
  rw [check, if_neg (UInt32.not_lt.mpr counted)]
  cases ended : summary.endedAt with
  | none => rfl
  | some last => exact if_neg (ordered last ended)

theorem check_invalid (invalid : ¬ summary.Valid) :
    ∃ fault, summary.check = .error fault := by
  rw [check]
  by_cases counted : summary.total < summary.completed
  · exact ⟨_, if_pos counted⟩
  · rw [if_neg counted]
    cases ended : summary.endedAt with
    | none =>
        refine absurd ⟨UInt32.not_lt.mp counted, ?_⟩ invalid
        intro last same
        rw [ended] at same
        cases same
    | some last =>
        by_cases early : last.Before summary.startedAt
        · exact ⟨_, if_pos early⟩
        · refine absurd ⟨UInt32.not_lt.mp counted, ?_⟩ invalid
          intro other same
          rw [ended] at same
          cases same
          exact early

theorem validated_valid (valid : summary.Valid) : summary.validated = .ok summary := by
  rw [validated, check_valid valid]

theorem validated_refused {fault : Fault} (refused : summary.check = .error fault) :
    summary.validated = .error (.invalidSummary fault) := by
  rw [validated, refused]

/-- Exactly the valid summaries are accepted, and each as it is. -/
theorem validated_eq_ok_iff {accepted : Summary} :
    summary.validated = .ok accepted ↔ accepted = summary ∧ summary.Valid := by
  constructor
  · intro outcome
    by_cases valid : summary.Valid
    · rw [validated_valid valid] at outcome
      exact ⟨(Except.ok.inj outcome).symm, valid⟩
    · rcases check_invalid valid with ⟨fault, refused⟩
      rw [validated_refused refused] at outcome
      cases outcome
  · rintro ⟨rfl, valid⟩
    exact validated_valid valid

end RunArchive.Summary
