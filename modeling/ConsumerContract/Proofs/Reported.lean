/-
This file says what is added to a report, and where the places are that issues name.
Issues are appended in order, and the counters are the numbers of issues of their
severities, so that no issue is lost or counted twice. A place is within another one if
it is that place or lies behind a dot; no place is within two interactions.
-/

import ConsumerContract.Description.Reading
import ConsumerContract.Proofs.Path

namespace ConsumerContract

/-! ### Places -/

namespace Location

/-- The inner place is the outer one or a place inside it. -/
def isWithin (outer inner : String) : Bool :=
  inner = outer || (field outer "").toList.isPrefixOf inner.toList

theorem isWithin_iff {outer inner : String} :
    isWithin outer inner = true ↔ inner = outer ∨ ∃ name, inner = field outer name := by
  rw [isWithin, Bool.or_eq_true, decide_eq_true_iff, List.isPrefixOf_iff_prefix]
  refine or_congr_right ⟨?_, ?_⟩
  · rintro ⟨rest, same⟩
    refine ⟨String.ofList rest, String.toList_inj.mp ?_⟩
    rw [← same]
    simp [field]
  · rintro ⟨name, rfl⟩
    exact ⟨name.toList, by simp [field]⟩

theorem isWithin_refl (place : String) : isWithin place place = true :=
  isWithin_iff.mpr (Or.inl rfl)

theorem isWithin_field (outer name : String) : isWithin outer (field outer name) = true :=
  isWithin_iff.mpr (Or.inr ⟨name, rfl⟩)

theorem field_field (outer first second : String) :
    field (field outer first) second = field outer (field first second) := by
  simp only [field, String.append_assoc]

theorem isWithin_of_field {outer name inner : String}
    (within : isWithin (field outer name) inner = true) : isWithin outer inner = true := by
  rcases isWithin_iff.mp within with rfl | ⟨rest, rfl⟩
  · exact isWithin_field outer name
  · rw [field_field]
    exact isWithin_field outer _

/-- The place of a failure lies inside its message. -/
theorem encoded_eq_field (message : String) (element : Element) (path : Path) :
    ∃ rest, encoded message (some element) path = field message rest := by
  refine ⟨elementField element ++ pathSuffix element path, ?_⟩
  simp only [encoded, field, String.append_assoc]

theorem toList_interaction (position : Nat) :
    (interaction position).toList =
      "interactions[".toList ++ ((Digit.ofNat position).map Digit.toChar ++ [']']) := by
  simp only [interaction, String.toList_append, toList_decimalText, List.append_assoc]
  rfl

theorem toList_of_isWithin_interaction {position : Nat} {place : String}
    (within : isWithin (interaction position) place = true) :
    ∃ rest, place.toList = "interactions[".toList ++
      ((Digit.ofNat position).map Digit.toChar ++ ']' :: rest) := by
  rcases isWithin_iff.mp within with rfl | ⟨name, rfl⟩
  · exact ⟨[], toList_interaction position⟩
  · refine ⟨'.' :: name.toList, ?_⟩
    rw [field, String.toList_append, String.toList_append, toList_interaction]
    simp

/-- No place is within two interactions. -/
theorem isWithin_interaction_unique {position other : Nat} {place : String}
    (first : isWithin (interaction position) place = true)
    (second : isWithin (interaction other) place = true) : position = other := by
  obtain ⟨rest, written⟩ := toList_of_isWithin_interaction first
  obtain ⟨behind, written'⟩ := toList_of_isWithin_interaction second
  exact (Step.index_unique (List.append_cancel_left (written.symm.trans written'))).1

end Location

/-! ### Reports -/

namespace Report

theorem addIssues_eq (report : Report) (issues : List Issue) :
    report.addIssues issues =
      { report with
        issues := report.issues ++ issues
        errors := report.errors + issues.countP (·.severity = .error)
        warnings := report.warnings + issues.countP (·.severity = .warning) } := by
  induction issues generalizing report with
  | nil => simp [addIssues]
  | cons issue rest inductionHypothesis =>
    have step : report.addIssues (issue :: rest) = (report.addIssue issue).addIssues rest := rfl
    rw [step, inductionHypothesis, addIssue]
    cases severe : issue.severity <;> simp [severe] <;> omega

end Report

namespace DescriptionReading

variable (reading : DescriptionReading) (file : String) (report : Report)

theorem issues_addTo :
    (reading.addTo file report).issues =
      report.issues ++ reading.findings.map (·.issue file) := by
  rw [addTo, Report.addIssues_eq]

/-- The issues that are new in the report. -/
theorem drop_issues_addTo :
    (reading.addTo file report).issues.drop report.issues.length =
      reading.findings.map (·.issue file) := by
  rw [issues_addTo, List.drop_left]

theorem interactionsCompiled_addTo :
    (reading.addTo file report).interactionsCompiled =
      report.interactionsCompiled + reading.compiledCount := by
  rw [addTo, Report.addIssues_eq]

end DescriptionReading

end ConsumerContract
