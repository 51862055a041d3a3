import InferForge.Scheduler.Tasks

/-! Task ids. A row's id is built from what the table must keep unique, so two rows
share an id exactly when they share run, operator key and stage. Operator keys are
SHA-256 digests; their fixed length is what makes the parts recoverable from a run
id that may itself contain colons. -/
namespace InferForge
open Py

namespace Py.Text

theorem append_right_cancel {a b c : Text} (same : a ++ c = b ++ c) : a = b :=
  ext (List.append_cancel_right (by simpa only [codes_append] using congrArg codes same))

theorem append_left_cancel {a b c : Text} (same : c ++ a = c ++ b) : a = b :=
  ext (List.append_cancel_left (by simpa only [codes_append] using congrArg codes same))

/-- Appended texts of equal length at the end split in one way. -/
theorem append_inj {a b c d : Text} (same : a ++ c = b ++ d)
    (long : c.codes.length = d.codes.length) : a = b ∧ c = d := by
  have codes := congrArg codes same
  simp only [codes_append] at codes
  obtain ⟨front, back⟩ := List.append_inj' codes long
  exact ⟨ext front, ext back⟩

theorem getLast?_append {a b : Text} (last : b.codes.getLast? = some c) :
    (a ++ b).codes.getLast? = some c := by
  simp [List.getLast?_append, last]

end Py.Text

namespace Stage

/-- The last letter of a stage name tells the stages apart. -/
def lastLetter : Stage → CodePoint
  | .torch => 104
  | .xpu => 117
  | .integration => 110
  | .diagnosis => 115

theorem text_last (stage : Stage) : stage.text.codes.getLast? = some stage.lastLetter := by
  cases stage <;> decide

theorem lastLetter_inj (same : lastLetter a = lastLetter b) : a = b := by
  cases a <;> cases b <;> first | rfl | exact absurd same (by decide)

end Stage

theorem stageTaskId_last (run key : Text) (stage : Stage) :
    (stageTaskId run key stage).codes.getLast? = some stage.lastLetter :=
  Text.getLast?_append stage.text_last

theorem diagnosisId_last (task : Text) :
    (diagnosisId task).codes.getLast? = some (Stage.lastLetter .diagnosis) :=
  Text.getLast?_append (by decide)

theorem stageTaskId_inj (same : stageTaskId run key stage = stageTaskId run' key' stage')
    (long : key.codes.length = 64) (long' : key'.codes.length = 64) :
    run = run' ∧ key = key' ∧ stage = stage' := by
  have last := congrArg (fun t : Text => t.codes.getLast?) same
  simp only [stageTaskId_last, Option.some.injEq] at last
  obtain rfl := Stage.lastLetter_inj last
  have front := Text.append_right_cancel (Text.append_right_cancel same)
  obtain ⟨front, keys⟩ := Text.append_inj front (long.trans long'.symm)
  exact ⟨Text.append_right_cancel front, keys, rfl⟩

theorem diagnosisId_inj (same : diagnosisId a = diagnosisId b) : a = b :=
  Text.append_right_cancel same

theorem diagnosisId_ne_stageTaskId (operator : stage ≠ .diagnosis) :
    diagnosisId task ≠ stageTaskId run key stage := by
  intro same
  have last := congrArg (fun t : Text => t.codes.getLast?) same
  simp only [diagnosisId_last, stageTaskId_last, Option.some.injEq] at last
  exact operator (Stage.lastLetter_inj last).symm

theorem diagnosisId_ne_self (task : Text) : diagnosisId task ≠ task := by
  intro same
  have long := congrArg (fun t : Text => t.codes.length) same
  simp only [diagnosisId, Text.codes_append, List.length_append] at long
  have : (Text.ofString ":diagnosis").codes.length = 10 := by decide
  omega

theorem next_prev (h : Stage.next? stage = some next) : next.prev? = some stage := by
  cases stage <;> simp only [Stage.next?, Option.some.injEq, reduceCtorEq] at h <;> subst h <;> rfl

theorem prev_operator (h : Stage.prev? stage = some before) :
    stage ≠ .diagnosis ∧ before ≠ .diagnosis ∧ before ≠ stage := by
  cases stage <;> simp only [Stage.prev?, Option.some.injEq, reduceCtorEq] at h <;> subst h <;> decide

theorem next_operator (h : Stage.next? stage = some next) :
    stage ≠ .diagnosis ∧ next ≠ .diagnosis ∧ stage ≠ next := by
  cases stage <;> simp only [Stage.next?, Option.some.injEq, reduceCtorEq] at h <;> subst h <;> decide

end InferForge
