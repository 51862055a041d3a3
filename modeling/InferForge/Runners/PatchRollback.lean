import InferForge.Runners.PatchExecutor

/-! Whether a run that does not place its patch leaves the plugin as it was. -/
namespace InferForge
open Py Effect Effect.Prog ResultValidation

/-- Installing changes the source. -/
def Plugin.Installs (parses : Text → Bool) (plugin : Plugin) : Prop :=
  hooked plugin.init = false ∧ parses (withHook plugin.init) = true

theorem hook_hooked : hooked hook = true := by decide +kernel

/-- A source that ends in the hook is hooked already. -/
theorem withHook_ne (fresh : hooked source = false) : withHook source ≠ source := by
  intro same
  have inside : hook.codes <:+: source.codes := by
    rw [← same]
    exact (List.suffix_append _ _).isInfix
  have marked : hooked source = true :=
    decide_eq_true ((of_decide_eq_true hook_hooked).trans inside)
  rw [fresh] at marked
  cases marked

theorem Plugin.install_init {parses : Text → Bool} {plugin : Plugin} :
    (plugin.install parses).init = plugin.init ↔ ¬ plugin.Installs parses := by
  unfold install Installs
  by_cases changes : (!hooked plugin.init && parses (withHook plugin.init)) = true
  · have split : hooked plugin.init = false ∧ parses (withHook plugin.init) = true := by
      simpa using changes
    simp only [if_pos changes]
    exact iff_of_false (withHook_ne split.1) fun stays => stays split
  · simp only [if_neg changes, true_iff]
    rintro ⟨fresh, readable⟩
    simp [fresh, readable] at changes

/-- Removing puts the backup in place, if there is one. -/
theorem Plugin.remove_init (plugin : Plugin) :
    plugin.remove.init = plugin.backup.getD plugin.init := by
  unfold remove
  cases plugin.backup <;> rfl

namespace Placement
variable (placement : Placement)

/-- The patch was applied, as far as the tool said. -/
def Started : Prop := placement.mkdir = .ok () ∧ placement.applying.escaped = none

/-- Something speaks against the patch: an exception of the trial, the grading or the contract. -/
inductive Refuses : Prop where
  | tried (raised : placement.tried = .error (.raised name message))
  | graded (answered : placement.tried = .ok (server, validation))
      (rejected : placement.grade server validation = .ok (.rejected refusal))
  | validated (answered : placement.tried = .ok (server, validation))
      (passed : placement.grade server validation = .ok (.passed cases minimum))
      (read : placement.contract = .ok document)
      (judged : validatePatchPlacement placement.host (placement.report server cases minimum)
        document = .ok errors) (wrong : errors ≠ [])

/-- Everything speaks for the patch, in this report. -/
inductive Accepts : Dict → Prop where
  | mk (answered : placement.tried = .ok (server, validation))
      (passed : placement.grade server validation = .ok (.passed cases minimum))
      (read : placement.contract = .ok document)
      (judged : validatePatchPlacement placement.host (placement.report server cases minimum)
        document = .ok []) : Accepts (placement.report server cases minimum)

/-- No accepted report can be written down. -/
def Unreported : Prop :=
  ∀ report, placement.Accepts report → placement.write "placement_report.json" (.obj report) ≠ .ok ()

/-- The status of a placement. -/
def placedStatus (report : Dict) : Dict :=
  Dict.set (Dict.merge placement.status report) "state" (.str "PATCH_PLACED")

/-- The report of an accepted placement can be written down, and its status as well. -/
def Places : Prop :=
  placement.Started ∧ ∃ report, placement.Accepts report ∧
    placement.write "placement_report.json" (.obj report) = .ok () ∧
    placement.write "status.json" (.obj (placement.placedStatus report)) = .ok ()

/-- The plugin after the patch tool was called to apply. -/
def applied (plugin : Plugin) : Plugin :=
  if placement.applying.reached then plugin.install placement.parses else plugin

/-- The plugin after the patch tool was called to remove. -/
def removed (plugin : Plugin) : Plugin :=
  if placement.removing.reached then plugin.remove else plugin

section Rules
variable {placement : Placement} {plugin : Plugin}

theorem wp_tool {call : ToolRun} {script : Plugin → Plugin} {Q : Unit → Plugin → Prop}
    {E : Escape → Plugin → Prop} :
    wp (tool call script) Q E plugin ↔
      (call.escaped = none → Q () (if call.reached then script plugin else plugin)) ∧
      ∀ e, call.escaped = some e → E e (if call.reached then script plugin else plugin) := by
  unfold tool
  cases reached : call.reached <;> cases escaped : call.escaped <;> simp

theorem exn_ok {result : Except Exn α} (returned : exn result = .ok a) : result = .ok a := by
  cases result with
  | ok b => exact congrArg Except.ok (Except.ok.inj returned)
  | error e => cases returned

theorem exn_error {result : Except Exn α} (raised : exn result = .error escape) :
    ∃ e, result = .error e := by
  cases result with
  | ok b => cases raised
  | error e => exact ⟨e, rfl⟩

theorem grade_rejected (rejected : placement.grade server validation = .ok (.rejected refusal)) :
    Dict.getD refusal "state" (.str "PATCH_REJECTED") = .str "PATCH_REJECTED" := by
  simp only [grade, bind_ok] at rejected
  obtain ⟨_, _, _, _, least, _, rest⟩ := rejected
  split at rest
  · cases rest
    rfl
  · simp only [bind_ok] at rest
    obtain ⟨_, _, rest⟩ := rest
    split at rest
    · cases rest
      rfl
    · split at rest
      · cases rest
        rfl
      · cases rest
        rfl
      · simp only [bind_ok] at rest
        obtain ⟨_, _, rest⟩ := rest
        split at rest <;> cases rest
        rfl

theorem not_refuses_stopped (answered : placement.tried = .error .stopped) :
    ¬ placement.Refuses := by
  rintro (raised | answers | answers)
  · cases answered.symm.trans raised
  · cases answered.symm.trans answers
  · cases answered.symm.trans answers

theorem not_refuses_ungraded (answered : placement.tried = .ok (server, validation))
    (failed : placement.grade server validation = .error e) : ¬ placement.Refuses := by
  rintro (raised | ⟨answers, rejected⟩ | ⟨answers, passed⟩)
  · cases answered.symm.trans raised
  · cases answered.symm.trans answers
    cases failed.symm.trans rejected
  · cases answered.symm.trans answers
    cases failed.symm.trans passed

/-- After the grading only the contract can refuse. -/
theorem refuses_passed (answered : placement.tried = .ok (server, validation))
    (passed : placement.grade server validation = .ok (.passed cases minimum)) :
    placement.Refuses ↔ ∃ document errors, placement.contract = .ok document ∧
      validatePatchPlacement placement.host (placement.report server cases minimum) document =
        .ok errors ∧ errors ≠ [] := by
  constructor
  · rintro (raised | ⟨answers, rejected⟩ | ⟨answers, passes, read, judged, wrong⟩)
    · cases answered.symm.trans raised
    · cases answered.symm.trans answers
      cases passed.symm.trans rejected
    · cases answered.symm.trans answers
      cases passed.symm.trans passes
      exact ⟨_, _, read, judged, wrong⟩
  · rintro ⟨document, errors, read, judged, wrong⟩
    exact .validated answered passed read judged wrong

theorem accepts_unique {one other : Dict} (accepts : placement.Accepts one)
    (accepts' : placement.Accepts other) : one = other := by
  obtain ⟨answered, passed, _, _⟩ := accepts
  obtain ⟨answered', passed', _, _⟩ := accepts'
  cases answered.symm.trans answered'
  cases passed.symm.trans passed'
  rfl

theorem accepts_clear {accepted : Dict} (accepts : placement.Accepts accepted) : ¬ placement.Refuses := by
  obtain ⟨answered, passed, read, judged⟩ := accepts
  rw [refuses_passed answered passed]
  rintro ⟨document, errors, read', judged', wrong⟩
  cases read.symm.trans read'
  exact wrong (Except.ok.inj (judged'.symm.trans judged))

/-- What the contract makes of a report that passed the grading. -/
theorem conclude_spec (answered : placement.tried = .ok (server, validation))
    (passed : placement.grade server validation = .ok (.passed cases minimum)) :
    wp (placement.conclude (placement.report server cases minimum))
      (fun report after =>
        placement.Refuses ∧ after = placement.removed plugin ∧
            Dict.getD report "state" (.str "PATCH_REJECTED") = .str "PATCH_REJECTED" ∨
          ¬ placement.Refuses ∧ after = plugin ∧ placement.Accepts report ∧
            placement.write "placement_report.json" (.obj report) = .ok ())
      (fun _ after => placement.Refuses ∧ after = placement.removed plugin ∨
        ¬ placement.Refuses ∧ after = plugin ∧ placement.Unreported) plugin := by
  have refuses := refuses_passed answered passed
  unfold conclude
  rw [wp_bind, wp_lift]
  refine ⟨fun document read => ?_, fun e failed => .inr ⟨fun refused => ?_, rfl, ?_⟩⟩
  · rw [wp_bind, wp_lift]
    refine ⟨fun errors judged => ?_, fun e failed => .inr ⟨fun refused => ?_, rfl, ?_⟩⟩
    · have judged := exn_ok judged
      dsimp only
      rw [wp_ite]
      constructor
      · intro empty
        obtain rfl := List.isEmpty_iff.mp empty
        have clear := accepts_clear (.mk answered passed read judged)
        simp only [wp_bind, wp_pure, wp_lift]
        refine ⟨fun _ written => .inr ⟨clear, trivial, .mk answered passed read judged, written⟩,
          fun e unwritten => .inr ⟨clear, trivial, fun other accepts written => ?_⟩⟩
        rw [accepts_unique accepts (.mk answered passed read judged)] at written
        cases unwritten.symm.trans written
      · intro wrong
        have refused : placement.Refuses :=
          refuses.mpr ⟨document, errors, read, judged, fun empty => wrong (by simp [empty])⟩
        simp only [wp_bind, remove, wp_tool, wp_pure, wp_lift]
        exact ⟨fun _ => ⟨fun _ _ => .inl ⟨refused, rfl, rfl⟩, fun _ _ => .inl ⟨refused, rfl⟩⟩,
          fun _ _ => .inl ⟨refused, rfl⟩⟩
    · obtain ⟨document', errors, read', judged, _⟩ := refuses.mp refused
      cases read.symm.trans read'
      rw [judged] at failed
      cases failed
    · rintro _ ⟨answers, passes, read', judged⟩
      cases answered.symm.trans answers
      cases passed.symm.trans passes
      cases read.symm.trans read'
      rw [judged] at failed
      cases failed
  · obtain ⟨document, _, read, _⟩ := refuses.mp refused
    cases failed.symm.trans read
  · rintro _ ⟨_, _, read, _⟩
    cases failed.symm.trans read

/-- What `_place` leaves: the plugin without the patch where something spoke against it, the
plugin with the patch where nothing did. -/
theorem place_spec : wp placement.place
    (fun report after => placement.Started ∧
      (placement.Refuses ∧ after = placement.removed (placement.applied plugin) ∧
          Dict.getD report "state" (.str "PATCH_REJECTED") = .str "PATCH_REJECTED" ∨
        ¬ placement.Refuses ∧ after = placement.applied plugin ∧ placement.Accepts report ∧
          placement.write "placement_report.json" (.obj report) = .ok ()))
    (fun _ after => placement.Started ∧
        (placement.Refuses ∧ after = placement.removed (placement.applied plugin) ∨
          ¬ placement.Refuses ∧ after = placement.applied plugin ∧ placement.Unreported) ∨
      ¬ placement.Started ∧ (placement.mkdir = .ok () ∧ after = placement.applied plugin ∨
        placement.mkdir ≠ .ok () ∧ after = plugin)) plugin := by
  unfold place
  rw [wp_bind, wp_lift]
  refine ⟨fun _ made => ?_, fun e failed => .inr ⟨fun started => ?_, .inr ⟨?_, rfl⟩⟩⟩
  · rw [wp_bind, apply, wp_tool]
    refine ⟨fun applied => ?_, fun e escaped => .inr ⟨fun started => ?_, .inl ⟨made, rfl⟩⟩⟩
    · have started : placement.Started := ⟨made, applied⟩
      change wp _ _ _ (placement.applied plugin)
      generalize placement.applied plugin = patched
      cases answered : placement.tried with
      | error e =>
        cases e with
        | raised name message =>
          have refuses : placement.Refuses := .tried answered
          simp only [wp_bind, remove, wp_tool, wp_raise]
          exact ⟨fun _ => .inl ⟨started, .inl ⟨refuses, rfl⟩⟩,
            fun _ _ => .inl ⟨started, .inl ⟨refuses, rfl⟩⟩⟩
        | stopped =>
          refine .inl ⟨started, .inr ⟨not_refuses_stopped answered, rfl, ?_⟩⟩
          rintro _ ⟨answers, _⟩
          cases answered.symm.trans answers
      | ok answers =>
        obtain ⟨server, validation⟩ := answers
        simp only [wp_bind, wp_lift]
        refine ⟨fun verdict graded => ?_, fun e failed => ?_⟩
        · have graded := exn_ok graded
          cases verdict with
          | rejected refusal =>
            have refuses : placement.Refuses := .graded answered graded
            simp only [wp_bind, remove, wp_tool, wp_pure]
            exact ⟨fun _ => ⟨started, .inl ⟨refuses, rfl, grade_rejected graded⟩⟩,
              fun _ _ => .inl ⟨started, .inl ⟨refuses, rfl⟩⟩⟩
          | passed cases minimum =>
            apply (conclude_spec answered graded).mono
            · exact fun _ _ _ left => ⟨started, left⟩
            · exact fun _ _ _ left => .inl ⟨started, left⟩
        · obtain ⟨e', failed⟩ := exn_error failed
          refine .inl ⟨started, .inr ⟨not_refuses_ungraded answered failed, trivial, ?_⟩⟩
          rintro _ ⟨answers, passed, _⟩
          cases answered.symm.trans answers
          cases failed.symm.trans passed
    · rw [started.2] at escaped
      cases escaped
  · rw [started.1] at failed
    cases failed
  · rw [failed]
    rintro ⟨⟩

end Rules
/-- A run that does not place the patch leaves the source of the plugin as it was. -/
def RollsBack (placement : Placement) (plugin : Plugin) : Prop :=
  (∃ status, (placement.run plugin).1 = .ok status ∧
      Dict.getD status "state" .null = .str "PATCH_PLACED") ∨
    (placement.run plugin).2.1.init = plugin.init

section Outcome
variable {placement : Placement} {plugin : Plugin}

/-- The plugin that a run leaves. -/
def Leaves (placement : Placement) (plugin after : Plugin) : Prop :=
  placement.Started ∧ (placement.Refuses ∧ after = placement.removed (placement.applied plugin) ∨
      ¬ placement.Refuses ∧ after = placement.applied plugin) ∨
    ¬ placement.Started ∧ (placement.mkdir = .ok () ∧ after = placement.applied plugin ∨
      placement.mkdir ≠ .ok () ∧ after = plugin)

/-- The status that a run returns, and the plugin it leaves. -/
theorem run_spec : wp placement.run
    (fun status after => placement.Leaves plugin after ∧
      (Dict.getD status "state" .null = .str "PATCH_PLACED" ↔ placement.Places))
    (fun _ after => placement.Leaves plugin after ∧ ¬ placement.Places) plugin := by
  unfold run
  rw [wp_bind, wp_attempt]
  apply place_spec.mono
  · rintro report after - ⟨started, ⟨refuses, left, rejected⟩ | ⟨clear, left, accepts, reported⟩⟩
    · have leaves : placement.Leaves plugin after := .inl ⟨started, .inl ⟨refuses, left⟩⟩
      have unplaced : ¬ placement.Places := by
        rintro ⟨_, _, accepts, _⟩
        exact accepts_clear accepts refuses
      simp only [published, rejected, wp_bind, wp_lift, wp_pure]
      refine ⟨fun _ _ => ⟨leaves, ?_⟩, fun _ _ => ⟨leaves, unplaced⟩⟩
      refine iff_of_false ?_ unplaced
      simp [Dict.getD]
    · have leaves : placement.Leaves plugin after := .inl ⟨started, .inr ⟨clear, left⟩⟩
      have placed : Dict.getD report "state" (.str "PATCH_REJECTED") = .str "PATCH_PLACED" := by
        cases accepts
        rfl
      simp only [published, placed, wp_bind, wp_lift, wp_pure]
      refine ⟨fun _ written => ⟨leaves, iff_of_true ?_ ?_⟩, fun _ unwritten => ⟨leaves, ?_⟩⟩
      · simp [Dict.getD]
      · exact ⟨started, report, accepts, reported, written⟩
      · rintro ⟨_, other, accepts', _, written⟩
        rw [accepts_unique accepts' accepts] at written
        cases unwritten.symm.trans written
  · rintro escape after - ended
    have outcome : placement.Leaves plugin after ∧ ¬ placement.Places := by
      rcases ended with ⟨started, ⟨refuses, left⟩ | ⟨clear, left, unreported⟩⟩ | ⟨idle, left⟩
      · refine ⟨.inl ⟨started, .inl ⟨refuses, left⟩⟩, ?_⟩
        rintro ⟨_, _, accepts, _⟩
        exact accepts_clear accepts refuses
      · refine ⟨.inl ⟨started, .inr ⟨clear, left⟩⟩, ?_⟩
        rintro ⟨_, report, accepts, reported, _⟩
        exact unreported report accepts reported
      · exact ⟨.inr ⟨idle, left⟩, fun placed => idle placed.1⟩
    cases escape with
    | stopped => exact outcome
    | raised name message =>
      simp only [published, wp_bind, wp_lift, wp_pure]
      refine ⟨fun _ _ => ⟨outcome.1, iff_of_false ?_ outcome.2⟩, fun _ _ => outcome⟩
      simp [Dict.getD, status, Dict.get?_set]

/-- The removal ran in the Pod. -/
def Undone (placement : Placement) : Prop :=
  placement.Started ∧ placement.Refuses ∧ placement.removing.reached = true

/-- The hook was written to the Pod. -/
def Hooks (placement : Placement) (plugin : Plugin) : Prop :=
  placement.mkdir = .ok () ∧ placement.applying.reached = true ∧ plugin.Installs placement.parses

theorem removed_init (plugin : Plugin) (undoes : placement.removing.reached = true) :
    (placement.removed (placement.applied plugin)).init = plugin.backup.getD plugin.init := by
  unfold removed applied
  rw [if_pos undoes, Plugin.remove_init]
  cases reached : placement.applying.reached with
  | false => rfl
  | true => rfl

theorem applied_init (plugin : Plugin) : (placement.applied plugin).init = plugin.init ↔
    ¬ (placement.applying.reached = true ∧ plugin.Installs placement.parses) := by
  unfold applied
  cases reached : placement.applying.reached with
  | false => simp
  | true => simpa using Plugin.install_init

/-- When the plugin that a run leaves has its old source. -/
theorem leaves_init (left : placement.Leaves plugin after) : after.init = plugin.init ↔
    placement.Undone ∧ (plugin.backup = none ∨ plugin.backup = some plugin.init) ∨
      ¬ placement.Undone ∧ ¬ placement.Hooks plugin := by
  have stale : plugin.backup.getD plugin.init = plugin.init ↔
      plugin.backup = none ∨ plugin.backup = some plugin.init := by
    cases plugin.backup <;> simp
  -- without the removal the patched plugin stays
  have kept (made : placement.mkdir = .ok ()) (idle : ¬ placement.Undone)
      (same : after = placement.applied plugin) : after.init = plugin.init ↔
        placement.Undone ∧ (plugin.backup = none ∨ plugin.backup = some plugin.init) ∨
          ¬ placement.Undone ∧ ¬ placement.Hooks plugin := by
    rw [same, applied_init]
    simp [idle, Hooks, made]
  rcases left with ⟨started, ⟨refuses, same⟩ | ⟨clear, same⟩⟩ | ⟨unstarted, ⟨made, same⟩ | ⟨unmade, same⟩⟩
  · by_cases undoes : placement.removing.reached = true
    · have undone : placement.Undone := ⟨started, refuses, undoes⟩
      rw [same, removed_init plugin undoes, stale]
      simp [undone]
    · apply kept started.1 (fun undone => undoes undone.2.2)
      rw [same, removed, if_neg undoes]
  · exact kept started.1 (fun undone => clear undone.2.1) same
  · exact kept made (fun undone => unstarted undone.1) same
  · exact iff_of_true (same ▸ rfl)
      (.inr ⟨fun undone => unstarted undone.1, fun hooks => unmade hooks.1⟩)

end Outcome
end Placement

/-- When a run leaves the plugin as it was. A run that places its patch has nothing to undo. Of the
others, those whose removal ran in the Pod go back to the backup, so there must have been none, or one
of the same source; where no removal ran, the hook must not have been written. -/
theorem rejected_rolls_back (placement : Placement) (plugin : Plugin) :
    placement.RollsBack plugin ↔ placement.Places ∨
      placement.Undone ∧ (plugin.backup = none ∨ plugin.backup = some plugin.init) ∨
      ¬ placement.Undone ∧ ¬ placement.Hooks plugin := by
  have spec : wp placement.run _ _ plugin := Placement.run_spec
  obtain ⟨normal, raised⟩ := wp_iff.mp spec
  unfold Placement.RollsBack
  rcases outcome : (placement.run plugin).1 with escape | status
  · obtain ⟨left, unplaced⟩ := raised escape outcome
    rw [← Placement.leaves_init left]
    simp [unplaced]
  · obtain ⟨left, placed⟩ := normal status outcome
    rw [← Placement.leaves_init left, ← placed]
    simp

/-- A run of a tool that works, on a service with this state and a comparison with these results. -/
def Placement.sample (state : Text) (results : List Json) : Placement where
  host := .sample
  pod := "pod"
  sitePackages := "/site-packages"
  contractGiven := true
  parses _ := true
  mkdir := .ok ()
  applying := ⟨true, none⟩
  removing := ⟨true, none⟩
  rerun := .ok [("state", .str state)]
  triage := some (.ok (.obj [("captured_arguments", .obj [("head_num", .int 32),
    ("kv_head_num", .int 8), ("head_dim", .int 128), ("block_size", .int 16), ("batch_num", .int 1)])]))
  compare _ := .ok [("reproduction", .obj [("reproduced", .bool true)]), ("results", .arr results)]
  write _ _ := .ok ()
  contract := .error (.raised "FileNotFoundError" "task.yaml")

/-- What is seen of a run that rolls back. -/
theorem Placement.RollsBack.seen (rolls : Placement.RollsBack placement plugin) :
    (match (placement.run plugin).1 with
      | .ok status => (Dict.getD status "state" .null).eq (.str "PATCH_PLACED")
      | .error _ => false) = true ∨ (placement.run plugin).2.1.init = plugin.init := by
  rcases rolls with ⟨status, returned, placed⟩ | same
  · rw [returned]
    exact .inl ((Json.eq_str_right _ _).mpr placed)
  · exact .inr same

/-- A result that is no mapping ends the run before the removal, and a removal goes back to the
backup of an earlier placement. -/
theorem rejected_rolls_back_fails :
    ¬ (Placement.sample "DEPLOYMENT_READY" [.null]).RollsBack ⟨"import torch", none⟩ ∧
      ¬ (Placement.sample "NEEDS_HUMAN" []).RollsBack ⟨"import torch", some "import os"⟩ := by
  constructor
  · intro rolls
    exact absurd rolls.seen (by decide +kernel)
  · intro rolls
    exact absurd rolls.seen (by decide +kernel)

end InferForge
