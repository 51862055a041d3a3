import InferForge.Runners.DeploymentProof

/-! Conditions on a proof that has its Pod: what its actions keep, whatever the cluster answers. -/
namespace InferForge
open Py Effect Effect.Prog

/-- The exceptions that no handler of the task runner is for. -/
def Fault.escapes : Fault → Bool
  | .raised e => !(e.isValueError || e.kind == .osError)
  | _ => false

/-- A command to the Pod of the proof whose answer is not parsed as a foreign document. -/
def Plain (pod : Text) : Command → Prop
  | .query (.resource _ _) => False
  | .query _ => True
  | .apply _ => False
  | .copyInto target _ => target = pod
  | .exec _ (.models _) => False
  | .exec _ (.chatRequest _ _ _) => False
  | .exec _ (.bringup ..) => False
  | .exec target _ => target = pod

/-- A failure in the name of a success. -/
def Fault.ready : Fault → Bool
  | .actionFailed state _ =>
      state == Text.ofString "ENVIRONMENT_READY" || state == Text.ofString "DEPLOYMENT_READY"
  | _ => false

/-- A condition that plain commands and the checks `K` keep. -/
structure Steady (config : ClusterConfig) (pod : Text) (K : Text → Prop) (P : Session → Prop) :
    Prop where
  quiet : ∀ {s t}, P s → t.trace = s.trace → t.pod = s.pod → t.attachPod = s.attachPod →
    t.checks = s.checks → P t
  checked : ∀ {s key value}, P s → K key → P (s.checking key value)
  current : ∀ {s}, P s → s.pod = some pod
  attached : ∀ {s other}, P s → given s.attachPod = some other → other = pod
  owned : ∀ {s name}, P s → config.assertOwned name = .ok () → P (s.noting (.owned name))
  ran : ∀ {s command reply}, P s → Plain pod command → P (s.noting (.ran command reply))

/-- `x` keeps `P`, and what it raises has a handler that reports a failure. -/
abbrev Calm (P : Session → Prop) (x : Proof α) : Prop :=
  Preserves P (fun fault s => fault.escapes = false ∧ fault.ready = false ∧ P s) x

/-- `x` keeps `P` unless an exception escapes; then `B` holds. -/
abbrev Endures (P B : Session → Prop) (x : Proof α) : Prop :=
  Preserves P (fun fault s => fault.ready = false ∧ if fault.escapes then B s else P s) x

theorem Calm.endures {x : Proof α} (calm : Calm P x) : Endures P B x := by
  intro s holds
  apply (calm s holds).mono
  · exact fun _ _ _ holds => holds
  · rintro fault t - ⟨caught, failure, holds⟩
    exact ⟨failure, by rwa [if_neg (Bool.eq_false_iff.mp caught)]⟩

/-- `x` keeps `P`, whether it returns or raises. -/
abbrev Kept (P : Session → Prop) (x : Proof α) : Prop := Endures P P x

namespace Kept
variable {P : Session → Prop}

theorem raise {fault : Fault} (fine : fault.ready = false) :
    Kept P (Prog.raise fault : Proof α) :=
  Preserves.raise fun _ holds => ⟨fine, by rwa [ite_self]⟩

theorem lift {result : Except Fault α} (fine : ∀ fault, result = .error fault → fault.ready = false) :
    Kept P (Prog.lift result) :=
  Preserves.lift fun fault raised _ holds => ⟨fine fault raised, by rwa [ite_self]⟩

end Kept

section Answers
variable {site : Site} {P : Session → Prop}

theorem send_yields (command : Command) : Yields P
    (fun result t => ∃ s, P s ∧ t = s.noting (.ran command (.completed result)))
    (site.send command) := by
  apply Yields.read
  intro s holds
  generalize site.cluster s.trace command = reply
  dsimp only
  rw [wlp, wp_bind]
  cases reply with
  | completed result => exact ⟨s, holds, rfl⟩
  | timedOut => trivial
  | refused => trivial

theorem run_yields (result : Except Exn α) :
    Yields P (fun a s => P s ∧ result = .ok a) (Proof.run result) := by
  cases result with
  | ok a => exact fun s holds => ⟨holds, rfl⟩
  | error e => exact fun s _ => trivial

end Answers

theorem run_ready {result : Except Exn α} (raised : result.mapError Fault.raised = .error fault) :
    fault.ready = false := by
  cases result with
  | ok => cases raised
  | error e =>
    rw [← Except.error.inj raised]
    rfl

theorem Kept.run (result : Except Exn α) : Kept P (Proof.run result) := Kept.lift fun _ => run_ready

/-- A loop keeps what its body, its end and the clock keep. -/
theorem preserves_whileBefore {P : Session → Prop} {R : Fault → Session → Prop} {site : Site}
    {body : β → Proof (β ⊕ α)} {expired : β → Proof α} {deadline : Time}
    (tick : Preserves P R Proof.tick) (kept : ∀ b, Preserves P R (body b))
    (ended : ∀ b, Preserves P R (expired b)) (state : β) :
    Preserves P R (site.whileBefore deadline body expired state) := by
  have rounds (n : Nat) (state : β) : Preserves P R (Site.repeatRounds body expired n state) := by
    induction n generalizing state with
    | zero => exact tick.bind fun _ => ended state
    | succ n ih =>
      apply tick.bind
      intro _
      apply (kept state).bind
      intro outcome
      cases outcome with
      | inl next => exact ih next
      | inr result => exact Preserves.pure result
  exact Preserves.read fun s => rounds _ state s

namespace Calm
variable {P : Session → Prop} {K : Text → Prop} {pod : Text} {site : Site}

theorem raise {fault : Fault} (caught : fault.escapes = false) (failure : fault.ready = false) :
    Calm P (Prog.raise fault : Proof α) := Preserves.raise fun _ holds => ⟨caught, failure, holds⟩

theorem actionFailed (state message : Text)
    (failure : (Fault.actionFailed state message).ready = false) :
    Calm P (Proof.actionFailed state message : Proof α) := raise rfl failure

/-- A computation that only fails with a `ValueError`. -/
theorem run {result : Except Exn α} (caught : ∀ e, result = .error e → e.isValueError = true) :
    Calm P (Proof.run result) := by
  cases result with
  | ok a => exact Preserves.pure a
  | error e =>
    apply raise _ rfl
    simp [Fault.escapes, caught e rfl]

theorem attempt {x : Proof α} (calm : Calm P x) : Calm P (Prog.attempt x) :=
  Preserves.attempt calm fun _ _ raised => raised.2.2

/-- A step that looks at the session. -/
theorem read {f : Session → Proof α} (rest : ∀ s, Calm P (f s)) : Calm P (Prog.read >>= f) :=
  Preserves.read fun s => rest s s

section Steps
variable (steady : Steady site.config pod K P)
include steady

theorem save (name : Text) (content : Written) : Calm P (Proof.save name content) :=
  Preserves.write fun _ holds => steady.quiet holds rfl rfl rfl rfl

theorem record (action : Text) (ok : Bool) (detail : Text) :
    Calm P (Proof.record action ok detail) :=
  Preserves.write fun _ holds => steady.quiet holds rfl rfl rfl rfl

theorem check {key : Text} (tolerated : K key) (value : Json) : Calm P (Proof.check key value) :=
  Preserves.write fun _ holds => steady.checked holds tolerated

theorem setWatch (lastBytes : Int) (stallPolls : Nat) : Calm P (Proof.setWatch lastBytes stallPolls) :=
  Preserves.write fun _ holds => steady.quiet holds rfl rfl rfl rfl

theorem tick : Calm P Proof.tick :=
  Preserves.write fun _ holds => steady.quiet holds rfl rfl rfl rfl

theorem currentPod {f : Text → Proof α} (rest : Calm P (f pod)) :
    Calm P (Proof.currentPod >>= f) := by
  apply Preserves.read
  intro s holds
  rw [steady.current holds]
  exact rest s holds

theorem send {command : Command} (plain : Plain pod command) : Calm P (site.send command) := by
  apply Preserves.read
  intro s holds
  generalize site.cluster s.trace command = reply
  dsimp only
  rw [wp_bind]
  have noted : P (s.noting (.ran command reply)) := steady.ran holds plain
  cases reply with
  | completed result => exact noted
  | timedOut => exact ⟨rfl, rfl, noted⟩
  | refused => exact ⟨rfl, rfl, noted⟩

theorem assertOwned (name : Text) : Calm P (site.assertOwned name) := by
  intro s holds
  unfold Site.assertOwned
  rw [wp_bind, wp_lift]
  constructor
  · intro _ passed
    exact steady.owned holds passed
  · intro fault refused
    unfold ClusterConfig.assertOwned at refused
    split at refused
    · rw [← Except.error.inj refused]
      exact ⟨rfl, rfl, holds⟩
    · cases refused

theorem exec {script : Script} (plain : Plain pod (.exec pod script)) :
    Calm P (site.exec pod script) := send steady plain

theorem query {query : Query} (plain : Plain pod (.query query)) :
    Calm P (site.send (.query query)) := send steady plain

theorem copyInto (remote : Text) : Calm P (site.copyInto pod remote) :=
  (assertOwned steady pod).bind fun _ => send steady rfl

theorem httpProbe {script : Script} (plain : Plain pod (.exec pod script)) :
    Calm P (site.httpProbe pod script) :=
  (send steady plain).bind fun _ => Preserves.pure _

theorem whileBefore {body : β → Proof (β ⊕ α)} {expired : β → Proof α} {deadline : Time}
    (kept : ∀ b, Calm P (body b)) (ended : ∀ b, Calm P (expired b)) (state : β) :
    Calm P (site.whileBefore deadline body expired state) :=
  preserves_whileBefore (tick steady) kept ended state

theorem deadlineAfter (seconds : Int) : Calm P (site.deadlineAfter seconds) :=
  read fun _ => (tick steady).bind fun _ => Preserves.pure _

end Steps
end Calm

/-! The actions whose answers are not parsed as foreign documents. -/

namespace Runner
variable {runner : Runner} {P : Session → Prop} {K : Text → Prop} {pod : Text}
variable (steady : Steady runner.site.config pod K P)
include steady

theorem watchProgress_calm (stall : K "startup_log_stall") (pollIndex : Nat) (code : Int) (probe : Completed) :
    Calm P (runner.watchProgress pollIndex code probe) := by
  unfold watchProgress
  apply (Calm.run _).bind
  · intro size
    apply Preserves.bind (Calm.read fun _ => (Calm.setWatch steady _ _).bind fun _ => Preserves.pure _)
    intro stalls
    apply Preserves.ite
    · intro _
      apply Preserves.bind _ fun _ => Calm.save steady _ _
      apply Calm.read
      intro s
      apply Preserves.ite
      · exact fun _ => Preserves.pure _
      · exact fun _ => (Calm.check steady stall _).bind fun _ => Calm.record steady _ _ _
    · exact fun _ => Calm.save steady _ _
  · intro e raised
    unfold logSize at raised
    split at raised
    · split at raised
      · split at raised
        · cases raised
        · rw [← Except.error.inj raised]
          rfl
      · cases raised
    · cases raised

theorem watchServerLog_calm (stall : K "startup_log_stall") (pollIndex : Nat) (code : Int) :
    Calm P (runner.watchServerLog pollIndex code) := by
  apply Calm.currentPod steady
  apply (Calm.attempt (Calm.exec steady (by rfl))).bind
  intro outcome
  cases outcome with
  | error _ => exact Preserves.pure _
  | ok probe => exact watchProgress_calm steady stall pollIndex code probe

theorem archiveServerCrash_calm (tag : Text) : Calm P (runner.archiveServerCrash tag) := by
  apply Calm.currentPod steady
  apply (Calm.attempt ((Calm.exec steady (by rfl)).bind fun _ => Calm.exec steady (by rfl))).bind
  intro archived
  cases archived with
  | error _ => exact (Calm.record steady _ _ _).bind fun _ => Preserves.pure _
  | ok result =>
    apply Preserves.ite
    · exact fun _ => (Calm.record steady _ _ _).bind fun _ => Preserves.pure _
    · intro _
      apply Preserves.bind (Calm.read fun _ => (Calm.save steady _ _).bind fun _ => Preserves.pure _)
      exact fun _ => (Calm.record steady _ _ _).bind fun _ => Preserves.pure _

theorem installCopied_calm (copied : Completed) : Calm P (runner.installCopied pod copied) := by
  apply Preserves.ite
  · exact fun _ => Calm.actionFailed _ _ (by rfl)
  · intro _
    apply Preserves.bind
    · apply Preserves.forM
      intro command
      apply (Calm.exec steady (by rfl)).bind
      intro result
      apply (Calm.save steady _ _).bind
      intro _
      apply Preserves.ite
      · exact fun _ => (Calm.record steady _ _ _).bind fun _ => Calm.actionFailed _ _ (by rfl)
      · exact fun _ => Calm.record steady _ _ _
    · intro _
      apply (Calm.exec steady (by rfl)).bind
      intro versions
      exact (Calm.save steady _ _).bind fun _ => Calm.record steady _ _ _

theorem installRuntime_calm : Calm P runner.installRuntime :=
  Calm.currentPod steady ((Calm.copyInto steady _).bind (installCopied_calm steady))

theorem runtimeAlreadyInstalled_calm : Calm P runner.runtimeAlreadyInstalled :=
  Calm.currentPod steady ((Calm.exec steady (by rfl)).bind fun _ => Preserves.pure _)

theorem discoverBaseModel_calm (all : ∀ key, K key) : Calm P runner.discoverBaseModel := by
  unfold discoverBaseModel
  split
  · exact Calm.actionFailed _ _ (by rfl)
  · apply Calm.currentPod steady
    apply (Calm.exec steady (by rfl)).bind
    intro result
    apply (Calm.save steady _ _).bind
    intro _
    apply (Calm.check steady (all _) _).bind
    intro _
    apply Preserves.ite
    · exact fun _ => Calm.record steady _ _ _
    · exact fun _ => Calm.actionFailed _ _ (by rfl)

theorem survivors_calm (rounds : Nat) (last : Text) : Calm P (runner.survivors pod rounds last) := by
  induction rounds generalizing last with
  | zero => exact Preserves.pure _
  | succ rounds ih =>
    apply (Calm.exec steady (by rfl)).bind
    intro probe
    apply Preserves.ite
    · exact fun _ => Preserves.pure _
    · exact fun _ => ih _

theorem clearService_calm : Calm P runner.clearService := by
  apply Calm.currentPod steady
  apply (Calm.exec steady (by rfl)).bind
  intro _
  apply (survivors_calm steady 10 _).bind
  intro survivor
  apply Preserves.ite
  · exact fun _ => Calm.record steady _ _ _
  · exact fun _ => Calm.actionFailed _ _ (by rfl)

theorem alreadyHealthy_calm : Calm P runner.alreadyHealthy := by
  apply Preserves.read
  intro s holds
  cases attached : given s.attachPod with
  | none => exact holds
  | some other =>
    obtain rfl := steady.attached holds attached
    have probed : Calm P (runner.site.httpProbe other
        (.probe runner.contract.health.path runner.contract.port)) := Calm.httpProbe steady (by rfl)
    apply Preserves.bind probed _ s holds
    intro probed
    apply Preserves.ite
    · exact fun _ => (Calm.record steady _ _ _).bind fun _ => Preserves.pure _
    · exact fun _ => Preserves.pure _

theorem cleanupUnlessHealthy_calm : Calm P runner.cleanupUnlessHealthy := by
  apply (alreadyHealthy_calm steady).bind
  intro healthy
  apply Preserves.ite
  · exact fun _ => Preserves.pure _
  · exact fun _ => clearService_calm steady

theorem replaceServer_calm : Calm P runner.replaceServer := by
  apply Preserves.ite
  · exact fun _ => (clearService_calm steady).bind fun _ => Calm.record steady _ _ _
  · exact fun _ => Calm.record steady _ _ _

theorem launchServer_calm : Calm P runner.launchServer := by
  unfold launchServer
  apply Preserves.ite
  · exact fun _ => Calm.actionFailed _ _ (by rfl)
  · intro _
    apply Calm.currentPod steady
    apply (Calm.exec steady (by rfl)).bind
    intro result
    apply Preserves.ite
    · exact fun _ => Calm.actionFailed _ _ (by rfl)
    · exact fun _ => Calm.record steady _ _ _

theorem serverDied_calm (pre last : Text) : Calm P (runner.serverDied pre last : Proof α) := by
  have log : Calm P runner.deathLog := by
    apply (archiveServerCrash_calm steady _).bind
    intro archived
    apply Preserves.ite
    · exact fun _ => Calm.currentPod steady ((Calm.exec steady (by rfl)).bind fun _ => Preserves.pure _)
    · exact fun _ => Preserves.pure _
  apply log.bind
  intro _
  apply (Calm.save steady _ _).bind
  intro _
  exact (Calm.record steady _ _ _).bind fun _ => Calm.actionFailed _ _ (by rfl)

theorem pollOnce_calm (all : ∀ key, K key) (pre : Text) (polling : Polling) : Calm P (runner.pollOnce pre polling) := by
  apply Calm.currentPod steady
  apply (Calm.httpProbe steady (by rfl)).bind
  rintro ⟨code, body⟩
  apply (watchServerLog_calm steady (all _) _ _).bind
  intro _
  apply Preserves.ite
  · intro _
    apply Preserves.bind _ fun _ => Preserves.pure _
    apply (Calm.save steady _ _).bind
    intro _
    exact (Calm.check steady (all _) _).bind fun _ => Calm.record steady _ _ _
  · intro _
    apply (Calm.exec steady (by rfl)).bind
    intro alive
    apply Preserves.ite
    · exact fun _ => serverDied_calm steady _ _
    · exact fun _ => Preserves.pure _

theorem pollHealth_calm (all : ∀ key, K key) (pre : Text) : Calm P (runner.pollHealth pre) := by
  apply (Calm.deadlineAfter steady _).bind
  intro deadline
  apply Calm.whileBefore steady (pollOnce_calm steady all pre)
  intro polling
  apply (Calm.save steady _ _).bind
  intro _
  apply (Calm.record steady _ _ _).bind
  intro _
  exact Calm.read fun _ => Calm.actionFailed _ _ (by rfl)

theorem verifyBackend_calm (all : ∀ key, K key) (pre : Text) : Calm P (runner.verifyBackend pre) := by
  apply Calm.currentPod steady
  apply (Calm.exec steady (by rfl)).bind
  intro result
  apply (Calm.save steady _ _).bind
  intro _
  apply (Calm.check steady (all _) _).bind
  intro _
  apply (Calm.check steady (all _) _).bind
  intro _
  apply Preserves.ite
  · exact fun _ => (Calm.record steady _ _ _).bind fun _ => Calm.actionFailed _ _ (by rfl)
  · intro _
    apply Preserves.ite
    · exact fun _ => (Calm.record steady _ _ _).bind fun _ => Calm.actionFailed _ _ (by rfl)
    · exact fun _ => Calm.record steady _ _ _

theorem readCards_calm : Calm P (runner.readCards pod) := by
  have read : Calm P (runner.site.xpuSmi pod) := by
    apply (Calm.exec steady (by rfl)).bind
    intro result
    apply Preserves.ite
    · exact fun _ => Calm.raise rfl rfl
    · intro _
      apply Preserves.ite
      · exact fun _ => Calm.raise rfl rfl
      · exact fun _ => Preserves.pure _
  intro s holds
  unfold readCards
  rw [wp_bind, wp_attempt]
  apply (read s holds).mono
  · exact fun _ _ _ holds => holds
  · rintro fault t - ⟨caught, failure, holds⟩
    cases fault with
    | actionFailed | safetyViolation | runtimeError => exact holds
    | timeoutExpired => exact ⟨rfl, rfl, holds⟩
    | raised e =>
      cases value : e.isValueError with
      | true => simpa [value] using holds
      | false => simpa [value] using ⟨caught, failure, holds⟩

theorem verifyRuntimeImportable_calm (all : ∀ key, K key) : Calm P runner.verifyRuntimeImportable := by
  have device : Calm P runner.verifyDeviceReady := by
    apply Calm.currentPod steady
    apply (readCards_calm steady).bind
    intro cards
    apply (Calm.save steady _ _).bind
    intro _
    apply (Calm.check steady (all _) _).bind
    intro _
    apply Preserves.ite
    · exact fun _ => Preserves.pure _
    · exact fun _ => Calm.actionFailed _ _ (by rfl)
  have code : Calm P runner.verifyCodeReady := by
    apply Calm.currentPod steady
    apply (Calm.exec steady (by rfl)).bind
    intro result
    apply (Calm.save steady _ _).bind
    intro _
    apply (Calm.check steady (all _) _).bind
    intro _
    apply Preserves.ite
    · exact fun _ => device
    · exact fun _ => Calm.actionFailed _ _ (by rfl)
  apply Calm.currentPod steady
  apply (Calm.exec steady (by rfl)).bind
  intro result
  apply (Calm.save steady _ _).bind
  intro _
  apply Preserves.ite
  · exact fun _ => (Calm.check steady (all _) _).bind fun _ => Calm.actionFailed _ _ (by rfl)
  · intro _
    apply (Calm.check steady (all _) _).bind
    intro _
    apply (Calm.record steady _ _ _).bind
    intro _
    apply code.bind
    intro _
    apply Calm.currentPod steady
    apply (Calm.exec steady (by rfl)).bind
    intro fingerprint
    exact (Calm.save steady _ _).bind fun _ => Calm.record steady _ _ _

/-! The bring-up and the chat, apart from their answers. -/

omit steady in
theorem targetConfig_ready {result : Completed} (raised : runner.targetConfig result = .error fault) :
    fault.ready = false := by
  unfold targetConfig at raised
  split at raised
  · rw [← Except.error.inj raised]
    rfl
  · split at raised
    · rw [← Except.error.inj raised]
      rfl
    · cases raised
    · rw [← Except.error.inj raised]
      rfl

omit steady in
theorem probeReport_ready {result : Completed} (raised : runner.probeReport result = .error fault) :
    fault.ready = false := by
  unfold probeReport at raised
  split at raised
  · rw [← Except.error.inj raised]
    rfl
  · split at raised
    · rw [← Except.error.inj raised]
      rfl
    · split at raised
      · cases raised
      · rw [← Except.error.inj raised]
        rfl
    · rw [← Except.error.inj raised]
      rfl

omit steady in
theorem bringupFailure_ready {failure : Text × Text} (fine : fault.ready = false) (handled : bringupFailure fault = some failure) :
    (Fault.actionFailed failure.1 failure.2).ready = false := by
  unfold bringupFailure at handled
  split at handled
  · rw [← Option.some.inj handled]
    exact fine
  · rw [← Option.some.inj handled]
    rfl
  · split at handled
    · rw [← Option.some.inj handled]
      rfl
    · cases handled
  · cases handled
  · cases handled

omit steady in
theorem judgeBringup_ready {failure : Text × Text} (judged : runner.judgeBringup config report = .ok (some failure)) :
    (Fault.actionFailed failure.1 failure.2).ready = false := by
  obtain ⟨errors, _, judged⟩ := bind_ok.mp judged
  split at judged
  · cases judged
  · rw [← Option.some.inj (Except.ok.inj judged)]
    rfl

theorem concludeBringup_calm (report : Dict) {failure : Option (Text × Text)}
    (fine : ∀ found, failure = some found → (Fault.actionFailed found.1 found.2).ready = false) :
    Calm P (runner.concludeBringup report failure) := by
  apply Calm.read
  intro s
  apply Preserves.bind (Calm.save steady _ _)
  intro _
  apply (Calm.record steady _ _ _).bind
  intro _
  cases failure with
  | none => exact Preserves.pure _
  | some failure => exact Calm.actionFailed _ _ (fine failure rfl)

theorem chatFailed_calm (all : ∀ key, K key) (pre body : Text) :
    Calm P (runner.chatFailed pre body) := by
  apply (Calm.check steady (all _) _).bind
  intro _
  apply (Calm.record steady _ _ _).bind
  intro _
  exact (archiveServerCrash_calm steady _).bind fun _ => Calm.actionFailed _ _ (by rfl)

theorem noteTruncation_calm (finish : Json) : Calm P (noteTruncation finish) := by
  apply Preserves.ite
  · exact fun _ => Calm.record steady _ _ _
  · exact fun _ => Preserves.pure _

/-! The actions whose answers are parsed, where `P` bears any answer. -/

section Parsed
variable (answered : ∀ {s script reply}, P s → P (s.noting (.ran (.exec pod script) reply)))
include answered

omit steady in
theorem exec_keeps (script : Script) : Kept P (runner.site.exec pod script) := by
  apply Preserves.read
  intro s holds
  generalize runner.site.cluster s.trace (.exec pod script) = reply
  dsimp only
  rw [wp_bind]
  have noted : P (s.noting (.ran (.exec pod script) reply)) := answered holds
  cases reply with
  | completed result => exact noted
  | timedOut => exact ⟨rfl, noted⟩
  | refused => exact ⟨rfl, noted⟩

theorem alreadyServing_keeps : Kept P runner.alreadyServing := by
  have reuse (probed : Int × Text) : Kept P (runner.reuseServer probed) := by
    apply Preserves.ite
    · exact fun _ => Preserves.pure _
    · intro _
      apply (Kept.run _).bind
      intro serves
      apply Preserves.ite
      · exact fun _ => (Calm.record steady _ _ _).endures.bind fun _ => Preserves.pure _
      · exact fun _ => (replaceServer_calm steady).endures.bind fun _ => Preserves.pure _
  apply Preserves.read
  intro s holds
  cases given s.attachPod with
  | none => exact holds
  | some _ =>
    apply Preserves.read _ s holds
    intro t holds
    rw [steady.current holds]
    have probed (script : Script) : Kept P (runner.site.httpProbe pod script) :=
      (exec_keeps answered script).bind fun _ => Preserves.pure _
    exact ((probed _).bind reuse) t holds

theorem runChatSmoke_keeps (all : ∀ key, K key) (pre : Text) : Kept P (runner.runChatSmoke pre) := by
  have decoding (text : Json) : Kept P (checkPrefixed pre text) := by
    apply Preserves.ite
    · exact fun _ => Preserves.pure _
    · intro _
      apply (Calm.check steady (all _) _).endures.bind
      intro _
      exact (Kept.run _).bind fun _ => (Calm.check steady (all _) _).endures
  have passed (text finish : Json) : Kept P (runner.chatPassed pre text finish) := by
    apply (noteTruncation_calm steady finish).endures.bind
    intro _
    apply (Calm.check steady (all _) _).endures.bind
    intro _
    apply (decoding text).bind
    intro _
    exact (Kept.run _).bind fun _ => (Calm.record steady _ _ _).endures
  apply Preserves.read
  intro s holds
  rw [steady.current holds]
  apply Preserves.bind (exec_keeps answered _) _ s holds
  intro _
  apply (exec_keeps answered _).bind
  intro result
  apply (Calm.save steady _ _).endures.bind
  intro _
  apply (Kept.run _).bind
  rintro ⟨text, finish⟩
  apply (Kept.run _).bind
  intro lacks
  apply Preserves.ite
  · exact fun _ => (chatFailed_calm steady all _ _).endures
  · exact fun _ => passed text finish

theorem toyBringup_keeps (key : K "toy_bringup") : Kept P runner.toyBringupBeforeLoad := by
  have raised (report : Dict) {fault : Fault} (fine : fault.ready = false) :
      Kept P (runner.bringupRaised report fault) := by
    unfold bringupRaised
    split
    · next failure handled =>
      apply Calm.endures (concludeBringup_calm steady _ _)
      rintro found same
      rw [← Option.some.inj same]
      exact bringupFailure_ready fine handled
    · exact Kept.raise fine
  have probed : Kept P runner.probeBringup := by
    apply Preserves.read
    intro s holds
    rw [steady.current holds]
    apply Preserves.bind (Kept.run _) _ s holds
    intro _
    apply (exec_keeps answered _).bind
    intro _
    apply (Kept.lift fun _ => targetConfig_ready).bind
    intro _
    apply (exec_keeps answered _).bind
    intro _
    exact (Kept.lift fun _ => probeReport_ready).bind fun _ => Preserves.pure _
  apply (Calm.check steady key _).endures.bind
  rintro - s holds
  rw [wp_bind, wp_attempt]
  apply (probed s holds).mono
  · rintro ⟨config, report⟩ t - holds
    refine (?_ : Kept P (runner.bringupProbed config report)) t holds
    unfold bringupProbed
    dsimp only
    split
    · exact raised _ rfl
    · next failure judged =>
      apply (Calm.check steady key _).endures.bind
      intro _
      apply Calm.endures (concludeBringup_calm steady _ _)
      rintro found rfl
      exact judgeBringup_ready judged
  · rintro fault t - ⟨fine, holds⟩
    rw [ite_self] at holds
    exact raised _ fine t holds

end Parsed

/-! What the actions come to when the parsed answers keep `P` as well. -/

section Sequence
variable {B : Session → Prop} (serving : Endures P B runner.alreadyServing)
  (bringup : Endures P B runner.toyBringupBeforeLoad)
  (chat : ∀ pre, Endures P B (runner.runChatSmoke pre))
include serving bringup

theorem startServer_endures : Endures P B runner.startServer := by
  apply serving.bind
  intro already
  apply Preserves.ite
  · exact fun _ => Preserves.pure _
  · intro _
    apply Preserves.ite
    · intro _
      apply (clearService_calm steady).endures.bind
      intro _
      exact bringup.bind fun _ => (launchServer_calm steady).endures
    · exact fun _ => (launchServer_calm steady).endures

include chat

theorem proveService_endures (all : ∀ key, K key) : Endures P B runner.proveService := by
  apply (startServer_endures steady serving bringup).bind
  intro _
  apply (pollHealth_calm steady all _).endures.bind
  intro _
  apply (chat _).bind
  intro _
  exact (verifyBackend_calm steady all _).endures

theorem proveEnvironment_endures (all : ∀ key, K key) : Endures P B runner.proveEnvironment := by
  apply (verifyRuntimeImportable_calm steady all).endures.bind
  intro _
  apply (discoverBaseModel_calm steady all).endures.bind
  intro _
  apply (cleanupUnlessHealthy_calm steady).endures.bind
  intro _
  apply (startServer_endures steady serving bringup).bind
  intro _
  apply (pollHealth_calm steady all _).endures.bind
  intro _
  apply (chat _).bind
  intro _
  apply (verifyBackend_calm steady all _).endures.bind
  intro _
  exact (clearService_calm steady).endures

end Sequence

theorem importContext_calm (all : ∀ key, K key) : Calm P (runner.importContext pod) := by
  apply Preserves.bind ((Calm.query steady (by trivial)).bind fun _ => Preserves.pure _)
  intro ready
  apply Preserves.ite
  · intro _
    apply (Calm.check steady (all _) _).bind
    intro _
    apply (Calm.query steady (by trivial)).bind
    intro spec
    apply (Calm.save steady _ _).bind
    intro _
    apply (Calm.record steady _ _ _).bind
    intro _
    apply Preserves.ite
    · intro _
      apply (runtimeAlreadyInstalled_calm steady).bind
      intro installed
      apply Preserves.ite
      · exact fun _ => Calm.record steady _ _ _
      · exact fun _ => installRuntime_calm steady
    · exact fun _ => Preserves.pure _
  · exact fun _ => Calm.actionFailed _ _ (by rfl)

end Runner
end InferForge
