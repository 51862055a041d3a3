import InferForge.Runners.OwnedPods
import Mathlib.Data.List.Dedup

/-! The verdict of a proof and its validators: a proof that ends ready has recorded the checks that
the validators ask for, from answers that bear them out, and written the evidence. -/
namespace InferForge
open Py Effect Effect.Prog

/-! ## What a ready proof has behind it -/

/-- A request for the health of the server or for its models. -/
def Occurrence.isProbe : Occurrence → Bool
  | .ran (.exec _ (.probe _ _)) _ => true
  | .ran (.exec _ (.models _)) _ => true
  | _ => false

def probesOf (trace : List Occurrence) : List Occurrence := trace.filter Occurrence.isProbe

/-- The file was written by this proof. -/
def Wrote (name : Text) (s : Session) : Prop := ∃ content, (name, content) ∈ s.files

/-- Names of the files a ready service leaves for the steps after it. -/
def serviceArtifacts : List Text :=
  ["pod_spec.yaml", "health_result.txt", "chat_result.json", "server_log.txt", "task_contract.yaml",
    "reproduce_command.txt", "status.json"]

namespace Runner
variable (runner : Runner)

/-- A probe of the health endpoint of the contract that got the expected status. -/
def Healthy (pod : Text) : Occurrence → Prop
  | .ran (.exec target (.probe path port)) (.completed result) =>
      target = pod ∧ path = runner.contract.health.path ∧ port = runner.contract.port ∧
        (runner.site.statusAndBody result).1 = runner.contract.health.expectedStatus
  | _ => False

/-- The last `n` probes are all healthy. -/
def Streaking (pod : Text) (n : Nat) (trace : List Occurrence) : Prop :=
  ∃ earlier streak, probesOf trace = earlier ++ streak ∧ streak.length = n ∧
    ∀ event ∈ streak, runner.Healthy pod event

/-- The last probes of all, as many as required, are healthy. -/
def HealthAccepted (pod : Text) (trace : List Occurrence) : Prop :=
  ∃ n : Nat, (n : Int) = runner.contract.healthSuccessesRequired ∧ runner.Streaking pod n trace

/-- The answer that was kept has a text that is not blank. -/
def ChatAnswered (pre pod : Text) (s : Session) : Prop :=
  ∃ result text finish, .ran (.exec pod (.chatRequest runner.contract.chat.method
      runner.contract.chat.path runner.contract.port)) (.completed result) ∈ s.trace ∧
    (prefixed pre "chat_result.json", .text (result.stdout ++ result.stderr)) ∈ s.files ∧
    runner.chatText result.stdout = .ok (.str text, finish) ∧ text.strip.isEmpty = false

/-- The log that was kept names the backend and has no marker of a fallback. -/
def BackendNamed (pre pod : Text) (s : Session) : Prop :=
  ∃ result, .ran (.exec pod (.readFile runner.serverLogPath)) (.completed result) ∈ s.trace ∧
    (prefixed pre "server_log.txt", .text result.stdout) ∈ s.files ∧
    (runner.site.lower result.stdout).holds "kunlun" = true ∧
    ∀ marker ∈ runner.site.fallbackMarkers, (runner.site.lower result.stdout).holds marker = false

/-- What stands behind a ready proof. -/
def Proven (pre : Text) (s : Session) : Prop :=
  ∃ pod, s.pod = some pod ∧ runner.HealthAccepted pod s.trace ∧ runner.ChatAnswered pre pod s ∧
    runner.BackendNamed pre pod s

end Runner

/-- The proof has its Pod, and these checks are recorded. -/
structure Recorded (pod : Text) (facts : Dict) (s : Session) : Prop where
  current : s.pod = some pod
  attached : ∀ other, given s.attachPod = some other → other = pod
  proven : ∀ fact ∈ facts, Dict.get? s.checks fact.1 = some fact.2

/-- The key is none of those that are recorded. -/
abbrev Unrecorded (facts : Dict) (key : Text) : Prop := ∀ fact ∈ facts, fact.1 ≠ key

section Records
variable {pod key : Text} {facts : Dict} {s : Session}

theorem Recorded.noting (recorded : Recorded pod facts s) (event : Occurrence) : Recorded pod facts (s.noting event) :=
  ⟨recorded.current, recorded.attached, recorded.proven⟩

theorem Recorded.kept (recorded : Recorded pod facts s) (fresh : Unrecorded facts key) (value : Json) :
    Recorded pod facts (s.checking key value) := by
  refine ⟨recorded.current, recorded.attached, ?_⟩
  intro fact member
  rw [Session.checking, Dict.get?_set, if_neg (fresh fact member)]
  exact recorded.proven fact member

theorem Recorded.checking (recorded : Recorded pod facts s) (fresh : Unrecorded facts key) (value : Json) :
    Recorded pod ((key, value) :: facts) (s.checking key value) := by
  refine ⟨recorded.current, recorded.attached, ?_⟩
  intro fact member
  rcases List.mem_cons.mp member with rfl | member
  · rw [Session.checking, Dict.get?_set, if_pos rfl]
  · exact (recorded.kept fresh value).proven fact member

theorem recorded_steady (config : ClusterConfig) :
    Steady config pod (Unrecorded facts) (Recorded pod facts) where
  quiet recorded _ pod attached checks :=
    ⟨pod.trans recorded.current, attached ▸ recorded.attached, checks ▸ recorded.proven⟩
  checked recorded fresh := recorded.kept fresh _
  current recorded := recorded.current
  attached recorded := recorded.attached _
  owned recorded _ := recorded.noting _
  ran recorded _ := recorded.noting _

end Records

theorem wrote_lasting (name : Text) : Lasting (Wrote name) :=
  fun _ _ ahead ⟨content, member⟩ => ⟨content, ahead.2.1.subset member⟩

theorem chatAnswered_lasting (runner : Runner) (pre pod : Text) :
    Lasting (runner.ChatAnswered pre pod) := by
  rintro s t ahead ⟨result, text, finish, asked, kept, answered⟩
  exact ⟨result, text, finish, ahead.1.subset asked, ahead.2.1.subset kept, answered⟩

theorem backendNamed_lasting (runner : Runner) (pre pod : Text) :
    Lasting (runner.BackendNamed pre pod) := by
  rintro s t ahead ⟨result, asked, kept, named⟩
  exact ⟨result, ahead.1.subset asked, ahead.2.1.subset kept, named⟩

section Steps
variable {site : Site} {pod : Text} {facts : Dict} {P : Session → Prop}

theorem recorded_exec (target : Text) (script : Script) : Yields (Recorded pod facts)
    (fun result t => Recorded pod facts t ∧ .ran (.exec target script) (.completed result) ∈ t.trace)
    (site.exec target script) := by
  apply (send_yields _).mono fun _ recorded => recorded
  rintro result t ⟨s, recorded, rfl⟩
  exact ⟨recorded.noting _, List.mem_append_right _ List.mem_cons_self⟩

theorem recorded_save (name : Text) (content : Written) : Yields (Recorded pod facts)
    (fun _ t => Recorded pod facts t ∧ (name, content) ∈ t.files) (Proof.save name content) :=
  fun _ recorded => ⟨⟨recorded.current, recorded.attached, recorded.proven⟩,
    List.mem_append_right _ List.mem_cons_self⟩

theorem recorded_note (action : Text) (ok : Bool) (detail : Text) :
    Yields (Recorded pod facts) (fun _ => Recorded pod facts) (Proof.record action ok detail) :=
  fun _ recorded => ⟨recorded.current, recorded.attached, recorded.proven⟩

theorem recorded_check {key : Text} (fresh : Unrecorded facts key) (value : Json) :
    Yields (Recorded pod facts) (fun _ => Recorded pod ((key, value) :: facts))
      (Proof.check key value) :=
  fun _ recorded => recorded.checking fresh value

theorem currentPod_yields {Q : α → Session → Prop} {f : Text → Proof α}
    (current : ∀ s, P s → s.pod = some pod) (rest : Yields P Q (f pod)) :
    Yields P Q (Proof.currentPod >>= f) := by
  apply Yields.read
  intro s holds
  rw [current s holds]
  exact rest s holds

theorem recorded_currentPod {Q : α → Session → Prop} {f : Text → Proof α}
    (rest : Yields (Recorded pod facts) Q (f pod)) :
    Yields (Recorded pod facts) Q (Proof.currentPod >>= f) :=
  currentPod_yields (fun _ recorded => recorded.current) rest

theorem file_lasting (name : Text) (content : Written) :
    Lasting fun s : Session => (name, content) ∈ s.files :=
  fun _ _ ahead member => ahead.2.1.subset member

theorem event_lasting (event : Occurrence) : Lasting fun s : Session => event ∈ s.trace :=
  fun _ _ ahead member => ahead.1.subset member

end Steps

/-! ## The actions -/

section Actions
variable {runner : Runner} {pod : Text} {facts : Dict}

theorem discoverBaseModel_yields (fresh : Unrecorded facts "base_model_loaded") :
    Yields (Recorded pod facts)
      (fun _ t => Recorded pod (("base_model_loaded", .bool true) :: facts) t ∧
        Wrote "base_model_identity.json" t) runner.discoverBaseModel := by
  unfold Runner.discoverBaseModel
  split
  · exact Yields.raise
  · next path _ =>
    apply recorded_currentPod
    apply (recorded_exec _ _).bind
    intro result
    apply Yields.bind ((recorded_save _ _).mono (fun _ holds => holds.1) fun _ _ holds => holds)
    intro _
    apply ((recorded_check fresh _).carry (file_lasting _ _)).bind
    intro _
    apply Yields.ite
    · intro loaded
      rw [loaded]
      exact ((recorded_note _ _ _).carry (file_lasting _ _)).mono (fun _ holds => holds)
        fun _ _ holds => ⟨holds.1, _, holds.2⟩
    · exact fun _ => Yields.raise

theorem verifyDeviceReady_yields (fresh : Unrecorded facts "device_ready") :
    Yields (Recorded pod facts)
      (fun _ t => Recorded pod (("device_ready", .bool true) :: facts) t ∧
        Wrote "device_readiness.json" t) runner.verifyDeviceReady := by
  apply recorded_currentPod
  apply (Runner.readCards_calm (recorded_steady _)).yields.bind
  intro cards
  apply (recorded_save _ _).bind
  intro _
  apply ((recorded_check fresh _).carry (file_lasting _ _)).bind
  intro _
  apply Yields.ite
  · intro ready
    rw [ready]
    exact fun _ holds => ⟨holds.1, _, holds.2⟩
  · exact fun _ => Yields.raise

theorem verifyCodeReady_yields (code : Unrecorded facts "code_ready")
    (device : Unrecorded facts "device_ready") :
    Yields (Recorded pod facts)
      (fun _ t => (Recorded pod (("device_ready", .bool true) :: ("code_ready", .bool true) :: facts) t ∧
        Wrote "device_readiness.json" t) ∧ Wrote "code_readiness.json" t) runner.verifyCodeReady := by
  have later : Unrecorded (("code_ready", .bool true) :: facts) "device_ready" :=
    List.forall_mem_cons.mpr ⟨by decide, device⟩
  apply recorded_currentPod
  apply (recorded_exec _ _).bind
  intro result
  apply Yields.bind ((recorded_save _ _).mono (fun _ holds => holds.1) fun _ _ holds => holds)
  intro _
  apply ((recorded_check code _).carry (file_lasting _ _)).bind
  intro _
  apply Yields.ite
  · intro ready
    rw [ready]
    exact ((verifyDeviceReady_yields later).carry (wrote_lasting _)).mono
      (fun _ holds => ⟨holds.1, _, holds.2⟩) fun _ _ holds => holds
  · exact fun _ => Yields.raise

theorem collectEnvironmentFingerprint_yields : Yields (Recorded pod facts)
    (fun _ t => Recorded pod facts t ∧ Wrote "environment_fingerprint.txt" t)
    runner.collectEnvironmentFingerprint := by
  apply recorded_currentPod
  apply (recorded_exec _ _).bind
  intro result
  apply Yields.bind ((recorded_save _ _).mono (fun _ holds => holds.1) fun _ _ holds => holds)
  intro _
  exact ((recorded_note _ _ _).carry (file_lasting _ _)).mono (fun _ holds => holds)
    fun _ _ holds => ⟨holds.1, _, holds.2⟩

/-- The three checks of an environment, with the files they come from. -/
theorem verifyRuntimeImportable_yields (imported : Unrecorded facts "runtime_importable")
    (code : Unrecorded facts "code_ready") (device : Unrecorded facts "device_ready") :
    Yields (Recorded pod facts)
      (fun _ t => Recorded pod (("device_ready", .bool true) :: ("code_ready", .bool true) ::
          ("runtime_importable", .bool true) :: facts) t ∧
        ∀ name ∈ (["runtime_import.txt", "code_readiness.json", "device_readiness.json",
          "environment_fingerprint.txt"] : List Text), Wrote name t)
      runner.verifyRuntimeImportable := by
  have laterCode : Unrecorded (("runtime_importable", .bool true) :: facts) "code_ready" :=
    List.forall_mem_cons.mpr ⟨by decide, code⟩
  have laterDevice : Unrecorded (("runtime_importable", .bool true) :: facts) "device_ready" :=
    List.forall_mem_cons.mpr ⟨by decide, device⟩
  apply recorded_currentPod
  apply (recorded_exec _ _).bind
  intro result
  apply Yields.bind ((recorded_save _ _).mono (fun _ holds => holds.1) fun _ _ holds => holds)
  intro _
  apply Yields.ite
  · exact fun _ => Yields.skip fun _ => Yields.raise
  · intro _
    apply ((recorded_check imported _).carry (file_lasting _ _)).bind
    intro _
    apply ((recorded_note _ _ _).carry (file_lasting _ _)).bind
    intro _
    apply ((verifyCodeReady_yields laterCode laterDevice).carry (file_lasting _ _)).bind
    intro _
    have lasting := ((wrote_lasting "device_readiness.json").and
      (wrote_lasting "code_readiness.json")).and (wrote_lasting "runtime_import.txt")
    apply (collectEnvironmentFingerprint_yields.carry lasting).mono
    · exact fun _ holds => ⟨holds.1.1.1, ⟨holds.1.1.2, holds.1.2⟩, _, holds.2⟩
    · intro _ t holds
      obtain ⟨⟨recorded, fingerprint⟩, ⟨device, code⟩, imported⟩ := holds
      refine ⟨recorded, ?_⟩
      simp only [List.forall_mem_cons]
      exact ⟨imported, code, device, fingerprint, by simp⟩

theorem verifyBackend_yields (pre : Text) (demanding : runner.contract.Demanding)
    (backend : Unrecorded facts "expected_backend") (fallback : Unrecorded facts "unexpected_fallback") :
    Yields (Recorded pod facts)
      (fun _ t => Recorded pod (("unexpected_fallback", .bool false) ::
          ("expected_backend", .str "kunlun") :: facts) t ∧ runner.BackendNamed pre pod t)
      (runner.verifyBackend pre) := by
  have later (value : Json) : Unrecorded (("expected_backend", value) :: facts) "unexpected_fallback" :=
    List.forall_mem_cons.mpr ⟨by simp, fallback⟩
  have expected : runner.expectedBackend = Text.ofString "kunlun" := by
    rw [Runner.expectedBackend, demanding.backend]
    rfl
  apply recorded_currentPod
  apply (recorded_exec _ _).bind
  intro result
  apply ((recorded_save _ _).carry (event_lasting _)).bind
  intro _
  dsimp only
  rw [expected, demanding.fallback]
  have lasting := (file_lasting (Runner.prefixed pre "server_log.txt") (.text result.stdout)).and
    (event_lasting (.ran (.exec pod (.readFile runner.serverLogPath)) (.completed result)))
  apply Yields.bind (((recorded_check backend _).carry lasting).mono
    (fun _ holds => ⟨holds.1.1, holds.1.2, holds.2⟩) fun _ _ holds => holds)
  intro _
  apply ((recorded_check (later _) _).carry lasting).bind
  intro _
  apply Yields.ite
  · exact fun _ => Yields.skip fun _ => Yields.raise
  · intro clear
    apply Yields.ite
    · exact fun _ => Yields.skip fun _ => Yields.raise
    · intro named
      have clean : (runner.site.fallbackMarkers.filter
          (runner.site.lower result.stdout).holds).isEmpty = true := by simpa using clear
      have held : (runner.site.lower result.stdout).holds "kunlun" = true := by
        by_contra missing
        exact named (by simp [missing])
      rw [if_pos held, clean]
      apply ((recorded_note _ _ _).carry lasting).mono fun _ holds => holds
      intro _ t holds
      refine ⟨holds.1, result, holds.2.2, holds.2.1, held, ?_⟩
      intro marker member
      have none := List.filter_eq_nil_iff.mp (List.isEmpty_iff.mp clean) marker member
      exact Bool.eq_false_iff.mpr none

/-- The checks that a chat with this prefix records. -/
def chatFacts (pre : Text) : Dict :=
  let completion := (Runner.prefixed pre "chat_completion", Json.str "non_empty")
  if pre.isEmpty then [completion]
  else [(pre ++ "decode", .bool true), (pre ++ "prefill", .bool true), completion]

theorem append_text_ne (pre : Text) {a b : Text} (different : a ≠ b) : pre ++ a ≠ pre ++ b := by
  intro same
  apply different
  have codes := congrArg Text.codes same
  simp only [Text.codes_append, List.append_cancel_left_eq] at codes
  exact Text.ext codes

/-- A text that is not blank has been decoded. -/
theorem checkPrefixed_yields (pre text : Text) (spoken : text.strip.isEmpty = false)
    (fresh : ∀ fact ∈ chatFacts pre, Unrecorded facts fact.1) :
    Yields (Recorded pod ((Runner.prefixed pre "chat_completion", .str "non_empty") :: facts))
      (fun _ => Recorded pod (chatFacts pre ++ facts)) (Runner.checkPrefixed pre (.str text)) := by
  unfold Runner.checkPrefixed chatFacts at *
  cases empty : pre.isEmpty with
  | true => exact fun _ recorded => recorded
  | false =>
    simp only [empty, Bool.false_eq_true, if_false, List.forall_mem_cons] at fresh ⊢
    have completion : Runner.prefixed pre "chat_completion" = pre ++ "chat_completion" := by
      simp [Runner.prefixed, empty]
    rw [completion]
    have prefill : Unrecorded ((pre ++ "chat_completion", .str "non_empty") :: facts) (pre ++ "prefill") :=
      List.forall_mem_cons.mpr ⟨append_text_ne pre (by decide), fresh.2.1⟩
    have decode : Unrecorded ((pre ++ "prefill", .bool true) ::
        (pre ++ "chat_completion", .str "non_empty") :: facts) (pre ++ "decode") :=
      List.forall_mem_cons.mpr ⟨append_text_ne pre (by decide),
        List.forall_mem_cons.mpr ⟨append_text_ne pre (by decide), fresh.1⟩⟩
    apply (recorded_check prefill _).bind
    intro _
    change Yields _ _ (Proof.check (pre ++ "decode") (.bool (!text.strip.isEmpty)))
    rw [spoken]
    exact recorded_check decode _

/-- Where a text is asked for, only one that is not blank passes. -/
theorem lacksText_false (demanding : runner.contract.Demanding) {text : Json}
    (judged : runner.lacksText text = .ok false) :
    ∃ said, text = .str said ∧ said.strip.isEmpty = false := by
  rw [Runner.lacksText, if_pos demanding.text] at judged
  cases text with
  | str said => exact ⟨said, rfl, Except.ok.inj judged⟩
  | _ => cases judged

theorem runChatSmoke_yields (pre : Text) (demanding : runner.contract.Demanding)
    (fresh : ∀ fact ∈ chatFacts pre, Unrecorded facts fact.1) :
    Yields (Recorded pod facts)
      (fun _ t => Recorded pod (chatFacts pre ++ facts) t ∧ runner.ChatAnswered pre pod t)
      (runner.runChatSmoke pre) := by
  have completion : Unrecorded facts (Runner.prefixed pre "chat_completion") := by
    apply fresh (Runner.prefixed pre "chat_completion", .str "non_empty")
    unfold chatFacts
    split <;> simp
  apply recorded_currentPod
  apply Yields.bind ((recorded_exec _ _).mono (fun _ holds => holds) fun _ _ holds => holds.1)
  intro _
  apply (recorded_exec _ _).bind
  intro result
  apply ((recorded_save _ _).carry (event_lasting _)).bind
  intro _
  have lasting := (file_lasting (Runner.prefixed pre "chat_result.json")
    (.text (result.stdout ++ result.stderr))).and (event_lasting (.ran (.exec pod
      (.chatRequest runner.contract.chat.method runner.contract.chat.path runner.contract.port))
      (.completed result)))
  have answered (text finish : Json) (lacks : Bool)
      (read : runner.chatText result.stdout = .ok (text, finish))
      (judged : runner.lacksText text = .ok lacks) : Yields
      (fun s => Recorded pod facts s ∧ (Runner.prefixed pre "chat_result.json",
        .text (result.stdout ++ result.stderr)) ∈ s.files ∧ .ran (.exec pod (.chatRequest
          runner.contract.chat.method runner.contract.chat.path runner.contract.port))
          (.completed result) ∈ s.trace)
      (fun _ t => Recorded pod (chatFacts pre ++ facts) t ∧ runner.ChatAnswered pre pod t)
      (if lacks then runner.chatFailed pre result.stdout else runner.chatPassed pre text finish) := by
    apply Yields.ite
    · exact fun _ => Yields.skip fun _ => Yields.skip fun _ => Yields.skip fun _ => Yields.raise
    · intro spoken
      rw [Bool.not_eq_true] at spoken
      subst spoken
      obtain ⟨said, rfl, sounds⟩ := lacksText_false demanding judged
      apply Yields.bind ((Runner.noteTruncation_calm (recorded_steady runner.site.config) _).yields.carry
        lasting)
      intro _
      apply ((recorded_check completion _).carry lasting).bind
      intro _
      apply ((checkPrefixed_yields pre said sounds fresh).carry lasting).bind
      intro _
      apply Yields.bind ((run_yields _).mono (fun _ holds => holds) fun _ _ holds => holds.1)
      intro _
      apply ((recorded_note _ _ _).carry lasting).mono fun _ holds => holds
      exact fun _ t holds => ⟨holds.1, result, said, finish, holds.2.2, holds.2.1, read, sounds⟩
  apply (run_yields _).bind
  rintro ⟨text, finish⟩
  apply (run_yields _).bind
  intro lacks s holds
  exact answered text finish lacks holds.1.2 holds.2 s ⟨holds.1.1.1.1, holds.1.1.1.2, holds.1.1.2⟩

end Actions

/-! ## The probes of a run -/

/-- `x` leaves the probes as they were. -/
abbrev Silent (x : Proof α) : Prop := ∀ probes,
  Preserves (fun s => probesOf s.trace = probes) (fun _ s => probesOf s.trace = probes) x

section Silence
variable {runner : Runner}

theorem probesOf_append (trace : List Occurrence) (event : Occurrence) :
    probesOf (trace ++ [event]) = probesOf trace ++ if event.isProbe then [event] else [] := by
  rw [probesOf, List.filter_append, probesOf]
  cases probe : event.isProbe <;> simp [probe]

theorem Silent.save (name : Text) (content : Written) : Silent (Proof.save name content) :=
  fun _ => Preserves.write fun _ same => same

theorem Silent.record (action : Text) (ok : Bool) (detail : Text) :
    Silent (Proof.record action ok detail) := fun _ => Preserves.write fun _ same => same

theorem Silent.check (key : Text) (value : Json) : Silent (Proof.check key value) :=
  fun _ => Preserves.write fun _ same => same

theorem Silent.raise {fault : Fault} : Silent (Prog.raise fault : Proof α) :=
  fun _ => Preserves.raise fun _ same => same

theorem Silent.run (result : Except Exn α) : Silent (Proof.run result) :=
  fun _ => Preserves.lift fun _ _ _ same => same

theorem Silent.bind {x : Proof α} {f : α → Proof β} (first : Silent x) (rest : ∀ a, Silent (f a)) :
    Silent (x >>= f) := fun probes => (first probes).bind fun a => rest a probes

theorem Silent.read {f : Session → Proof α} (rest : ∀ s, Silent (f s)) : Silent (Prog.read >>= f) :=
  fun probes => Preserves.read fun s => rest s probes s

theorem Silent.pure (a : α) : Silent (Pure.pure a : Proof α) := fun _ => Preserves.pure a

theorem Silent.ite {x y : Proof α} {condition : Prop} [Decidable condition]
    (here : condition → Silent x) (there : ¬ condition → Silent y) :
    Silent (if condition then x else y) :=
  fun probes => Preserves.ite (fun holds => here holds probes) fun fails => there fails probes

theorem Silent.exec {site : Site} (pod : Text) {script : Script}
    (other : ∀ reply, (Occurrence.ran (.exec pod script) reply).isProbe = false := by exact fun _ => rfl) :
    Silent (site.exec pod script) := by
  intro probes
  apply Preserves.read
  intro s same
  generalize site.cluster s.trace (.exec pod script) = reply
  dsimp only
  rw [wp_bind]
  have noted : probesOf (s.noting (.ran (.exec pod script) reply)).trace = probes := by
    rw [Session.noting, probesOf_append, other, same]
    simp
  cases reply with
  | completed | timedOut | refused => exact noted

theorem Silent.currentPod {f : Text → Proof α} (rest : ∀ pod, Silent (f pod)) :
    Silent (Proof.currentPod >>= f) := fun probes => Preserves.read fun s => rest _ probes s

theorem watchServerLog_silent (pollIndex : Nat) (code : Int) :
    Silent (runner.watchServerLog pollIndex code) := by
  have progress (probe : Completed) : Silent (runner.watchProgress pollIndex code probe) := by
    apply (Silent.run _).bind
    intro size
    have counted : Silent (Runner.countStall size) := Silent.read fun _ =>
      Silent.bind (fun _ => Preserves.write fun _ same => same) fun _ => Silent.pure _
    apply counted.bind
    intro stalls
    apply Silent.ite
    · intro _
      apply Silent.bind _ fun _ => Silent.save _ _
      apply Silent.read
      intro s
      apply Silent.ite
      · exact fun _ => Silent.pure _
      · exact fun _ => (Silent.check _ _).bind fun _ => Silent.record _ _ _
    · exact fun _ => Silent.save _ _
  apply Silent.currentPod
  intro pod
  have looked : Silent (Prog.attempt (runner.site.exec pod (.logProgress runner.serverLogPath))) :=
    fun probes => Preserves.attempt (Silent.exec pod (fun _ => rfl) probes) fun _ _ same => same
  apply looked.bind
  intro outcome
  cases outcome with
  | error _ => exact Silent.pure _
  | ok probe => exact progress probe

theorem runChatSmoke_silent (pre : Text) : Silent (runner.runChatSmoke pre) := by
  have archived (tag : Text) : Silent (runner.archiveServerCrash tag) := by
    apply Silent.currentPod
    intro pod
    have read : Silent (Prog.attempt do
        let _ ← runner.site.exec pod (.archiveCrash runner.serverLogPath)
        runner.site.exec pod (.readFile runner.serverLogPath)) := fun probes =>
      Preserves.attempt ((Silent.exec pod).bind (fun _ => Silent.exec pod) probes) fun _ _ same => same
    apply read.bind
    intro outcome
    cases outcome with
    | error _ => exact (Silent.record _ _ _).bind fun _ => Silent.pure _
    | ok result =>
      apply Silent.ite
      · exact fun _ => (Silent.record _ _ _).bind fun _ => Silent.pure _
      · intro _
        apply Silent.bind (Silent.read fun _ => (Silent.save _ _).bind fun _ => Silent.pure _)
        exact fun _ => (Silent.record _ _ _).bind fun _ => Silent.pure _
  have passed (text finish : Json) : Silent (runner.chatPassed pre text finish) := by
    apply Silent.bind (Silent.ite (fun _ => Silent.record _ _ _) fun _ => Silent.pure _)
    intro _
    apply (Silent.check _ _).bind
    intro _
    apply Silent.bind
    · apply Silent.ite
      · exact fun _ => Silent.pure _
      · intro _
        apply (Silent.check _ _).bind
        intro _
        exact (Silent.run _).bind fun _ => Silent.check _ _
    · exact fun _ => (Silent.run _).bind fun _ => Silent.record _ _ _
  apply Silent.currentPod
  intro pod
  apply (Silent.exec pod).bind
  intro _
  apply (Silent.exec pod).bind
  intro result
  apply (Silent.save _ _).bind
  intro _
  apply (Silent.run _).bind
  rintro ⟨text, finish⟩
  apply (Silent.run _).bind
  intro lacks
  apply Silent.ite
  · intro _
    apply (Silent.check _ _).bind
    intro _
    apply (Silent.record _ _ _).bind
    intro _
    exact (archived _).bind fun _ => Silent.raise
  · exact fun _ => passed text finish

theorem verifyBackend_silent (pre : Text) : Silent (runner.verifyBackend pre) := by
  apply Silent.currentPod
  intro pod
  apply (Silent.exec pod).bind
  intro result
  apply (Silent.save _ _).bind
  intro _
  apply (Silent.check _ _).bind
  intro _
  apply (Silent.check _ _).bind
  intro _
  apply Silent.ite
  · exact fun _ => (Silent.record _ _ _).bind fun _ => Silent.raise
  · intro _
    apply Silent.ite
    · exact fun _ => (Silent.record _ _ _).bind fun _ => Silent.raise
    · exact fun _ => Silent.record _ _ _

theorem clearService_silent : Silent runner.clearService := by
  have gone (pod : Text) (rounds : Nat) (last : Text) : Silent (runner.survivors pod rounds last) := by
    induction rounds generalizing last with
    | zero => exact Silent.pure _
    | succ rounds ih =>
      apply (Silent.exec pod).bind
      intro probe
      apply Silent.ite
      · exact fun _ => Silent.pure _
      · exact fun _ => ih _
  apply Silent.currentPod
  intro pod
  apply (Silent.exec pod).bind
  intro _
  apply (gone pod _ _).bind
  intro survivor
  apply Silent.ite
  · exact fun _ => Silent.record _ _ _
  · exact fun _ => Silent.raise

end Silence

section Polling
variable {runner : Runner} {pod : Text} {facts : Dict}

theorem streaking_zero (trace : List Occurrence) : runner.Streaking pod 0 trace :=
  ⟨probesOf trace, [], (List.append_nil _).symm, rfl, nofun⟩

theorem Silent.keeps {x : Proof α} (silent : Silent x) (P : List Occurrence → Prop) :
    Yields (fun s => P (probesOf s.trace)) (fun _ s => P (probesOf s.trace)) x := by
  intro s holds
  apply ((silent (probesOf s.trace)).yields s rfl).mono
  · intro _ t _ same
    rwa [same]
  · exact fun _ _ _ _ => trivial

theorem Silent.streaking {x : Proof α} (silent : Silent x) (n : Nat) :
    Yields (fun s => runner.Streaking pod n s.trace) (fun _ s => runner.Streaking pod n s.trace) x :=
  silent.keeps fun probes => ∃ earlier streak, probes = earlier ++ streak ∧ streak.length = n ∧
    ∀ event ∈ streak, runner.Healthy pod event

theorem Silent.accepted {x : Proof α} (silent : Silent x) (runner : Runner) (pod : Text) :
    Yields (fun s => runner.HealthAccepted pod s.trace)
      (fun _ s => runner.HealthAccepted pod s.trace) x := by
  rintro s ⟨n, required, streaking⟩
  apply (silent.streaking n s streaking).mono
  · exact fun _ _ _ streaking => ⟨n, required, streaking⟩
  · exact fun _ _ _ _ => trivial

/-- One probe more: the streak grows or breaks. -/
theorem httpProbe_yields (n : Nat) : Yields
    (fun s => Recorded pod facts s ∧ runner.Streaking pod n s.trace)
    (fun probed t => Recorded pod facts t ∧ runner.Streaking pod
      (if probed.1 = runner.contract.health.expectedStatus then n + 1 else 0) t.trace)
    (runner.site.httpProbe pod (.probe runner.contract.health.path runner.contract.port)) := by
  apply (send_yields _).bind
  rintro result t ⟨s, ⟨recorded, earlier, streak, probes, length, healthy⟩, rfl⟩
  refine ⟨recorded.noting _, ?_⟩
  split
  · next expected =>
    refine ⟨earlier, streak ++ [.ran (.exec pod (.probe runner.contract.health.path
      runner.contract.port)) (.completed result)], ?_, ?_, ?_⟩
    · rw [Session.noting, probesOf_append, probes, List.append_assoc]
      rfl
    · rw [List.length_append, length]
      rfl
    · intro event member
      rcases List.mem_append.mp member with before | here
      · exact healthy event before
      · cases List.mem_singleton.mp here
        exact ⟨rfl, rfl, rfl, expected⟩
  · exact streaking_zero _

/-- What holds between two polls. -/
def Waiting (runner : Runner) (pod : Text) (facts : Dict) (polling : Runner.Polling) (s : Session) :
    Prop :=
  (Recorded pod facts s ∧ runner.Streaking pod polling.streak s.trace) ∧
    (polling.streak : Int) < runner.contract.healthSuccessesRequired

def Accepted (runner : Runner) (pod : Text) (facts : Dict) (pre : Text) (s : Session) : Prop :=
  (Recorded pod ((Runner.prefixed pre "health_check",
      .int runner.contract.health.expectedStatus) :: facts) s ∧
    Wrote (Runner.prefixed pre "health_result.txt") s) ∧ runner.HealthAccepted pod s.trace

theorem pollOnce_yields (pre : Text) (polling : Runner.Polling)
    (stall : Unrecorded facts "startup_log_stall")
    (fresh : Unrecorded facts (Runner.prefixed pre "health_check")) :
    Yields (Waiting runner pod facts polling)
      (fun outcome t => match outcome with
        | .inl next => Waiting runner pod facts next t
        | .inr () => Accepted runner pod facts pre t) (runner.pollOnce pre polling) := by
  apply currentPod_yields fun _ waiting => waiting.1.1.current
  apply Yields.bind (Q := fun probed s => (Recorded pod facts s ∧ runner.Streaking pod
      (if probed.1 = runner.contract.health.expectedStatus then polling.streak + 1 else 0) s.trace) ∧
    (polling.streak : Int) < runner.contract.healthSuccessesRequired)
  · intro s waiting
    apply (httpProbe_yields polling.streak s waiting.1).mono
    · exact fun _ _ _ probed => ⟨probed, waiting.2⟩
    · exact fun _ _ _ _ => trivial
  rintro ⟨code, body⟩ s ⟨⟨recorded, streaking⟩, short⟩
  dsimp only at streaking ⊢
  generalize counted : (if code = runner.contract.health.expectedStatus then polling.streak + 1
    else 0) = streak at streaking ⊢
  have atMost : (streak : Int) ≤ runner.contract.healthSuccessesRequired := by
    split at counted <;> omega
  have kept : Calm (Recorded pod facts) (runner.watchServerLog polling.pollIndex code) :=
    Runner.watchServerLog_calm (recorded_steady _) stall polling.pollIndex code
  refine (kept.yields.and ((watchServerLog_silent polling.pollIndex code).streaking streak)).bind ?_ s
    ⟨recorded, streaking⟩
  intro _
  apply Yields.ite
  · intro enough
    have exact : (streak : Int) = runner.contract.healthSuccessesRequired := by omega
    have accepted : Yields (Recorded pod facts) (fun _ t =>
        Recorded pod ((Runner.prefixed pre "health_check",
          .int runner.contract.health.expectedStatus) :: facts) t ∧
        Wrote (Runner.prefixed pre "health_result.txt") t)
        (runner.healthAccepted pre ("status=" ++ Text.ofInt code ++ " body=" ++ body.upTo 200)) := by
      apply (recorded_save _ _).bind
      intro _
      apply ((recorded_check fresh _).carry (file_lasting _ _)).bind
      intro _
      apply ((recorded_note _ _ _).carry (file_lasting _ _)).mono fun _ holds => holds
      exact fun _ _ holds => ⟨holds.1, _, holds.2⟩
    have silent : Silent (runner.healthAccepted pre
        ("status=" ++ Text.ofInt code ++ " body=" ++ body.upTo 200)) :=
      (Silent.save _ _).bind fun _ => (Silent.check _ _).bind fun _ => Silent.record _ _ _
    apply (accepted.and (silent.streaking streak)).bind
    exact fun _ _ holds => ⟨holds.1, streak, exact, holds.2⟩
  · intro more
    have alive : Yields (fun s => Recorded pod facts s ∧ runner.Streaking pod streak s.trace)
        (fun _ s => Recorded pod facts s ∧ runner.Streaking pod streak s.trace)
        (runner.site.exec pod .serverAlive) :=
      (Calm.exec (recorded_steady _) (by rfl)).yields.and ((Silent.exec pod).streaking streak)
    apply alive.bind
    intro alive
    apply Yields.ite
    · intro _
      exact Yields.skip fun _ => Yields.skip fun _ => Yields.skip fun _ => Yields.raise
    · intro _ t holds
      exact ⟨holds, lt_of_le_of_ne atMost fun same => more same.ge⟩

theorem yields_whileBefore {I : β → Session → Prop} {Q : α → Session → Prop} {site : Site}
    {body : β → Proof (β ⊕ α)} {expired : β → Proof α} {deadline : Time}
    (tick : ∀ b, Yields (I b) (fun _ => I b) Proof.tick)
    (round : ∀ b, Yields (I b) (fun outcome t => match outcome with
      | .inl next => I next t
      | .inr result => Q result t) (body b))
    (ended : ∀ b, Yields (I b) Q (expired b)) (state : β) :
    Yields (I state) Q (site.whileBefore deadline body expired state) := by
  have rounds (n : Nat) (state : β) : Yields (I state) Q (Site.repeatRounds body expired n state) := by
    induction n generalizing state with
    | zero => exact (tick state).bind fun _ => ended state
    | succ n ih =>
      apply (tick state).bind
      intro _
      apply (round state).bind
      intro outcome
      cases outcome with
      | inl next => exact ih next
      | inr result => exact Yields.pure result
  exact Yields.read fun s => rounds _ state s

theorem pollHealth_yields (pre : Text) (demanding : runner.contract.Demanding)
    (stall : Unrecorded facts "startup_log_stall")
    (fresh : Unrecorded facts (Runner.prefixed pre "health_check")) :
    Yields (Recorded pod facts) (fun _ t => Accepted runner pod facts pre t)
      (runner.pollHealth pre) := by
  have steady : Steady runner.site.config pod (Unrecorded facts) (Recorded pod facts) :=
    recorded_steady _
  apply (Calm.deadlineAfter steady _).yields.bind
  intro deadline s recorded
  have start : Waiting runner pod facts ⟨0, ⟨[]⟩, 0⟩ s := by
    refine ⟨⟨recorded, streaking_zero _⟩, ?_⟩
    have := demanding.successes
    dsimp only
    omega
  apply yields_whileBefore (I := Waiting runner pod facts) _ _ _ _ s start
  · exact fun _ _ waiting => ⟨⟨⟨waiting.1.1.current, waiting.1.1.attached, waiting.1.1.proven⟩,
      waiting.1.2⟩, waiting.2⟩
  · exact fun polling => (pollOnce_yields pre polling stall fresh).mono (fun _ waiting => waiting)
      fun outcome _ holds => by cases outcome <;> exact holds
  · exact fun _ => Yields.skip fun _ => Yields.skip fun _ => Yields.skip fun _ => Yields.raise

end Polling

/-! ## The sequences -/

section Sequences
variable {runner : Runner} {pod : Text} {facts : Dict}

theorem startServer_yields (toy : Unrecorded facts "toy_bringup") :
    Yields (Recorded pod facts) (fun _ => Recorded pod facts) runner.startServer := by
  have steady : Steady runner.site.config pod (Unrecorded facts) (Recorded pod facts) :=
    recorded_steady _
  have answered {s : Session} {script : Script} {reply : Reply} (recorded : Recorded pod facts s) :
      Recorded pod facts (s.noting (.ran (.exec pod script) reply)) := recorded.noting _
  exact (Runner.startServer_endures steady (Runner.alreadyServing_keeps steady answered)
    (Runner.toyBringup_keeps steady answered toy)).yields

/-- The checks of a server that answered, the last one first. -/
def answeredFacts (runner : Runner) (pre : Text) (facts : Dict) : Dict :=
  chatFacts pre ++ (Runner.prefixed pre "health_check",
    .int runner.contract.health.expectedStatus) :: facts

/-- The checks of a server that was accepted. -/
def servedFacts (runner : Runner) (pre : Text) (facts : Dict) : Dict :=
  ("unexpected_fallback", .bool false) :: ("expected_backend", .str "kunlun") ::
    answeredFacts runner pre facts

/-- What has been seen of a server that answered. -/
def Answered (runner : Runner) (pod : Text) (facts : Dict) (pre : Text) (s : Session) : Prop :=
  (Recorded pod (answeredFacts runner pre facts) s ∧ runner.ChatAnswered pre pod s ∧
    Wrote (Runner.prefixed pre "health_result.txt") s) ∧ runner.HealthAccepted pod s.trace

/-- What has been seen of an accepted server. -/
def Served (runner : Runner) (pod : Text) (facts : Dict) (pre : Text) (s : Session) : Prop :=
  ((Recorded pod (servedFacts runner pre facts) s ∧ runner.BackendNamed pre pod s) ∧
    runner.ChatAnswered pre pod s ∧ Wrote (Runner.prefixed pre "health_result.txt") s) ∧
    runner.HealthAccepted pod s.trace

theorem unrecorded_of_new {key : Text} (new : key ∉ facts.map Prod.fst) : Unrecorded facts key := by
  rintro fact member rfl
  exact new (List.mem_map_of_mem member)

theorem answered_yields {rest : Proof α} {R : α → Session → Prop} (pre : Text)
    (demanding : runner.contract.Demanding) (stall : Unrecorded facts "startup_log_stall")
    (distinct : ((servedFacts runner pre facts).map Prod.fst).Nodup)
    (continued : Yields (Answered runner pod facts pre) R rest) :
    Yields (Recorded pod facts) R (do
      runner.pollHealth pre
      runner.runChatSmoke pre
      rest) := by
  simp only [servedFacts, answeredFacts, List.map_cons, List.map_append, List.nodup_cons,
    List.nodup_append, List.mem_cons] at distinct
  obtain ⟨_, _, _, ⟨health, _⟩, chat⟩ := distinct
  have fresh : ∀ fact ∈ chatFacts pre, Unrecorded ((Runner.prefixed pre "health_check",
      .int runner.contract.health.expectedStatus) :: facts) fact.1 := by
    intro fact member other found
    apply (chat fact.1 (List.mem_map_of_mem member) other.1 _).symm
    exact List.mem_cons.mp (List.mem_map_of_mem found)
  apply (pollHealth_yields pre demanding stall (unrecorded_of_new health)).bind
  intro _
  apply (((runChatSmoke_yields pre demanding fresh).carry
    (wrote_lasting (Runner.prefixed pre "health_result.txt"))).and
    ((runChatSmoke_silent pre).accepted runner pod)).bind
  intro _
  exact continued.mono (fun _ holds => ⟨⟨holds.1.1.1, holds.1.1.2, holds.1.2⟩, holds.2⟩)
    fun _ _ holds => holds

theorem served_yields (pre : Text) (demanding : runner.contract.Demanding)
    (distinct : ((servedFacts runner pre facts).map Prod.fst).Nodup) :
    Yields (Answered runner pod facts pre) (fun _ => Served runner pod facts pre)
      (runner.verifyBackend pre) := by
  simp only [servedFacts, List.map_cons, List.nodup_cons, List.mem_cons, not_or] at distinct
  obtain ⟨⟨_, fallback⟩, backend, _⟩ := distinct
  have lasting := (chatAnswered_lasting runner pre pod).and
    (wrote_lasting (Runner.prefixed pre "health_result.txt"))
  exact ((verifyBackend_yields pre demanding (unrecorded_of_new backend)
    (unrecorded_of_new fallback)).carry lasting).and ((verifyBackend_silent pre).accepted runner pod)

/-- The checks of an environment before its server is started, the last one first. -/
def preparedFacts : Dict :=
  [("base_model_loaded", .bool true), ("device_ready", .bool true), ("code_ready", .bool true),
    ("runtime_importable", .bool true), ("pod_ready", .bool true)]

/-! The keys of a phase are its own. -/

theorem environment_distinct :
    ((servedFacts runner "base_" preparedFacts).map Prod.fst).Nodup := by
  change (["unexpected_fallback", "expected_backend", "base_decode", "base_prefill",
    "base_chat_completion", "base_health_check", "base_model_loaded", "device_ready", "code_ready",
    "runtime_importable", "pod_ready"] : List Text).Nodup
  decide

theorem service_distinct :
    ((servedFacts runner ⟨[]⟩ [("pod_ready", .bool true)]).map Prod.fst).Nodup := by
  change (["unexpected_fallback", "expected_backend", "chat_completion", "health_check",
    "pod_ready"] : List Text).Nodup
  decide

/-- The service half, from a Pod that is ready. -/
theorem proveService_yields (demanding : runner.contract.Demanding) :
    Yields (Recorded pod [("pod_ready", .bool true)])
      (fun _ => Served runner pod [("pod_ready", .bool true)] ⟨[]⟩) runner.proveService := by
  apply (startServer_yields (by decide)).bind
  intro _
  apply answered_yields _ demanding (by decide) service_distinct
  exact served_yields _ demanding service_distinct

/-- The files that a prepared environment leaves. -/
def PreparedFiles (s : Session) : Prop :=
  (∀ name ∈ (["runtime_import.txt", "code_readiness.json", "device_readiness.json",
    "environment_fingerprint.txt"] : List Text), Wrote name s) ∧ Wrote "base_model_identity.json" s

theorem preparedFiles_lasting : Lasting PreparedFiles :=
  fun s t ahead files => ⟨fun name member => wrote_lasting name s t ahead (files.1 name member),
    wrote_lasting _ s t ahead files.2⟩

/-- The environment half, from a Pod that is ready. -/
theorem proveEnvironment_yields (demanding : runner.contract.Demanding) :
    Yields (Recorded pod [("pod_ready", .bool true)])
      (fun _ s => Served runner pod preparedFacts "base_" s ∧ PreparedFiles s)
      runner.proveEnvironment := by
  have steady : Steady runner.site.config pod (Unrecorded preparedFacts) (Recorded pod preparedFacts) :=
    recorded_steady _
  have servedSteady : Steady runner.site.config pod
      (Unrecorded (servedFacts runner "base_" preparedFacts))
      (Recorded pod (servedFacts runner "base_" preparedFacts)) := recorded_steady _
  have cleared : Yields (Served runner pod preparedFacts "base_")
      (fun _ => Served runner pod preparedFacts "base_") runner.clearService := by
    have lasting := (backendNamed_lasting runner "base_" pod).and
      ((chatAnswered_lasting runner "base_" pod).and
        (wrote_lasting (Runner.prefixed "base_" "health_result.txt")))
    apply (((Runner.clearService_calm servedSteady).yields.carry lasting).and
      (clearService_silent.accepted runner pod)).mono
    · exact fun _ served => ⟨⟨served.1.1.1, served.1.1.2, served.1.2⟩, served.2⟩
    · exact fun _ _ served => ⟨⟨⟨served.1.1, served.1.2.1⟩, served.1.2.2⟩, served.2⟩
  have server : Yields (Recorded pod preparedFacts)
      (fun _ => Served runner pod preparedFacts "base_") (do
        runner.cleanupUnlessHealthy
        runner.startServer
        runner.pollHealth "base_"
        runner.runChatSmoke "base_"
        runner.verifyBackend "base_"
        runner.clearService) := by
    apply (Runner.cleanupUnlessHealthy_calm steady).yields.bind
    intro _
    apply (startServer_yields (by decide)).bind
    intro _
    apply answered_yields _ demanding (by decide) environment_distinct
    exact (served_yields _ demanding environment_distinct).bind fun _ => cleared
  apply (verifyRuntimeImportable_yields (by decide) (by decide) (by decide)).bind
  intro _
  have lasting (names : List Text) : Lasting fun s => ∀ name ∈ names, Wrote name s :=
    fun s t ahead files name member => wrote_lasting name s t ahead (files name member)
  apply ((discoverBaseModel_yields (by decide)).carry (lasting _)).bind
  intro _
  exact (server.carry preparedFiles_lasting).mono (fun _ holds => ⟨holds.1.1, holds.2, holds.1.2⟩)
    fun _ _ holds => holds

end Sequences

/-! ## The Pod -/

section Pods
variable {runner : Runner} {attachPod : Option Text} {pod : Text}

theorem Comes.yields {site : Site} {P : Session → Prop} {Q : α → Session → Prop}
    {x : Proof α} (comes : Comes site attachPod P Q x) : Yields P Q x := by
  intro s holds
  exact (comes s holds).mono (fun _ _ _ q => q) fun _ _ _ _ => trivial

theorem installRuntime_yields {facts : Dict} :
    Yields (Recorded pod facts) (fun _ => Recorded pod facts) runner.installRuntime :=
  (Runner.installRuntime_calm (recorded_steady _)).yields

theorem importContext_yields : Yields (Recorded pod [])
    (fun _ s => Recorded pod [("pod_ready", .bool true)] s ∧ Wrote "pod_spec.yaml" s)
    (runner.importContext pod) := by
  have steady (facts : Dict) :
      Steady runner.site.config pod (Unrecorded facts) (Recorded pod facts) := recorded_steady _
  apply Yields.bind ((Calm.query (steady []) (by trivial)).bind fun _ => Preserves.pure _).yields
  intro ready
  apply Yields.ite
  · intro _
    apply (recorded_check (by decide) _).bind
    intro _
    apply (Calm.query (steady _) (by trivial)).yields.bind
    intro spec
    apply (recorded_save _ _).bind
    intro _
    have installed : Yields (Recorded pod [("pod_ready", .bool true)])
        (fun _ => Recorded pod [("pod_ready", .bool true)]) (do
          Proof.record "attach_pod" true ("imported context: " ++ pod)
          if runner.phase ≠ .service then
            if ← runner.runtimeAlreadyInstalled then
              Proof.record "install" true
                "skipped: attached pod already has an importable runtime and pinned worktree"
            else runner.installRuntime) := by
      apply (recorded_note _ _ _).bind
      intro _
      apply Yields.ite
      · intro _
        apply (Runner.runtimeAlreadyInstalled_calm (steady _)).yields.bind
        intro already
        apply Yields.ite
        · exact fun _ => recorded_note _ _ _
        · exact fun _ => installRuntime_yields
      · exact fun _ _ recorded => recorded
    exact (installed.carry (file_lasting _ _)).mono (fun _ holds => holds)
      fun _ _ holds => ⟨holds.1, _, holds.2⟩
  · exact fun _ => Yields.raise

/-- What obtaining a Pod leaves. -/
def Obtained (pod : Text) (s : Session) : Prop :=
  Recorded pod [("pod_ready", .bool true)] s ∧ Wrote "pod_spec.yaml" s

theorem attach_yields (pod : Text) :
    Yields (fun s => ∀ other, given s.attachPod = some other → other = pod)
      (fun _ => Obtained pod) (runner.attach pod) := by
  apply Yields.bind (Q := fun _ s => ∀ other, given s.attachPod = some other → other = pod)
  · apply Preserves.yields (R := fun _ _ => True)
    apply Preserves.bind (Preserves.lift fun _ _ _ _ => trivial)
    exact fun _ _ attached => attached
  · intro _
    apply Yields.bind (Q := fun _ => Recorded pod [])
    · exact fun _ attached => ⟨rfl, attached, nofun⟩
    · exact fun _ => importContext_yields

/-- The Pod that was waited for is ready, and its description is kept. -/
theorem waitForPod_yields : Yields (fun _ => True)
    (fun _ s => Dict.get? s.checks "pod_ready" = some (.bool true) ∧ Wrote "pod_spec.yaml" s)
    runner.waitForPod := by
  apply Yields.skip
  intro deadline
  apply yields_whileBefore (I := fun _ _ => True)
  · exact fun _ _ _ => trivial
  · intro _
    apply Yields.skip
    intro listed
    split
    · exact fun _ _ => trivial
    · next name _ _ =>
      apply Yields.skip
      intro ready
      apply Yields.ite
      · intro _
        apply Yields.skip
        intro _
        apply Yields.bind (Q := fun _ s => Dict.get? s.checks "pod_ready" = some (.bool true))
        · intro s _
          change Dict.get? (Dict.set s.checks "pod_ready" (.bool true)) "pod_ready" = _
          rw [Dict.get?_set, if_pos rfl]
        · intro _
          apply (send_yields _).bind
          rintro spec _ ⟨s, checked, rfl⟩
          exact ⟨checked, _, List.mem_append_right _ List.mem_cons_self⟩
      · exact fun _ _ _ => trivial
  · exact fun _ => Yields.skip fun _ => Yields.raise

theorem prepareEnvironment_yields : Yields (Unprepared runner.site attachPod)
    (fun _ s => ∃ pod, Obtained pod s) runner.prepareEnvironment := by
  apply (rendered_comes fun _ fresh => fresh.orderly).yields.bind
  intro manifest
  apply Yields.bind (Q := fun _ => Unprepared runner.site attachPod)
  · exact fun s fresh => fresh.quiet rfl rfl
  · intro _
    apply (apply_comes _).yields.bind
    intro applied
    apply Yields.ite
    · exact fun _ => Yields.raise
    · intro _
      apply Yields.bind (Q := fun _ => Unprepared runner.site attachPod)
      · exact fun s fresh => fresh.quiet rfl rfl
      · intro _
        apply Yields.bind ((waitForPod_comes.yields.and waitForPod_yields).mono
          (fun _ fresh => ⟨fresh, trivial⟩) fun _ _ holds => holds)
        intro pod
        apply Yields.bind (Q := fun _ => Obtained pod)
        · intro s holds
          refine ⟨⟨rfl, ?_, ?_⟩, holds.2.2⟩
          · intro other given
            exact absurd (holds.1.attached.symm.trans given) nofun
          · intro fact member
            rw [List.mem_singleton.mp member]
            exact holds.2.1
        · intro _
          exact (installRuntime_yields.carry (wrote_lasting _)).mono (fun _ obtained => obtained)
            fun _ _ obtained => ⟨pod, obtained⟩

/-- The Pod of a proof is ready and has a name. -/
theorem obtainPod_yields : Yields (Looking runner.site attachPod)
    (fun _ s => ∃ pod, Obtained pod s ∧ pod.isEmpty = false) runner.obtainPod := by
  have obtained : Yields (Looking runner.site attachPod) (fun _ s => ∃ pod, Obtained pod s)
      runner.obtainPod := by
    apply findPod_comes.yields.bind
    intro found
    cases found with
    | some pod =>
      apply (attach_yields pod).mono
      · exact fun _ found other given => (Option.some.inj (found.2.symm.trans given)).symm
      · exact fun _ _ obtained => ⟨pod, obtained⟩
    | none =>
      apply Yields.bind (preflight_comes.yields.mono (fun _ found => Found.fresh found)
        fun _ _ fresh => fresh)
      exact fun _ => prepareEnvironment_yields
  apply (obtained.and obtainPod_comes.yields).mono fun _ looking => ⟨looking, looking⟩
  rintro _ s ⟨⟨pod, obtained⟩, other, held⟩
  obtain rfl := Option.some.inj (obtained.1.current.symm.trans held.current)
  exact ⟨pod, obtained, (assertOwned_passed (held.orderly.allowed pod held.owned)).1⟩

end Pods

/-! ## The verdict -/

section Verdict
variable {runner : Runner} {attachPod : Option Text} {pod : Text}

theorem registerStatus_yields (runner : Runner) {P : Session → Prop} (status : Dict) :
    Yields P (fun published u => P u ∧ published = status) (runner.registerStatus status) := by
  apply Yields.read
  intro s holds
  split
  · exact ⟨holds, rfl⟩
  · dsimp only
    split <;> trivial

/-- A later session that only wrote files. -/
structure FiledSince (s t : Session) : Prop where
  checks : t.checks = s.checks
  pod : t.pod = s.pod
  later : s ≤ t

theorem FiledSince.save (s : Session) (name : Text) (content : Written) :
    Yields (FiledSince s) (fun _ t => FiledSince s t ∧ Wrote name t) (Proof.save name content) := by
  intro t filed
  refine ⟨⟨filed.checks, filed.pod, filed.later.trans ?_⟩, content,
    List.mem_append_right _ List.mem_cons_self⟩
  exact ⟨List.prefix_rfl, List.prefix_append _ _, fun _ found => found⟩

/-- The status of a proof that ended, from the session that it was published in. -/
theorem collectArtifacts_yields (state : Text) (s : Session) :
    Yields (FiledSince s) (fun status u => ∃ t, FiledSince s t ∧ FiledSince t u ∧ status = runner.status t state ⟨[]⟩ ∧
        ∀ name ∈ (["task_contract.yaml", "reproduce_command.txt", "status.json"] : List Text),
          Wrote name u)
      (runner.collectArtifacts state ⟨[]⟩) := by
  apply (FiledSince.save s _ _).bind
  intro _
  apply ((FiledSince.save s _ _).carry (wrote_lasting _)).bind
  intro _
  change Yields _ _ (runner.publish state ⟨[]⟩)
  apply Yields.read
  intro r holds
  have recorded := (FiledSince.save s "execution_records.json"
    (.json (.arr (r.records.map Record.json)))).carry
    ((wrote_lasting "reproduce_command.txt").and (wrote_lasting "task_contract.yaml"))
  refine (recorded.bind (R := _) ?_) r ⟨holds.1.1, holds.1.2, holds.2⟩
  intro _
  apply Yields.read
  intro t holds
  have same : FiledSince t t := ⟨rfl, rfl, le_rfl⟩
  have published := (FiledSince.save t "status.json" (.json (.obj (runner.status t state ⟨[]⟩)))).bind
    fun _ => registerStatus_yields runner (runner.status t state ⟨[]⟩)
  apply (published t same).mono
  · rintro status u - ⟨⟨filed, wrote⟩, rfl⟩
    refine ⟨t, holds.1.1, filed, rfl, ?_⟩
    simp only [List.forall_mem_cons]
    exact ⟨wrote_lasting _ t u filed.later holds.2.2, wrote_lasting _ t u filed.later holds.2.1,
      wrote, by simp⟩
  · exact fun _ _ _ _ => trivial

theorem status_state (s : Session) (state reason : Text) :
    Dict.get? (runner.status s state reason) "state" = some (.str state) := by
  unfold Runner.status
  dsimp only
  split
  · rfl
  · rw [Dict.get?_set, if_neg (by decide)]
    rfl

theorem collectArtifacts_state (state reason : Text) :
    Yields (fun _ => True) (fun status _ => Dict.get? status "state" = some (.str state))
      (runner.collectArtifacts state reason) := by
  have published : Yields (fun _ => True)
      (fun status _ => Dict.get? status "state" = some (.str state)) (runner.publish state reason) := by
    apply Yields.read
    intro s _
    apply Yields.skip (P := fun _ => True) _ s trivial
    intro _
    apply Yields.read
    intro t _
    apply Yields.skip (P := fun _ => True) _ t trivial
    intro _
    apply (registerStatus_yields runner _).mono fun _ holds => holds
    rintro status _ ⟨_, rfl⟩
    exact status_state t state reason
  apply Yields.skip
  intro _
  apply Yields.skip
  intro _
  apply Yields.ite
  · exact fun _ => Yields.skip fun _ => published
  · exact fun _ => published

/-- A proof that failed is not reported as ready. -/
theorem conclude_failure {fault : Fault} (failure : fault.ready = false) :
    Yields (fun _ => True) (fun status _ =>
        Dict.get? status "state" ≠ some (.str "ENVIRONMENT_READY") ∧
        Dict.get? status "state" ≠ some (.str "DEPLOYMENT_READY"))
      (runner.conclude (.error fault)) := by
  have failed (state reason : Text) (environment : state ≠ "ENVIRONMENT_READY")
      (service : state ≠ "DEPLOYMENT_READY") : Yields (fun _ => True) (fun status _ =>
        Dict.get? status "state" ≠ some (.str "ENVIRONMENT_READY") ∧
        Dict.get? status "state" ≠ some (.str "DEPLOYMENT_READY"))
      (runner.collectArtifacts state reason) := by
    apply (collectArtifacts_state state reason).mono fun _ holds => holds
    intro status _ same
    simp [same, environment, service]
  cases fault with
  | actionFailed state message =>
    simp only [Fault.ready, Bool.or_eq_false_iff, beq_eq_false_iff_ne] at failure
    exact Yields.skip fun _ => failed state message failure.1 failure.2
  | safetyViolation => exact Yields.skip fun _ => failed _ _ (by decide) (by decide)
  | timeoutExpired => exact Yields.skip fun _ => failed _ _ (by decide) (by decide)
  | runtimeError => exact Yields.raise
  | raised => exact Yields.raise

/-- The files of a session are in the status that it publishes. -/
theorem wrote_listed {name : Text} {s : Session} (wrote : Wrote name s) (host : Host) :
    mentions host (.arr ((runner.artifacts s).map Json.str)) name = .ok true := by
  obtain ⟨content, member⟩ := wrote
  have named : name ∈ runner.artifacts s := by
    unfold Runner.artifacts
    rw [List.mem_mergeSort, List.mem_dedup]
    exact List.mem_cons_of_mem _ (List.mem_append_right _ (List.mem_map_of_mem member))
  rw [mentions]
  congr 1
  rw [List.any_eq_true]
  exact ⟨.str name, List.mem_map_of_mem named, by simp [Json.eq]⟩

theorem Recorded.get {facts : Dict} {s : Session} (recorded : Recorded pod facts s) {key : Text}
    {value : Json} (member : (key, value) ∈ facts) : Dict.getD s.checks key .null = value := by
  rw [Dict.getD, recorded.proven _ member]
  rfl

theorem Recorded.filed {facts : Dict} {s t : Session} (recorded : Recorded pod facts s)
    (filed : FiledSince s t) {key : Text} {value : Json} (member : (key, value) ∈ facts) :
    Dict.getD t.checks key .null = value := by
  rw [filed.checks]
  exact recorded.get member

theorem Served.proven {facts : Dict} {pre : Text} {s t : Session}
    (served : Served runner pod facts pre s) (filed : FiledSince s t) (trace : t.trace = s.trace) :
    runner.Proven pre t := by
  refine ⟨pod, filed.pod.trans served.1.1.1.current, trace ▸ served.2, ?_, ?_⟩
  · exact chatAnswered_lasting runner pre pod s t filed.later served.1.2.1
  · exact backendNamed_lasting runner pre pod s t filed.later served.1.1.2

/-- A required check that is recorded. -/
theorem mustEqual_same {checks : Dict} {key shown : Text} {expected : Json}
    (recorded : Dict.getD checks key .null = expected) (same : expected.eq expected = true) :
    mustEqual checks key expected shown = [] := by
  rw [mustEqual, recorded, same]
  rfl

theorem artifacts_truthy (s : Session) :
    (Json.arr ((runner.artifacts s).map Json.str)).truthy = true := by
  have named : Text.ofString "status.json" ∈ runner.artifacts s := by
    unfold Runner.artifacts
    rw [List.mem_mergeSort, List.mem_dedup]
    exact List.mem_cons_self
  have some' := List.ne_nil_of_mem (List.mem_map_of_mem (f := Json.str) named)
  cases listed : (runner.artifacts s).map Json.str with
  | nil => exact absurd listed some'
  | cons => rfl

theorem deployment_valid {s t : Session} (demanding : runner.contract.Demanding)
    (served : Served runner pod [("pod_ready", .bool true)] ⟨[]⟩ s) (filed : FiledSince s t) :
    validateDeploymentStatus (runner.status t "DEPLOYMENT_READY" ⟨[]⟩) = .ok [] := by
  have check {key : Text} {value : Json} (member : (key, value) ∈
      servedFacts runner ⟨[]⟩ [("pod_ready", .bool true)]) : Dict.getD t.checks key .null = value :=
    served.1.1.1.filed filed member
  simp only [servedFacts, answeredFacts, demanding.status] at check
  change Except.ok ([] ++ mustEqual t.checks "pod_ready" (.bool true) "True" ++
    mustEqual t.checks "health_check" (.int 200) "200" ++
    mustEqual t.checks "chat_completion" (.str "non_empty") "'non_empty'" ++
    mustEqual t.checks "expected_backend" (.str "kunlun") "'kunlun'" ++
    mustEqual t.checks "unexpected_fallback" (.bool false) "False" ++
    errorIf (!(Json.arr ((runner.artifacts t).map Json.str)).truthy) _) = _
  rw [mustEqual_same (check (by simp [chatFacts, Runner.prefixed])) rfl,
    mustEqual_same (check (by simp [chatFacts, Runner.prefixed, Text.isEmpty])) (by simp),
    mustEqual_same (check (by simp [chatFacts, Runner.prefixed, Text.isEmpty])) (by simp),
    mustEqual_same (check (by simp [chatFacts, Runner.prefixed])) (by simp),
    mustEqual_same (check (by simp [chatFacts, Runner.prefixed])) rfl, artifacts_truthy]
  rfl

/-- The checks of a ready environment. -/
def environmentFacts : Dict :=
  [("unexpected_fallback", .bool false), ("expected_backend", .str "kunlun"),
    ("base_decode", .bool true), ("base_prefill", .bool true),
    ("base_chat_completion", .str "non_empty"), ("base_health_check", .int 200),
    ("base_model_loaded", .bool true), ("device_ready", .bool true), ("code_ready", .bool true),
    ("runtime_importable", .bool true), ("pod_ready", .bool true)]

theorem environment_valid {s t : Session} (host : Host) (demanding : runner.contract.Demanding)
    (served : Served runner pod preparedFacts "base_" s) (filed : FiledSince s t)
    (named : pod.isEmpty = false) (files : ∀ name ∈ environmentArtifacts, Wrote name t) :
    validateEnvironmentStatus host (runner.status t "ENVIRONMENT_READY" ⟨[]⟩) = .ok [] := by
  have check {key : Text} {value : Json} (member : (key, value) ∈
      servedFacts runner "base_" preparedFacts) : Dict.getD t.checks key .null = value :=
    served.1.1.1.filed filed member
  have facts : servedFacts runner "base_" preparedFacts = environmentFacts := by
    rw [servedFacts, answeredFacts, demanding.status]
    rfl
  rw [facts] at check
  have present : (environmentArtifacts.mapM fun name => do
      return errorIf (!(← mentions host (.arr ((runner.artifacts t).map Json.str)) name))
        (name ++ " must be part of the evidence bundle") :
      Except Exn (List (List Text))) = .ok (environmentArtifacts.map fun _ => []) := by
    apply mapM_ok
    intro name member
    rw [wrote_listed (files name member)]
    rfl
  have flag {key : Text} (member : (key, .bool true) ∈ environmentFacts) : errorIf
      (!(Dict.getD t.checks key .null).isTrue) ("checks." ++ key ++ " must be True") = [] := by
    rw [check member]
    rfl
  have held : Dict.getD (runner.status t "ENVIRONMENT_READY" ⟨[]⟩) "pod" .null = .str pod := by
    change Runner.podValue t = _
    rw [Runner.podValue, filed.pod, served.1.1.1.current]
  have recorded : Dict.getD (runner.status t "ENVIRONMENT_READY" ⟨[]⟩) "checks" (.obj []) =
    .obj t.checks := rfl
  have artifacts : Dict.getD (runner.status t "ENVIRONMENT_READY" ⟨[]⟩) "artifacts" .null =
     .arr ((runner.artifacts t).map Json.str) := rfl
  have state : Dict.getD (runner.status t "ENVIRONMENT_READY" ⟨[]⟩) "state" .null =
    .str "ENVIRONMENT_READY" := rfl
  unfold validateEnvironmentStatus
  rw [recorded, artifacts, state, held]
  dsimp only
  rw [artifacts_truthy, if_pos rfl, present, ok_bind,
    mustEqual_same (check (by simp [environmentFacts])) (by simp),
    mustEqual_same (check (by simp [environmentFacts])) (by simp),
    mustEqual_same (check (by simp [environmentFacts])) rfl]
  simp only [List.flatMap_cons, List.flatMap_nil]
  rw [flag (by simp [environmentFacts]), flag (by simp [environmentFacts]), flag (by simp [environmentFacts]), flag (by simp [environmentFacts]),
    flag (by simp [environmentFacts]), flag (by simp [environmentFacts]), flag (by simp [environmentFacts])]
  simp [errorIf, Json.truthy, named]

/-- What the actions of a proof that ends in this state have seen. -/
def Ended (runner : Runner) (state : Text) (s : Session) : Prop :=
  ∃ pod, pod.isEmpty = false ∧
    (state = "ENVIRONMENT_READY" ∧ Served runner pod preparedFacts "base_" s ∧ PreparedFiles s ∨
      state = "DEPLOYMENT_READY" ∧ Served runner pod [("pod_ready", .bool true)] ⟨[]⟩ s ∧
        Wrote "pod_spec.yaml" s)

theorem actions_yields (demanding : runner.contract.Demanding) :
    Yields (Looking runner.site attachPod) (Ended runner) runner.actions := by
  apply obtainPod_yields.bind
  rintro - s ⟨pod, obtained, named⟩
  have environment := (proveEnvironment_yields demanding).bind (R := Ended runner)
    (f := fun _ => pure "ENVIRONMENT_READY") fun _ s holds => ⟨pod, named, .inl ⟨rfl, holds⟩⟩
  have service := ((proveService_yields demanding).carry (wrote_lasting "pod_spec.yaml")).bind
    (R := Ended runner) (f := fun _ => pure "DEPLOYMENT_READY")
    fun _ s holds => ⟨pod, named, .inr ⟨rfl, holds⟩⟩
  split
  · exact environment s obtained.1
  · exact service s obtained

/-- What the verdict of a proof promises. -/
structure Verdict (runner : Runner) (status : Dict) (s : Session) : Prop where
  environment : Dict.get? status "state" = some (.str "ENVIRONMENT_READY") →
    validateEnvironmentStatus runner.site.host status = .ok [] ∧ runner.Proven "base_" s ∧
      ∀ name ∈ environmentArtifacts, Wrote name s
  deployment : Dict.get? status "state" = some (.str "DEPLOYMENT_READY") →
    validateDeploymentStatus status = .ok [] ∧ runner.Proven ⟨[]⟩ s ∧
      ∀ name ∈ serviceArtifacts, Wrote name s

/-- The files of a proven environment, those of its server among them. -/
theorem environment_files {s t : Session} (served : Served runner pod preparedFacts "base_" s)
    (files : PreparedFiles s) (later : s ≤ t) : ∀ name ∈ environmentArtifacts, Wrote name t := by
  have log : Wrote "base_server_log.txt" s := by
    obtain ⟨_, _, kept, _⟩ := served.1.1.2
    exact ⟨_, kept⟩
  have chat : Wrote "base_chat_result.json" s := by
    obtain ⟨_, _, _, _, kept, _⟩ := served.1.2.1
    exact ⟨_, kept⟩
  have health : Wrote "base_health_result.txt" s := served.1.2.2
  obtain ⟨checked, identity⟩ := files
  simp only [List.forall_mem_cons] at checked
  obtain ⟨imported, code, device, fingerprint, _⟩ := checked
  have all : ∀ name ∈ environmentArtifacts, Wrote name s := by
    unfold environmentArtifacts
    simp only [List.forall_mem_cons]
    exact ⟨fingerprint, imported, code, device, identity, log, health, chat, by simp⟩
  exact fun name member => wrote_lasting name s t later (all name member)

theorem service_files {facts : Dict} {s t : Session} (served : Served runner pod facts ⟨[]⟩ s)
    (spec : Wrote "pod_spec.yaml" s) (later : s ≤ t)
    (wrote : ∀ name ∈ (["task_contract.yaml", "reproduce_command.txt", "status.json"] : List Text),
      Wrote name t) : ∀ name ∈ serviceArtifacts, Wrote name t := by
  obtain ⟨_, _, log, _⟩ := served.1.1.2
  obtain ⟨_, _, _, _, chat, _⟩ := served.1.2.1
  unfold serviceArtifacts
  simp only [List.forall_mem_cons] at wrote ⊢
  exact ⟨wrote_lasting _ s t later spec, wrote_lasting _ s t later served.1.2.2,
    ⟨_, later.2.1.subset chat⟩, ⟨_, later.2.1.subset log⟩, wrote⟩

theorem concluded_verdict {s : Session} {state : Text} (demanding : runner.contract.Demanding)
    (ended : Ended runner state s) :
    wlp (runner.conclude (.ok state)) (fun status t => Verdict runner status t) s := by
  have collected := (collectArtifacts_yields state s s ⟨rfl, rfl, le_rfl⟩).and
    (conclude_trace runner (.ok state) s.trace s rfl)
  apply collected.mono
  · rintro status u - ⟨⟨t, filed, published, rfl, wrote⟩, trace⟩
    have later : FiledSince s u := ⟨published.checks.trans filed.checks, published.pod.trans filed.pod,
      filed.later.trans published.later⟩
    obtain ⟨pod, named, ⟨rfl, served, files⟩ | ⟨rfl, served, spec⟩⟩ := ended
    · constructor
      · intro _
        exact ⟨environment_valid _ demanding served filed named
          (environment_files served files filed.later), served.proven later trace,
          environment_files served files later.later⟩
      · intro other
        rw [status_state] at other
        exact absurd (Json.str.inj (Option.some.inj other)) (by decide)
    · constructor
      · intro other
        rw [status_state] at other
        exact absurd (Json.str.inj (Option.some.inj other)) (by decide)
      · intro _
        exact ⟨deployment_valid demanding served filed, served.proven later trace,
          service_files served spec later.later wrote⟩
  · exact fun _ _ _ _ => trivial

end Verdict

/-- Whatever the cluster answers: a proof of a generated contract that ends ready passes its
validator, and has seen what it reports. -/
theorem proof_verdict (runner : Runner) (generated : runner.contract.Generated)
    (attachPod : Option Text) :
    wlp runner.proof (fun status s => Verdict runner status s) (.start attachPod) := by
  have start := looking_start runner.site attachPod
  unfold Runner.proof
  rw [wlp, wp_bind, wp_attempt]
  apply ((actions_yields generated.demanding _ start).and (actions_comes _ start)).mono
  · exact fun state s _ ended => concluded_verdict generated.demanding ended.1
  · rintro fault s - ⟨-, failure, -⟩
    apply (conclude_failure failure s trivial).mono
    · exact fun status t _ failed => ⟨fun same => absurd same failed.1, fun same => absurd same failed.2⟩
    · exact fun _ _ _ _ => trivial

/-! A Pod on which everything works, for a proof of each phase. -/

theorem le_num_toNat (q : Rat) : q ≤ (q.num.toNat : Rat) := by
  have pos : (1 : Int) ≤ q.den := by exact_mod_cast q.den_pos
  have whole : (0 : Int) ≤ q.num.toNat := Int.natCast_nonneg _
  have above : q.num ≤ q.num.toNat := Int.self_le_toNat _
  rw [Rat.le_iff, Rat.num_natCast, Rat.den_natCast, Nat.cast_one, mul_one]
  exact above.trans (le_mul_of_one_le_right whole pos)

/-- `int()` of decimal digits. -/
def decimalSample (text : Text) : Option Int :=
  if text.isEmpty then none
  else text.codes.foldl (fun n c => do
    let n ← n
    if 48 ≤ c.val ∧ c.val ≤ 57 then some (n * 10 + (c.val - 48 : Nat)) else none) (some (0 : Int))

/-- The answers of a Pod on which everything works. -/
def healthyPod (models : Text) : Command → Completed
  | .query (.podReady _) => ⟨0, "True", ""⟩
  | .exec _ script =>
      match script with
      | .importCheck _ | .clearService _ | .survivors | .chatPayload _ | .logProgress _ => ⟨0, "", ""⟩
      | .importVersions => ⟨0, "0.11.0", ""⟩
      | .codeRevision _ => ⟨0, "3ced109a", ""⟩
      | .xpuSmi => ⟨0, "0 0 0 0 0 0 0 0 0 0 0 0 0 0 0 0 0 1 98304", ""⟩
      | .fingerprint _ => ⟨0, "vllm", ""⟩
      | .weightFiles _ => ⟨0, "model.safetensors", ""⟩
      | .launch .. => ⟨0, "started 7", ""⟩
      | .probe .. => ⟨0, "200", ""⟩
      | .models _ => ⟨0, models, ""⟩
      | .serverAlive => ⟨0, "up", ""⟩
      | .chatRequest .. => ⟨0, "answer", ""⟩
      | .readFile _ => ⟨0, "kunlun", ""⟩
      | _ => ⟨1, "", ""⟩
  | _ => ⟨0, "", ""⟩

def Site.healthy (models : Text) : Site := { Site.sample models with
  host := { Host.sample with intOfText := decimalSample }
  cluster := fun _ command => .completed (healthyPod models command)
  passes := fun deadline => ⟨deadline.num.toNat, le_num_toNat deadline⟩
  loads := fun text =>
    if text = "answer" then
      some (.obj [("choices", .arr [.obj [("message", .obj [("content", .str "Hello.")]),
        ("finish_reason", .str "stop")]])])
    else if text = "listing" then some (.obj [("data", .arr [.obj [("id", .str "model")]])])
    else none }

def profileSample : ClusterProfile :=
  ⟨"models", "base", "/base", "base", 1, "pvc", 1, "queue", "pool", "image", "base.yaml", []⟩

def Runner.preparing : Runner where
  site := .healthy "404"
  contract := buildEnvironmentContract profileSample "env-001" "alice" "serve" (some 3) none
  phase := .environment
  artifactRoot := "/run/output"
  manifestPath := "/run/manifest.json"

def Runner.healthyService : Runner := { Runner.sample ⟨[]⟩ with site := .healthy "200\nlisting" }

/-- The state that a proof ends with when this Pod is attached. -/
def Runner.endState (runner : Runner) (pod : Text) : Option Text :=
  match (runner.proof (.start (some pod))).1 with
  | .ok status =>
      match Dict.get? status "state" with
      | some (.str state) => some state
      | _ => none
  | .error _ => none

theorem Runner.endState_some (ends : Runner.endState runner pod = some state) :
    ∃ status, (runner.proof (.start (some pod))).1 = .ok status ∧
      Dict.get? status "state" = some (.str state) := by
  unfold Runner.endState at ends
  split at ends
  · next status returned =>
    split at ends
    · next found =>
      obtain rfl := Option.some.inj ends
      exact ⟨status, returned, found⟩
    · cases ends
  · cases ends

/-- Both proofs end ready, so their statuses pass and what they report was seen. -/
theorem proof_verdict_ready :
    (∃ status, Dict.get? status "state" = some (.str "ENVIRONMENT_READY") ∧
      validateEnvironmentStatus Runner.preparing.site.host status = .ok [] ∧
      Runner.preparing.Proven "base_" (Runner.preparing.proof (.start (some "alice-pod"))).2) ∧
    ∃ status, Dict.get? status "state" = some (.str "DEPLOYMENT_READY") ∧
      validateDeploymentStatus status = .ok [] ∧
      Runner.healthyService.Proven ⟨[]⟩ (Runner.healthyService.proof (.start (some "alice-pod"))).2 := by
  have prepared : Runner.preparing.endState "alice-pod" = some "ENVIRONMENT_READY" := by decide +kernel
  have served : Runner.healthyService.endState "alice-pod" = some "DEPLOYMENT_READY" := by decide +kernel
  obtain ⟨status, returned, state⟩ := Runner.endState_some prepared
  obtain ⟨status', returned', state'⟩ := Runner.endState_some served
  have environment := (proof_verdict Runner.preparing (.environment (by decide))
    (some "alice-pod")).returned returned
  have service := (proof_verdict Runner.healthyService .service (some "alice-pod")).returned returned'
  obtain ⟨valid, proven, _⟩ := environment.environment state
  obtain ⟨valid', proven', _⟩ := service.deployment state'
  exact ⟨⟨status, state, valid, proven⟩, status', state', valid', proven'⟩

end InferForge
