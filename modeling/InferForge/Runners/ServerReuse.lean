import InferForge.Runners.ProofSteps

/-! The probe of an endpoint, and the decision to keep a running server. The probe prints the
status and the body into one stream, and the decoder looks for a line feed between them. -/
namespace InferForge
open Py Effect Effect.Prog Proof

/-- A decimal digit. -/
def digit (d : Nat) : CodePoint := Fin.ofNat _ (48 + d % 10)

/-- `curl -w '%\x7bhttp_code\x7d'`. -/
def httpCode (status : Nat) : Text := ⟨[digit (status / 100), digit (status / 10), digit status]⟩

/-- What the adapter reads after `curl` printed the status and `cat` the body. -/
def curlOutput (status : Nat) (body : Text) (returncode : Int) (stderr : Text) : Completed :=
  ⟨returncode, ⟨universal ((httpCode status).codes ++ body.codes)⟩, stderr⟩

/-- What stands after the first line of the body. -/
def afterFirstLine (body : Text) : Text := (Text.partition ⟨universal body.codes⟩ 10).2

theorem digit_spec (d : Nat) : Text.isSpace (digit d) = false ∧ digit d ≠ 10 ∧ digit d ≠ 13 := by
  have bound : d % 10 < 10 := Nat.mod_lt _ (by decide)
  unfold digit
  generalize d % 10 = k at bound
  revert k
  decide

namespace Site
variable (site : Site)

/-- `int()` of three digits. -/
def ReadsStatus : Prop := ∀ status < 1000, site.host.intOfText (httpCode status) = some (status : Int)

/-- The status is read back, and of the body only what follows its first line. -/
theorem statusAndBody_curl {status : Nat} (reads : site.ReadsStatus) (bound : status < 1000)
    (body : Text) (returncode : Int) (stderr : Text) :
    site.statusAndBody (curlOutput status body returncode stderr) =
      ((status : Int), afterFirstLine body) := by
  have solid : ∀ c ∈ (httpCode status).codes, Text.isSpace c = false ∧ c ≠ 10 ∧ c ≠ 13 := by
    intro c member
    simp only [httpCode, List.mem_cons, List.not_mem_nil, or_false] at member
    rcases member with rfl | rfl | rfl <;> exact digit_spec _
  have plain : 13 ∉ (httpCode status).codes := fun member => (solid 13 member).2.2 rfl
  have printed : (curlOutput status body returncode stderr).stdout =
      ⟨(httpCode status).codes ++ universal body.codes⟩ :=
    Text.ext (universal_append plain _)
  -- the separator is looked for behind the digits
  have taken : ((httpCode status).codes ++ universal body.codes).takeWhile (· != 10) =
      (httpCode status).codes ++ (universal body.codes).takeWhile (· != 10) := by
    apply List.takeWhile_append_of_pos
    intro c member
    simpa using (solid c member).2.1
  obtain ⟨kept, stripped⟩ := Text.strip_front (httpCode status).codes
    ((universal body.codes).takeWhile (· != 10)) (by simp [httpCode])
    fun c member => (solid c member).1
  have first : (Text.partition ⟨(httpCode status).codes ++ universal body.codes⟩ 10).1.strip.upTo 3 =
      httpCode status := by
    apply Text.ext
    simp only [Text.partition, taken, Text.upTo, stripped]
    rfl
  have second : (Text.partition ⟨(httpCode status).codes ++ universal body.codes⟩ 10).2 =
      afterFirstLine body := by
    apply Text.ext
    simp only [Text.partition, taken, afterFirstLine, List.length_append, Nat.add_assoc]
    exact List.drop_length_add_append _
  simp only [statusAndBody, printed, first, second, reads status bound]

theorem httpProbe_curl {status : Nat} {s : Session} {script : Script} (reads : site.ReadsStatus)
    (bound : status < 1000) (probed : site.cluster s.trace (.exec pod script) =
      .completed (curlOutput status body returncode stderr)) :
    (site.httpProbe pod script s).1 = .ok ((status : Int), afterFirstLine body) := by
  have run : wp (site.httpProbe pod script)
      (fun probed _ => probed = ((status : Int), afterFirstLine body)) (fun _ _ => False) s := by
    simp only [httpProbe, exec, send, wp_bind, wp_read, probed, wp_pure,
      statusAndBody_curl site reads bound]
    exact trivial
  obtain ⟨normal, raised⟩ := wp_iff.mp run
  rcases outcome : (site.httpProbe pod script s).1 with fault | probed
  · exact (raised fault outcome).elim
  · rw [normal probed outcome]

/-- Only the empty body survives. -/
theorem afterFirstLine_eq {body : Text} : afterFirstLine body = body ↔ body = ⟨[]⟩ := by
  constructor
  · intro same
    have lengths := congrArg (fun t : Text => t.codes.length) same
    have shorter := length_universal_le body.codes
    simp only [afterFirstLine, Text.partition, List.length_drop] at lengths
    apply Text.ext
    apply List.eq_nil_of_length_eq_zero
    omega
  · rintro rfl
    rfl

end Site
namespace Runner
variable (runner : Runner)

/-- The command that asks for the models. -/
def modelsProbe (s : Session) : Command :=
  .exec (s.pod.getD ⟨[]⟩) (.models runner.contract.port)

/-- The running server is kept: the start returns, and asked for the models only. -/
def KeepsServer (s : Session) : Prop :=
  (runner.startServer s).1 = .ok () ∧ (runner.startServer s).2.1.trace = s.trace ++
    [.ran (runner.modelsProbe s) (runner.site.cluster s.trace (runner.modelsProbe s))]

/-- The body is a JSON listing with a model of the contract's name. -/
def Lists (body : Text) : Prop :=
  ∃ fields models, runner.site.loads body = some (.obj fields) ∧
    Dict.get? fields "data" = some (.arr models) ∧
    ∃ model ∈ models, ∃ entry, model = .obj entry ∧
      Dict.get? entry "id" = some (.str runner.contract.servedModelName)

section Start
variable {runner : Runner} {s : Session}

/-- Nothing that was sent is taken back. -/
theorem sent_lasting (n : Nat) : Lasting fun s : Session => n ≤ s.trace.length :=
  fun _ _ ahead sent => sent.trans ahead.1.length_le

theorem sends (command : Command) {n : Nat} : Yields (fun s => n ≤ s.trace.length)
    (fun _ s => n < s.trace.length) (runner.site.send command) := by
  apply (send_yields command).mono fun _ sent => sent
  rintro _ _ ⟨s, sent, rfl⟩
  simpa [Session.noting] using Nat.lt_succ_of_le sent

theorem launchServer_sends {n : Nat} : Yields (fun s => n ≤ s.trace.length)
    (fun _ s => n < s.trace.length) runner.launchServer := by
  unfold launchServer
  apply Yields.ite
  · exact fun _ => Yields.raise
  · intro _
    apply Yields.read
    intro s sent
    exact ((sends _).bind fun _ => (sent_lasting (n + 1)).yields) s sent

/-- A start that does not reuse the server sends more than the probe. -/
theorem startServer_relaunches {n : Nat}
    (probed : wlp runner.alreadyServing (fun reused t => reused = false ∧ n ≤ t.trace.length) s) :
    wlp runner.startServer (fun _ t => n < t.trace.length) s := by
  unfold startServer
  rw [wlp, wp_bind]
  apply probed.mono _ fun _ _ _ _ => trivial
  rintro reused t - ⟨rfl, sent⟩
  rw [if_neg Bool.false_ne_true]
  dsimp only
  split
  · have cleared : Yields _ _ runner.clearService := (sent_lasting n).yields
    have tried : Yields _ _ runner.toyBringupBeforeLoad := (sent_lasting n).yields
    exact (cleared.bind fun _ => tried.bind fun _ => launchServer_sends) t sent
  · exact launchServer_sends t sent

/-- The probe of the models, as the start sees it. -/
theorem wp_alreadyServing {Q : Bool → Session → Prop} {E : Fault → Session → Prop}
    (attached : given s.attachPod = some other)
    (answers : runner.site.cluster s.trace (runner.modelsProbe s) = .completed result) :
    wp runner.alreadyServing Q E s ↔ wp (runner.reuseServer (runner.site.statusAndBody result)) Q E
      (s.noting (.ran (runner.modelsProbe s) (.completed result))) := by
  unfold modelsProbe at answers
  simp only [alreadyServing, wp_bind, wp_read, attached, Proof.currentPod, wp_pure, Site.httpProbe,
    Site.exec, Site.send, answers]
  rfl

theorem wp_run {result : Except Exn α} {Q : α → Session → Prop} {E : Fault → Session → Prop} :
    wp (Proof.run result) Q E s ↔
      (∀ a, result = .ok a → Q a s) ∧ ∀ e, result = .error e → E (.raised e) s := by
  rw [Proof.run, wp_lift]
  cases result <;> simp [Except.mapError]

/-- The server is kept exactly where the decoded answer lists the model. -/
theorem keepsServer_iff (attached : given s.attachPod = some other)
    (answers : runner.site.cluster s.trace (runner.modelsProbe s) = .completed result) :
    runner.KeepsServer s ↔ (runner.site.statusAndBody result).1 = 200 ∧
      runner.servesTargetModel (runner.site.statusAndBody result).2 = .ok true := by
  generalize decoded : runner.site.statusAndBody result = probed
  by_cases reused : probed.1 = 200 ∧ runner.servesTargetModel probed.2 = .ok true
  · refine iff_of_true ?_ reused
    have kept : wp runner.startServer (fun _ t => t.trace = s.trace ++
        [.ran (runner.modelsProbe s) (.completed result)]) (fun _ _ => False) s := by
      unfold startServer
      rw [wp_bind, wp_alreadyServing attached answers, decoded, reuseServer, wp_ite]
      refine ⟨fun other => absurd reused.1 other, fun _ => ?_⟩
      rw [wp_bind, wp_run, reused.2]
      refine ⟨fun serves same => ?_, fun _ raised => nomatch raised⟩
      obtain rfl := Except.ok.inj same
      rfl
    obtain ⟨normal, raised⟩ := wp_iff.mp kept
    have returned : (runner.startServer s).1 = .ok () := by
      rcases run : (runner.startServer s).1 with fault | _
      · exact (raised fault run).elim
      · rfl
    refine ⟨returned, ?_⟩
    rw [answers]
    exact normal _ returned
  · refine iff_of_false ?_ reused
    have probed : wlp runner.alreadyServing
        (fun again t => again = false ∧ s.trace.length + 1 ≤ t.trace.length) s := by
      rw [wlp, wp_alreadyServing attached answers, decoded, reuseServer, wp_ite]
      refine ⟨fun _ => ⟨rfl, by simp [Session.noting]⟩, fun listed => ?_⟩
      rw [wp_bind, wp_run]
      refine ⟨fun serves same => ?_, fun _ _ => trivial⟩
      have other : serves = false := by
        apply Bool.eq_false_iff.mpr
        rintro rfl
        exact reused ⟨not_not.mp listed, same⟩
      rw [if_neg (Bool.eq_false_iff.mp other)]
      have replaced : Yields (fun u => s.trace.length + 1 ≤ u.trace.length) _ runner.replaceServer :=
        (sent_lasting _).yields
      have answered : Yields (fun u => s.trace.length + 1 ≤ u.trace.length)
          (fun again u => again = false ∧ s.trace.length + 1 ≤ u.trace.length)
          (runner.replaceServer >>= fun _ => pure false) :=
        replaced.bind fun _ _ sent => ⟨rfl, sent⟩
      exact answered _ (by simp [Session.noting])
    have more := startServer_relaunches probed
    rintro ⟨returned, trace⟩
    have longer := more.returned returned
    rw [trace] at longer
    simp at longer

end Start
end Runner

/-- What the probe of a server promises for one answer: the status and the body are returned, and
an attached Pod keeps its server exactly if the answer is a listing with the contract's model. -/
def ProbeFaithful (runner : Runner) (s : Session) (pod : Text) (script : Script) (status : Nat)
    (body : Text) : Prop :=
  (runner.site.httpProbe pod script s).1 = .ok ((status : Int), body) ∧
    (runner.KeepsServer s ↔ status = 200 ∧ runner.Lists body)

/-- The probe returns the status, and of the body what follows its first line. So it is faithful to
the empty body only, and a server is kept by what its answer lists after the first line. -/
theorem probe_faithful (runner : Runner) (s : Session) (pod : Text) (script : Script) (status : Nat)
    (body : Text) (reads : runner.site.ReadsStatus) (bound : status < 1000)
    (empty : runner.site.loads ⟨[]⟩ = none) (attached : given s.attachPod = some other)
    (probed : runner.site.cluster s.trace (.exec pod script) =
      .completed (curlOutput status body returncode stderr))
    (answers : runner.site.cluster s.trace (runner.modelsProbe s) =
      .completed (curlOutput status body returncode stderr)) :
    (ProbeFaithful runner s pod script status body ↔ body = ⟨[]⟩) ∧
      (runner.KeepsServer s ↔
        status = 200 ∧ runner.servesTargetModel (afterFirstLine body) = .ok true) := by
  have decoded := runner.site.statusAndBody_curl reads bound body returncode stderr
  have kept := runner.keepsServer_iff attached answers
  rw [decoded] at kept
  have kept : runner.KeepsServer s ↔
      status = 200 ∧ runner.servesTargetModel (afterFirstLine body) = .ok true := by
    rw [kept]
    apply and_congr_left
    intro _
    change (status : Int) = 200 ↔ status = 200
    omega
  have returned := runner.site.httpProbe_curl reads bound probed
  refine ⟨?_, kept⟩
  constructor
  · rintro ⟨exact', _⟩
    have same := Except.ok.inj (returned.symm.trans exact')
    exact Site.afterFirstLine_eq.mp (congrArg Prod.snd same)
  · rintro rfl
    refine ⟨returned, ?_⟩
    rw [kept]
    have silent : afterFirstLine ⟨[]⟩ = ⟨[]⟩ := Site.afterFirstLine_eq.mpr rfl
    have unserved : runner.servesTargetModel (afterFirstLine ⟨[]⟩) = .ok false := by
      rw [silent, Runner.servesTargetModel, empty]
    constructor
    · rintro ⟨_, serves⟩
      rw [unserved] at serves
      cases serves
    · rintro ⟨_, fields, models, parsed, _⟩
      rw [empty] at parsed
      cases parsed

/-- A listing of one model, on one line. -/
def sampleListing : Text := "\x7b\x22data\x22: [\x7b\x22id\x22: \x22model\x22\x7d]\x7d"

/-- `int()` of three characters. -/
def sampleInt (text : Text) : Option Int :=
  match text.codes with
  | [a, b, c] => some (((a.val - 48) * 100 + (b.val - 48) * 10 + (c.val - 48) : Nat) : Int)
  | _ => none

/-- A proof whose Pod serves the model already. -/
def Runner.serving : Runner where
  site := { Site.sample (curlOutput 200 sampleListing 0 "").stdout with
    host := { Host.sample with intOfText := sampleInt }
    loads := fun text =>
      if text = sampleListing then some (.obj [("data", .arr [.obj [("id", .str "model")]])]) else none }
  contract := (Runner.sample ⟨[]⟩).contract
  phase := .service
  artifactRoot := "/run/output"
  manifestPath := "/run/manifest.json"

theorem Runner.serving_reads : Runner.serving.site.ReadsStatus := by
  intro status bound
  change sampleInt (httpCode status) = _
  have value (d : Nat) : (digit d).val = 48 + d % 10 := Nat.mod_eq_of_lt (by omega)
  simp only [sampleInt, httpCode, value]
  congr 2
  omega

/-- The server of the sample lists its model on the line of the status, and is not kept. -/
theorem probe_faithful_fails :
    ¬ ProbeFaithful .serving (.start (some "pod")) "" (.models 8356) 200 sampleListing ∧
      Runner.serving.Lists sampleListing ∧ ¬ Runner.serving.KeepsServer (.start (some "pod")) := by
  let start := Session.start (some "pod")
  have empty : afterFirstLine sampleListing = ⟨[]⟩ := by decide
  have parsed : Runner.serving.site.loads sampleListing =
      some (.obj [("data", .arr [.obj [("id", .str "model")]])]) := by
    simp [Runner.serving]
  have answers : Runner.serving.site.cluster start.trace (.exec "" (.models 8356)) =
      .completed (curlOutput 200 sampleListing 0 "") := rfl
  refine ⟨?_, ⟨_, _, parsed, rfl, _, List.mem_cons_self, _, rfl, rfl⟩, ?_⟩
  · rintro ⟨exact', _⟩
    have returned := Runner.serving.site.httpProbe_curl Runner.serving_reads (by decide) answers
    rw [empty] at returned
    have same := congrArg Prod.snd (Except.ok.inj (returned.symm.trans exact'))
    cases same
  · have decoded := Runner.serving.site.statusAndBody_curl Runner.serving_reads
      (show 200 < 1000 by decide) sampleListing 0 ""
    rw [Runner.keepsServer_iff rfl answers, decoded, empty]
    rintro ⟨_, serves⟩
    cases serves

theorem probe_faithful_sample : ProbeFaithful .serving (.start (some "pod")) "" (.models 8356) 200
    sampleListing ↔ sampleListing = ⟨[]⟩ :=
  (probe_faithful .serving (.start (some "pod")) "" (.models 8356) 200 sampleListing
    Runner.serving_reads (by decide) rfl rfl rfl rfl).1

end InferForge
