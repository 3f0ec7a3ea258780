/-
# Guards that are never reached

Three functions of the inspector are guarded against settings that make no
sense: `targetBlock` and `isInspectionBlock` against cadence 0, and the survey
against a check of traces with no address to ask.  With settings from a
configuration that has passed its checks no run of a node gets there:

    the configuration             `Config.Composed`, whichever layers it is from
    the settings made from it     `Config.Composed.addressed`
    the inspector of a node       has these settings throughout (`Runs.configured`)
    the inputs of the routine     are made from them (`routineCall?_eq`)
    the survey                    lacks an address just if the inputs do
                                  (`Survey.ask_noAddress_iff`)
-/
import NodeKeeper.Proofs.Config.Composed
import NodeKeeper.Proofs.Inspection.Complaints
import NodeKeeper.Proofs.Node.Health

namespace NodeKeeper

open Config (checkUrl)

/-- Traces are checked just when there is an address to ask for them, and every
address has passed its check. -/
structure InspectionInputs.Addressed (i : InspectionInputs) : Prop where
  checkTrace : i.checkTrace = true ↔ i.traceUrl.isSome = true
  traceUrl : ∀ url, i.traceUrl = some url → checkUrl "chain.trace_url" url = .ok ()
  scanUrl : checkUrl "chain.rpc_url" i.scanUrl = .ok ()
  proxyUrl : checkUrl "inspection.proxy_url" i.proxyUrl = .ok ()

theorem Config.Composed.addressed {c : Config} {w : Warnings} (hc : c.Composed w) (block : UInt64) :
    (c.inspectionSettings.inputsFor block).Addressed := by
  have htraceUrl : (c.inspectionSettings.inputsFor block).traceUrl =
      if c.inspection.enableTrace then c.chain.traceUrl else none := rfl
  refine ⟨?_, fun url hurl => hc.traceUrl url ?_, hc.rpcUrl, hc.proxyUrl⟩
  · show c.inspection.enableTrace = true ↔ _
    rw [htraceUrl]
    split
    · next htrace => exact iff_of_true htrace (hc.enableTrace htrace)
    · next htrace => exact iff_of_false htrace nofun
  · rw [htraceUrl] at hurl
    split at hurl
    · exact hurl
    · cases hurl

namespace InspectionSettings

variable {s : InspectionSettings}

/-- With a cadence it is the block that decides whether there is a target. -/
theorem targetBlock_eq_none_iff (hs : s.cadence ≠ 0) {latest : UInt64} :
    s.targetBlock latest = none ↔ latest = 0 ∨ latest % s.cadence ≠ 0 := by
  simp [targetBlock, hs, or_iff_not_imp_left]

theorem isInspectionBlock_of_cadence (hs : s.cadence ≠ 0) {block : UInt64} :
    s.isInspectionBlock block = true ↔ block % s.cadence = 0 := by
  simp [isInspectionBlock, hs]

end InspectionSettings

theorem InspectorLife.routineCall?_eq {life : InspectorLife} {m : InspectorMove}
    {inputs : InspectionInputs} (h : life.routineCall? m = some inputs) :
    inputs = life.inspector.settings.inputsFor inputs.block := by
  cases m with
  | work k now cancelled next time =>
      simp only [routineCall?] at h
      split at h
      · split at h
        · obtain rfl := Option.some.inj h
          rfl
        · cases h
      · cases h
  | _ => cases h

namespace WholeNode

variable {c : Config} {w : Warnings} {told : Bool} {steps : NodeSteps} {last : WholeNode}

/-- Whatever the routine is given in a run is what the configuration makes of a
block. -/
theorem Runs.routineCall?_eq (hr : (start c told).Runs steps last) {s : NodeStep} (hs : s ∈ steps)
    {inputs : InspectionInputs} (hcall : s.routineCall? = some inputs) :
    inputs = c.inspectionSettings.inputsFor inputs.block := by
  obtain ⟨earlier, hearlier, -⟩ := hr.of_mem hs
  obtain ⟨before, move, history, after⟩ := s
  cases move with
  | node m => cases hcall
  | task t =>
      obtain ⟨⟨i, m⟩, htending, hroutine⟩ := Option.bind_eq_some_iff.1 hcall
      obtain ⟨n, hup, -, rfl, -⟩ := of_tending? htending
      rw [← (hearlier.configured hup).2]
      exact InspectorLife.routineCall?_eq hroutine

/-- **A loaded configuration drives the inspector into none of its guards.**  The
settings that it gives have a cadence, and the inputs they make of any block have
an address for every check.  In every run of a node with this configuration the
inspector keeps such a cadence, so that whether there is a target and whether a
block is to be inspected depends on the block alone; and no survey, whatever the
endpoints answer, finds that there is no address or complains of it. -/
theorem guards_unreachable (ha : c.Arises w) :
    1 ≤ c.inspectionSettings.cadence ∧
    (∀ block, (c.inspectionSettings.inputsFor block).Addressed) ∧
    ∀ told steps last, (start c told).Runs steps last →
      (∀ n, last.life = .up n →
        n.inspector.settings.cadence ≠ 0 ∧
        (∀ latest, n.inspector.settings.targetBlock latest = none ↔
          latest = 0 ∨ latest % n.inspector.settings.cadence ≠ 0) ∧
        ∀ block, n.inspector.settings.isInspectionBlock block = true ↔
          block % n.inspector.settings.cadence = 0) ∧
      ∀ s ∈ steps, ∀ inputs, s.routineCall? = some inputs →
        inputs.Addressed ∧
        ∀ h survey, (Survey.ask inputs).Yields h survey →
          survey.trace ≠ some .noAddress ∧
          TraceReport.lacksAddress ∉ (survey.findings inputs).complaints := by
  have hc := ha.sound
  have hone : 1 ≤ c.inspectionSettings.cadence :=
    UInt64.le_iff_toNat_le.2 ((InspectionSettings.toNat_pos_iff _).2 hc.cadence)
  refine ⟨hone, hc.addressed, fun told steps last hr => ⟨?_, ?_⟩⟩
  · intro n hup
    have hcadence : n.inspector.settings.cadence ≠ 0 := by
      rw [(hr.configured hup).2]
      exact hc.cadence
    exact ⟨hcadence, fun _ => InspectionSettings.targetBlock_eq_none_iff hcadence,
      fun _ => InspectionSettings.isInspectionBlock_of_cadence hcadence⟩
  · intro s hs inputs hcall
    have haddressed : inputs.Addressed := hr.routineCall?_eq hs hcall ▸ hc.addressed inputs.block
    refine ⟨haddressed, fun h survey hy => ?_⟩
    have htrace : survey.trace ≠ some .noAddress := by
      rw [Ne, Survey.ask_noAddress_iff hy]
      rintro ⟨hcheck, hnone⟩
      exact nomatch hnone ▸ haddressed.checkTrace.1 hcheck
    exact ⟨htrace, fun hmem => htrace ((survey.lacksAddress_iff inputs).1 hmem)⟩

end WholeNode

/-! A node with an address for traces inspects a block. -/

namespace TracedBlock

def env : EnvLayer :=
  .ofLookup fun name =>
    [("VIGIL_CHAIN_RPC_URL", "http://chain"), ("VIGIL_TRACE_RPC_URL", "http://traces")].lookup name

/-- The node comes up, and the scanner tells of a block. -/
def signal : List NodeMove :=
  List.replicate 17 .main ++
    [.post Subject.scannerBlock RoughDay.progress, .dispatch Subject.scannerBlock 0]

def moves : List WholeMove :=
  signal.map .node ++ [.task (.work 0 .hangs ⟨0, 0⟩), .task (.work 0 .hangs ⟨0, 0⟩)]

def day (c : Config) : NodeSteps × WholeNode :=
  WholeNode.follow RoughDay.engine moves (.start c false) ()

end TracedBlock

/-- Its routine is asked to check traces, and has the address to do so. -/
theorem WholeNode.guards_unreachable_traced :
    ∃ c w steps last s inputs, Config.compose none TracedBlock.env none = .ok (c, w) ∧
      (start c false).Runs steps last ∧ s ∈ steps ∧ s.routineCall? = some inputs ∧
      inputs.checkTrace = true ∧ inputs.Addressed ∧
      ∀ h survey, (Survey.ask inputs).Yields h survey → survey.trace ≠ some .noAddress := by
  obtain ⟨c, w, hok, htest⟩ := Config.exists_of_passes
    (show Config.passes (fun c _ => (TracedBlock.day c).1.any fun s =>
        s.routineCall?.any fun inputs => inputs.checkTrace)
      (Config.compose none TracedBlock.env none) = true by decide +kernel)
  obtain ⟨s, hs, hcalls⟩ := List.any_eq_true.1 htest
  obtain ⟨inputs, hcall, hcheck⟩ := (Option.any_eq_true ..).1 hcalls
  have hr : (start c false).Runs (TracedBlock.day c).1 (TracedBlock.day c).2 := runs_follow _ _ _ _
  obtain ⟨haddressed, hsurvey⟩ :=
    ((guards_unreachable (.composed hok)).2.2 false _ _ hr).2 s hs inputs hcall
  exact ⟨c, w, _, _, s, inputs, hok, hr, hs, hcall, hcheck, haddressed,
    fun h survey hy => (hsurvey h survey hy).1⟩

end NodeKeeper
