/-
# Flags and complaints

An inspection sets flags and makes complaints.  A flag is one or zero; what is
complained of is a flag that is zero, or that there is no address to ask for
traces:

    endpoint   flag               zero when
    scan       accessible         no number of the latest block has come
               block_available    no block has come
    proxy      accessible         as for the scanner's endpoint
               block_available    as for the scanner's endpoint
               block_hash_match   the two hashes differ in more than case
    trace      accessible         no answer has come
               supported          the answer is no list of traces

There is one complaint for each of these zeros, in this order, and it names the
endpoint (`Survey.explained`).  So there is an error just when there is something
wrong (`flags_agree_with_error`).
-/
import NodeKeeper.Proofs.Inspection.Findings

namespace NodeKeeper

open Json

/-! ## What can be wrong -/

/-- The flags, in the order of the complaints. -/
def Survey.flags : List (Endpoint × String) :=
  [(.scan, "accessible"), (.scan, "block_available"),
   (.proxy, "accessible"), (.proxy, "block_available"), (.proxy, "block_hash_match"),
   (.trace, "accessible"), (.trace, "supported")]

inductive SurveyFault where
  /-- a flag is zero -/
  | zero (e : Endpoint) (flag : String)
  /-- traces are to be checked and there is no address to ask for them -/
  | noAddress
  deriving DecidableEq

namespace SurveyFault

def endpoint : SurveyFault → Endpoint
  | .zero e _ => e
  | .noAddress => .trace

/-- A text that says what is wrong. -/
inductive Says (block : UInt64) : SurveyFault → String → Prop
  | inaccessible {e : Endpoint} (cause : InspectionError) :
      Says block (.zero e "accessible") cause.message
  | noAnswer {e : Endpoint} (cause : InspectionError) :
      Says block (.zero e "block_available") cause.message
  | noBlock {e : Endpoint} (got : Value) : Says block (.zero e "block_available")
      ("block " ++ toString block.toNat ++ " not available (got " ++ got.compact ++ ")")
  | otherHash {e : Endpoint} (s p : String) : Says block (.zero e "block_hash_match")
      ("block " ++ toString block.toNat ++ " hash " ++ p ++ " differs from scan api hash " ++ s)
  | refused {e : Endpoint} (cause : InspectionError) :
      Says block (.zero e "supported") cause.message
  | noTraces {e : Endpoint} (got : Value) : Says block (.zero e "supported")
      ("unexpected trace_block result " ++ got.compact)
  | noAddress : Says block .noAddress "trace check requested without a trace url"

/-- A complaint of a fault: it begins with the name of the endpoint. -/
def Complains (block : UInt64) (fault : SurveyFault) (message : String) : Prop :=
  ∃ text, fault.Says block text ∧ message = fault.endpoint.name ++ ": " ++ text

end SurveyFault

/-- There is one complaint for each fault, in the same order. -/
def Explained (block : UInt64) (faults : List SurveyFault) (messages : List String) : Prop :=
  List.Forall₂ (SurveyFault.Complains block) faults messages

theorem Explained.append {block : UInt64} {faults faults' : List SurveyFault}
    {messages messages' : List String} (h : Explained block faults messages)
    (h' : Explained block faults' messages') :
    Explained block (faults ++ faults') (messages ++ messages') :=
  List.rel_append h h'

/-- What is wrong according to the results. -/
def InspectionResults.faults (r : InspectionResults) : List SurveyFault :=
  (Survey.flags.filter fun f => r.indicator? (f.1.entry f.2) = some 0.0).map
    (fun f => .zero f.1 f.2) ++
  if r.inputs.checkTrace = true ∧ r.inputs.traceUrl = none then [.noAddress] else []

theorem InspectionResults.faults_ne_nil_iff (r : InspectionResults) :
    r.faults ≠ [] ↔ (∃ f ∈ Survey.flags, r.indicator? (f.1.entry f.2) = some 0.0) ∨
      r.inputs.checkTrace = true ∧ r.inputs.traceUrl = none := by
  have hflags : (Survey.flags.filter fun f => r.indicator? (f.1.entry f.2) = some 0.0) ≠ [] ↔
      ∃ f ∈ Survey.flags, r.indicator? (f.1.entry f.2) = some 0.0 := by
    simp only [ne_eq, List.filter_eq_nil_iff, decide_eq_true_eq, not_forall, not_not, exists_prop]
  rw [faults, ne_eq, List.append_eq_nil_iff, List.map_eq_nil_iff, not_and_or, ← ne_eq, hflags]
  refine or_congr_right ?_
  split
  · next h => exact iff_of_true (by simp) h
  · next h => exact iff_of_false (by simp) h

theorem Explained.nil_iff {block : UInt64} {faults : List SurveyFault} {messages : List String}
    (h : Explained block faults messages) : messages = [] ↔ faults = [] := by
  cases h with
  | nil => exact iff_of_true rfl rfl
  | cons _ _ => exact iff_of_false nofun nofun

/-! ## One report at a time -/

theorem one_ne_zero : (1.0 : Float) ≠ 0.0 := by decide +kernel

/-- The flags of an endpoint that are zero. -/
def Findings.zeros (e : Endpoint) (flags : List String) (f : Findings) : List SurveyFault :=
  (flags.filter fun flag => f.value? (e.entry flag) = some 0.0).map (.zero e)

variable {block : UInt64} {e : Endpoint}

theorem Explained.of_none {f : Findings} {flags : List String} (hzeros : f.zeros e flags = [])
    (hcomplaints : f.complaints = []) : Explained block (f.zeros e flags) f.complaints := by
  rw [hzeros, hcomplaints]
  exact .nil

theorem Explained.of_one {f : Findings} {flags : List String} {flag text : String}
    (hzeros : f.zeros e flags = [.zero e flag])
    (hcomplaints : f.complaints = [e.name ++ ": " ++ text])
    (htext : (SurveyFault.zero e flag).Says block text) :
    Explained block (f.zeros e flags) f.complaints := by
  rw [hzeros, hcomplaints]
  exact .cons ⟨text, htext, rfl⟩ .nil

theorem EndpointReport.explained (r : EndpointReport) :
    Explained block ((r.findings e.name block).zeros e ["accessible", "block_available"])
      (r.findings e.name block).complaints := by
  cases r with
  | inaccessible cause =>
      refine .of_one ?_ rfl (.inaccessible cause)
      simp [Findings.zeros, findings, Endpoint.entry_eq]
  | accessible latest b =>
      cases b with
      | found hash transactions =>
          refine .of_none ?_ ?_
          · simp [Findings.zeros, findings, BlockReport.findings, Endpoint.entry_eq, one_ne_zero]
          · simp [findings, BlockReport.findings]
      | missing got =>
          refine .of_one ?_ rfl (.noBlock got)
          simp [Findings.zeros, findings, BlockReport.findings, Endpoint.entry_eq, one_ne_zero]
      | failed cause =>
          refine .of_one ?_ rfl (.noAnswer cause)
          simp [Findings.zeros, findings, BlockReport.findings, Endpoint.entry_eq, one_ne_zero]

theorem comparison_explained (scan proxy : EndpointReport) :
    Explained block ((comparison e.name block scan proxy).zeros e ["block_hash_match"])
      (comparison e.name block scan proxy).complaints := by
  have hflag := comparison_value?_hash e block scan proxy
  cases hhashes : scan.hashes? proxy with
  | none =>
      rw [hhashes] at hflag
      refine .of_none ?_ ?_
      · simp [Findings.zeros, hflag]
      · simp [comparison_eq, hhashes]
  | some h =>
      rw [hhashes] at hflag
      by_cases hsame : Text.lower h.1 = Text.lower h.2
      · refine .of_none ?_ (by simp [comparison_eq, hhashes, hsame])
        simp [Findings.zeros, hflag, hsame, one_ne_zero]
      · refine .of_one ?_ ?_ (.otherHash h.1 h.2)
        · simp [Findings.zeros, hflag, hsame]
        · simp [comparison_eq, hhashes, hsame]

/-- The fault that no flag tells. -/
def TraceReport.unaddressed : TraceReport → List SurveyFault
  | .noAddress => [.noAddress]
  | _ => []

theorem TraceReport.explained (r : TraceReport) :
    Explained block
      ((r.findings Endpoint.trace.name).zeros .trace ["accessible", "supported"] ++ r.unaddressed)
      (r.findings Endpoint.trace.name).complaints := by
  cases r with
  | noAddress => exact .cons ⟨_, .noAddress, rfl⟩ .nil
  | traced count =>
      refine (List.append_nil _).symm ▸ .of_none ?_ rfl
      simp [Findings.zeros, findings, Endpoint.entry_eq, one_ne_zero]
  | unexpected got =>
      refine (List.append_nil _).symm ▸ .of_one ?_ rfl (.noTraces got)
      simp [Findings.zeros, findings, Endpoint.entry_eq, one_ne_zero]
  | refused cause =>
      refine (List.append_nil _).symm ▸ .of_one ?_ rfl (.refused cause)
      simp [Findings.zeros, findings, Endpoint.entry_eq, one_ne_zero]
  | inaccessible cause =>
      refine (List.append_nil _).symm ▸ .of_one ?_ rfl (.inaccessible cause)
      simp [Findings.zeros, findings, Endpoint.entry_eq]

/-! ## A survey -/

theorem Findings.zeros_congr {f g : Findings} {flags : List String}
    (h : ∀ flag ∈ flags, f.told (e.entry flag) = g.told (e.entry flag)) :
    f.zeros e flags = g.zeros e flags := by
  have hvalue : ∀ flag ∈ flags, f.value? (e.entry flag) = g.value? (e.entry flag) :=
    fun flag hflag => congrArg Prod.fst (h flag hflag)
  unfold zeros
  rw [List.filter_congr fun flag hflag => by rw [hvalue flag hflag]]

theorem Findings.zeros_append (f : Findings) (flags flags' : List String) :
    f.zeros e (flags ++ flags') = f.zeros e flags ++ f.zeros e flags' := by
  rw [zeros, List.filter_append, List.map_append]
  rfl

/-- A report leaves it to the comparison whether hashes are alike. -/
theorem EndpointReport.told_hash_match (r : EndpointReport) :
    (r.findings e.name block).told (e.entry "block_hash_match") = (none, none) := by
  cases r with
  | inaccessible cause => simp [findings, Findings.told, Endpoint.entry_eq]
  | accessible latest b =>
      cases b <;> simp [findings, BlockReport.findings, Findings.told, Endpoint.entry_eq]

namespace Survey

variable (i : InspectionInputs) (s : Survey)

theorem proxy_explained : Explained i.block
    ((s.part i .proxy).zeros .proxy (["accessible", "block_available"] ++ ["block_hash_match"]))
    (s.part i .proxy).complaints := by
  have hreport : (s.part i .proxy).zeros .proxy ["accessible", "block_available"] =
      (s.proxy.findings Endpoint.proxy.name i.block).zeros .proxy
        ["accessible", "block_available"] := by
    exact Findings.zeros_congr fun flag hflag => s.told_part_proxy i
      (ne_of_mem_of_not_mem hflag (by decide)) (ne_of_mem_of_not_mem hflag (by decide))
  have hhash : (s.part i .proxy).zeros .proxy ["block_hash_match"] =
      (comparison Endpoint.proxy.name i.block s.scan s.proxy).zeros .proxy
        ["block_hash_match"] := by
    refine Findings.zeros_congr fun flag hflag => Findings.told_append_of_left ?_
    rw [List.mem_singleton.1 hflag]
    exact s.proxy.told_hash_match
  rw [Findings.zeros_append, hreport, hhash]
  exact s.proxy.explained.append (comparison_explained s.scan s.proxy)

/-- The fault that no flag tells. -/
def unaddressed : List SurveyFault := s.trace.toList.flatMap TraceReport.unaddressed

theorem trace_explained : Explained i.block
    ((s.part i .trace).zeros .trace ["accessible", "supported"] ++ s.unaddressed)
    (s.part i .trace).complaints := by
  rw [part, unaddressed]
  cases s.trace with
  | none => exact .nil
  | some r =>
      rw [Option.toList_some, List.flatMap_singleton]
      exact r.explained

theorem zeros_results (now : Timestamp) (e : Endpoint) (flags : List String) :
    ((flags.map (Prod.mk e)).filter fun f =>
      ((s.findings i).results i now).indicator? (f.1.entry f.2) = some 0.0).map
        (fun f => SurveyFault.zero f.1 f.2) = (s.part i e).zeros e flags := by
  rw [List.filter_map, List.map_map]
  unfold Findings.zeros
  congr 1
  refine List.filter_congr fun flag _ => ?_
  have hvalue : ((s.findings i).results i now).indicator? (e.entry flag) =
      (s.part i e).value? (e.entry flag) := congrArg Prod.fst (s.told_results i now e flag)
  simp only [Function.comp_apply, hvalue]

theorem unaddressed_of_ne (h : s.trace ≠ some .noAddress) : s.unaddressed = [] := by
  unfold unaddressed
  cases htrace : s.trace with
  | none => rfl
  | some r =>
      cases r with
      | noAddress => exact absurd htrace h
      | _ => rfl

/-- The results tell what is wrong, and it is explained in the same order. -/
theorem explained {h : HttpHistory} (hy : (ask i).Yields h s) (now : Timestamp) :
    Explained i.block ((s.findings i).results i now).faults (s.findings i).complaints := by
  have hflags : flags = ["accessible", "block_available"].map (Prod.mk .scan) ++
      (["accessible", "block_available"] ++ ["block_hash_match"]).map (Prod.mk .proxy) ++
      ["accessible", "supported"].map (Prod.mk .trace) := rfl
  have hunaddressed : (if i.checkTrace = true ∧ i.traceUrl = none
      then [SurveyFault.noAddress] else []) = s.unaddressed := by
    split
    · next hnone => rw [unaddressed, (ask_noAddress_iff hy).2 hnone]; rfl
    · next hsome => exact (s.unaddressed_of_ne (hsome ∘ (ask_noAddress_iff hy).1)).symm
  have hfaults : ((s.findings i).results i now).faults =
      (s.part i .scan).zeros .scan ["accessible", "block_available"] ++
      (s.part i .proxy).zeros .proxy (["accessible", "block_available"] ++ ["block_hash_match"]) ++
      ((s.part i .trace).zeros .trace ["accessible", "supported"] ++ s.unaddressed) := by
    rw [InspectionResults.faults, hflags, List.filter_append, List.filter_append, List.map_append,
      List.map_append, zeros_results, zeros_results, zeros_results, ← List.append_assoc,
      ← hunaddressed]
    rfl
  rw [hfaults, findings_eq]
  exact (s.scan.explained.append (s.proxy_explained i)).append (s.trace_explained i)

end Survey

/-! ## Nothing to complain of -/

theorem EndpointReport.told_of_nil (r : EndpointReport)
    (h : (r.findings e.name block).complaints = []) : ∀ flag ∈ ["accessible", "block_available"],
      (r.findings e.name block).told (e.entry flag) = (some 1.0, none) := by
  cases r with
  | inaccessible cause => simp [findings] at h
  | accessible latest b =>
      cases b with
      | found hash transactions =>
          refine List.forall_mem_cons.2 ⟨?_, List.forall_mem_singleton.2 ?_⟩ <;>
            simp [findings, BlockReport.findings, Findings.told, Endpoint.entry_eq]
      | missing got => simp [findings, BlockReport.findings] at h
      | failed cause => simp [findings, BlockReport.findings] at h

theorem EndpointReport.text?_hash (r : EndpointReport) :
    (r.findings e.name block).text? (e.entry "block_hash") = r.hash? := by
  cases r with
  | inaccessible cause => simp [findings, hash?]
  | accessible latest b =>
      cases b with
      | found hash transactions =>
          cases hash <;> simp [findings, BlockReport.findings, hash?, Endpoint.entry_eq]
      | missing got => simp [findings, BlockReport.findings, hash?]
      | failed cause => simp [findings, BlockReport.findings, hash?]

theorem comparison_alike_of_nil {scan proxy : EndpointReport} {s p : String}
    (h : (comparison e.name block scan proxy).complaints = []) (hs : scan.hash? = some s)
    (hp : proxy.hash? = some p) : Text.lower s = Text.lower p := by
  have hhashes : scan.hashes? proxy = some (s, p) := by simp [EndpointReport.hashes?, hs, hp]
  by_contra hne
  simp [comparison_eq, hhashes, hne] at h

theorem TraceReport.told_of_nil (r : TraceReport) (h : (r.findings e.name).complaints = []) :
    ∀ flag ∈ ["accessible", "supported"],
      (r.findings e.name).told (e.entry flag) = (some 1.0, none) := by
  cases r with
  | traced count =>
      refine List.forall_mem_cons.2 ⟨?_, List.forall_mem_singleton.2 ?_⟩ <;>
        simp [findings, Findings.told, Endpoint.entry_eq]
  | _ => simp [findings] at h

/-! ## Flags and errors -/

namespace Survey

variable {i : InspectionInputs} {s : Survey}

variable (now : Timestamp)

theorem part_complaints_nil (hnil : (s.findings i).complaints = []) (e : Endpoint) :
    (s.part i e).complaints = [] := by
  rw [findings_eq] at hnil
  obtain ⟨hnil, htrace⟩ := List.append_eq_nil_iff.1 hnil
  obtain ⟨hnil, hproxy⟩ := List.append_eq_nil_iff.1 hnil
  obtain ⟨-, hscan⟩ := List.append_eq_nil_iff.1 hnil
  cases e
  · exact hscan
  · exact hproxy
  · exact htrace

theorem available_of_nil (hnil : (s.findings i).complaints = []) {e : Endpoint} (he : e ≠ .trace) :
    ∀ flag ∈ ["accessible", "block_available"],
      ((s.findings i).results i now).indicator? (e.entry flag) = some 1.0 := by
  intro flag hflag
  have hpart := part_complaints_nil hnil e
  have htold : (s.part i e).told (e.entry flag) = (some 1.0, none) := by
    cases e with
    | scan => exact s.scan.told_of_nil hpart flag hflag
    | proxy =>
        rw [told_part_proxy i s (ne_of_mem_of_not_mem hflag (by decide))
          (ne_of_mem_of_not_mem hflag (by decide))]
        exact s.proxy.told_of_nil (List.append_eq_nil_iff.1 hpart).1 flag hflag
    | trace => exact absurd rfl he
  exact (Prod.mk.inj ((s.told_results i now e flag).trans htold)).1

theorem supported_of_nil (hnil : (s.findings i).complaints = []) {r : TraceReport}
    (hr : s.trace = some r) : ∀ flag ∈ ["accessible", "supported"],
      ((s.findings i).results i now).indicator? (Endpoint.trace.entry flag) = some 1.0 := by
  intro flag hflag
  have hpart := part_complaints_nil hnil .trace
  rw [part, hr] at hpart
  have htold := s.told_results i now .trace flag
  rw [part, hr] at htold
  exact (Prod.mk.inj (htold.trans (r.told_of_nil hpart flag hflag))).1

theorem hashes_alike (hnil : (s.findings i).complaints = []) {scanned proxied : String}
    (hs : ((s.findings i).results i now).metadata.get? (Endpoint.scan.entry "block_hash") =
      some scanned)
    (hp : ((s.findings i).results i now).metadata.get? (Endpoint.proxy.entry "block_hash") =
      some proxied) : Text.lower scanned = Text.lower proxied := by
  have hscan := (s.told_results i now .scan "block_hash").symm
  have hproxy := (s.told_part_proxy i (by decide) (by decide)).symm.trans
    (s.told_results i now .proxy "block_hash").symm
  have hcomparison := (List.append_eq_nil_iff.1 (part_complaints_nil hnil .proxy)).2
  refine comparison_alike_of_nil hcomparison ?_ ?_
  · exact s.scan.text?_hash.symm.trans ((Prod.mk.inj hscan).2.trans hs)
  · exact s.proxy.text?_hash.symm.trans ((Prod.mk.inj hproxy).2.trans hp)

end Survey

/-- **Flags and complaints agree.**  Whatever the endpoints answer, an inspection
has results.  There is an error just when a flag is zero or there is no address to
ask for the traces that are to be checked.  The error joins one complaint for each
of these, in their order, and each begins with the name of the endpoint and says
what is wrong.  Without an error both endpoints can be reached and have the block,
the hashes that have been told are alike but for case, and traces are supported
if they are to be checked.  If they are not, nothing is told of the trace endpoint
and nobody is asked for traces. -/
theorem flags_agree_with_error {σ : Type} (respond : (r : HttpRequest) → σ → r.Answer × σ)
    (state : σ) (i : InspectionInputs) (now : Timestamp) :
    ∃ r messages, ((inspectEndpoints i now).run respond state).1.results = some r ∧
      r.inputs = i ∧
      ((inspectEndpoints i now).run respond state).1.error =
        (if messages = [] then none else some (.routine (Text.joined "; " messages))) ∧
      Explained i.block r.faults messages ∧
      (((inspectEndpoints i now).run respond state).1.error ≠ none ↔
        (∃ f ∈ Survey.flags, r.indicator? (f.1.entry f.2) = some 0.0) ∨
          i.checkTrace = true ∧ i.traceUrl = none) ∧
      (((inspectEndpoints i now).run respond state).1.error = none →
        (∀ e, e ≠ Endpoint.trace → ∀ flag ∈ ["accessible", "block_available"],
          r.indicator? (e.entry flag) = some 1.0) ∧
        (∀ scanned proxied, r.metadata.get? (Endpoint.scan.entry "block_hash") = some scanned →
          r.metadata.get? (Endpoint.proxy.entry "block_hash") = some proxied →
          Text.lower scanned = Text.lower proxied) ∧
        (i.checkTrace = true → ∀ flag ∈ ["accessible", "supported"],
          r.indicator? (Endpoint.trace.entry flag) = some 1.0)) ∧
      (i.checkTrace = false →
        (∀ key, r.indicator? (Endpoint.trace.entry key) = none) ∧
        ∀ x ∈ (inspectEndpoints i now).history respond state, ∃ method,
          x.request.method? = some method ∧ method ≠ "trace_block") := by
  obtain ⟨s, hask, houtcome⟩ := yields_inspectEndpoints.1
    (Dialogue.yields_run respond (inspectEndpoints i now) state)
  have hexplained := s.explained i hask now
  rw [houtcome, s.outcome_eq]
  refine ⟨_, (s.findings i).complaints, rfl, rfl, rfl, hexplained, ?_, ?_, ?_⟩
  · refine Iff.trans ?_ (InspectionResults.faults_ne_nil_iff ((s.findings i).results i now))
    rw [ne_eq, ne_eq, ← hexplained.nil_iff]
    exact not_congr (by simp)
  · intro hnone
    have hnil : (s.findings i).complaints = [] := by
      by_contra hne
      exact absurd ((if_neg hne).symm.trans hnone) (Option.some_ne_none _)
    refine ⟨fun e he => Survey.available_of_nil now hnil he,
      fun scanned proxied hs hp => Survey.hashes_alike now hnil hs hp, fun hcheck => ?_⟩
    obtain ⟨r, hr⟩ := Option.isSome_iff_exists.1 ((Survey.isSome_trace hask).trans hcheck)
    exact Survey.supported_of_nil now hnil hr
  · intro hcheck
    have hsome : s.trace.isSome = false := (Survey.isSome_trace hask).trans hcheck
    have hnone : s.trace = none :=
      Option.isNone_iff_eq_none.1 (Option.isSome_eq_false_iff.1 hsome)
    refine ⟨fun key => ?_, fun x hx => ?_⟩
    · have htold := s.told_results i now .trace key
      rw [Survey.part, hnone] at htold
      exact (Prod.mk.inj htold).1
    · obtain ⟨e, url, method, hurl, hcall, htrace⟩ := Survey.isAskedBy_of_yields hask x hx
      refine ⟨method, hcall.2, fun hmethod => ?_⟩
      rw [htrace.1 hmethod, Endpoint.url?, hcheck] at hurl
      exact absurd hurl.symm (Option.some_ne_none _)

end NodeKeeper
