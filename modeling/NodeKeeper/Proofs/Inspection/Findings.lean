/-
# What is found of each endpoint

Results are looked up by name, and every name begins with that of an endpoint.
Names of different endpoints begin with different letters.  So what stands in the
results under an endpoint's name comes from the part of the findings that is about
this endpoint:

    scan    the report of the scanner's endpoint
    proxy   the report of the proxy, and its comparison with the scanner's
    trace   the report of the trace endpoint, if traces are checked

    f.value? name     the indicator of this name in the findings
    f.text? name      the text of this name in them
    f.told name       both

In the same way a survey is made of dialogues with the endpoints, one after the
other.  Each is asked at its own address, and only the trace endpoint for traces.

    e.ask i           the dialogue with an endpoint
    e.IsAskedBy i r   the request goes to its address and calls a method of it

**Proved here.**

    results hold the findings                             (`Survey.outcome_eq`)
    a name is looked up in the part of its endpoint       (`Survey.told_results`)
    a survey asks each endpoint in turn                   (`Survey.ask_eq`)
    an endpoint is asked at its own address               (`Endpoint.ask_within`)
-/
import NodeKeeper.Proofs.Dictionaries
import NodeKeeper.Proofs.Inspection.Complaints
import NodeKeeper.Proofs.Json.Readback

namespace NodeKeeper

/-! ## Look-ups -/

/-- What an entry says under a name; a later one takes the place of an earlier
one. -/
def lastUnder {α : Type} (name : String) (entries : List (String × α)) : Option α :=
  entries.reverse.lookup name

section Look

variable {α : Type} {name : String}

@[simp] theorem lastUnder_nil : lastUnder name ([] : List (String × α)) = none := rfl

@[simp] theorem lastUnder_singleton (e : String × α) :
    lastUnder name [e] = if name = e.1 then some e.2 else none :=
  Dictionary.lookup_cons_eq_ite name e []

@[simp] theorem lastUnder_append (entries later : List (String × α)) :
    lastUnder name (entries ++ later) = (lastUnder name later).or (lastUnder name entries) := by
  rw [lastUnder, List.reverse_append, List.lookup_append]
  rfl

theorem Dictionary.get?_foldl_put (entries : List (String × α)) (d : Dictionary α) :
    (entries.foldl (fun d e => d.put e.1 e.2) d).get? name =
      (lastUnder name entries).or (d.get? name) := by
  induction entries generalizing d with
  | nil => rfl
  | cons e entries ih =>
      rw [List.foldl_cons, ih, Dictionary.get?_put, ← List.singleton_append, lastUnder_append,
        lastUnder_singleton, Option.or_assoc]
      split <;> rfl

end Look

namespace Findings

variable (a b : Findings) (name key text endpoint : String)

/-- The indicator of this name. -/
def value? (f : Findings) : Option Float := lastUnder name f.indicators

/-- The text of this name. -/
def text? (f : Findings) : Option String := lastUnder name f.metadata

@[simp] theorem value?_append : (a ++ b).value? name = (b.value? name).or (a.value? name) :=
  lastUnder_append ..

@[simp] theorem text?_append : (a ++ b).text? name = (b.text? name).or (a.text? name) :=
  lastUnder_append ..

@[simp] theorem complaints_none : none.complaints = [] := rfl

@[simp] theorem value?_none : none.value? name = .none := rfl

@[simp] theorem text?_none : none.text? name = .none := rfl

@[simp] theorem value?_indicator (x : Float) :
    (indicator key x).value? name = if name = key then some x else .none := lastUnder_singleton _

@[simp] theorem text?_indicator (x : Float) : (indicator key x).text? name = .none := rfl

@[simp] theorem value?_flag (holds : Bool) :
    (flag key holds).value? name =
      if name = key then some (if holds then 1.0 else 0.0) else .none :=
  value?_indicator ..

@[simp] theorem text?_flag (holds : Bool) : (flag key holds).text? name = .none := rfl

@[simp] theorem value?_note : (note key text).value? name = .none := rfl

@[simp] theorem text?_note :
    (note key text).text? name = if name = key then some text else .none := lastUnder_singleton _

@[simp] theorem value?_complaint : (complaint endpoint text).value? name = .none := rfl

@[simp] theorem text?_complaint : (complaint endpoint text).text? name = .none := rfl

variable {α : Type} (f : α → Findings) (o : Option α)

@[simp] theorem value?_optional :
    (optional f o).value? name = o.bind fun a => (f a).value? name := by
  cases o <;> rfl

@[simp] theorem text?_optional :
    (optional f o).text? name = o.bind fun a => (f a).text? name := by
  cases o <;> rfl

@[simp] theorem value?_ite (p : Prop) [Decidable p] :
    (if p then a else b).value? name = if p then a.value? name else b.value? name := by
  split <;> rfl

@[simp] theorem text?_ite (p : Prop) [Decidable p] :
    (if p then a else b).text? name = if p then a.text? name else b.text? name := by
  split <;> rfl

/-- What is found under a name, as an indicator and as a text. -/
def told (f : Findings) : Option Float × Option String := (f.value? name, f.text? name)

variable {a b : Findings} {name : String}

theorem told_append_of_left (ha : a.told name = (.none, .none)) :
    (a ++ b).told name = b.told name := by
  obtain ⟨hvalue, htext⟩ := Prod.mk.inj ha
  rw [told, value?_append, text?_append, hvalue, htext, Option.or_none, Option.or_none, told]

theorem told_append_of_right (hb : b.told name = (.none, .none)) :
    (a ++ b).told name = a.told name := by
  obtain ⟨hvalue, htext⟩ := Prod.mk.inj hb
  rw [told, value?_append, text?_append, hvalue, htext, Option.none_or, Option.none_or, told]

theorem append_assoc (a b c : Findings) : a ++ b ++ c = a ++ (b ++ c) := by
  show append (append a b) c = append a (append b c)
  simp [append]

end Findings

/-! ## Endpoints and their names -/

/-- The endpoints that are surveyed. -/
inductive Endpoint where
  | scan
  | proxy
  | trace
  deriving DecidableEq

namespace Endpoint

def name : Endpoint → String
  | .scan => Survey.scanName
  | .proxy => Survey.proxyName
  | .trace => Survey.traceName

/-- The name of what is found of an endpoint. -/
def entry (e : Endpoint) (key : String) : String := e.name ++ "." ++ key

theorem entry_eq (e : Endpoint) (key : String) : e.entry key = e.name ++ ("." ++ key) :=
  String.append_assoc

theorem entry_inj {e : Endpoint} {key key' : String} : e.entry key = e.entry key' ↔ key = key' :=
  String.append_right_inj _

def letter : Endpoint → Char
  | .scan => 's'
  | .proxy => 'p'
  | .trace => 't'

theorem head?_name (e : Endpoint) (s : String) : (e.name ++ s).toList.head? = some e.letter := by
  cases e <;> simp [name, letter, Survey.scanName, Survey.proxyName, Survey.traceName]

/-- Names of different endpoints begin with different letters. -/
theorem name_append_ne {e e' : Endpoint} (h : e ≠ e') (s t : String) :
    e.name ++ s ≠ e'.name ++ t := by
  refine ne_of_head? ?_
  rw [head?_name, head?_name]
  cases e <;> cases e' <;> first | exact absurd rfl h | decide

end Endpoint

open Endpoint

/-! ## The comparison -/

/-- How far the proxy lags behind the scanner's endpoint. -/
def EndpointReport.lag? (scan proxy : EndpointReport) : Option Float :=
  scan.latest?.bind fun s => proxy.latest?.map fun p =>
    Number.doubleOfNat s.toNat - Number.doubleOfNat p.toNat

/-- The two hashes, if both endpoints have told theirs. -/
def EndpointReport.hashes? (scan proxy : EndpointReport) : Option (String × String) :=
  scan.hash?.bind fun s => proxy.hash?.map fun p => (s, p)

section Comparison

variable (e : Endpoint) (block : UInt64) (scan proxy : EndpointReport)

open Findings in
theorem comparison_eq :
    comparison e.name block scan proxy =
      optional (indicator (e.entry "lag_blocks")) (scan.lag? proxy) ++
      optional (fun h : String × String =>
        flag (e.entry "block_hash_match") (Text.lower h.1 == Text.lower h.2) ++
        (if Text.lower h.1 == Text.lower h.2 then Findings.none
         else complaint e.name ("block " ++ toString block.toNat ++ " hash " ++ h.2 ++
           " differs from scan api hash " ++ h.1))) (scan.hashes? proxy) := by
  have hlag : e.entry "lag_blocks" = e.name ++ ".lag_blocks" := entry_eq ..
  have hhash : e.entry "block_hash_match" = e.name ++ ".block_hash_match" := entry_eq ..
  rw [hlag, hhash]
  unfold comparison EndpointReport.lag? EndpointReport.hashes?
  cases scan.latest? <;> cases proxy.latest? <;> cases scan.hash? <;> cases proxy.hash? <;> rfl

theorem comparison_value?_hash :
    (comparison e.name block scan proxy).value? (e.entry "block_hash_match") =
      (scan.hashes? proxy).map fun h => if Text.lower h.1 = Text.lower h.2 then 1.0 else 0.0 := by
  rw [comparison_eq, Findings.value?_append]
  cases scan.hashes? proxy with
  | none => simp [entry_inj]
  | some h => simp

/-- Beside the lag the comparison sets the flag of the hashes alone. -/
theorem comparison_told_of_ne {key : String} (hlag : key ≠ "lag_blocks")
    (hhash : key ≠ "block_hash_match") :
    (comparison e.name block scan proxy).told (e.entry key) = (none, none) := by
  simp [comparison_eq, Findings.told, entry_inj, hlag, hhash]

end Comparison

section Other

variable {e e' : Endpoint} (h : e' ≠ e) (block : UInt64) (s : String)
include h

/-- Findings about one endpoint say nothing of another. -/
theorem EndpointReport.told_of_other (r : EndpointReport) :
    (r.findings e.name block).told (e'.name ++ s) = (none, none) := by
  have hne := name_append_ne h s
  cases r with
  | inaccessible error => simp [findings, Findings.told, hne]
  | accessible latest b => cases b <;> simp [findings, BlockReport.findings, Findings.told, hne]

theorem TraceReport.told_of_other (r : TraceReport) :
    (r.findings e.name).told (e'.name ++ s) = (none, none) := by
  have hne := name_append_ne h s
  cases r <;> simp [findings, Findings.told, hne]

theorem comparison_told_of_other (scan proxy : EndpointReport) :
    (comparison e.name block scan proxy).told (e'.name ++ s) = (none, none) := by
  simp [comparison_eq, Findings.told, entry_eq, name_append_ne h s]

end Other

/-! ## The part of an endpoint -/

namespace Survey

variable (i : InspectionInputs) (s : Survey)

/-- What is found of an endpoint. -/
def part : Endpoint → Findings
  | .scan => s.scan.findings Endpoint.scan.name i.block
  | .proxy =>
    s.proxy.findings Endpoint.proxy.name i.block ++
    comparison Endpoint.proxy.name i.block s.scan s.proxy
  | .trace => Findings.optional (TraceReport.findings Endpoint.trace.name) s.trace

theorem part_told_of_other {e e' : Endpoint} (h : e' ≠ e) (key : String) :
    (s.part i e).told (e'.entry key) = (none, none) := by
  rw [entry_eq]
  cases e with
  | scan => exact s.scan.told_of_other h i.block _
  | proxy =>
      exact (Findings.told_append_of_left (s.proxy.told_of_other h i.block _)).trans
        (comparison_told_of_other h i.block _ s.scan s.proxy)
  | trace =>
      rw [part]
      cases s.trace with
      | none => rfl
      | some r => exact r.told_of_other h _

/-- The note that is about no endpoint. -/
def mode : Findings := Findings.note "network_saving_mode" (Text.shownBool i.networkSaving)

theorem mode_told (e : Endpoint) (key : String) : (mode i).told (e.entry key) = (none, none) := by
  have hne : e.entry key ≠ "network_saving_mode" := by
    refine ne_of_head? ?_
    rw [entry_eq, head?_name]
    cases e <;> decide
  simp [mode, Findings.told, hne]

theorem findings_eq :
    s.findings i = mode i ++ s.part i .scan ++ s.part i .proxy ++ s.part i .trace := by
  exact congrArg (· ++ s.part i .trace) (Findings.append_assoc (mode i ++ s.part i .scan) _ _)

theorem told_findings (e : Endpoint) (key : String) :
    (s.findings i).told (e.entry key) = (s.part i e).told (e.entry key) := by
  have hmode := mode_told i e key
  have hother : ∀ e', e ≠ e' → (s.part i e').told (e.entry key) = (none, none) :=
    fun e' h => s.part_told_of_other i h key
  rw [findings_eq]
  cases e with
  | scan =>
      rw [Findings.told_append_of_right (hother .trace nofun),
        Findings.told_append_of_right (hother .proxy nofun), Findings.told_append_of_left hmode]
  | proxy =>
      rw [Findings.told_append_of_right (hother .trace nofun), Findings.told_append_of_left]
      rw [Findings.told_append_of_left hmode, hother .scan nofun]
  | trace =>
      rw [Findings.told_append_of_left]
      rw [Findings.append_assoc, Findings.told_append_of_left hmode,
        Findings.told_append_of_left (hother .scan nofun), hother .proxy nofun]

theorem told_part_proxy {key : String} (hlag : key ≠ "lag_blocks")
    (hhash : key ≠ "block_hash_match") :
    (s.part i .proxy).told (Endpoint.proxy.entry key) =
      (s.proxy.findings Endpoint.proxy.name i.block).told (Endpoint.proxy.entry key) :=
  Findings.told_append_of_right (comparison_told_of_ne .proxy i.block s.scan s.proxy hlag hhash)

end Survey

/-! ## Results -/

/-- What results say under a name. -/
def InspectionResults.told (r : InspectionResults) (name : String) : Option Float × Option String :=
  (r.indicator? name, r.metadata.get? name)

theorem InspectionResults.foldl_setIndicator (entries : List (String × Float))
    (r : InspectionResults) :
    entries.foldl (fun r e => r.setIndicator e.1 e.2) r =
      { r with indicators := entries.foldl (fun d e => d.put e.1 e.2) r.indicators } := by
  induction entries generalizing r with
  | nil => rfl
  | cons e entries ih => exact ih _

theorem InspectionResults.foldl_setMetadata (entries : List (String × String))
    (r : InspectionResults) :
    entries.foldl (fun r e => r.setMetadata e.1 e.2) r =
      { r with metadata := entries.foldl (fun d e => d.put e.1 e.2) r.metadata } := by
  induction entries generalizing r with
  | nil => rfl
  | cons e entries ih => exact ih _

/-- Results that hold these findings. -/
def Findings.results (f : Findings) (i : InspectionInputs) (now : Timestamp) : InspectionResults :=
  ⟨i, .ofList f.indicators, .ofList f.metadata, now⟩

theorem Findings.told_results (f : Findings) (i : InspectionInputs) (now : Timestamp)
    (name : String) : (f.results i now).told name = f.told name := by
  show ((Dictionary.ofList f.indicators).get? name, (Dictionary.ofList f.metadata).get? name) = _
  simp only [Dictionary.ofList, Dictionary.get?_foldl_put, Dictionary.get?_empty, Option.or_none]
  rfl

theorem Survey.told_results (i : InspectionInputs) (now : Timestamp) (s : Survey) (e : Endpoint)
    (key : String) :
    ((s.findings i).results i now).told (e.entry key) = (s.part i e).told (e.entry key) :=
  ((s.findings i).told_results i now _).trans (s.told_findings i e key)

/-- The results hold the findings; the error is what there is to complain of. -/
theorem Survey.outcome_eq (i : InspectionInputs) (now : Timestamp) (s : Survey) :
    s.outcome i now = ⟨some ((s.findings i).results i now),
      if (s.findings i).complaints = [] then none
      else some (.routine (Text.joined "; " (s.findings i).complaints))⟩ := by
  unfold outcome
  dsimp only
  rw [InspectionResults.foldl_setIndicator, InspectionResults.foldl_setMetadata]
  cases hcomplaints : (s.findings i).complaints with
  | nil => rfl
  | cons c complaints => rfl

theorem yields_inspectEndpoints {i : InspectionInputs} {now : Timestamp} {h : HttpHistory}
    {o : InspectionOutcome} :
    (inspectEndpoints i now).Yields h o ↔ ∃ s, (Survey.ask i).Yields h s ∧ o = s.outcome i now := by
  constructor
  · intro hy
    obtain ⟨h₁, s, h₂, rfl, hask, hrest⟩ := Dialogue.yields_bind.1 hy
    obtain ⟨rfl, rfl⟩ := Dialogue.yields_done.1 hrest
    exact ⟨s, (List.append_nil h₁).symm ▸ hask, rfl⟩
  · rintro ⟨s, hask, rfl⟩
    exact Dialogue.yields_bind.2 ⟨h, s, [], (List.append_nil h).symm, hask, .refl _⟩

/-! ## What is asked -/

open Json

/-- The method that a body names. -/
def ChainCall.methodDecoder : Decoder String := fun t =>
  (Decode.fields ["method"] t).bind fun
    | [method] => Decode.required Decode.text method
    | _ => none

/-- The method that is called with a request. -/
def HttpRequest.method? (r : HttpRequest) : Option String :=
  decode ChainCall.methodDecoder r.body

theorem ChainCall.reads_method {c : ChainCall} (hexact : c.params.IsExact) :
    Decode.Reads methodDecoder c.toJson c.method :=
  ⟨⟨trivial, trivial, trivial, hexact, trivial⟩, rfl⟩

theorem Http.post_within (address : String) (body : List UInt8) :
    (post address body).Within
      (fun r => Url.Address.read? address = some r.address ∧ r.body = body) fun _ => True := by
  unfold post
  split
  · exact .done trivial
  · next a ha =>
    split
    · exact .done trivial
    · refine .ask ⟨ha, rfl⟩ fun answer => ?_
      cases answer with
      | none => exact .done trivial
      | response status body =>
          show Dialogue.Within _ _ (ite _ _ _)
          split <;> exact .done trivial

/-- A request to an address that calls a method. -/
def HttpRequest.IsCall (address method : String) (r : HttpRequest) : Prop :=
  Url.Address.read? address = some r.address ∧ r.method? = some method

theorem ChainClient.call_within (c : ChainClient) (method : String) {params : Value}
    (hexact : params.IsExact) : (c.call method params).Within (HttpRequest.IsCall c.address method)
      fun answered => answered.2.address = c.address := by
  refine .bind ((Http.post_within ..).mono (fun r hr => ⟨hr.1, ?_⟩) fun _ h => h) fun posted _ => ?_
  · rw [HttpRequest.method?, hr.2]
    exact (ChainCall.reads_method hexact).decode
  · split
    · exact .done rfl
    · split <;> exact .done rfl

namespace Endpoint

/-- The address of an endpoint, if it is to be asked. -/
def url? (i : InspectionInputs) : Endpoint → Option String
  | .scan => some i.scanUrl
  | .proxy => some i.proxyUrl
  | .trace => if i.checkTrace then i.traceUrl else none

/-- A request to the address of an endpoint; only the trace endpoint is asked for
traces. -/
def IsAskedBy (i : InspectionInputs) (e : Endpoint) (r : HttpRequest) : Prop :=
  ∃ url method, e.url? i = some url ∧ r.IsCall url method ∧ (method = "trace_block" ↔ e = .trace)

/-- What is heard of an endpoint. -/
abbrev Report : Endpoint → Type
  | .scan => EndpointReport
  | .proxy => EndpointReport
  | .trace => Option TraceReport

/-- Asks one endpoint. -/
def ask (i : InspectionInputs) : (e : Endpoint) → HttpDialogue e.Report
  | .scan => EndpointReport.ask i.scanUrl i.block !i.networkSaving
  | .proxy => EndpointReport.ask i.proxyUrl i.block !i.networkSaving
  | .trace =>
    if i.checkTrace then do pure (some (← TraceReport.ask i.traceUrl i.block)) else pure none

theorem ask_trace_checked {i : InspectionInputs} (hcheck : i.checkTrace = true) :
    Endpoint.trace.ask i = TraceReport.ask i.traceUrl i.block >>= fun r => pure (some r) :=
  if_pos hcheck

theorem ask_trace_unchecked {i : InspectionInputs} (hcheck : i.checkTrace = false) :
    Endpoint.trace.ask i = (pure none : HttpDialogue (Option TraceReport)) :=
  if_neg (Bool.eq_false_iff.1 hcheck)

theorem report_within {e : Endpoint} {i : InspectionInputs} {url : String}
    (hurl : e.url? i = some url) (he : e ≠ .trace) (full : Bool) :
    (EndpointReport.ask url i.block full).Within (IsAskedBy i e) fun _ => True := by
  have hother : ∀ {method : String}, method ≠ "trace_block" → ∀ r : HttpRequest,
      r.IsCall url method → IsAskedBy i e r :=
    fun hne r hr => ⟨_, _, hurl, hr, iff_of_false hne he⟩
  have hlatest : (ChainClient.new url).latestBlock.Within (IsAskedBy i e)
      fun answered => answered.2.address = url := by
    refine .bind (((ChainClient.new url).call_within _ ?_).mono (hother ?_) fun _ h => h)
      fun answered h => .done h
    · trivial
    · decide
  refine .bind hlatest fun ⟨latest, client⟩ haddress => ?_
  cases latest with
  | error cause => exact .done trivial
  | ok latest =>
      cases haddress
      refine .bind ((client.call_within _ ?_).mono (hother ?_) fun _ h => h)
        fun answered _ => .done trivial
      · exact ⟨trivial, trivial, trivial⟩
      · decide

theorem trace_within {i : InspectionInputs} (hcheck : i.checkTrace = true) :
    (TraceReport.ask i.traceUrl i.block).Within (IsAskedBy i .trace) fun _ => True := by
  unfold TraceReport.ask
  cases hurl : i.traceUrl with
  | none => exact .done trivial
  | some url =>
      have hurl : url? i .trace = some url := (if_pos hcheck).trans hurl
      refine .bind (((ChainClient.new url).call_within _ ?_).mono (fun r hr => ?_) fun _ h => h)
        fun answered _ => .done trivial
      · exact ⟨trivial, trivial⟩
      · exact ⟨_, _, hurl, hr, iff_of_true rfl rfl⟩

theorem ask_within (i : InspectionInputs) (e : Endpoint) :
    (e.ask i).Within (IsAskedBy i e) fun _ => True := by
  cases e with
  | scan => exact report_within (e := .scan) rfl nofun _
  | proxy => exact report_within (e := .proxy) rfl nofun _
  | trace =>
      cases hcheck : i.checkTrace with
      | true =>
          rw [ask_trace_checked hcheck]
          exact (trace_within hcheck).bind fun _ _ => .done trivial
      | false =>
          rw [ask_trace_unchecked hcheck]
          exact .done trivial

end Endpoint

/-- A survey asks one endpoint after the other. -/
theorem Survey.ask_eq (i : InspectionInputs) :
    Survey.ask i = Endpoint.scan.ask i >>= fun scan => Endpoint.proxy.ask i >>= fun proxy =>
      Endpoint.trace.ask i >>= fun trace => pure ⟨scan, proxy, trace⟩ := by
  unfold Survey.ask
  refine bind_congr fun scan => bind_congr fun proxy => ?_
  show _ = ite _ _ _ >>= _
  split
  · exact (bind_assoc ..).symm
  · rfl

theorem Survey.parts_of_yields {i : InspectionInputs} {h : HttpHistory} {s : Survey}
    (hy : (ask i).Yields h s) :
    ∃ h₁ h₂ h₃, h = h₁ ++ (h₂ ++ h₃) ∧ (Endpoint.scan.ask i).Yields h₁ s.scan ∧
      (Endpoint.proxy.ask i).Yields h₂ s.proxy ∧ (Endpoint.trace.ask i).Yields h₃ s.trace := by
  rw [ask_eq] at hy
  obtain ⟨h₁, scan, _, rfl, hscan, hrest⟩ := Dialogue.yields_bind.1 hy
  obtain ⟨h₂, proxy, _, rfl, hproxy, hrest⟩ := Dialogue.yields_bind.1 hrest
  obtain ⟨h₃, trace, _, rfl, htrace, hrest⟩ := Dialogue.yields_bind.1 hrest
  obtain ⟨rfl, rfl⟩ := Dialogue.yields_done.1 hrest
  exact ⟨h₁, h₂, h₃, by rw [List.append_nil], hscan, hproxy, htrace⟩

theorem Survey.isAskedBy_of_yields {i : InspectionInputs} {h : HttpHistory} {s : Survey}
    (hy : (ask i).Yields h s) : ∀ x ∈ h, ∃ e, Endpoint.IsAskedBy i e x.request := by
  obtain ⟨h₁, h₂, h₃, rfl, hscan, hproxy, htrace⟩ := parts_of_yields hy
  have hasked : ∀ {e : Endpoint} {h : HttpHistory} {r : e.Report}, (e.ask i).Yields h r →
      ∀ x ∈ h, ∃ e, Endpoint.IsAskedBy i e x.request :=
    fun hy x hx => ⟨_, ((Endpoint.ask_within i _).of_yields hy).1 x hx⟩
  exact List.forall_mem_append.2
    ⟨hasked hscan, List.forall_mem_append.2 ⟨hasked hproxy, hasked htrace⟩⟩

theorem Survey.isSome_trace {i : InspectionInputs} {h : HttpHistory} {s : Survey}
    (hy : (ask i).Yields h s) : s.trace.isSome = i.checkTrace := by
  obtain ⟨_, _, h₃, -, -, -, htrace⟩ := parts_of_yields hy
  cases hcheck : i.checkTrace with
  | true =>
      rw [Endpoint.ask_trace_checked hcheck] at htrace
      obtain ⟨_, r, _, -, -, hrest⟩ := Dialogue.yields_bind.1 htrace
      obtain ⟨-, hr⟩ := Dialogue.yields_done.1 hrest
      exact congrArg Option.isSome hr
  | false =>
      rw [Endpoint.ask_trace_unchecked hcheck] at htrace
      obtain ⟨-, hr⟩ := Dialogue.yields_done.1 htrace
      exact congrArg Option.isSome hr

end NodeKeeper
