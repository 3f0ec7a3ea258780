/-
# Endpoints do not see each other

An inspection asks its endpoints one after the other.  What passes between it and
one of them is a history of its own, whatever the others do in between:

    h.of e                what has passed between the inspection and `e`
    AnsweredAlike h h'    where the two histories have been the same so far and the
                          same is asked, the same is answered

Which endpoint a request is for is not read off the request, since two endpoints
may have one address.  It is written beside the request where it is made
(`inspectNamed`); without these names this is the inspection (`unnamed_inspectNamed`).

**Proved here.**  If an endpoint answers two inspections alike, it is asked the
same by both, and the same is told of it (`endpoints_do_not_interfere`), but for
what compares the proxy with the scanner's endpoint.
-/
import NodeKeeper.Proofs.Inspection.Findings

namespace NodeKeeper

/-! ## Histories that are answered alike -/

section Alike

variable {Request : Type} {Answer : Request → Type} {α : Type}

/-- Where the same has passed and the same is asked, the same is answered. -/
def AnsweredAlike (h h' : List (Exchange Request Answer)) : Prop :=
  ∀ before x x' after after', h = before ++ x :: after → h' = before ++ x' :: after' →
    x.request = x'.request → x = x'

theorem AnsweredAlike.tail {x : Exchange Request Answer} {h h' : List (Exchange Request Answer)}
    (halike : AnsweredAlike (x :: h) (x :: h')) : AnsweredAlike h h' :=
  fun before y y' after after' hy hy' =>
    halike (x :: before) y y' after after' (congrArg (x :: ·) hy) (congrArg (x :: ·) hy')

/-- What is answered alike asks the same, and comes to the same. -/
theorem Dialogue.eq_of_answeredAlike {d : Dialogue Request Answer α}
    {h h' : List (Exchange Request Answer)} {a a' : α} (hy : d.Yields h a) (hy' : d.Yields h' a')
    (halike : AnsweredAlike h h') : h = h' ∧ a = a' := by
  induction d generalizing h h' with
  | done b =>
      obtain ⟨rfl, rfl⟩ := yields_done.1 hy
      obtain ⟨rfl, rfl⟩ := yields_done.1 hy'
      exact ⟨rfl, rfl⟩
  | ask r next ih =>
      obtain ⟨answer, rest, rfl, hrest⟩ := yields_ask.1 hy
      obtain ⟨answer', rest', rfl, hrest'⟩ := yields_ask.1 hy'
      cases halike [] ⟨r, answer⟩ ⟨r, answer'⟩ rest rest' rfl rfl rfl
      obtain ⟨rfl, ha⟩ := ih answer hrest hrest' halike.tail
      exact ⟨rfl, ha⟩

end Alike

/-! ## Requests with the endpoint they are for -/

structure NamedRequest where
  endpoint : Endpoint
  request : HttpRequest

abbrev NamedRequest.Answer (r : NamedRequest) : Type := r.request.Answer

abbrev NamedDialogue (α : Type) : Type := Dialogue NamedRequest NamedRequest.Answer α

abbrev NamedHistory : Type := List (Exchange NamedRequest NamedRequest.Answer)

namespace Endpoint

variable {α : Type} (e : Endpoint)

/-- The requests of the dialogue are for this endpoint. -/
def named (d : HttpDialogue α) : NamedDialogue α := d.meet fun r => .request ⟨e, r⟩

def mark (x : Exchange HttpRequest HttpRequest.Answer) :
    Exchange NamedRequest NamedRequest.Answer :=
  ⟨⟨e, x.request⟩, x.answer⟩

/-- The exchange, if it is with this endpoint. -/
def own? (x : Exchange NamedRequest NamedRequest.Answer) :
    Option (Exchange HttpRequest HttpRequest.Answer) :=
  if x.request.endpoint = e then some ⟨x.request.request, x.answer⟩ else none

end Endpoint

/-- What has passed between an inspection and an endpoint. -/
def NamedHistory.of (h : NamedHistory) (e : Endpoint) : HttpHistory := h.filterMap e.own?

/-- The dialogue without the names. -/
def NamedDialogue.unnamed {α : Type} (d : NamedDialogue α) : HttpDialogue α :=
  d.meet fun r => .request r.request

/-- A survey with the names of the endpoints. -/
def Survey.askNamed (i : InspectionInputs) : NamedDialogue Survey := do
  let scan ← Endpoint.scan.named (Endpoint.scan.ask i)
  let proxy ← Endpoint.proxy.named (Endpoint.proxy.ask i)
  let trace ← Endpoint.trace.named (Endpoint.trace.ask i)
  pure ⟨scan, proxy, trace⟩

/-- An inspection with the names of the endpoints. -/
def inspectNamed (i : InspectionInputs) (now : Timestamp) : NamedDialogue InspectionOutcome := do
  pure ((← Survey.askNamed i).outcome i now)

section Names

variable {α β : Type}

theorem NamedDialogue.unnamed_bind (d : NamedDialogue α) (f : α → NamedDialogue β) :
    (d >>= f : NamedDialogue β).unnamed = d.unnamed >>= fun a => (f a).unnamed := by
  induction d with
  | done a => rfl
  | ask r next ih => exact congrArg (Dialogue.ask r.request) (funext ih)

theorem Endpoint.unnamed_named (e : Endpoint) (d : HttpDialogue α) : (e.named d).unnamed = d := by
  induction d with
  | done a => rfl
  | ask r next ih => exact congrArg (Dialogue.ask r) (funext ih)

/-- Without the names it is the inspection. -/
theorem unnamed_inspectNamed (i : InspectionInputs) (now : Timestamp) :
    (inspectNamed i now).unnamed = inspectEndpoints i now := by
  rw [inspectNamed, inspectEndpoints, Survey.ask_eq, Survey.askNamed]
  simp only [NamedDialogue.unnamed_bind, Endpoint.unnamed_named]
  rfl

theorem Endpoint.yields_named {e : Endpoint} {d : HttpDialogue α} {h : NamedHistory} {a : α}
    (hy : (e.named d).Yields h a) : ∃ own, h = own.map e.mark ∧ d.Yields own a := by
  induction d generalizing h with
  | done b =>
      obtain ⟨rfl, rfl⟩ := Dialogue.yields_done.1 hy
      exact ⟨[], rfl, .refl _⟩
  | ask r next ih =>
      obtain ⟨answer, rest, rfl, hrest⟩ := Dialogue.yields_request_bind.1 hy
      obtain ⟨own, rfl, hown⟩ := ih answer hrest
      exact ⟨⟨r, answer⟩ :: own, rfl, Dialogue.yields_ask.2 ⟨answer, own, rfl, hown⟩⟩

end Names

theorem NamedHistory.of_append (h h' : NamedHistory) (e : Endpoint) :
    NamedHistory.of (h ++ h') e = NamedHistory.of h e ++ NamedHistory.of h' e :=
  List.filterMap_append

theorem NamedHistory.of_marked (h : HttpHistory) (e e' : Endpoint) :
    NamedHistory.of (h.map e'.mark) e = if e' = e then h else [] := by
  rw [NamedHistory.of, List.filterMap_map]
  split
  · next heq =>
    subst heq
    have hsome : e'.own? ∘ e'.mark = some := funext fun x => if_pos rfl
    rw [hsome, List.filterMap_some]
  · next hne => exact List.filterMap_eq_nil_iff.2 fun x _ => if_neg hne

/-! ## One endpoint at a time -/

namespace Survey

variable {i : InspectionInputs}

/-- What is heard of an endpoint. -/
def report (s : Survey) : (e : Endpoint) → e.Report
  | .scan => s.scan
  | .proxy => s.proxy
  | .trace => s.trace

/-- What passes between a survey and an endpoint is what asking it brings about. -/
theorem yields_of_askNamed {h : NamedHistory} {s : Survey} (hy : (askNamed i).Yields h s)
    (e : Endpoint) : (e.ask i).Yields (h.of e) (s.report e) := by
  obtain ⟨h₁, scan, _, rfl, hscan, hrest⟩ := Dialogue.yields_bind.1 hy
  obtain ⟨h₂, proxy, _, rfl, hproxy, hrest⟩ := Dialogue.yields_bind.1 hrest
  obtain ⟨h₃, trace, _, rfl, htrace, hrest⟩ := Dialogue.yields_bind.1 hrest
  obtain ⟨rfl, rfl⟩ := Dialogue.yields_done.1 hrest
  obtain ⟨own₁, rfl, hown₁⟩ := Endpoint.yields_named hscan
  obtain ⟨own₂, rfl, hown₂⟩ := Endpoint.yields_named hproxy
  obtain ⟨own₃, rfl, hown₃⟩ := Endpoint.yields_named htrace
  rw [List.append_nil, NamedHistory.of_append, NamedHistory.of_append, NamedHistory.of_marked,
    NamedHistory.of_marked, NamedHistory.of_marked]
  cases e with
  | scan => simpa [report] using hown₁
  | proxy => simpa [report] using hown₂
  | trace => simpa [report] using hown₃

end Survey

namespace Endpoint

/-- What is told of an endpoint in comparison with another. -/
def compared : Endpoint → List String
  | .proxy => ["lag_blocks", "block_hash_match"]
  | _ => []

/-- What is found of an endpoint by its own report. -/
def findings (block : UInt64) : (e : Endpoint) → e.Report → Findings
  | .scan, r => EndpointReport.findings Endpoint.scan.name block r
  | .proxy, r => EndpointReport.findings Endpoint.proxy.name block r
  | .trace, r => Findings.optional (TraceReport.findings Endpoint.trace.name) r

end Endpoint

theorem Survey.told_part_report (i : InspectionInputs) (s : Survey) (e : Endpoint) {key : String}
    (hkey : key ∉ e.compared) :
    (s.part i e).told (e.entry key) = (e.findings i.block (s.report e)).told (e.entry key) := by
  cases e with
  | scan => rfl
  | proxy =>
      exact s.told_part_proxy i (List.ne_of_not_mem_cons hkey)
        (List.ne_of_not_mem_cons (List.not_mem_of_not_mem_cons hkey))
  | trace => rfl

/-! ## Endpoints with a state of their own -/

section Served

variable {σ α : Type}

/-- The history is one with these surroundings, from this state on. -/
inductive ServedBy (respond : HttpRequest → σ → HttpReply × σ) : σ → HttpHistory → Prop
  | nil (state : σ) : ServedBy respond state []
  | cons {r : HttpRequest} {state : σ} {h : HttpHistory} :
      ServedBy respond (respond r state).2 h →
      ServedBy respond state (⟨r, (respond r state).1⟩ :: h)

theorem ServedBy.alike {respond : HttpRequest → σ → HttpReply × σ} {state : σ} {h h' : HttpHistory}
    (hs : ServedBy respond state h) (hs' : ServedBy respond state h') : AnsweredAlike h h' := by
  intro before x x' after after' hh hh' hrequest
  induction before generalizing state h h' with
  | nil =>
      subst hh hh'
      cases hs
      cases hs'
      cases hrequest
      rfl
  | cons y before ih =>
      subst hh hh'
      cases hs with
      | cons hs =>
          cases hs' with
          | cons hs' => exact ih hs hs' rfl rfl

/-- Endpoints that answer for themselves, each with its own state. -/
def together (respond : Endpoint → HttpRequest → σ → HttpReply × σ) (r : NamedRequest)
    (state : Endpoint → σ) : r.Answer × (Endpoint → σ) :=
  ((respond r.endpoint r.request (state r.endpoint)).1,
    Function.update state r.endpoint (respond r.endpoint r.request (state r.endpoint)).2)

theorem together_own (respond : Endpoint → HttpRequest → σ → HttpReply × σ) (r : NamedRequest)
    (state : Endpoint → σ) : (together respond r state).2 r.endpoint =
      (respond r.endpoint r.request (state r.endpoint)).2 :=
  Function.update_self ..

theorem together_other (respond : Endpoint → HttpRequest → σ → HttpReply × σ) {r : NamedRequest}
    (state : Endpoint → σ) {e : Endpoint} (h : e ≠ r.endpoint) :
    (together respond r state).2 e = state e :=
  Function.update_of_ne h ..

theorem servedBy_history (respond : Endpoint → HttpRequest → σ → HttpReply × σ) (e : Endpoint)
    (d : NamedDialogue α) (state : Endpoint → σ) :
    ServedBy (respond e) (state e) (NamedHistory.of (d.history (together respond) state) e) := by
  induction d generalizing state with
  | done a => exact .nil _
  | ask r next ih =>
      have hrest := ih (together respond r state).1 (together respond r state).2
      by_cases he : r.endpoint = e
      · subst he
        have hown : r.endpoint.own? ⟨r, (together respond r state).1⟩ =
            some ⟨r.request, (together respond r state).1⟩ := if_pos rfl
        rw [Dialogue.history, NamedHistory.of, List.filterMap_cons_some hown]
        rw [together_own] at hrest
        exact .cons hrest
      · have hother : e.own? ⟨r, (together respond r state).1⟩ = none := if_neg he
        rw [Dialogue.history, NamedHistory.of, List.filterMap_cons_none hother]
        rw [together_other respond state (Ne.symm he)] at hrest
        exact hrest

end Served

/-- **Endpoints do not see each other.**  Take two inspections with the same
inputs and an endpoint that answers both alike, while the others answer as they
please.  Then both ask this endpoint the same, at its own address and in the same
words, and all that the results tell under its name is the same, but for what the
proxy is told to be in comparison. -/
theorem endpoints_do_not_interfere {i : InspectionInputs} {now now' : Timestamp}
    {h h' : NamedHistory} {o o' : InspectionOutcome} (hy : (inspectNamed i now).Yields h o)
    (hy' : (inspectNamed i now').Yields h' o') {e : Endpoint}
    (halike : AnsweredAlike (h.of e) (h'.of e)) :
    (inspectNamed i now).unnamed = inspectEndpoints i now ∧ h.of e = h'.of e ∧
      (∀ x ∈ h.of e, e.IsAskedBy i x.request) ∧
      ∃ r r', o.results = some r ∧ o'.results = some r' ∧
        ∀ key, key ∉ e.compared → r.told (e.entry key) = r'.told (e.entry key) := by
  obtain ⟨_, s, _, rfl, hask, hrest⟩ := Dialogue.yields_bind.1 hy
  obtain ⟨rfl, rfl⟩ := Dialogue.yields_done.1 hrest
  obtain ⟨_, s', _, rfl, hask', hrest'⟩ := Dialogue.yields_bind.1 hy'
  obtain ⟨rfl, rfl⟩ := Dialogue.yields_done.1 hrest'
  rw [List.append_nil, List.append_nil] at halike ⊢
  have hown := Survey.yields_of_askNamed hask e
  obtain ⟨hsame, hreport⟩ :=
    Dialogue.eq_of_answeredAlike hown (Survey.yields_of_askNamed hask' e) halike
  rw [s.outcome_eq, s'.outcome_eq]
  refine ⟨unnamed_inspectNamed i now, hsame, ((Endpoint.ask_within i e).of_yields hown).1,
    _, _, rfl, rfl, fun key hkey => ?_⟩
  rw [s.told_results, s'.told_results, s.told_part_report i e hkey, s'.told_part_report i e hkey,
    hreport]

/-! Two inspections: the scanner's endpoint cannot be reached in one of them. -/

namespace Unreachable

open Json

def inputs : InspectionInputs := ⟨90, "http://scan", "http://proxy", none, false, false⟩

/-- An endpoint that gives one number for everything. -/
def number (quantity : String) : HttpReply :=
  .response 200 (utf8 (Value.object [("result", .text quantity)]).compact)

/-- What an endpoint answers to everything. -/
def reply (scan : HttpReply) : Endpoint → HttpReply
  | .scan => scan
  | .proxy => number "0x5a"
  | .trace => .none

def respond (scan : HttpReply) (e : Endpoint) (_ : HttpRequest) (_ : Unit) : HttpReply × Unit :=
  (reply scan e, ())

def history (scan : HttpReply) : NamedHistory :=
  (inspectNamed inputs ⟨0, 0⟩).history (together (respond scan)) fun _ => ()

def outcome (scan : HttpReply) : InspectionOutcome :=
  ((inspectNamed inputs ⟨0, 0⟩).run (together (respond scan)) fun _ => ()).1

theorem yields_outcome (scan : HttpReply) :
    (inspectNamed inputs ⟨0, 0⟩).Yields (history scan) (outcome scan) :=
  Dialogue.yields_run _ _ _

theorem proxy_alike (scan scan' : HttpReply) :
    AnsweredAlike ((history scan).of .proxy) ((history scan').of .proxy) :=
  have hproxy : respond scan' .proxy = respond scan .proxy := rfl
  (servedBy_history (respond scan) .proxy (inspectNamed inputs ⟨0, 0⟩) fun _ => ()).alike
    (hproxy ▸ servedBy_history (respond scan') .proxy (inspectNamed inputs ⟨0, 0⟩) fun _ => ())

theorem told_of_outcome {scan : HttpReply} {r : InspectionResults} {name : String}
    {found : Option Float × Option String} (hr : (outcome scan).results = some r)
    (h : (outcome scan).results.map (·.told name) = some found) : r.told name = found := by
  rw [hr] at h
  exact Option.some.inj h

end Unreachable

/-- The proxy is asked the same, and the same is told of its latest block; in
comparison it is told to lag in one of the two only. -/
theorem endpoints_do_not_interfere_unreachable :
    AnsweredAlike ((Unreachable.history .none).of .proxy)
        ((Unreachable.history (Unreachable.number "0x64")).of .proxy) ∧
      (Unreachable.history .none).of .proxy =
        (Unreachable.history (Unreachable.number "0x64")).of .proxy ∧
      ∃ r r', (Unreachable.outcome .none).results = some r ∧
        (Unreachable.outcome (Unreachable.number "0x64")).results = some r' ∧
        r.told (Endpoint.proxy.entry "latest_block") =
          r'.told (Endpoint.proxy.entry "latest_block") ∧
        r'.told (Endpoint.proxy.entry "latest_block") = (some 90.0, none) ∧
        r.told (Endpoint.proxy.entry "lag_blocks") = (none, none) ∧
        r'.told (Endpoint.proxy.entry "lag_blocks") = (some 10.0, none) := by
  have halike := Unreachable.proxy_alike .none (Unreachable.number "0x64")
  obtain ⟨-, hsame, -, r, r', hr, hr', htold⟩ := endpoints_do_not_interfere
    (Unreachable.yields_outcome .none) (Unreachable.yields_outcome _) halike
  refine ⟨halike, hsame, r, r', hr, hr', htold "latest_block" (by decide), ?_, ?_, ?_⟩
  · exact Unreachable.told_of_outcome hr' (by decide +kernel)
  · exact Unreachable.told_of_outcome hr (by decide +kernel)
  · exact Unreachable.told_of_outcome hr' (by decide +kernel)

end NodeKeeper
