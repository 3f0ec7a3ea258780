/-
# What a survey complains of

Each complaint begins with the name of the endpoint that it is about, and goes on
with what is wrong.  So one can be told from another by its letters: the
complaint that there is no address to ask for traces stands in the findings of a
survey just when the trace endpoint was to be asked and had no address
(`Survey.lacksAddress_iff`).
-/
import NodeKeeper.Inspection.Survey
import NodeKeeper.Proofs.History

namespace NodeKeeper

/-! ## Complaints of parts and wholes -/

namespace Findings

variable (a b : Findings) (name text endpoint : String)

@[simp] theorem complaints_append : (a ++ b).complaints = a.complaints ++ b.complaints := rfl

@[simp] theorem complaints_indicator (x : Float) : (indicator name x).complaints = [] := rfl

@[simp] theorem complaints_flag (holds : Bool) : (flag name holds).complaints = [] := rfl

@[simp] theorem complaints_note : (note name text).complaints = [] := rfl

@[simp] theorem complaints_complaint :
    (complaint endpoint text).complaints = [endpoint ++ ": " ++ text] := rfl

@[simp] theorem complaints_optional {α : Type} (f : α → Findings) (o : Option α) :
    (optional f o).complaints = o.toList.flatMap fun a => (f a).complaints := by
  cases o with
  | none => rfl
  | some a => exact (List.flatMap_singleton ..).symm

/-- Every complaint is about this endpoint. -/
def About (endpoint : String) (f : Findings) : Prop :=
  ∀ t ∈ f.complaints, ∃ text, t = endpoint ++ ": " ++ text

theorem about_of_nil {endpoint : String} {f : Findings} (h : f.complaints = []) :
    f.About endpoint := by
  intro t ht
  rw [h] at ht
  exact nomatch ht

theorem about_complaint {endpoint text : String} : (complaint endpoint text).About endpoint := by
  intro t ht
  exact ⟨text, List.mem_singleton.1 ht⟩

theorem About.append {endpoint : String} {a b : Findings} (ha : a.About endpoint)
    (hb : b.About endpoint) : (a ++ b).About endpoint := by
  intro t ht
  rcases List.mem_append.1 ht with ht | ht
  · exact ha t ht
  · exact hb t ht

end Findings

open Findings

theorem BlockReport.about (endpoint : String) (block : UInt64) (r : BlockReport) :
    (r.findings endpoint block).About endpoint := by
  cases r with
  | found hash transactions => exact about_of_nil (by simp [findings])
  | missing got => exact (about_of_nil rfl).append about_complaint
  | failed e => exact (about_of_nil rfl).append about_complaint

theorem EndpointReport.about (endpoint : String) (block : UInt64) (r : EndpointReport) :
    (r.findings endpoint block).About endpoint := by
  cases r with
  | inaccessible e => exact (about_of_nil rfl).append about_complaint
  | accessible latest b => exact (about_of_nil rfl).append (b.about endpoint block)

theorem comparison_about (endpoint : String) (block : UInt64) (scan proxy : EndpointReport) :
    (comparison endpoint block scan proxy).About endpoint := by
  unfold comparison
  refine About.append (about_of_nil ?_) ?_
  · split <;> rfl
  · split
    · refine (about_of_nil rfl).append ?_
      split
      · exact about_of_nil rfl
      · exact about_complaint
    · exact about_of_nil rfl

/-! ## The missing address -/

/-- The complaint that there is no address to ask for traces. -/
def TraceReport.lacksAddress : String :=
  Survey.traceName ++ ": " ++ "trace check requested without a trace url"

theorem ne_of_head? {s t : String} (h : s.toList.head? ≠ t.toList.head?) : s ≠ t :=
  fun heq => h (heq ▸ rfl)

/-- No error reads like the complaint: they begin with different letters. -/
theorem InspectionError.message_ne (e : InspectionError) :
    e.message ≠ "trace check requested without a trace url" := by
  unfold message
  split <;> exact ne_of_head? (by simp)

theorem TraceReport.lacksAddress_iff (r : TraceReport) :
    lacksAddress ∈ (r.findings Survey.traceName).complaints ↔ r = .noAddress := by
  have hother : ∀ text, text ≠ "trace check requested without a trace url" →
      ¬ lacksAddress = Survey.traceName ++ ": " ++ text :=
    fun text hne heq => hne (String.append_right_inj _ |>.1 heq).symm
  cases r with
  | noAddress => simp [findings, lacksAddress]
  | traced count => simp [findings]
  | unexpected got =>
      have hgot := hother ("unexpected trace_block result " ++ got.compact) (ne_of_head? (by simp))
      simp [findings, hgot]
  | refused e => simp [findings, hother _ e.message_ne]
  | inaccessible e => simp [findings, hother _ e.message_ne]

theorem Findings.About.lacksAddress_not_mem {endpoint : String} {f : Findings}
    (hf : f.About endpoint)
    (hname : ∀ text, Survey.traceName ++ ": " ++ "trace check requested without a trace url" ≠
      endpoint ++ ": " ++ text) :
    TraceReport.lacksAddress ∉ f.complaints := by
  intro hmem
  obtain ⟨text, htext⟩ := hf _ hmem
  exact hname text htext

theorem Survey.lacksAddress_iff (i : InspectionInputs) (s : Survey) :
    TraceReport.lacksAddress ∈ (s.findings i).complaints ↔ s.trace = some .noAddress := by
  have hscan : TraceReport.lacksAddress ∉ (s.scan.findings scanName i.block).complaints :=
    (s.scan.about scanName i.block).lacksAddress_not_mem fun text => ne_of_head? (by simp [traceName, scanName])
  have hproxy : TraceReport.lacksAddress ∉ (s.proxy.findings proxyName i.block).complaints :=
    (s.proxy.about proxyName i.block).lacksAddress_not_mem fun text =>
      ne_of_head? (by simp [traceName, proxyName])
  have hcomparison :
      TraceReport.lacksAddress ∉ (comparison proxyName i.block s.scan s.proxy).complaints :=
    (comparison_about proxyName i.block s.scan s.proxy).lacksAddress_not_mem fun text =>
      ne_of_head? (by simp [traceName, proxyName])
  simp only [findings, complaints_append, complaints_note, complaints_optional, List.mem_append,
    hscan, hproxy, hcomparison, List.not_mem_nil, false_or]
  cases s.trace with
  | none => simp
  | some r => simp [r.lacksAddress_iff]

/-! ## Asking -/

/-- What passes between a survey and the endpoints. -/
abbrev HttpHistory : Type := List (Exchange HttpRequest HttpRequest.Answer)

theorem TraceReport.ofAnswer_ne (answer : Except InspectionError Json.Value) :
    ofAnswer answer ≠ .noAddress := by
  unfold ofAnswer
  split <;> exact nofun

theorem TraceReport.ask_noAddress_iff {address : Option String} {block : UInt64} {h : HttpHistory}
    {r : TraceReport} (hy : (ask address block).Yields h r) :
    r = .noAddress ↔ address = .none := by
  cases address with
  | none => exact iff_of_true (Dialogue.yields_done.1 hy).2 rfl
  | some address =>
      obtain ⟨h₁, ⟨answer, client⟩, h₂, rfl, -, hrest⟩ := Dialogue.yields_bind.1 hy
      obtain ⟨-, rfl⟩ := Dialogue.yields_done.1 hrest
      exact iff_of_false (ofAnswer_ne answer) nofun

/-- The trace endpoint has no address just when traces are to be checked and none
is given. -/
theorem Survey.ask_noAddress_iff {i : InspectionInputs} {h : HttpHistory} {s : Survey}
    (hy : (ask i).Yields h s) :
    s.trace = some .noAddress ↔ i.checkTrace = true ∧ i.traceUrl = .none := by
  obtain ⟨h₁, scan, h₂, rfl, -, hrest⟩ := Dialogue.yields_bind.1 hy
  obtain ⟨h₃, proxy, h₄, rfl, -, hrest⟩ := Dialogue.yields_bind.1 hrest
  dsimp only at hrest
  split at hrest
  · next hcheck =>
    obtain ⟨h₅, r, h₆, rfl, hr, hrest⟩ := Dialogue.yields_bind.1 hrest
    obtain ⟨-, rfl⟩ := Dialogue.yields_done.1 hrest
    simp [hcheck, TraceReport.ask_noAddress_iff hr]
  · next hcheck =>
    obtain ⟨-, rfl⟩ := Dialogue.yields_done.1 hrest
    simp [hcheck]

end NodeKeeper
