/-
# Which block is asked for

An endpoint is asked about a block by its number, which is written as a quantity
and stands first among the parameters of the call.  Whoever gets the call finds it
there and reads it:

    r.block?           the block that a request is about
    IsAbout block r    the request is about the block, or asks for the latest one

A quantity comes back from its text in all its forms, so what the endpoints find
is the block of the inspection and no other (`quantity_round_trip`).
-/
import NodeKeeper.Proofs.Inspection.Flags
import NodeKeeper.Proofs.Inspection.Isolation
import NodeKeeper.Proofs.Inspection.QuantityForms

namespace NodeKeeper

open Json

/-! ## Reading a call -/

/-- The block that a call is about. -/
def ChainCall.blockDecoder : Decoder UInt64 := fun t =>
  (Decode.fields ["params"] t).bind fun
    | [some (.array (first :: _))] =>
      (Decode.text first).bind fun quantity => (Quantity.read quantity).toOption
    | _ => none

/-- The block that a request is about. -/
def HttpRequest.block? (r : HttpRequest) : Option UInt64 := decode ChainCall.blockDecoder r.body

/-- The parameters of a call about a block begin with its number. -/
def blockParams (block : UInt64) (others : List Value) : Value :=
  .array (.text (Quantity.write block) :: others)

theorem ChainCall.reads_block {c : ChainCall} {block : UInt64} {others : List Value}
    (hparams : c.params = blockParams block others) (hexact : c.params.IsExact) :
    Decode.Reads blockDecoder c.toJson block := by
  refine ⟨⟨trivial, trivial, trivial, hexact, trivial⟩, ?_⟩
  show (Decode.fields ["params"] c.toJson.tree).bind _ = some block
  have hfields : Decode.fields ["params"] c.toJson.tree = some [some c.params.tree] := rfl
  rw [hfields, hparams]
  show (Quantity.read (Quantity.write block)).toOption = some block
  rw [Quantity.read_write]
  rfl

/-! ## Posting a call -/

namespace Http

variable {address : String} {body : List UInt8} {h : HttpHistory}

/-- Requests can be sent to the address. -/
def Served (address : String) : Prop :=
  ∃ a, Url.Address.read? address = some a ∧ isServed a = true

theorem served_of_yields_ok {answer : List UInt8} (hy : (post address body).Yields h (.ok answer)) :
    Served address := by
  unfold post at hy
  split at hy
  · exact nomatch (Dialogue.yields_done.1 hy).2
  · next a ha =>
    split at hy
    · exact nomatch (Dialogue.yields_done.1 hy).2
    · next hserved => exact ⟨a, ha, Classical.not_not.1 hserved⟩

theorem Served.sends {posted : Except HttpError (List UInt8)} (hserved : Served address)
    (hy : (post address body).Yields h posted) : ∃ x ∈ h, x.request.body = body := by
  obtain ⟨a, ha, hserved⟩ := hserved
  simp only [post, ha, hserved, not_true_eq_false, if_false] at hy
  obtain ⟨answer, rest, rfl, -⟩ := Dialogue.yields_request_bind.1 hy
  exact ⟨_, List.mem_cons_self, rfl⟩

end Http

namespace ChainClient

variable {c : ChainClient} {method : String} {params : Value} {h : HttpHistory}
  {answered : Except InspectionError Value × ChainClient}

/-- The next call of the client. -/
def nextCall (c : ChainClient) (method : String) (params : Value) : ChainCall :=
  ⟨c.calls + 1, method, params⟩

theorem call_within_body (c : ChainClient) (method : String) (params : Value) :
    (c.call method params).Within (fun r => r.body = utf8 (c.nextCall method params).toJson.compact)
      fun _ => True := by
  refine .bind ((Http.post_within ..).mono (fun r hr => hr.2) fun _ h => h) fun posted _ => ?_
  split
  · exact .done trivial
  · split <;> exact .done trivial

theorem posted_of_yields (hy : (c.call method params).Yields h answered) :
    ∃ posted, (Http.post c.address (utf8 (c.nextCall method params).toJson.compact)).Yields h posted ∧
      answered.2.address = c.address ∧
      ∀ e, posted = .error e → answered.1 = .error (.http e.message) := by
  obtain ⟨h₁, posted, h₂, rfl, hpost, hrest⟩ := Dialogue.yields_bind.1 hy
  refine ⟨posted, ?_⟩
  cases posted with
  | error e =>
      obtain ⟨rfl, rfl⟩ := Dialogue.yields_done.1 hrest
      rw [List.append_nil]
      exact ⟨hpost, rfl, fun _ he => by cases he; rfl⟩
  | ok body =>
      dsimp only at hrest
      split at hrest
      · obtain ⟨rfl, rfl⟩ := Dialogue.yields_done.1 hrest
        rw [List.append_nil]
        exact ⟨hpost, rfl, nofun⟩
      · obtain ⟨rfl, rfl⟩ := Dialogue.yields_done.1 hrest
        rw [List.append_nil]
        exact ⟨hpost, rfl, nofun⟩

/-- A call that has not failed on the way has been sent. -/
theorem served_of_yields (hy : (c.call method params).Yields h answered)
    (harrived : ∀ text, answered.1 ≠ .error (.http text)) : Http.Served c.address := by
  obtain ⟨posted, hpost, -, hfailed⟩ := posted_of_yields hy
  cases posted with
  | error e => exact absurd (hfailed e rfl) (harrived _)
  | ok answer => exact Http.served_of_yields_ok hpost

theorem asks_block {block : UInt64} {others : List Value} (hserved : Http.Served c.address)
    (hexact : (blockParams block others).IsExact)
    (hy : (c.call method (blockParams block others)).Yields h answered) :
    ∃ x ∈ h, x.request.block? = some block := by
  obtain ⟨posted, hpost, -, -⟩ := posted_of_yields hy
  obtain ⟨x, hx, hbody⟩ := hserved.sends hpost
  refine ⟨x, hx, ?_⟩
  rw [HttpRequest.block?, hbody]
  exact (ChainCall.reads_block rfl hexact).decode

end ChainClient

/-! ## All requests -/

/-- The request is about the block, or about none and asks for the latest one. -/
def IsAbout (block : UInt64) (r : HttpRequest) : Prop :=
  r.block? = some block ∨ r.block? = none ∧ r.method? = some "eth_blockNumber"

variable {block : UInt64}

theorem ChainClient.call_about (c : ChainClient) (method : String) {others : List Value}
    (hexact : (blockParams block others).IsExact) :
    (c.call method (blockParams block others)).Within (IsAbout block) fun _ => True := by
  refine (c.call_within_body method _).mono (fun r hr => .inl ?_) fun _ h => h
  rw [HttpRequest.block?, hr]
  exact (ChainCall.reads_block rfl hexact).decode

theorem ChainClient.latestBlock_about (c : ChainClient) :
    c.latestBlock.Within (IsAbout block) fun _ => True := by
  have hexact : (Value.array []).IsExact := trivial
  refine .bind ((c.call_within_body _ _).mono (fun r hr => .inr ⟨?_, ?_⟩) fun _ h => h)
    fun answered _ => .done trivial
  · rw [HttpRequest.block?, hr, decode, read?_compact (ChainCall.reads_method hexact).1]
    rfl
  · rw [HttpRequest.method?, hr]
    exact (ChainCall.reads_method hexact).decode

theorem EndpointReport.ask_about (address : String) (block : UInt64) (full : Bool) :
    (EndpointReport.ask address block full).Within (IsAbout block) fun _ => True := by
  refine .bind (ChainClient.new address).latestBlock_about fun ⟨latest, client⟩ _ => ?_
  cases latest with
  | error e => exact .done trivial
  | ok latest =>
      refine (client.call_about _ ?_).bind fun _ _ => .done trivial
      exact ⟨trivial, trivial, trivial⟩

theorem TraceReport.ask_about (address : Option String) (block : UInt64) :
    (TraceReport.ask address block).Within (IsAbout block) fun _ => True := by
  cases address with
  | none => exact .done trivial
  | some address =>
      refine ((ChainClient.new address).call_about _ ?_).bind fun _ _ => .done trivial
      exact ⟨trivial, trivial⟩

theorem Endpoint.ask_about (i : InspectionInputs) (e : Endpoint) :
    (e.ask i).Within (IsAbout i.block) fun _ => True := by
  cases e with
  | scan => exact EndpointReport.ask_about ..
  | proxy => exact EndpointReport.ask_about ..
  | trace =>
      cases hcheck : i.checkTrace with
      | true =>
          rw [ask_trace_checked hcheck]
          exact (TraceReport.ask_about ..).bind fun _ _ => .done trivial
      | false =>
          rw [ask_trace_unchecked hcheck]
          exact .done trivial

/-! ## Endpoints that can be reached -/

theorem ChainClient.served_of_latestBlock {c client : ChainClient} {h : HttpHistory}
    {latest : UInt64} (hy : c.latestBlock.Yields h (.ok latest, client)) :
    Http.Served client.address := by
  obtain ⟨h₁, ⟨answer, client'⟩, h₂, rfl, hcall, hdone⟩ := Dialogue.yields_bind.1 hy
  obtain ⟨-, htold⟩ := Dialogue.yields_done.1 hdone
  obtain ⟨hanswer, rfl⟩ := Prod.mk.inj htold
  obtain ⟨-, -, haddress, -⟩ := posted_of_yields hcall
  cases answer with
  | error e => exact nomatch hanswer
  | ok v => exact haddress ▸ served_of_yields hcall nofun

/-- An endpoint that is found accessible is asked for the block. -/
theorem EndpointReport.asks_block {e : Endpoint} {address : String} {full : Bool}
    {h : HttpHistory} {r : EndpointReport} (hy : (EndpointReport.ask address block full).Yields h r)
    (haccessible : (r.findings e.name block).value? (e.entry "accessible") = some 1.0) :
    ∃ x ∈ h, x.request.block? = some block := by
  obtain ⟨h₁, ⟨told, client⟩, h₂, rfl, hlatest, hrest⟩ := Dialogue.yields_bind.1 hy
  cases told with
  | error cause =>
      obtain ⟨-, rfl⟩ := Dialogue.yields_done.1 hrest
      simp [findings, Endpoint.entry_eq, one_ne_zero.symm] at haccessible
  | ok latest =>
      obtain ⟨h₃, answered, h₄, rfl, hcall, -⟩ := Dialogue.yields_bind.1 hrest
      have hserved := ChainClient.served_of_latestBlock hlatest
      have hexact : (blockParams block [.bool full]).IsExact := ⟨trivial, trivial, trivial⟩
      obtain ⟨x, hx, hblock⟩ := ChainClient.asks_block hserved hexact hcall
      exact ⟨x, List.mem_append_right _ (List.mem_append_left _ hx), hblock⟩

theorem TraceReport.asks_block {address : Option String} {h : HttpHistory} {r : TraceReport}
    (hy : (TraceReport.ask address block).Yields h r)
    (haccessible : (r.findings Endpoint.trace.name).value? (Endpoint.trace.entry "accessible") =
      some 1.0) : ∃ x ∈ h, x.request.block? = some block := by
  cases address with
  | none =>
      obtain ⟨-, rfl⟩ := Dialogue.yields_done.1 hy
      simp [findings] at haccessible
  | some address =>
      obtain ⟨h₁, ⟨answer, client⟩, h₂, rfl, hcall, hdone⟩ := Dialogue.yields_bind.1 hy
      obtain ⟨rfl, rfl⟩ := Dialogue.yields_done.1 hdone
      have harrived : ∀ text, answer ≠ .error (.http text) := by
        rintro text rfl
        simp [ofAnswer, findings, Endpoint.entry_eq, one_ne_zero.symm] at haccessible
      have hexact : (blockParams block []).IsExact := ⟨trivial, trivial⟩
      obtain ⟨x, hx, hblock⟩ := ChainClient.asks_block
        (ChainClient.served_of_yields hcall harrived) hexact hcall
      exact ⟨x, List.mem_append_left _ hx, hblock⟩

theorem Endpoint.asks_block {i : InspectionInputs} {e : Endpoint} {h : HttpHistory} {r : e.Report}
    (hy : (e.ask i).Yields h r)
    (haccessible : (e.findings i.block r).value? (e.entry "accessible") = some 1.0) :
    ∃ x ∈ h, x.request.block? = some i.block := by
  cases e with
  | scan => exact EndpointReport.asks_block hy haccessible
  | proxy => exact EndpointReport.asks_block hy haccessible
  | trace =>
      cases r with
      | none => exact nomatch haccessible
      | some r =>
          cases hcheck : i.checkTrace with
          | true =>
              rw [ask_trace_checked hcheck] at hy
              obtain ⟨h₁, r', h₂, rfl, hask, hdone⟩ := Dialogue.yields_bind.1 hy
              obtain ⟨rfl, hr⟩ := Dialogue.yields_done.1 hdone
              cases hr
              obtain ⟨x, hx, hblock⟩ := TraceReport.asks_block hask haccessible
              exact ⟨x, List.mem_append_left _ hx, hblock⟩
          | false =>
              rw [ask_trace_unchecked hcheck] at hy
              exact nomatch (Dialogue.yields_done.1 hy).2

/-! ## The round trip -/

/-- **A number comes back from its quantity.**  What is written for a number is read
as that number, also when letters have become capitals and zeros have been put in
after the mark; and so is every other quantity of the number.  Different numbers
are written differently.  What is written is in small letters, and of all texts in
small letters that are read as the number it is the only shortest one.

So whatever the endpoints answer, an inspection asks each of them for nothing but
its latest block and the block in question, whose number is read off the request;
and it does ask an endpoint for that block if it finds it accessible. -/
theorem quantity_round_trip :
    (∀ n, Quantity.read (Quantity.write n) = .ok n) ∧
    (∀ (n : UInt64) raw, Quantity.IsQuantity raw n.toNat → ∀ k raw',
      Quantity.Raised (Quantity.zerosAfterMark k raw.toList) raw'.toList →
        Quantity.read raw' = .ok n) ∧
    (∀ n n', Quantity.write n = Quantity.write n' → n = n') ∧
    (∀ n, Text.lower (Quantity.write n) = Quantity.write n ∧
      Quantity.IsQuantity (Quantity.write n) n.toNat ∧
      ∀ raw, Quantity.read raw = .ok n → Text.lower raw = raw → raw ≠ Quantity.write n →
        (Quantity.write n).length < raw.length) ∧
    (∀ i now (h : NamedHistory) o, (inspectNamed i now).Yields h o →
      (inspectNamed i now).unnamed = inspectEndpoints i now ∧
      ∀ e : Endpoint, (∀ x ∈ h.of e, IsAbout i.block x.request) ∧
        ∃ r, o.results = some r ∧
          (r.indicator? (e.entry "accessible") = some 1.0 →
            ∃ x ∈ h.of e, x.request.block? = some i.block)) := by
  refine ⟨Quantity.read_write, ?_, ?_, ?_, ?_⟩
  · intro n raw hq k raw' hraised
    have hzeros : Quantity.IsQuantity (String.ofList (Quantity.zerosAfterMark k raw.toList))
        n.toNat := hq.withZeros String.toList_ofList
    rw [← String.toList_ofList (l := Quantity.zerosAfterMark k raw.toList)] at hraised
    exact Quantity.read_eq_ok_iff.2 (.inl (hzeros.raised hraised))
  · intro n n' heq
    have hread := Quantity.read_write n
    rw [heq, Quantity.read_write] at hread
    exact (Except.ok.inj hread).symm
  · intro n
    exact ⟨Quantity.lower_write n, Quantity.isQuantity_write n,
      fun raw hread hlower hne => Quantity.length_write_lt hread hlower hne⟩
  · intro i now h o hy
    refine ⟨unnamed_inspectNamed i now, fun e => ?_⟩
    obtain ⟨_, s, _, rfl, hask, hrest⟩ := Dialogue.yields_bind.1 hy
    obtain ⟨rfl, rfl⟩ := Dialogue.yields_done.1 hrest
    rw [List.append_nil, s.outcome_eq]
    have hown := Survey.yields_of_askNamed hask e
    refine ⟨((Endpoint.ask_about i e).of_yields hown).1, _, rfl, fun haccessible => ?_⟩
    have hkey : "accessible" ∉ e.compared := by cases e <;> decide
    have htold := (s.told_results i now e "accessible").trans (s.told_part_report i e hkey)
    exact Endpoint.asks_block hown ((Prod.mk.inj htold).1.symm.trans haccessible)

/-- Ninety in capitals, with zeros; and a proxy that is found accessible is asked for
block 90, though the scanner's endpoint cannot be reached. -/
theorem quantity_round_trip_ninety :
    Quantity.read "0X0005A" = .ok 90 ∧
    (Unreachable.outcome .none).results.map (·.indicator? (Endpoint.proxy.entry "accessible")) =
      some (some 1.0) ∧
    ∃ x ∈ (Unreachable.history .none).of .proxy, x.request.block? = some 90 := by
  obtain ⟨-, hforms, -, hshortest, hasked⟩ := quantity_round_trip
  have hraised : Quantity.Raised (Quantity.zerosAfterMark 3 (Quantity.write 90).toList)
      "0X0005A".toList := by
    unfold Quantity.Raised
    decide +kernel
  have htold : (Unreachable.outcome .none).results.map
      (·.indicator? (Endpoint.proxy.entry "accessible")) = some (some 1.0) := by decide +kernel
  obtain ⟨-, r, hr, hblock⟩ := (hasked _ _ _ _ (Unreachable.yields_outcome .none)).2 .proxy
  rw [hr] at htold
  refine ⟨hforms 90 _ (hshortest 90).2.1 3 _ hraised, ?_, hblock (Option.some.inj htold)⟩
  rw [hr]
  exact htold

end NodeKeeper
