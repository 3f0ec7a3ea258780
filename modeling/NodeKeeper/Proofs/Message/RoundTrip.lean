/-
# What is sent is what is read

The texts of four kinds of records are read by whoever gets them, each by a
reader of its own:

    batch of agents          `Agent.batchDecoder`          asked for, and told as a status
    block progress           `Progress.decoder`            from the scanner
    inputs of an inspection  `InspectionInputs.decoder`    with its results
    shared containers        `Infrastructure.decoder`      from the configuration

For each kind there are two facts.  The reader takes the value that is written
for the record that it was written for (`reads_toJson`).  And the reader respects
a likeness that leaves open in which order members come and what members of other
names say (`respects_likeness`).
-/
import NodeKeeper.Fleet.Messages
import NodeKeeper.Message.Progress
import NodeKeeper.Proofs.Json.Readback

namespace NodeKeeper

open Json Json.Decode

/-! ## Batches of agents -/

namespace Agent

theorem reads_toJson (a : Agent) : Reads decoder a.toJson a :=
  ⟨⟨trivial, trivial, trivial⟩, rfl⟩

theorem reads_batchToJson (batch : List Agent) : Reads batchDecoder (batchToJson batch) batch :=
  Reads.list reads_toJson batch

def likeness : Likeness := .plain ["id", "image"]

def batchLikeness : Likeness := .list likeness

theorem respects_likeness : Respects decoder likeness := respects_plain (by decide) _

theorem respects_batchLikeness : Respects batchDecoder batchLikeness := respects_likeness.list

end Agent

/-! ## Block progress -/

namespace Progress

theorem reads_toJson {p : Progress} (h : p.observedAt = none) : Reads decoder p.toJson p := by
  obtain ⟨received, handedOn, _⟩ := p
  obtain rfl := h
  have hfields : fields ["latest_block_input", "latest_block_output", "observed_at"]
      (toJson ⟨received, handedOn, none⟩).tree =
      some [some (Value.integer received.toNat).tree, some (Value.integer handedOn.toNat).tree,
        none] := rfl
  have hreceived := (reads_u64 received).required
  have hhandedOn := (reads_u64 handedOn).defaulted 0
  refine reads_record ⟨trivial, trivial, trivial⟩ hfields ?_
  simp only [hreceived, hhandedOn]
  rfl

def likeness : Likeness := .plain ["latest_block_input", "latest_block_output", "observed_at"]

theorem respects_likeness : Respects decoder likeness := respects_plain (by decide) _

theorem member?_observedAt (p : Progress) :
    p.toJson.member? "observed_at" = p.observedAt.map fun t => .text t.text := by
  obtain ⟨received, handedOn, observedAt⟩ := p
  cases observedAt <;> rfl

end Progress

/-! ## Inputs of an inspection -/

namespace InspectionInputs

theorem reads_toJson (i : InspectionInputs) : Reads decoder i.toJson i := by
  obtain ⟨block, scanUrl, proxyUrl, traceUrl, checkTrace, networkSaving⟩ := i
  have hexact : (toJson ⟨block, scanUrl, proxyUrl, traceUrl, checkTrace, networkSaving⟩).IsExact := by
    cases traceUrl with
    | none => exact ⟨trivial, trivial, trivial, trivial, trivial, trivial⟩
    | some url => exact ⟨trivial, trivial, trivial, trivial, trivial, trivial, trivial⟩
  have hfields : fields fieldNames
      (toJson ⟨block, scanUrl, proxyUrl, traceUrl, checkTrace, networkSaving⟩).tree =
      some [some (Value.integer block.toNat).tree, some (.text (some scanUrl)),
        some (.text (some proxyUrl)), traceUrl.map fun url => .text (some url),
        some (.bool checkTrace), some (.bool networkSaving)] := by
    cases traceUrl <;> rfl
  -- an endpoint that is left out is what the reader takes its absence for
  have htrace : defaulted none (option text) (traceUrl.map fun url => .text (some url)) =
      some traceUrl := by
    cases traceUrl <;> rfl
  have hblock := (reads_u64 block).required
  refine reads_record hexact hfields ?_
  simp only [hblock, htrace]
  rfl

def likeness : Likeness := .plain fieldNames

theorem respects_likeness : Respects decoder likeness := respects_plain (by decide) _

theorem member?_traceUrl (i : InspectionInputs) :
    i.toJson.member? "trace_api_url" = i.traceUrl.map .text := by
  obtain ⟨block, scanUrl, proxyUrl, traceUrl, checkTrace, networkSaving⟩ := i
  cases traceUrl <;> rfl

end InspectionInputs

/-! ## Shared containers -/

namespace SharedContainer

theorem reads_toJson (c : SharedContainer) : Reads decoder c.toJson c := by
  obtain ⟨name, image, env⟩ := c
  have henv := reads_dictionary reads_text env
  have hfields : fields ["name", "image", "env"] (toJson ⟨name, image, env⟩).tree =
      some [some (.text (some name)), some (.text (some image)),
        some (Value.object (env.entries.map fun e => (e.1, .text e.2))).tree] := rfl
  refine reads_record ⟨trivial, trivial, henv.1, trivial⟩ hfields ?_
  simp only [henv.defaulted]
  rfl

def likeness : Likeness := .record [("name", Eq), ("image", Eq), ("env", .dictionary Eq)]

theorem respects_likeness : Respects decoder likeness := by
  refine respects_record (by decide) fun found found' h => ?_
  have hname := (respects_eq text).required (h "name" Eq (by simp))
  have himage := (respects_eq text).required (h "image" Eq (by simp))
  have henv := (respects_eq text).dictionary.defaulted (h "env" _ (by simp)) .empty
  simp only [List.map_cons, List.map_nil, hname, himage, henv]

end SharedContainer

namespace Infrastructure

theorem reads_toJson (i : Infrastructure) : Reads decoder i.toJson i := by
  obtain ⟨networkName, scanner, proxy⟩ := i
  have hscanner := scanner.reads_toJson
  have hproxy := proxy.reads_toJson
  have hfields : fields ["network_name", "scanner", "json_rpc_proxy"]
      (toJson ⟨networkName, scanner, proxy⟩).tree =
      some [some (.text (some networkName)), some scanner.toJson.tree,
        some proxy.toJson.tree] := rfl
  refine reads_record ⟨trivial, hscanner.1, hproxy.1, trivial⟩ hfields ?_
  simp only [hscanner.required, hproxy.required]
  rfl

def likeness : Likeness :=
  .record [("network_name", Eq), ("scanner", SharedContainer.likeness),
    ("json_rpc_proxy", SharedContainer.likeness)]

theorem respects_likeness : Respects decoder likeness := by
  refine respects_record (by decide) fun found found' h => ?_
  have hname := (respects_eq text).required (h "network_name" Eq (by simp))
  have hscanner := SharedContainer.respects_likeness.required
    (h "scanner" SharedContainer.likeness (by simp))
  have hproxy := SharedContainer.respects_likeness.required
    (h "json_rpc_proxy" SharedContainer.likeness (by simp))
  simp only [List.map_cons, List.map_nil, hname, hscanner, hproxy]

end Infrastructure

/-! ## All of them -/

/-- A status of agents asks for the same agents if it is sent back as a request. -/
theorem Supervisor.requestOf?_batchToJson (batch : List Agent) :
    requestOf? Subject.agentsRun (utf8 (Agent.batchToJson batch).compact) = some (.run batch) ∧
      requestOf? Subject.agentsStop (utf8 (Agent.batchToJson batch).compact) =
        some (.stop batch) := by
  have hread := (Agent.reads_batchToJson batch).decode
  have hdifferent : Subject.agentsStop ≠ Subject.agentsRun := by decide
  constructor
  · rw [requestOf?, if_pos rfl, hread]
    rfl
  · rw [requestOf?, if_neg hdifferent, if_pos rfl, hread]
    rfl

/-- What is sent is read as it was, and absent fields are left out of it.  Texts
that differ in the order of their members, or in members of other names, are read
as the same.  A status of agents can be sent back as a request. -/
theorem sent_is_read :
    (∀ batch, decode Agent.batchDecoder (utf8 (Agent.batchToJson batch).compact) = some batch) ∧
    (∀ p : Progress, p.observedAt = none →
      p.toJson.member? "observed_at" = none ∧
        decode Progress.decoder (utf8 p.toJson.compact) = some p) ∧
    (∀ i : InspectionInputs,
      i.toJson.member? "trace_api_url" = i.traceUrl.map .text ∧
        decode InspectionInputs.decoder (utf8 i.toJson.compact) = some i) ∧
    (∀ i : Infrastructure, decode Infrastructure.decoder (utf8 i.toJson.compact) = some i) ∧
    ReadsAlike Agent.batchDecoder Agent.batchLikeness ∧
    ReadsAlike Progress.decoder Progress.likeness ∧
    ReadsAlike InspectionInputs.decoder InspectionInputs.likeness ∧
    ReadsAlike Infrastructure.decoder Infrastructure.likeness ∧
    (∀ batch,
      Supervisor.requestOf? Subject.agentsRun (utf8 (Agent.batchToJson batch).compact) =
          some (.run batch) ∧
        Supervisor.requestOf? Subject.agentsStop (utf8 (Agent.batchToJson batch).compact) =
          some (.stop batch)) := by
  refine ⟨?batch, ?progress, ?inputs, ?infrastructure, ?_, ?_, ?_, ?_, ?back⟩
  case batch => exact fun batch => (Agent.reads_batchToJson batch).decode
  case progress =>
    intro p h
    refine ⟨?_, (Progress.reads_toJson h).decode⟩
    rw [p.member?_observedAt, h, Option.map_none]
  case inputs => exact fun i => ⟨i.member?_traceUrl, i.reads_toJson.decode⟩
  case infrastructure => exact fun i => i.reads_toJson.decode
  case back => exact Supervisor.requestOf?_batchToJson
  · exact Agent.respects_batchLikeness.readsAlike
  · exact Progress.respects_likeness.readsAlike
  · exact InspectionInputs.respects_likeness.readsAlike
  · exact Infrastructure.respects_likeness.readsAlike

/-- The members in reverse order, after one that is nobody's. -/
def rearranged (members : List (String × Value)) : Value :=
  .object ([("note", .array [.null, .integer 1])] ++ members.reverse)

/-- One record of each kind, written in reverse order and with a note. -/
theorem sent_is_read_rearranged :
    (⟨0xFFFFFFFFFFFFFFFF, 5, none⟩ : Progress).observedAt = none ∧
    decode Agent.batchDecoder
        (utf8 (Value.array [rearranged [("id", .text "\"é\n😀\""), ("image", .text "img")]]).compact) =
      some [⟨"\"é\n😀\"", "img"⟩] ∧
    decode Progress.decoder
        (utf8 (rearranged [("latest_block_input", .integer 0xFFFFFFFFFFFFFFFF),
          ("latest_block_output", .integer 5)]).compact) =
      some ⟨0xFFFFFFFFFFFFFFFF, 5, none⟩ ∧
    decode InspectionInputs.decoder
        (utf8 (rearranged [("block_number", .integer 7), ("scan_api_url", .text "s"),
          ("proxy_api_url", .text "p"), ("check_trace", .bool true),
          ("network_saving_mode", .bool false)]).compact) =
      some ⟨7, "s", "p", none, true, false⟩ ∧
    decode Infrastructure.decoder
        (utf8 (rearranged [("network_name", .text "net"),
          ("scanner", SharedContainer.toJson ⟨"scanner", "img", .ofList [("LOG", "all")]⟩),
          ("json_rpc_proxy", SharedContainer.toJson ⟨"proxy", "img", .empty⟩)]).compact) =
      some ⟨"net", ⟨"scanner", "img", .ofList [("LOG", "all")]⟩, ⟨"proxy", "img", .empty⟩⟩ := by
  obtain ⟨hbatch, hprogress, hinputs, hinfra, likeBatch, likeProgress, likeInputs, likeInfra, -⟩ :=
    sent_is_read
  refine ⟨rfl, ?batch, ?progress, ?inputs, ?infrastructure⟩
  case batch =>
    have hexact : (Value.array
        [rearranged [("id", .text "\"é\n😀\""), ("image", .text "img")]]).IsExact :=
      ⟨⟨⟨trivial, trivial, trivial⟩, trivial, trivial, trivial⟩, trivial⟩
    have hlike : Agent.likeness (Agent.toJson ⟨"\"é\n😀\"", "img"⟩).tree
        (rearranged [("id", .text "\"é\n😀\""), ("image", .text "img")]).tree :=
      record_rearranged (Likeness.plain_refl _) (by decide) (List.reverse_perm _).symm (by decide)
    refine Eq.trans (Eq.symm ?_) (hbatch [⟨"\"é\n😀\"", "img"⟩])
    exact likeBatch (read?_compact (Agent.reads_batchToJson _).1) (read?_compact hexact)
      (.inr ⟨_, _, rfl, rfl, .cons hlike .nil⟩)
  case progress =>
    refine Eq.trans ?_ (hprogress ⟨0xFFFFFFFFFFFFFFFF, 5, none⟩ rfl).2
    exact likeProgress.rearranged (Likeness.plain_refl _)
      ⟨⟨trivial, trivial, trivial⟩, trivial, trivial, trivial⟩
      (by decide) (List.reverse_perm _).symm (by decide)
  case inputs =>
    refine Eq.trans ?_ (hinputs ⟨7, "s", "p", none, true, false⟩).2
    exact likeInputs.rearranged (Likeness.plain_refl _)
      ⟨⟨trivial, trivial, trivial⟩, trivial, trivial, trivial, trivial, trivial, trivial⟩
      (by decide) (List.reverse_perm _).symm (by decide)
  case infrastructure =>
    refine Eq.trans ?_
      (hinfra ⟨"net", ⟨"scanner", "img", .ofList [("LOG", "all")]⟩, ⟨"proxy", "img", .empty⟩⟩)
    refine likeInfra.rearranged ?_ ?_ (by decide) (List.reverse_perm _).symm (by decide)
    · exact List.forall_mem_cons.2 ⟨fun _ => rfl, List.forall_mem_cons.2 ⟨fun _ => .inl rfl,
        List.forall_mem_cons.2 ⟨fun _ => .inl rfl, nofun⟩⟩⟩
    · exact ⟨⟨trivial, trivial, trivial⟩, trivial,
        ⟨trivial, trivial, ⟨trivial, trivial⟩, trivial⟩,
        ⟨trivial, trivial, trivial, trivial⟩, trivial⟩

end NodeKeeper
