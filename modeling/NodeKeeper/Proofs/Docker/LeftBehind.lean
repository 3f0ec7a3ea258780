/-
# Containers that are left behind

A start runs the container and then connects it to the linked networks, one after
the other.  The id that the run has printed is handed out at the end.  Where a
network refuses the container the start ends in an error at once, nobody is told
the id, and the container is not stopped:

    the run fails, or prints no id       an error, and no container
    a network refuses the container      an error, and a container without an owner
    all networks take the container      its handle

So a start is not all or nothing.  Whichever network it is that refuses, a
container is left behind, and by no other error
(`failed_start_leaves_container_iff`).

A supervisor names no linked networks when it starts an agent.  It connects the
agent itself afterwards, and stops what it could not connect.
-/
import Mathlib.Data.List.Forall2
import NodeKeeper.Docker.Rehearsal
import NodeKeeper.Proofs.Docker.Outcomes

namespace NodeKeeper.Docker

open ContainerEvent Text

variable {program id : String} {spec : ContainerSpec} {p connects : ProcessHistory}
  {answer : Except String ProcessEnd} {e : RuntimeError}

/-- The processes have started a container and have not asked for its stop. -/
def LeftBehind (id : String) (p : ProcessHistory) : Prop :=
  id ∈ startedIds (events p) ∧ id ∉ stopIds (events p)

/-! ## Refusals -/

/-- A network takes the container. -/
def Takes (program id network : String) (e : ProcessExchange) : Prop :=
  ∃ answer, e = ran (networkConnect program network id) answer ∧ Accepted answer

/-- One of the networks refuses the container.  Those before it take it, and those
after it are not asked. -/
def Refused (program id : String) (networks : List String) (p : ProcessHistory)
    (e : RuntimeError) : Prop :=
  ∃ before network after taken refusal, networks = before ++ network :: after ∧
    p = taken ++ [ran (networkConnect program network id) refusal] ∧
    List.Forall₂ (Takes program id) before taken ∧ ¬ Accepted refusal ∧
    e = failure (networkConnect program network id) refusal

theorem linked_error_iff {networks : List String} :
    Linked program id networks p (.error e) ↔ Refused program id networks p e := by
  constructor
  · intro h
    generalize hr : Except.error e = r at h
    induction h with
    | all => cases hr
    | @next network _ answer _ _ haccepted _ ih =>
        obtain ⟨before, refusing, after, taken, refusal, rfl, rfl, hbefore, hrefusal⟩ := ih hr
        exact ⟨network :: before, refusing, after, _ :: taken, refusal, rfl, rfl,
          .cons ⟨answer, rfl, haccepted⟩ hbefore, hrefusal⟩
    | refused hnot =>
        exact ⟨[], _, _, [], _, rfl, rfl, .nil, hnot, Except.error.inj hr⟩
  · rintro ⟨before, network, after, taken, refusal, rfl, rfl, hbefore, hnot, rfl⟩
    induction hbefore with
    | nil => exact .refused hnot
    | cons htakes _ ih =>
        obtain ⟨answer, rfl, haccepted⟩ := htakes
        exact .next haccepted ih

/-! ## What a start does to containers -/

theorem Linked.events_eq {networks : List String} {r : Except RuntimeError Unit}
    (h : Linked program id networks p r) : events p = [] := by
  induction h with
  | all => rfl
  | next _ _ ih => exact ih
  | refused _ => rfl

/-- A run leaves a container behind if it prints an id, as no connect is a stop. -/
theorem leftBehind_run_iff {kind name : String} {named : Except RuntimeError String}
    (hnamed : Identified (run program spec) kind name answer named)
    (hconnects : events connects = []) :
    LeftBehind id (ran (run program spec) answer :: connects) ↔ named = .ok id := by
  have hprinted : printedId? answer = named.toOption := by
    rw [identified_iff.1 hnamed]
    exact printedId?_eq _ kind name answer
  have hevents : events (ran (run program spec) answer :: connects) =
      (named.toOption.map (ContainerEvent.start spec.name)).toList :=
    calc events ([ran (run program spec) answer] ++ connects)
        = events [ran (run program spec) answer] ++ events connects := List.filterMap_append
      _ = (named.toOption.map (ContainerEvent.start spec.name)).toList := by
        rw [hconnects, List.append_nil, ← hprinted]
        exact events_singleton _ _
  rw [LeftBehind, hevents]
  cases named with
  | error e => exact iff_of_false (fun h => List.not_mem_nil h.1) nofun
  | ok id' =>
      constructor
      · rintro ⟨hmem, -⟩
        exact congrArg _ (List.mem_singleton.1 hmem).symm
      · rintro ⟨⟩
        exact ⟨List.mem_singleton.2 rfl, List.not_mem_nil⟩

/-- A start that ends in an error leaves a container behind just when it has run one
and a network has refused it. -/
theorem failed_start_leaves_container_iff (program : String) (spec : ContainerSpec) (id : String)
    (p : ProcessHistory) (e : RuntimeError) :
    (start program spec).Yields p (.error e) ∧ LeftBehind id p ↔
      ∃ answer connects, p = ran (run program spec) answer :: connects ∧
        Succeeded answer ∧ IsFirstLine (printed answer) id ∧
        Refused program id spec.linkedNetworks connects e := by
  constructor
  · rintro ⟨hy, hleft⟩
    obtain ⟨answer, connects, named, rfl, hnamed, herror, hok⟩ := yields_start_iff.1 hy
    have hconnects : events connects = [] := by
      cases named with
      | error e' => rw [(herror e' rfl).1]; rfl
      | ok id' =>
          obtain ⟨linked, hlinked, -⟩ := hok id' rfl
          exact hlinked.events_eq
    have hid := (leftBehind_run_iff hnamed hconnects).1 hleft
    obtain ⟨hs, hfirst⟩ := (hnamed.ok_iff id).1 hid
    obtain ⟨linked, hlinked, hr⟩ := hok id hid
    cases linked with
    | ok _ => cases hr
    | error e' =>
        cases hr
        exact ⟨answer, connects, rfl, hs, hfirst, linked_error_iff.1 hlinked⟩
  · rintro ⟨answer, connects, rfl, hs, hfirst, hrefused⟩
    have hlinked := linked_error_iff.2 hrefused
    have hnamed := identified (run program spec) "container" spec.name answer
    have hid := (hnamed.ok_iff id).2 ⟨hs, hfirst⟩
    rw [hid] at hnamed
    refine ⟨yields_start_iff.2 ⟨answer, connects, .ok id, rfl, hnamed, fun _ => nofun, ?_⟩,
      (leftBehind_run_iff hnamed hlinked.events_eq).2 rfl⟩
    rintro _ ⟨⟩
    exact ⟨_, hlinked, rfl⟩

/-! A container with one linked network.  It is run, and the network is not there. -/

namespace Refusal

def linked : ContainerSpec :=
  { name := "a", image := "i", network := "n1", linkedNetworks := ["n2"],
    env := .empty, log := ⟨"50m", 10⟩, limits := ⟨none, none⟩ }

def rehearsal : RehearsedProcesses :=
  ⟨["docker"], [⟨some 0, "c1\n".toUTF8.toList, []⟩, ⟨some 1, [], "no such network".toUTF8.toList⟩], []⟩

end Refusal

/-- Not every start that fails stops what it has started. -/
theorem refused_network_leaves_container :
    ¬ ∀ (program : String) (spec : ContainerSpec) (p : ProcessHistory) (e : RuntimeError),
      (start program spec).Yields p (.error e) →
        ∀ id ∈ startedIds (events p), id ∈ stopIds (events p) := by
  intro h
  have hy := Dialogue.yields_run RehearsedProcesses.respond (start "docker" Refusal.linked)
    Refusal.rehearsal
  have hr : ((start "docker" Refusal.linked).run RehearsedProcesses.respond Refusal.rehearsal).1 =
    .error (.commandFailed "docker network connect n2 c1" (some 1) "no such network") := by
    decide +kernel
  have hs := h _ _ _ _ (hr ▸ hy) "c1" (by decide +kernel)
  exact absurd hs (by decide +kernel)

end NodeKeeper.Docker
