/-
# The agents of a batch do not depend on each other

An agent looks at the table in one place, under its own name, and writes there
or nowhere.  So where the names of a batch are distinct, the part that an agent
has in the request is one that it could have on the table the request began with
(`RunsAgents.parts`); this holds for any engine.

An engine whose answers depend on the calls alone (`AnsweredBy`) leaves one thing
open, the time of day.  It is asked for last, for the record.  Two dialogues
*match* when they ask the same whatever the time (`FleetDialogue.Matches`), and
what two matching dialogues ask of one engine is the same
(`FleetDialogue.Matches.agree`).

    any engine      a part of a request is a part on the first table
    one engine      two parts of the same agent on the same table are the same

Together: the order of the batch makes no difference, and neither does what else
is in it (`batch_independent`).
-/
import NodeKeeper.Proofs.Dictionaries
import NodeKeeper.Proofs.Fleet.RunRequests

namespace NodeKeeper

open FleetExchange FleetHistory

/-! ## Records without their times -/

/-- What is recorded, except when the container was started. -/
def ContainerRecord.timeless (r : ContainerRecord) : Handle × Role × Option String :=
  (r.handle, r.role, r.network)

theorem ContainerRecord.name_of_timeless {r r' : ContainerRecord} (h : r.timeless = r'.timeless) :
    r.name = r'.name :=
  congrArg Handle.name (congrArg Prod.fst h)

namespace FleetTable

variable {t t' : FleetTable}

/-- What is recorded under a name, except when it was started. -/
def timeless? (t : FleetTable) (name : String) : Option (Handle × Role × Option String) :=
  (t.get? name).map ContainerRecord.timeless

theorem get?_insert_self {r : ContainerRecord} (h : t.get? r.name = none) :
    (t.insert r).2.get? r.name = some r :=
  mem_snapshot_iff.1 ((mem_snapshot_insert h).2 (.inl rfl))

theorem timeless?_insert {r r' : ContainerRecord} (h : r.timeless = r'.timeless) (name : String) :
    (t.insert r).2.timeless? name = (t.insert r').2.timeless? name := by
  have hname : r.name = r'.name := ContainerRecord.name_of_timeless h
  unfold insert
  rw [hname]
  cases t.contains r'.name with
  | true => rfl
  | false =>
      show ((t.put r).get? name).map _ = ((t.put r').get? name).map _
      rw [get?_put, get?_put, hname]
      split
      · exact congrArg some h
      · rfl

theorem snapshot_timeless (h : ∀ name, t.timeless? name = t'.timeless? name) :
    t.snapshot.map ContainerRecord.timeless = t'.snapshot.map ContainerRecord.timeless := by
  have hall : t.records.mapEntries (fun _ r => r.timeless) =
      t'.records.mapEntries fun _ r => r.timeless := by
    refine Dictionary.ext_get? fun name => ?_
    rw [Dictionary.get?_mapEntries, Dictionary.get?_mapEntries]
    exact h name
  have hentries : (t.records.entries.map fun e => (e.1, e.2.timeless)).map Prod.snd =
      (t'.records.entries.map fun e => (e.1, e.2.timeless)).map Prod.snd :=
    congrArg (fun d => d.entries.map Prod.snd) hall
  rw [List.map_map, List.map_map] at hentries
  rw [snapshot, snapshot, List.map_map, List.map_map]
  exact hentries

end FleetTable

/-! ## Engines whose answers depend on the calls -/

/-- Every call has been answered by this engine. -/
def AnsweredBy (engine : (c : RuntimeCall) → c.Answer) (h : FleetHistory) : Prop :=
  ∀ c answer, answered c answer ∈ h → answer = engine c

/-- What the engine starts has the name that was asked for. -/
def NamesAsAsked (engine : (c : RuntimeCall) → c.Answer) : Prop :=
  ∀ spec handle, engine (.start spec) = .ok handle → handle.name = spec.name

variable {engine : (c : RuntimeCall) → c.Answer} {h h' : FleetHistory}

namespace AnsweredBy

theorem left (hh : AnsweredBy engine (h ++ h')) : AnsweredBy engine h :=
  fun c answer hm => hh c answer (List.mem_append_left _ hm)

theorem right (hh : AnsweredBy engine (h ++ h')) : AnsweredBy engine h' :=
  fun c answer hm => hh c answer (List.mem_append_right _ hm)

theorem namesKept (hh : AnsweredBy engine h) (hnames : NamesAsAsked engine) : NamesKept h := by
  rintro ⟨r, answer⟩ he
  match r, answer with
  | .runtime (.start spec), .ok handle => exact hnames spec handle (hh _ _ he).symm
  | .runtime (.start _), .error _ => trivial
  | .runtime (.hasImage _), _ => trivial
  | .runtime (.pullImage _), _ => trivial
  | .runtime (.createNetwork _), _ => trivial
  | .runtime (.attach _ _), _ => trivial
  | .runtime (.stop _), _ => trivial
  | .publish _ _, _ => trivial
  | .setCount _, _ => trivial
  | .now, _ => trivial

/-- Only the time of day can be answered in two ways. -/
theorem answer_eq {r : FleetRequest} {answer answer' : r.Answer} (hr : r ≠ .now)
    (hh : AnsweredBy engine (⟨r, answer⟩ :: h)) (hh' : AnsweredBy engine (⟨r, answer'⟩ :: h')) :
    answer = answer' := by
  cases r with
  | runtime c =>
      exact (hh c answer List.mem_cons_self).trans (hh' c answer' List.mem_cons_self).symm
  | publish _ _ => rfl
  | setCount _ => rfl
  | now => exact absurd rfl hr

end AnsweredBy

/-- Surroundings with this engine, in which no time passes. -/
def standstill (engine : (c : RuntimeCall) → c.Answer) :
    (r : FleetRequest) → Unit → r.Answer × Unit
  | .runtime c, _ => (engine c, ())
  | .publish _ _, _ => ((), ())
  | .setCount _, _ => ((), ())
  | .now, _ => ((⟨0, 0⟩ : Timestamp), ())

theorem answeredBy_standstill {α : Type} (d : FleetDialogue α) :
    AnsweredBy engine (d.history (standstill engine) ()) := by
  induction d with
  | done _ => exact fun _ _ hm => absurd hm List.not_mem_nil
  | ask r next ih =>
      intro c answer hm
      rcases List.mem_cons.1 hm with heq | hm
      · cases r with
        | runtime c' => cases heq; rfl
        | publish _ _ => cases heq
        | setCount _ => cases heq
        | now => cases heq
      · exact ih _ c answer hm

/-! ## Dialogues that ask the same whatever the time -/

namespace FleetDialogue

variable {α β γ δ : Type} {R : α → β → Prop} {S : γ → δ → Prop}

/-- The dialogues ask the same while they are answered the same, however they are
told the time, and end in values that `R` relates. -/
inductive Matches (R : α → β → Prop) : FleetDialogue α → FleetDialogue β → Prop
  | done {a : α} {b : β} : R a b → Matches R (.done a) (.done b)
  | ask {r : FleetRequest} {next : r.Answer → FleetDialogue α} {next' : r.Answer → FleetDialogue β} :
      r ≠ .now → (∀ answer, Matches R (next answer) (next' answer)) →
      Matches R (.ask r next) (.ask r next')
  | now {next : Timestamp → FleetDialogue α} {next' : Timestamp → FleetDialogue β} :
      (∀ time time', Matches R (next time) (next' time')) →
      Matches R (.ask .now next) (.ask .now next')

theorem Matches.bind {d : FleetDialogue α} {d' : FleetDialogue β} {f : α → FleetDialogue γ}
    {f' : β → FleetDialogue δ} (hm : Matches R d d') (hf : ∀ a b, R a b → Matches S (f a) (f' b)) :
    Matches S (d >>= f) (d' >>= f') := by
  induction hm with
  | done hR => exact hf _ _ hR
  | ask hr _ ih => exact .ask hr ih
  | now _ ih => exact .now ih

/-- What comes after a dialogue that ends in one value for each run of answers. -/
theorem Matches.bind_eq {d d' : FleetDialogue α} {f : α → FleetDialogue γ}
    {f' : α → FleetDialogue δ} (hm : Matches Eq d d') (hf : ∀ a, Matches S (f a) (f' a)) :
    Matches S (d >>= f) (d' >>= f') :=
  hm.bind fun a _ hab => hab ▸ hf a

theorem matches_call (c : RuntimeCall) : Matches Eq (call c) (call c) :=
  .ask nofun fun _ => .done rfl

theorem matches_publish (subject : String) (batch : List Agent) :
    Matches Eq (publish subject batch) (publish subject batch) :=
  .ask nofun fun _ => .done rfl

theorem matches_now : Matches (fun _ _ => True) now now := .now fun _ _ => .done trivial

theorem Matches.agree {d : FleetDialogue α} {d' : FleetDialogue β} {a : α} {b : β}
    (hm : Matches R d d') (hy : d.Yields h a) (hy' : d'.Yields h' b)
    (hh : AnsweredBy engine h) (hh' : AnsweredBy engine h') :
    calls h = calls h' ∧ publications h = publications h' ∧ R a b := by
  induction hm generalizing h h' with
  | done hR =>
      obtain ⟨rfl, rfl⟩ := Dialogue.yields_done.1 hy
      obtain ⟨rfl, rfl⟩ := Dialogue.yields_done.1 hy'
      exact ⟨rfl, rfl, hR⟩
  | @ask r next next' hr _ ih =>
      obtain ⟨answer, rest, rfl, hnext⟩ := Dialogue.yields_ask.1 hy
      obtain ⟨answer', rest', rfl, hnext'⟩ := Dialogue.yields_ask.1 hy'
      obtain rfl := hh.answer_eq hr hh'
      rw [← List.singleton_append] at hh hh'
      obtain ⟨hcalls, hpub, hR⟩ := ih answer hnext hnext' hh.right hh'.right
      rw [← List.singleton_append, ← List.singleton_append (l := rest'), calls_append, calls_append,
        publications_append, publications_append, hcalls, hpub]
      exact ⟨rfl, rfl, hR⟩
  | now _ ih =>
      obtain ⟨time, rest, rfl, hnext⟩ := Dialogue.yields_ask.1 hy
      obtain ⟨time', rest', rfl, hnext'⟩ := Dialogue.yields_ask.1 hy'
      rw [← List.singleton_append] at hh hh'
      -- the time is neither a call nor a publication
      obtain ⟨hcalls, hpub, hR⟩ := ih time time' hnext hnext' hh.right hh'.right
      exact ⟨hcalls, hpub, hR⟩

end FleetDialogue

open FleetDialogue

namespace Supervisor

variable {s : Supervisor} {table table₀ table₁ table₂ : FleetTable} {agent : Agent}
  {batch batch' : List Agent}

/-! ## One agent, twice -/

theorem matches_ensureImage (label image : String) (pull : Bool) :
    Matches Eq (ensureImage label image pull) (ensureImage label image pull) := by
  refine (matches_call _).bind_eq fun found => ?_
  match found with
  | .error _ => exact .done rfl
  | .ok true => exact .done rfl
  | .ok false =>
      cases pull with
      | false => exact .done rfl
      | true =>
          refine (matches_call _).bind_eq fun pulled => ?_
          match pulled with
          | .error _ => exact .done rfl
          | .ok () => exact .done rfl

theorem matches_attachAll (network : String) (containers : List Handle) :
    Matches Eq (attachAll network containers) (attachAll network containers) := by
  induction containers with
  | nil => exact .done rfl
  | cons c rest ih =>
      refine (matches_call _).bind_eq fun attached => ?_
      match attached with
      | .error _ => exact .done rfl
      | .ok _ => exact ih

/-- An agent is started in the same way each time, and recorded the same but for
the time. -/
theorem matches_startAgent (s : Supervisor) (agent : Agent) :
    Matches (fun r r' => r.map ContainerRecord.timeless = r'.map ContainerRecord.timeless)
      (s.startAgent agent) (s.startAgent agent) := by
  refine (matches_ensureImage _ _ _).bind_eq fun image => ?_
  match image with
  | .error _ => exact .done rfl
  | .ok () =>
    refine (matches_call _).bind_eq fun network => ?_
    match network with
    | .error _ => exact .done rfl
    | .ok network =>
      refine (matches_call _).bind_eq fun start => ?_
      match start with
      | .error _ => exact .done rfl
      | .ok handle =>
        refine (matches_attachAll _ _).bind_eq fun links => ?_
        match links with
        | .error _ => exact (matches_call _).bind_eq fun _ => .done rfl
        | .ok () => exact matches_now.bind fun _ _ _ => .done rfl

theorem matches_runAgent (s : Supervisor) (table : FleetTable) (agent : Agent) :
    Matches (fun t t' => ∀ name, t.timeless? name = t'.timeless? name)
      (s.runAgent table agent) (s.runAgent table agent) := by
  unfold runAgent
  split
  · exact (matches_publish _ _).bind_eq fun _ => .done fun _ => rfl
  · refine (matches_startAgent s agent).bind fun r r' hrr => ?_
    match r, r', hrr with
    | .error _, .error _, _ => exact .done fun _ => rfl
    | .ok record, .ok record', hrr =>
      have hrecord : record.timeless = record'.timeless := Except.ok.inj hrr
      exact (matches_publish _ _).bind_eq fun _ => .done (FleetTable.timeless?_insert hrecord)

theorem RunsAgent.agree (hr : RunsAgent s table agent h table₁)
    (hr' : RunsAgent s table agent h' table₂) (hh : AnsweredBy engine h)
    (hh' : AnsweredBy engine h') :
    calls h = calls h' ∧ publications h = publications h' ∧
      ∀ name, table₁.timeless? name = table₂.timeless? name :=
  (matches_runAgent s table agent).agree (yields_runAgent.2 hr) (yields_runAgent.2 hr') hh hh'

/-! ## The parts of a request -/

/-- An agent's part on one table is a part on any table that agrees with it about
the agent. -/
theorem RunsAgent.elsewhere (hr : RunsAgent s table agent h table₁) (hkept : NamesKept h)
    (hget : table.get? agent.containerName = table₀.get? agent.containerName) :
    ∃ table₂, RunsAgent s table₀ agent h table₂ ∧
      table₁.get? agent.containerName = table₂.get? agent.containerName := by
  have hcontains : table.contains agent.containerName = table₀.contains agent.containerName :=
    congrArg Option.isSome hget
  cases hr with
  | running hc => exact ⟨table₀, .running (hcontains ▸ hc), hget⟩
  | failed hc hs => exact ⟨table₀, .failed (hcontains ▸ hc) hs, hget⟩
  | @started h record hc hs =>
      have hname := hs.name_of_kept hkept.left
      have hfree := FleetTable.contains_eq_false_iff.1 hc
      refine ⟨_, .started (hcontains ▸ hc) hs, ?_⟩
      rw [← hname] at hfree hget ⊢
      rw [FleetTable.get?_insert_self hfree, FleetTable.get?_insert_self (hget ▸ hfree)]

/-- An agent's part on a table, as seen from the table that the request leaves. -/
def HasPart (s : Supervisor) (table table' : FleetTable) (agent : Agent) (part : FleetHistory) :
    Prop :=
  ∃ table₁, RunsAgent s table agent part table₁ ∧
    table'.get? agent.containerName = table₁.get? agent.containerName

/-- Where names are distinct, a request is made of parts that its agents have on
one table: the part before changes other names. -/
theorem RunsAgents.parts (hr : RunsAgents s table batch h table₁) (hkept : NamesKept h)
    (hdistinct : (batch.map (·.containerName)).Nodup)
    (hget : ∀ agent ∈ batch, table.get? agent.containerName = table₀.get? agent.containerName) :
    ∃ parts : List FleetHistory, h = parts.flatten ∧
      List.Forall₂ (HasPart s table₀ table₁) batch parts := by
  induction hr with
  | nil _ => exact ⟨[], rfl, .nil⟩
  | @cons table table' table'' agent rest h h' hone hrest ih =>
      obtain ⟨hnew, hdistinct⟩ := List.nodup_cons.1 hdistinct
      obtain ⟨hagent, hget⟩ := List.forall_mem_cons.1 hget
      have hother : ∀ agent' ∈ rest, agent'.containerName ≠ agent.containerName := by
        intro agent' hm heq
        exact hnew (List.mem_map.2 ⟨agent', hm, heq⟩)
      have hsingle : RunsAgents s table [agent] (h ++ []) table' := .cons hone (.nil _)
      have hframe : ∀ agent' ∈ rest,
          table'.get? agent'.containerName = table₀.get? agent'.containerName := by
        intro agent' hm
        rw [← hget agent' hm]
        refine hsingle.get?_eq ((List.append_nil h).symm ▸ hkept.left) fun a ha => ?_
        rw [List.mem_singleton.1 ha]
        exact (hother agent' hm).symm
      obtain ⟨parts, rfl, hparts⟩ := ih hkept.right hdistinct hframe
      obtain ⟨table₂, hpart, hafter⟩ := hone.elsewhere hkept.left hagent
      refine ⟨h :: parts, rfl, .cons ⟨table₂, hpart, ?_⟩ hparts⟩
      rw [← hafter]
      exact hrest.get?_eq hkept.right hother

theorem RunsAgents.answeredParts (hr : RunsAgents s table batch h table₁) (hh : AnsweredBy engine h)
    (hnames : NamesAsAsked engine) (hdistinct : (batch.map (·.containerName)).Nodup) :
    ∃ parts : List FleetHistory, h = parts.flatten ∧
      List.Forall₂ (fun agent part => AnsweredBy engine part ∧ HasPart s table table₁ agent part)
        batch parts := by
  obtain ⟨parts, rfl, hparts⟩ := hr.parts (hh.namesKept hnames) hdistinct fun _ _ => rfl
  have hanswered : ∀ part ∈ parts, AnsweredBy engine part :=
    fun part hpart c answer hm => hh c answer (List.mem_flatten.2 ⟨part, hpart, hm⟩)
  exact ⟨parts, rfl, ((List.forall₂_and_left parts batch).2 ⟨hanswered, hparts.flip⟩).flip⟩

/-! ## What an agent does when it is alone -/

/-- What an agent's part on a table asks of the engine. -/
def soleCalls (s : Supervisor) (engine : (c : RuntimeCall) → c.Answer) (table : FleetTable)
    (agent : Agent) : List RuntimeCall :=
  calls ((s.runAgent table agent).history (standstill engine) ())

/-- What an agent's part on a table publishes. -/
def solePublications (s : Supervisor) (engine : (c : RuntimeCall) → c.Answer) (table : FleetTable)
    (agent : Agent) : List (String × List Agent) :=
  publications ((s.runAgent table agent).history (standstill engine) ())

/-- What an agent's part on a table leaves under the agent's name. -/
def soleRecord? (s : Supervisor) (engine : (c : RuntimeCall) → c.Answer) (table : FleetTable)
    (agent : Agent) : Option (Handle × Role × Option String) :=
  ((s.runAgent table agent).run (standstill engine) ()).1.timeless? agent.containerName

theorem HasPart.agree {part alone : FleetHistory} (hp : HasPart s table table₁ agent part)
    (hh : AnsweredBy engine part) (hr : RunsAgent s table agent alone table₂)
    (hh' : AnsweredBy engine alone) :
    calls part = calls alone ∧ publications part = publications alone ∧
      table₁.timeless? agent.containerName = table₂.timeless? agent.containerName := by
  obtain ⟨table₃, hpart, hget⟩ := hp
  obtain ⟨hcalls, hpub, htable⟩ := hpart.agree hr hh hh'
  refine ⟨hcalls, hpub, ?_⟩
  rw [FleetTable.timeless?, hget]
  exact htable agent.containerName

/-- A request asks and publishes what its agents would by themselves, and leaves
the records that they would. -/
theorem RunsAgents.sole (hr : RunsAgents s table batch h table₁) (hh : AnsweredBy engine h)
    (hnames : NamesAsAsked engine) (hdistinct : (batch.map (·.containerName)).Nodup) :
    calls h = batch.flatMap (s.soleCalls engine table) ∧
    publications h = batch.flatMap (s.solePublications engine table) ∧
    ∀ agent ∈ batch, table₁.timeless? agent.containerName = s.soleRecord? engine table agent := by
  obtain ⟨parts, rfl, hparts⟩ := hr.answeredParts hh hnames hdistinct
  clear hr hh hdistinct
  induction hparts with
  | nil => exact ⟨rfl, rfl, fun _ hm => absurd hm List.not_mem_nil⟩
  | @cons agent part batch parts hp _ ih =>
      have hsole :=
        yields_runAgent.1 (Dialogue.yields_run (standstill engine) (s.runAgent table agent) ())
      obtain ⟨hcalls, hpub, hrecord⟩ := hp.2.agree hp.1 hsole (answeredBy_standstill _)
      obtain ⟨hcalls', hpub', hrecord'⟩ := ih
      rw [List.flatten_cons, calls_append, publications_append, hcalls, hpub, hcalls', hpub']
      exact ⟨rfl, rfl, List.forall_mem_cons.2 ⟨hrecord, hrecord'⟩⟩

theorem RunsAgents.timeless?_eq_of_perm (hr : RunsAgents s table batch h table₁)
    (hr' : RunsAgents s table batch' h' table₂) (hh : AnsweredBy engine h)
    (hh' : AnsweredBy engine h') (hnames : NamesAsAsked engine)
    (hdistinct : (batch.map (·.containerName)).Nodup) (hperm : batch.Perm batch') (name : String) :
    table₁.timeless? name = table₂.timeless? name := by
  by_cases hname : ∃ agent ∈ batch, agent.containerName = name
  · obtain ⟨agent, hm, rfl⟩ := hname
    have hdistinct' := (hperm.map (·.containerName)).nodup_iff.1 hdistinct
    rw [(hr.sole hh hnames hdistinct).2.2 agent hm,
      (hr'.sole hh' hnames hdistinct').2.2 agent (hperm.mem_iff.1 hm)]
  · have hnot : ∀ agent ∈ batch, agent.containerName ≠ name := fun agent hm heq => hname ⟨agent, hm, heq⟩
    have hnot' : ∀ agent ∈ batch', agent.containerName ≠ name :=
      fun agent hm => hnot agent (hperm.mem_iff.2 hm)
    unfold FleetTable.timeless?
    rw [hr.get?_eq (hh.namesKept hnames) hnot, hr'.get?_eq (hh'.namesKept hnames) hnot']

end Supervisor

/-! ## Requests -/

/-- **The agents of a batch are independent.**  Take any table, a batch with
distinct container names, and an engine whose answers depend on the calls alone
and which gives the names that are asked for.  Then a request succeeds whatever
the engine refuses.  In another order the agents leave the same records but for
the times, and the calls and the publications are the same in another order.
And the request is made of one part for each agent, in order: the calls, the
publications and the record of a part are those of a request for this agent
alone. -/
theorem batch_independent {s : Supervisor} {engine : (c : RuntimeCall) → c.Answer}
    {table table₁ table₂ : FleetTable} {batch batch' : List Agent} {h h' : FleetHistory}
    {answer answer' : SupervisorAnswer} (hnames : NamesAsAsked engine)
    (hdistinct : (batch.map (·.containerName)).Nodup) (hperm : batch.Perm batch')
    (hrun : (s.serve (.run batch) table).Yields h (answer, table₁)) (hh : AnsweredBy engine h)
    (hrun' : (s.serve (.run batch') table).Yields h' (answer', table₂))
    (hh' : AnsweredBy engine h') :
    answer = .done (.ok ()) ∧ answer' = .done (.ok ()) ∧
    table₁.snapshot.map ContainerRecord.timeless = table₂.snapshot.map ContainerRecord.timeless ∧
    (calls h).Perm (calls h') ∧ (publications h).Perm (publications h') ∧
    ∃ parts : List FleetHistory, h = parts.flatten ++ [counted table₁.size] ∧
      List.Forall₂ (fun agent part => ∀ alone answer₀ table₀,
        (s.serve (.run [agent]) table).Yields alone (answer₀, table₀) → AnsweredBy engine alone →
        calls part = calls alone ∧ publications part = publications alone ∧
        table₁.timeless? agent.containerName = table₀.timeless? agent.containerName)
        batch parts := by
  cases Supervisor.yields_serve.1 hrun with
  | @run _ h _ hr =>
  cases Supervisor.yields_serve.1 hrun' with
  | @run _ h' _ hr' =>
    have hdistinct' := (hperm.map (·.containerName)).nodup_iff.1 hdistinct
    obtain ⟨hcalls, hpub, -⟩ := hr.sole hh.left hnames hdistinct
    obtain ⟨hcalls', hpub', -⟩ := hr'.sole hh'.left hnames hdistinct'
    have hquiet (h : FleetHistory) (n : Nat) :
        calls (h ++ [counted n]) = calls h ∧ publications (h ++ [counted n]) = publications h := by
      rw [calls_append, publications_append]
      exact ⟨List.append_nil _, List.append_nil _⟩
    refine ⟨rfl, rfl, ?_, ?_, ?_, ?_⟩
    · exact FleetTable.snapshot_timeless
        (hr.timeless?_eq_of_perm hr' hh.left hh'.left hnames hdistinct hperm)
    · rw [(hquiet h _).1, (hquiet h' _).1, hcalls, hcalls']
      exact hperm.flatMap_right _
    · rw [(hquiet h _).2, (hquiet h' _).2, hpub, hpub']
      exact hperm.flatMap_right _
    · obtain ⟨parts, rfl, hparts⟩ := hr.answeredParts hh.left hnames hdistinct
      refine ⟨parts, rfl, hparts.imp fun agent part hp alone answer₀ table₀ halone hha => ?_⟩
      cases Supervisor.yields_serve.1 halone with
      | @run _ alone _ hone =>
        rw [(hquiet alone _).1, (hquiet alone _).2]
        cases hone with
        | cons hone hnil =>
          cases hnil
          rw [List.append_nil] at hha ⊢
          exact hp.2.agree hp.1 hone hha.left

/-! ## A batch in which two agents fail

The image of the first agent cannot be found, and the second cannot be attached
and is stopped again. -/

namespace FailingRun

/-- An engine without the first agent's image that attaches nothing to the second
agent's network. -/
def refusing : (c : RuntimeCall) → c.Answer
  | .hasImage image =>
    if image = AbortedStop.first.image then .error (.other "no such host") else .ok true
  | .pullImage _ => .ok ()
  | .createNetwork name => .ok name
  | .start spec => .ok (⟨"id of " ++ spec.name, spec.name, spec.image⟩ : Handle)
  | .attach _ network =>
    if network = AbortedStop.second.containerName then .error (.other "no such network")
    else .ok Attachment.attached
  | .stop _ => .ok ()

theorem namesAsAsked : NamesAsAsked refusing := by
  intro spec handle hstart
  cases hstart
  rfl

def third : Agent := ⟨"c", "c:1"⟩

def batch : List Agent := [AbortedStop.first, AbortedStop.second, third]

def served (batch : List Agent) : ServedCall × FleetTable × Unit :=
  AbortedStop.supervisor.serveIn (standstill refusing) (.run batch) AbortedStop.firstTable ()

end FailingRun

theorem batch_independent_failing :
    (FailingRun.served FailingRun.batch).2.1.snapshot.map ContainerRecord.timeless =
      (FailingRun.served FailingRun.batch.reverse).2.1.snapshot.map ContainerRecord.timeless ∧
    (calls (FailingRun.served FailingRun.batch).1.history).Perm
      (calls (FailingRun.served FailingRun.batch.reverse).1.history) ∧
    (publications (FailingRun.served FailingRun.batch).1.history).Perm
      [(Subject.agentsRunning, [FailingRun.third])] := by
  obtain ⟨-, -, hrecords, hcalls, hpub, -⟩ :=
    batch_independent FailingRun.namesAsAsked (by decide +kernel)
      (List.reverse_perm FailingRun.batch).symm
      (Dialogue.yields_run (standstill FailingRun.refusing)
        (AbortedStop.supervisor.serve (.run FailingRun.batch) AbortedStop.firstTable) ())
      (answeredBy_standstill _)
      (Dialogue.yields_run (standstill FailingRun.refusing)
        (AbortedStop.supervisor.serve (.run FailingRun.batch.reverse) AbortedStop.firstTable) ())
      (answeredBy_standstill _)
  refine ⟨hrecords, hcalls, hpub.trans ?_⟩
  decide +kernel

end NodeKeeper
