/-
# What is made of the engine's processes

The engine is asked by processes of its program, and what they leave behind is an
exit code and two texts.  From these comes every answer:

    request           processes                          success
    has an image      image inspect                      exit 0, or `no such image`
    pull an image     pull                               exit 0
    make a network    network create, and if it says     exit 0 of the last, which
                      `already exists`, inspect          prints an id
    start             run, and a connect for each        exit 0 of the run, which prints
                      linked network up to the first     an id, and no connect that is
                      that is refused                    refused
    attach            network connect                    exit 0, or `already exists in network`
    stop              stop                               exit 0

Everything else is an error that tells the command, its exit code and what it
complained of, or that an id was expected and only blanks were printed
(`answers_tell_outcomes`).  A phrase is recognized whatever the case of its
letters, and an id is the first line of the output that is not blank.
-/
import NodeKeeper.Proofs.Docker.Processes
import NodeKeeper.Proofs.Text.Lines

namespace NodeKeeper.Docker

open Text

variable {α : Type} {c : Command} {answer : Except String ProcessEnd} {id : String}

/-! ## What a process leaves behind -/

/-- The process has ended with exit code zero. -/
def Succeeded (answer : Except String ProcessEnd) : Prop := ∃ e, answer = .ok e ∧ e.code = some 0

/-- The process has ended otherwise, and its complaint has the phrase in it. -/
def FailedSaying (phrase : String) (answer : Except String ProcessEnd) : Prop :=
  ∃ e, answer = .ok e ∧ e.code ≠ some 0 ∧ Mentions phrase (lossy e.stderr)

/-- What the process has printed. -/
def printed : Except String ProcessEnd → String
  | .ok e => lossy e.stdout
  | .error _ => ""

/-- The error of a command whose process has failed, or could not be started. -/
def failure (c : Command) : Except String ProcessEnd → RuntimeError
  | .ok e => .commandFailed c.text e.code (trim (lossy e.stderr))
  | .error reason => .spawn c.program reason

/-- A process that was asked for, with its end. -/
def ran (c : Command) (answer : Except String ProcessEnd) : ProcessExchange := ⟨⟨c⟩, answer⟩

theorem success_ofEnd_iff {e : ProcessEnd} : (CommandOutput.ofEnd e).success = true ↔ e.code = some 0 :=
  beq_iff_eq

theorem succeeded_ok_iff {e : ProcessEnd} :
    Succeeded (.ok e) ↔ (CommandOutput.ofEnd e).success = true := by
  rw [success_ofEnd_iff]
  constructor
  · rintro ⟨_, ⟨⟩, hcode⟩
    exact hcode
  · intro hcode
    exact ⟨e, rfl, hcode⟩

theorem failedSaying_ok_iff {phrase : String}
    (hlower : phrase.toList.map lowerChar = phrase.toList) {e : ProcessEnd} :
    FailedSaying phrase (.ok e) ↔
      ¬ (CommandOutput.ofEnd e).success = true ∧ (CommandOutput.ofEnd e).mentions phrase = true := by
  rw [success_ofEnd_iff, CommandOutput.mentions, contains_lower_iff hlower]
  constructor
  · rintro ⟨_, ⟨⟩, hcode, hphrase⟩
    exact ⟨hcode, hphrase⟩
  · rintro ⟨hcode, hphrase⟩
    exact ⟨e, rfl, hcode, hphrase⟩

theorem Succeeded.not_failedSaying {phrase : String} (h : Succeeded answer) :
    ¬ FailedSaying phrase answer := by
  rintro ⟨e, rfl, hcode, -⟩
  obtain ⟨_, ⟨⟩, hzero⟩ := h
  exact hcode hzero

theorem firstLine?_eq (o : CommandOutput) : o.firstLine? = firstLine o.stdout.toList := by
  rw [CommandOutput.firstLine?, lines, List.findSome?_map, Function.comp_def, firstLine]

theorem checked_of_succeeded (h : Succeeded answer) :
    ∃ o, (outcome c answer).bind (·.result c) = .ok o ∧ o.stdout = printed answer := by
  obtain ⟨e, rfl, hcode⟩ := h
  exact ⟨.ofEnd e, if_pos (success_ofEnd_iff.2 hcode), rfl⟩

theorem checked_of_not_succeeded (h : ¬ Succeeded answer) :
    (outcome c answer).bind (·.result c) = .error (failure c answer) := by
  cases answer with
  | error reason => rfl
  | ok e => exact if_neg (mt succeeded_ok_iff.2 h)

/-! ## What is made of one process -/

/-- The command must succeed. -/
structure Checked (c : Command) (answer : Except String ProcessEnd) (r : Except RuntimeError Unit) :
    Prop where
  ok_iff : r = .ok () ↔ Succeeded answer
  error_iff : ∀ e, r = .error e ↔ ¬ Succeeded answer ∧ e = failure c answer

/-- The command succeeds, or it fails in a way that is known by a phrase. -/
structure Recognized (c : Command) (phrase : String) (good known : α)
    (answer : Except String ProcessEnd) (r : Except RuntimeError α) : Prop where
  good_iff : r = .ok good ↔ Succeeded answer
  known_iff : r = .ok known ↔ FailedSaying phrase answer
  error_iff : ∀ e, r = .error e ↔
    ¬ Succeeded answer ∧ ¬ FailedSaying phrase answer ∧ e = failure c answer

/-- The command must succeed and print an id. -/
structure Identified (c : Command) (kind name : String) (answer : Except String ProcessEnd)
    (r : Except RuntimeError String) : Prop where
  ok_iff : ∀ id, r = .ok id ↔ Succeeded answer ∧ IsFirstLine (printed answer) id
  error_iff : ∀ e, r = .error e ↔
    ¬ Succeeded answer ∧ e = failure c answer ∨
    Succeeded answer ∧ (∀ ch ∈ (printed answer).toList, isBlank ch = true) ∧
      e = .invalidOutput ("no " ++ kind ++ " id returned for '" ++ name ++ "'")

theorem checked (c : Command) (answer : Except String ProcessEnd) :
    Checked c answer (((outcome c answer).bind (·.result c)).map fun _ => ()) := by
  by_cases h : Succeeded answer
  · obtain ⟨o, ho, -⟩ := checked_of_succeeded (c := c) h
    rw [ho]
    refine ⟨iff_of_true rfl h, ?_⟩
    intro e
    exact iff_of_false nofun fun hnot => hnot.1 h
  · rw [checked_of_not_succeeded h]
    refine ⟨iff_of_false nofun h, ?_⟩
    intro e
    constructor
    · rintro ⟨⟩
      exact ⟨h, rfl⟩
    · rintro ⟨-, rfl⟩
      rfl

theorem identified (c : Command) (kind name : String) (answer : Except String ProcessEnd) :
    Identified c kind name answer
      (((outcome c answer).bind (·.result c)).bind (idIn kind name)) := by
  by_cases h : Succeeded answer
  case neg =>
    rw [checked_of_not_succeeded h]
    constructor
    · intro id
      exact iff_of_false nofun fun hid => h hid.1
    · intro e
      constructor
      · rintro ⟨⟩
        exact .inl ⟨h, rfl⟩
      · rintro (⟨-, rfl⟩ | ⟨hs, -⟩)
        · rfl
        · exact absurd hs h
  obtain ⟨o, ho, hprinted⟩ := checked_of_succeeded (c := c) h
  have hfirst : firstLine (printed answer).toList = o.firstLine? := by
    rw [firstLine?_eq, hprinted]
  rw [ho]
  show Identified c kind name answer (idIn kind name o)
  unfold idIn
  cases hline : o.firstLine? with
  | some id =>
      have hid := hfirst.trans hline
      constructor
      · intro id'
        rw [← firstLine_eq_some_iff, hid]
        constructor
        · rintro ⟨⟩
          exact ⟨h, rfl⟩
        · rintro ⟨-, ⟨⟩⟩
          rfl
      · intro e
        refine iff_of_false nofun ?_
        rintro (⟨hnot, -⟩ | ⟨-, hblank, -⟩)
        · exact hnot h
        · exact nomatch (firstLine_of_blank hblank).symm.trans hid
  | none =>
      have hnone := hfirst.trans hline
      constructor
      · intro id
        rw [← firstLine_eq_some_iff, hnone]
        exact iff_of_false nofun nofun
      · intro e
        constructor
        · rintro ⟨⟩
          exact .inr ⟨h, firstLine_eq_none_iff.1 hnone, rfl⟩
        · rintro (⟨hnot, -⟩ | ⟨-, -, rfl⟩)
          · exact absurd h hnot
          · rfl

theorem Recognized.of_cases {phrase : String} {good known : α} {r : Except RuntimeError α}
    (hne : good ≠ known)
    (h : Succeeded answer ∧ r = .ok good ∨ FailedSaying phrase answer ∧ r = .ok known ∨
      ¬ Succeeded answer ∧ ¬ FailedSaying phrase answer ∧ r = .error (failure c answer)) :
    Recognized c phrase good known answer r := by
  rcases h with ⟨hs, rfl⟩ | ⟨hknown, rfl⟩ | ⟨hs, hknown, rfl⟩
  · refine ⟨iff_of_true rfl hs, iff_of_false ?_ hs.not_failedSaying, ?_⟩
    · rintro ⟨⟩
      exact hne rfl
    · intro e
      exact iff_of_false nofun fun h => h.1 hs
  · refine ⟨iff_of_false ?_ fun hs => hs.not_failedSaying hknown, iff_of_true rfl hknown, ?_⟩
    · rintro ⟨⟩
      exact hne rfl
    · intro e
      exact iff_of_false nofun fun h => h.2.1 hknown
  · refine ⟨iff_of_false nofun hs, iff_of_false nofun hknown, ?_⟩
    intro e
    constructor
    · rintro ⟨⟩
      exact ⟨hs, hknown, rfl⟩
    · rintro ⟨-, -, rfl⟩
      rfl

theorem recognized {phrase : String} (hlower : phrase.toList.map lowerChar = phrase.toList)
    {good known : α} (hne : good ≠ known) (other : α) (answer : Except String ProcessEnd) :
    Recognized c phrase good known answer (recognize c phrase good known other (outcome c answer)) := by
  refine .of_cases hne ?_
  cases answer with
  | error reason => exact .inr (.inr ⟨nofun, nofun, rfl⟩)
  | ok e =>
      by_cases hs : (CommandOutput.ofEnd e).success = true
      · exact .inl ⟨succeeded_ok_iff.2 hs, if_pos hs⟩
      by_cases hm : (CommandOutput.ofEnd e).mentions phrase = true
      · exact .inr (.inl ⟨(failedSaying_ok_iff hlower).2 ⟨hs, hm⟩, (if_neg hs).trans (if_pos hm)⟩)
      · have hresult : (CommandOutput.ofEnd e).result c = .error (failure c (.ok e)) := if_neg hs
        refine .inr (.inr ⟨mt succeeded_ok_iff.1 hs, ?_, ?_⟩)
        · intro hknown
          exact hm ((failedSaying_ok_iff hlower).1 hknown).2
        · rw [outcome, recognize, if_neg hs, if_neg hm, hresult]
          rfl

theorem checked_iff {r : Except RuntimeError Unit} :
    Checked c answer r ↔ r = ((outcome c answer).bind (·.result c)).map fun _ => () := by
  have h' := checked c answer
  constructor
  case mpr => exact fun hr => hr ▸ h'
  intro h
  by_cases hs : Succeeded answer
  · rw [h.ok_iff.2 hs, h'.ok_iff.2 hs]
  · rw [(h.error_iff _).2 ⟨hs, rfl⟩, (h'.error_iff _).2 ⟨hs, rfl⟩]

theorem recognized_iff {phrase : String} (hlower : phrase.toList.map lowerChar = phrase.toList)
    {good known : α} (hne : good ≠ known) (other : α) {r : Except RuntimeError α} :
    Recognized c phrase good known answer r ↔
      r = recognize c phrase good known other (outcome c answer) := by
  have h' := recognized (c := c) hlower hne other answer
  constructor
  case mpr => exact fun hr => hr ▸ h'
  intro h
  by_cases hs : Succeeded answer
  · rw [h.good_iff.2 hs, h'.good_iff.2 hs]
  by_cases hknown : FailedSaying phrase answer
  · rw [h.known_iff.2 hknown, h'.known_iff.2 hknown]
  · rw [(h.error_iff _).2 ⟨hs, hknown, rfl⟩, (h'.error_iff _).2 ⟨hs, hknown, rfl⟩]

theorem identified_iff {kind name : String} {r : Except RuntimeError String} :
    Identified c kind name answer r ↔
      r = ((outcome c answer).bind (·.result c)).bind (idIn kind name) := by
  have h' := identified c kind name answer
  constructor
  case mpr => exact fun hr => hr ▸ h'
  intro h
  cases r with
  | ok id => exact ((h'.ok_iff id).2 ((h.ok_iff id).1 rfl)).symm
  | error e => exact ((h'.error_iff e).2 ((h.error_iff e).1 rfl)).symm

/-! ## What is made of all processes of a request -/

variable {program : String} {p : ProcessHistory}

/-- The network is attached now, or was already. -/
def Accepted (answer : Except String ProcessEnd) : Prop :=
  Succeeded answer ∨ FailedSaying alreadyInNetwork answer

/-- Networks are connected to a container one after the other, up to the first
that is refused. -/
inductive Linked (program id : String) : List String → ProcessHistory → Except RuntimeError Unit → Prop
  | all : Linked program id [] [] (.ok ())
  | next {network : String} {rest : List String} {answer : Except String ProcessEnd}
      {p : ProcessHistory} {r : Except RuntimeError Unit} :
      Accepted answer → Linked program id rest p r →
      Linked program id (network :: rest) (ran (networkConnect program network id) answer :: p) r
  | refused {network : String} {rest : List String} {answer : Except String ProcessEnd} :
      ¬ Accepted answer →
      Linked program id (network :: rest) [ran (networkConnect program network id) answer]
        (.error (failure (networkConnect program network id) answer))

/-- A network is made, or looked up where there is one of that name. -/
def Resolved (program name : String) (created : Except String ProcessEnd) (p : ProcessHistory)
    (r : Except RuntimeError String) : Prop :=
  (FailedSaying "already exists" created → ∃ found,
    p = [ran (networkCreate program name) created, ran (networkInspect program name) found] ∧
    Identified (networkInspect program name) "network" name found r) ∧
  (¬ FailedSaying "already exists" created →
    p = [ran (networkCreate program name) created] ∧
    Identified (networkCreate program name) "network" name created r)

/-- A container is run, and if that gives an id, its linked networks are
connected. -/
def Started (program : String) (spec : ContainerSpec) (p : ProcessHistory)
    (r : Except RuntimeError Handle) : Prop :=
  ∃ answer connects named, p = ran (run program spec) answer :: connects ∧
    Identified (run program spec) "container" spec.name answer named ∧
    (∀ e, named = .error e → connects = [] ∧ r = .error e) ∧
    ∀ id, named = .ok id → ∃ linked, Linked program id spec.linkedNetworks connects linked ∧
      r = linked.map fun _ => ⟨id, spec.name, spec.image⟩

/-- The processes that a request to the engine runs, and the answer that is made
of them. -/
def Tells (program : String) : (call : RuntimeCall) → ProcessHistory → call.Answer → Prop
  | .hasImage image, p, r => ∃ answer, p = [ran (imageInspect program image) answer] ∧
      Recognized (imageInspect program image) "no such image" true false answer r
  | .pullImage image, p, r => ∃ answer, p = [ran (imagePull program image) answer] ∧
      Checked (imagePull program image) answer r
  | .createNetwork name, p, r => ∃ created, Resolved program name created p r
  | .start spec, p, r => Started program spec p r
  | .attach container network, p, r => ∃ answer,
      p = [ran (networkConnect program network container) answer] ∧
      Recognized (networkConnect program network container) "already exists in network"
        Attachment.attached .alreadyAttached answer r
  | .stop container, p, r => ∃ answer, p = [ran (stop program container) answer] ∧
      Checked (stop program container) answer r

theorem yields_hasImage_iff {image : String} {r : Except RuntimeError Bool} :
    (hasImage program image).Yields p r ↔ ∃ answer,
      p = [ran (imageInspect program image) answer] ∧
      Recognized (imageInspect program image) noSuchImage true false answer r := by
  rw [hasImage_eq, yields_run_done]
  exact exists_congr fun answer => and_congr_right fun _ =>
    (recognized_iff (by decide) (by decide) _).symm

theorem yields_attach_iff {container network : String} {r : Except RuntimeError Attachment} :
    (attach program container network).Yields p r ↔ ∃ answer,
      p = [ran (networkConnect program network container) answer] ∧
      Recognized (networkConnect program network container) alreadyInNetwork
        .attached .alreadyAttached answer r := by
  rw [attach_eq, yields_run_done]
  exact exists_congr fun answer => and_congr_right fun _ =>
    (recognized_iff (by decide) (by decide) _).symm

theorem yields_attach_of_accepted {container network : String} (h : Accepted answer) :
    ∃ attachment, (attach program container network).Yields
      [ran (networkConnect program network container) answer] (.ok attachment) := by
  rcases h with hs | hknown
  · exact ⟨_, yields_attach_iff.2 ⟨answer, rfl, .of_cases nofun (.inl ⟨hs, rfl⟩)⟩⟩
  · exact ⟨_, yields_attach_iff.2
      ⟨answer, rfl, .of_cases nofun (.inr (.inl ⟨hknown, rfl⟩))⟩⟩

theorem yields_attach_of_not_accepted {container network : String} (h : ¬ Accepted answer) :
    (attach program container network).Yields
      [ran (networkConnect program network container) answer]
      (.error (failure (networkConnect program network container) answer)) := by
  obtain ⟨hs, hknown⟩ := not_or.1 h
  exact yields_attach_iff.2 ⟨answer, rfl, .of_cases nofun (.inr (.inr ⟨hs, hknown, rfl⟩))⟩

theorem yields_createNetwork_iff {name : String} {r : Except RuntimeError String} :
    (createNetwork program name).Yields p r ↔ ∃ created, Resolved program name created p r := by
  refine yields_run_bind.trans (exists_congr fun created => ?_)
  -- The answer is settled by one process, unless the network exists.
  have settled (hnot : ¬ FailedSaying networkExists created) :
      (∃ rest, p = ran (networkCreate program name) created :: rest ∧
        (Dialogue.done (((outcome (networkCreate program name) created).bind
          (·.result (networkCreate program name))).bind (idIn "network" name))).Yields rest r) ↔
      Resolved program name created p r := by
    constructor
    · rintro ⟨rest, rfl, hdone⟩
      obtain ⟨rfl, hr⟩ := Dialogue.yields_done.1 hdone
      exact ⟨fun hexists => absurd hexists hnot, fun _ => ⟨rfl, identified_iff.2 hr⟩⟩
    · rintro ⟨-, hnew⟩
      obtain ⟨rfl, hr⟩ := hnew hnot
      exact ⟨[], rfl, Dialogue.yields_done.2 ⟨rfl, identified_iff.1 hr⟩⟩
  cases created with
  | error reason => exact settled nofun
  | ok e =>
      simp only [outcome]
      by_cases hexists : FailedSaying networkExists (.ok e)
      case neg =>
        rw [if_neg (mt (failedSaying_ok_iff (by decide)).2 hexists)]
        exact settled hexists
      rw [if_pos ((failedSaying_ok_iff (by decide)).1 hexists)]
      constructor
      · rintro ⟨rest, rfl, hf⟩
        obtain ⟨found, rfl, hr⟩ := yields_runChecked_done.1 hf
        exact ⟨fun _ => ⟨found, rfl, identified_iff.2 hr⟩, fun hnot => absurd hexists hnot⟩
      · rintro ⟨hlooked, -⟩
        obtain ⟨found, rfl, hr⟩ := hlooked hexists
        exact ⟨_, rfl, yields_runChecked_done.2 ⟨found, rfl, identified_iff.1 hr⟩⟩

theorem yields_attachAll_iff {networks : List String} {r : Except RuntimeError Unit} :
    (attachAll program id networks).Yields p r ↔ Linked program id networks p r := by
  constructor
  · intro hy
    induction networks generalizing p with
    | nil =>
        obtain ⟨rfl, rfl⟩ := Dialogue.yields_done.1 hy
        exact .all
    | cons network rest ih =>
        obtain ⟨p₁, result, p₂, rfl, hattach, hf⟩ := Dialogue.yields_bind.1 hy
        obtain ⟨answer, rfl, hanswer⟩ := yields_attach_iff.1 hattach
        cases result with
        | error e =>
            obtain ⟨rfl, rfl⟩ := Dialogue.yields_done.1 hf
            obtain ⟨hs, hknown, rfl⟩ := (hanswer.error_iff e).1 rfl
            exact .refused (not_or.2 ⟨hs, hknown⟩)
        | ok attachment =>
            refine .next ?_ (ih hf)
            cases attachment with
            | attached => exact .inl (hanswer.good_iff.1 rfl)
            | alreadyAttached => exact .inr (hanswer.known_iff.1 rfl)
  · intro hl
    induction hl with
    | all => exact Dialogue.yields_done.2 ⟨rfl, rfl⟩
    | next haccepted _ ih =>
        obtain ⟨attachment, hattach⟩ := yields_attach_of_accepted haccepted
        exact Dialogue.yields_bind.2 ⟨_, _, _, rfl, hattach, ih⟩
    | refused hnot =>
        exact Dialogue.yields_bind.2 ⟨_, _, [], rfl, yields_attach_of_not_accepted hnot,
          Dialogue.yields_done.2 ⟨rfl, rfl⟩⟩

theorem yields_start_iff {spec : ContainerSpec} {r : Except RuntimeError Handle} :
    (start program spec).Yields p r ↔ Started program spec p r := by
  refine yields_runChecked_bind.trans ⟨?_, ?_⟩
  · rintro ⟨answer, rest, rfl, hf⟩
    refine ⟨answer, rest, _, rfl, identified _ "container" spec.name answer, fun e he => ?_,
      fun id hid => ?_⟩
    · rw [he] at hf
      exact Dialogue.yields_done.1 hf
    · rw [hid] at hf
      obtain ⟨p₁, linked, p₂, rfl, hlinked, hr⟩ := Dialogue.yields_bind.1 hf
      have hdone : p₂ = [] ∧ r = linked.map fun _ => ⟨id, spec.name, spec.image⟩ := by
        cases linked with
        | error e => exact Dialogue.yields_done.1 hr
        | ok _ => exact Dialogue.yields_done.1 hr
      obtain ⟨rfl, rfl⟩ := hdone
      rw [List.append_nil]
      exact ⟨linked, yields_attachAll_iff.1 hlinked, rfl⟩
  · rintro ⟨answer, connects, named, rfl, hnamed, herror, hok⟩
    refine ⟨answer, connects, rfl, ?_⟩
    rw [← identified_iff.1 hnamed]
    cases named with
    | error e =>
        obtain ⟨rfl, rfl⟩ := herror e rfl
        exact Dialogue.yields_done.2 ⟨rfl, rfl⟩
    | ok id =>
        obtain ⟨linked, hlinked, rfl⟩ := hok id rfl
        refine Dialogue.yields_bind.2
          ⟨connects, linked, [], (List.append_nil _).symm, yields_attachAll_iff.2 hlinked, ?_⟩
        cases linked with
        | error e => exact Dialogue.yields_done.2 ⟨rfl, rfl⟩
        | ok _ => exact Dialogue.yields_done.2 ⟨rfl, rfl⟩

/-- What a request to the engine comes to is told by its processes. -/
theorem yields_answer_iff {call : RuntimeCall} {r : call.Answer} :
    (Docker.answer program call).Yields p r ↔ Tells program call p r := by
  cases call with
  | hasImage image => exact yields_hasImage_iff
  | pullImage image | stop container =>
      refine yields_runChecked_done.trans ?_
      exact exists_congr fun answer => and_congr_right fun _ => checked_iff.symm
  | createNetwork name => exact yields_createNetwork_iff
  | start spec => exact yields_start_iff
  | attach container network => exact yields_attach_iff

/-- The answer to every request tells what became of its processes, whatever they
do. -/
theorem answers_tell_outcomes {σ : Type} (respond : (r : ProcessRequest) → σ → r.Answer × σ)
    (state : σ) (program : String) (call : RuntimeCall) :
    Tells program call ((Docker.answer program call).history respond state)
      ((Docker.answer program call).run respond state).1 := by
  exact yields_answer_iff.1 (Dialogue.yields_run respond (Docker.answer program call) state)

end NodeKeeper.Docker
