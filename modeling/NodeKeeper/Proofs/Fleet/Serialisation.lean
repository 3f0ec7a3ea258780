/-
# Requests at the same time are served one after the other

Any number of requests may be outstanding, and their steps may come in any
order, with new requests arriving in between (`Session.play`).  What passes is
nevertheless what passes when the requests are served one after the other, in
the order in which they are given the table.

**The invariant.**  `Account` divides the history of a session into the calls
that are over, whose histories follow each other, and the beginning of the one
whose request holds the table.  It says where each request stands:

    neither given the table nor waiting     has not asked for it
    in the queue                            waits
    given the table                         is over, or holds the table

A step of a request that does not hold the table passes nothing; a step of the
one that does continues its own call.

**Proved here.**

    each move keeps the account, and the table is
    given in the order of asking                         (`Account.move`, `Account.play`)
    the polling of all requests in turn is a run         (`exists_play_pollAll`)
    a finished session has served its requests in turn   (`session_serves_in_turn`)
-/
import NodeKeeper.Proofs.Fleet.Calls

namespace NodeKeeper

abbrev SessionExchange : Type := Exchange SessionRequest SessionRequest.Answer

abbrev SessionHistory : Type := List SessionExchange

/-- What passes for request `i`. -/
def SessionHistory.ofRequest (i : Nat) (h : FleetHistory) : SessionHistory :=
  h.map fun e => ⟨⟨i, e.request⟩, e.answer⟩

/-- What passes when calls follow each other, each with the number of its
request. -/
def SessionHistory.inTurn (calls : List (Nat × ServedCall)) : SessionHistory :=
  calls.flatMap fun c => ofRequest c.1 c.2.history

open SessionHistory

@[simp] theorem ofRequest_append (i : Nat) (h h' : FleetHistory) :
    ofRequest i (h ++ h') = ofRequest i h ++ ofRequest i h' :=
  List.map_append

theorem inTurn_snoc (calls : List (Nat × ServedCall)) (i : Nat) (call : ServedCall) :
    inTurn (calls ++ [(i, call)]) = inTurn calls ++ ofRequest i call.history := by
  simp [inTurn]

/-- The request that a move makes. -/
def SessionMove.request? : SessionMove → Option SupervisorRequest
  | .arrive request => some request
  | .act _ => none

/-- The requests that moves make. -/
def SessionMove.requests (moves : List SessionMove) : List SupervisorRequest :=
  moves.filterMap request?

namespace Session

/-! ## The account of a session -/

/-- Where the table is: free, or with the request whose call is under way. -/
inductive Stage (s : Supervisor) (table : FleetTable) (made : List SupervisorRequest)
    (calls : List (Nat × ServedCall)) (h : SessionHistory) (w : Session) : Prop
  | free : w.holder = none → w.table = table → w.granted = calls.map (·.1) → h = inTurn calls →
      Stage s table made calls h w
  | held {i : Nat} {request : SupervisorRequest} {part : FleetHistory}
      {rest : FleetDialogue (SupervisorAnswer × FleetTable)} :
      w.holder = some i → made[i]? = some request → w.turns[i]? = some (.acting rest) →
      (s.serve request table).Leads part rest → w.granted = calls.map (·.1) ++ [i] →
      h = inTurn calls ++ ofRequest i part → Stage s table made calls h w

/-- The account of a session that began on the table `first`: the requests that
have been made, the calls that are over, the table they have left, and the
history. -/
structure Account (s : Supervisor) (first table : FleetTable) (made : List SupervisorRequest)
    (calls : List (Nat × ServedCall)) (h : SessionHistory) (w : Session) : Prop where
  served : s.Serves first (calls.map (·.2)) table
  stage : Stage s table made calls h w
  length : w.turns.length = made.length
  once : (w.granted ++ w.queue).Nodup
  fresh : ∀ i request, made[i]? = some request → i ∉ w.granted → i ∉ w.queue →
    w.turns[i]? = some (.fresh request)
  waiting : ∀ i ∈ w.queue, ∃ request, made[i]? = some request ∧ w.turns[i]? = some (.queued request)
  finished : ∀ c ∈ calls, made[c.1]? = some c.2.request ∧ w.turns[c.1]? = some (.finished c.2.answer)

/-- The request that comes to wait, or is given the table, by a move. -/
def asking (w : Session) : SessionMove → List Nat
  | .arrive _ => []
  | .act i =>
    match w.turns[i]? with
    | some (.fresh _) => [i]
    | _ => []

/-- No request waits for a table that is free. -/
def Prompt (w : Session) : Prop := w.holder = none → w.queue = []

variable {s : Supervisor} {first table : FleetTable} {made : List SupervisorRequest}
  {calls : List (Nat × ServedCall)} {h h' : SessionHistory} {w w' : Session} {i : Nat}

theorem account_start (s : Supervisor) (table : FleetTable) (requests : List SupervisorRequest) :
    Account s table table requests [] [] (start table requests) where
  served := .nil
  stage := .free rfl rfl rfl rfl
  length := List.length_map ..
  once := List.nodup_nil
  fresh := fun i request hi _ _ => by
    show (requests.map Turn.fresh)[i]? = _
    rw [List.getElem?_map, hi]; rfl
  waiting := fun _ hi => absurd hi List.not_mem_nil
  finished := fun _ hc => absurd hc List.not_mem_nil

/-! ## Where a request stands -/

theorem getElem?_setTurn_ne {j : Nat} (hne : j ≠ i) (t : Turn) :
    (w.setTurn i t).turns[j]? = w.turns[j]? :=
  List.getElem?_set_ne (Ne.symm hne)

theorem getElem?_setTurn_self {t' : Turn} (hi : w.turns[i]? = some t') (t : Turn) :
    (w.setTurn i t).turns[i]? = some t :=
  List.getElem?_set_self (List.getElem?_eq_some_iff.1 hi).1

namespace Account

theorem turn_of_granted (ha : Account s first table made calls h w) (hi : i ∈ w.granted) :
    (∃ call, (i, call) ∈ calls) ∨ w.holder = some i := by
  have hcall : i ∈ calls.map (·.1) → ∃ call, (i, call) ∈ calls := by
    intro hm
    obtain ⟨⟨j, call⟩, hc, rfl⟩ := List.mem_map.1 hm
    exact ⟨call, hc⟩
  cases ha.stage with
  | free _ _ hg _ => exact .inl (hcall (hg ▸ hi))
  | held hh _ _ _ hg _ =>
      rw [hg] at hi
      rcases List.mem_append.1 hi with hm | hm
      · exact .inl (hcall hm)
      · exact .inr (by rw [hh, List.mem_singleton.1 hm])

theorem cases_turn (ha : Account s first table made calls h w) {t : Turn}
    (ht : w.turns[i]? = some t) :
    (∃ request, t = .fresh request ∧ made[i]? = some request ∧ i ∉ w.granted ∧ i ∉ w.queue) ∨
    (∃ request, t = .queued request ∧ i ∈ w.queue) ∨
    (∃ call, t = .finished call.answer ∧ (i, call) ∈ calls) ∨
    ∃ rest request part, t = .acting rest ∧ w.holder = some i ∧ made[i]? = some request ∧
      (s.serve request table).Leads part rest ∧ w.granted = calls.map (·.1) ++ [i] ∧
      h = inTurn calls ++ ofRequest i part := by
  by_cases hqueue : i ∈ w.queue
  · obtain ⟨request, _, hq⟩ := ha.waiting i hqueue
    exact .inr (.inl ⟨request, Option.some.inj (ht.symm.trans hq), hqueue⟩)
  · by_cases hgranted : i ∈ w.granted
    · rcases ha.turn_of_granted hgranted with ⟨call, hc⟩ | hh
      · exact .inr (.inr (.inl ⟨call, Option.some.inj (ht.symm.trans (ha.finished _ hc).2), hc⟩))
      · cases ha.stage with
        | free hn _ _ _ => exact nomatch hn.symm.trans hh
        | held hh' hmade hact hl hg hhist =>
            cases hh.symm.trans hh'
            exact .inr (.inr (.inr ⟨_, _, _, Option.some.inj (ht.symm.trans hact), hh, hmade, hl, hg,
              hhist⟩))
    · have hlt : i < made.length := ha.length ▸ (List.getElem?_eq_some_iff.1 ht).1
      have hmade := List.getElem?_eq_getElem hlt
      have hf := ha.fresh i _ hmade hgranted hqueue
      exact .inl ⟨_, Option.some.inj (ht.symm.trans hf), hmade, hgranted, hqueue⟩

theorem not_asked (ha : Account s first table made calls h w) {request : SupervisorRequest}
    (ht : w.turns[i]? = some (.fresh request)) :
    made[i]? = some request ∧ i ∉ w.granted ∧ i ∉ w.queue := by
  rcases ha.cases_turn ht with ⟨_, heq, hi⟩ | ⟨_, heq, _⟩ | ⟨_, heq, _⟩ | ⟨_, _, _, heq, _⟩
  · cases heq; exact hi
  · exact nomatch heq
  · exact nomatch heq
  · exact nomatch heq

/-- The request that acts is the one that holds the table, and its call is
under way. -/
theorem under_way (ha : Account s first table made calls h w)
    {rest : FleetDialogue (SupervisorAnswer × FleetTable)} (ht : w.turns[i]? = some (.acting rest)) :
    ∃ request part, w.holder = some i ∧ made[i]? = some request ∧
      (s.serve request table).Leads part rest ∧ w.granted = calls.map (·.1) ++ [i] ∧
      h = inTurn calls ++ ofRequest i part := by
  rcases ha.cases_turn ht with ⟨_, heq, _⟩ | ⟨_, heq, _⟩ | ⟨_, heq, _⟩ | ⟨_, request, part, heq, hi⟩
  · exact nomatch heq
  · exact nomatch heq
  · exact nomatch heq
  · cases heq; exact ⟨request, part, hi⟩

/-! ## Moves -/

theorem arrive (ha : Account s first table made calls h w) (request : SupervisorRequest) :
    Account s first table (made ++ [request]) calls h (w.arrive request) := by
  have hmade : ∀ {j : Nat} {r : SupervisorRequest}, made[j]? = some r →
      (made ++ [request])[j]? = some r := fun hj =>
    (List.getElem?_append_left (List.getElem?_eq_some_iff.1 hj).1).trans hj
  have hturn : ∀ {j : Nat} {t : Turn}, w.turns[j]? = some t → (w.arrive request).turns[j]? = some t :=
    fun hj => (List.getElem?_append_left (List.getElem?_eq_some_iff.1 hj).1).trans hj
  refine ⟨ha.served, ?_, ?_, ha.once, ?_, ?_, ?_⟩
  · cases ha.stage with
    | free hh ht hg hhist => exact .free hh ht hg hhist
    | held hh hm hact hl hg hhist => exact .held hh (hmade hm) (hturn hact) hl hg hhist
  · show (w.turns ++ [_]).length = _
    rw [List.length_append, List.length_append, ha.length]; rfl
  · intro j r hj hgranted hqueue
    rcases Nat.lt_or_ge j made.length with hlt | hge
    · rw [List.getElem?_append_left hlt] at hj
      exact hturn (ha.fresh j r hj hgranted hqueue)
    · rw [List.getElem?_append_right hge] at hj
      show (w.turns ++ [_])[j]? = _
      rw [List.getElem?_append_right (ha.length ▸ hge), ha.length]
      rw [List.getElem?_singleton] at hj ⊢
      split at hj
      · next hz => cases hj; exact if_pos hz
      · exact nomatch hj
  · intro j hj
    obtain ⟨r, hr, ht⟩ := ha.waiting j hj
    exact ⟨r, hmade hr, hturn ht⟩
  · intro c hc
    exact ⟨hmade (ha.finished c hc).1, hturn (ha.finished c hc).2⟩

theorem grant (ha : Account s first table made calls h w) (hfree : w.holder = none)
    {request : SupervisorRequest} (queue : List Nat) (hmade : made[i]? = some request)
    (honce : (w.granted ++ i :: queue).Nodup) (hqueue : ∀ j, j ∈ w.queue → j = i ∨ j ∈ queue)
    (hqueue' : ∀ j ∈ queue, j ∈ w.queue) :
    Account s first table made calls h (Session.grant s { w with queue := queue } i request) := by
  have hne : ∀ j ∈ w.granted ++ queue, j ≠ i := by
    intro j hj heq
    subst heq
    obtain ⟨_, h2, h3⟩ := List.nodup_append.1 honce
    rcases List.mem_append.1 hj with hj | hj
    · exact h3 j hj j List.mem_cons_self rfl
    · exact (List.nodup_cons.1 h2).1 hj
  have hlt : i < w.turns.length := ha.length ▸ (List.getElem?_eq_some_iff.1 hmade).1
  cases ha.stage with
  | held hh _ _ _ _ _ => exact nomatch hfree.symm.trans hh
  | free _ htable hg hhist =>
      refine ⟨ha.served, ?_, ?_, ?_, ?_, ?_, ?_⟩
      · have hbegun : (s.serve request table).Leads [] (s.serve request w.table) := by
          rw [← htable]; exact .refl _
        refine .held rfl hmade (List.getElem?_set_self hlt) hbegun ?_ ?_
        · show w.granted ++ [i] = _
          rw [hg]
        · rw [hhist]; exact (List.append_nil _).symm
      · exact (List.length_set ..).trans ha.length
      · show (w.granted ++ [i] ++ queue).Nodup
        rw [List.append_assoc]; exact honce
      · intro j r hj hgranted hq
        have hgranted' : j ∉ w.granted ++ [i] := hgranted
        rw [List.mem_append, List.mem_singleton, not_or] at hgranted'
        have hq' : j ∉ w.queue := fun hm => (hqueue j hm).elim hgranted'.2 hq
        exact (List.getElem?_set_ne (Ne.symm hgranted'.2)).trans (ha.fresh j r hj hgranted'.1 hq')
      · intro j hj
        obtain ⟨r, hr, ht⟩ := ha.waiting j (hqueue' j hj)
        exact ⟨r, hr, (List.getElem?_set_ne (Ne.symm (hne j (List.mem_append_right _ hj)))).trans ht⟩
      · intro c hc
        have hmem : c.1 ∈ w.granted := hg ▸ List.mem_map_of_mem hc
        exact ⟨(ha.finished c hc).1,
          (List.getElem?_set_ne (Ne.symm (hne _ (List.mem_append_left _ hmem)))).trans (ha.finished c hc).2⟩

theorem ask (ha : Account s first table made calls h w) (hprompt : w.Prompt)
    {request : SupervisorRequest} (ht : w.turns[i]? = some (.fresh request)) :
    Account s first table made calls h (Session.ask s w i request) ∧
      (Session.ask s w i request).Prompt ∧
      (Session.ask s w i request).granted ++ (Session.ask s w i request).queue =
        w.granted ++ w.queue ++ [i] := by
  obtain ⟨hmade, hgranted, hqueue⟩ := ha.not_asked ht
  have hnew : (w.granted ++ w.queue ++ [i]).Nodup := by
    refine List.nodup_append.2 ⟨ha.once, List.nodup_cons.2 ⟨List.not_mem_nil, List.nodup_nil⟩, ?_⟩
    intro j hj k hk heq
    rw [List.mem_singleton] at hk
    rw [heq, hk] at hj
    exact (List.mem_append.1 hj).elim hgranted hqueue
  unfold Session.ask
  split
  · next hfree =>
    -- the table is free, and nobody waits for it
    have hh : w.holder = none := Option.isNone_iff_eq_none.1 hfree.1
    have hnil : w.queue = [] := List.isEmpty_iff.1 hfree.2
    refine ⟨ha.grant hh w.queue hmade ?_ (fun j hj => .inr hj) (fun j hj => hj), ?_, ?_⟩
    · rw [hnil] at hnew ⊢
      rw [List.append_nil] at hnew
      exact hnew
    · exact fun hn => nomatch hn
    · show w.granted ++ [i] ++ w.queue = _
      rw [hnil, List.append_nil, List.append_nil]
  · next hbusy =>
    have hheld : w.holder ≠ none := by
      intro hn
      exact hbusy ⟨by rw [hn]; rfl, by rw [hprompt hn]; rfl⟩
    refine ⟨⟨ha.served, ?_, ?_, ?_, ?_, ?_, ?_⟩, fun hn => absurd hn hheld, ?_⟩
    · cases ha.stage with
      | free hn _ _ _ => exact absurd hn hheld
      | @held k _ _ _ hh hm hact hl hg hhist =>
          have hne : k ≠ i := by
            rintro rfl
            exact hgranted (by rw [hg]; exact List.mem_append_right _ (List.mem_singleton_self _))
          exact .held hh hm ((getElem?_setTurn_ne hne _).trans hact) hl hg hhist
    · exact (List.length_set ..).trans ha.length
    · show (w.granted ++ (w.queue ++ [i])).Nodup
      rw [← List.append_assoc]; exact hnew
    · intro j r hj hgr hq
      have hq' : j ∉ w.queue ++ [i] := hq
      rw [List.mem_append, List.mem_singleton, not_or] at hq'
      exact (getElem?_setTurn_ne hq'.2 _).trans (ha.fresh j r hj hgr hq'.1)
    · intro j hj
      rcases List.mem_append.1 (show j ∈ w.queue ++ [i] from hj) with hj | hj
      · obtain ⟨r, hr, hturn⟩ := ha.waiting j hj
        have hne : j ≠ i := fun heq => hqueue (heq ▸ hj)
        exact ⟨r, hr, (getElem?_setTurn_ne hne _).trans hturn⟩
      · rw [List.mem_singleton.1 hj]
        exact ⟨request, hmade, getElem?_setTurn_self ht _⟩
    · intro c hc
      have hne : c.1 ≠ i := by
        intro heq
        have hf := (ha.finished c hc).2
        rw [heq, ht] at hf
        exact nomatch hf
      exact ⟨(ha.finished c hc).1, (getElem?_setTurn_ne hne _).trans (ha.finished c hc).2⟩
    · exact (List.append_assoc ..).symm

/-- Whatever becomes of the request that acts, the others stand where they
stood. -/
theorem others (ha : Account s first table made calls h w)
    {rest : FleetDialogue (SupervisorAnswer × FleetTable)} (ht : w.turns[i]? = some (.acting rest))
    (t : Turn) :
    (∀ j request, made[j]? = some request → j ∉ w.granted → j ∉ w.queue →
        (w.setTurn i t).turns[j]? = some (.fresh request)) ∧
      (∀ j ∈ w.queue, ∃ request, made[j]? = some request ∧
        (w.setTurn i t).turns[j]? = some (.queued request)) ∧
      ∀ c ∈ calls, made[c.1]? = some c.2.request ∧
        (w.setTurn i t).turns[c.1]? = some (.finished c.2.answer) := by
  obtain ⟨_, _, _, _, _, hg, _⟩ := ha.under_way ht
  have hmem : i ∈ w.granted := by rw [hg]; exact List.mem_append_right _ (List.mem_singleton_self _)
  refine ⟨?_, ?_, ?_⟩
  · intro j request hj hgr hq
    have hne : j ≠ i := fun heq => hgr (heq ▸ hmem)
    exact (getElem?_setTurn_ne hne _).trans (ha.fresh j request hj hgr hq)
  · intro j hj
    have hne : j ≠ i := by
      rintro rfl
      exact (List.nodup_append.1 ha.once).2.2 j hmem j hj rfl
    obtain ⟨request, hr, hturn⟩ := ha.waiting j hj
    exact ⟨request, hr, (getElem?_setTurn_ne hne _).trans hturn⟩
  · intro c hc
    have hne : c.1 ≠ i := by
      intro heq
      have hf := (ha.finished c hc).2
      rw [heq, ht] at hf
      exact nomatch hf
    exact ⟨(ha.finished c hc).1, (getElem?_setTurn_ne hne _).trans (ha.finished c hc).2⟩

theorem exchange (ha : Account s first table made calls h w) {r : FleetRequest}
    {next : r.Answer → FleetDialogue (SupervisorAnswer × FleetTable)}
    (ht : w.turns[i]? = some (.acting (.ask r next))) (answer : r.Answer) :
    Account s first table made calls (h ++ [⟨⟨i, r⟩, answer⟩]) (w.setTurn i (.acting (next answer))) := by
  obtain ⟨request, part, hh, hmade, hl, hg, rfl⟩ := ha.under_way ht
  obtain ⟨hfresh, hwaiting, hfinished⟩ := ha.others ht (.acting (next answer))
  refine ⟨ha.served, ?_, (List.length_set ..).trans ha.length, ha.once, hfresh, hwaiting, hfinished⟩
  refine .held hh hmade (getElem?_setTurn_self ht _) (hl.snoc answer) hg ?_
  rw [ofRequest_append, ← List.append_assoc]; rfl

theorem finish (ha : Account s first table made calls h w) {answer : SupervisorAnswer}
    {table' : FleetTable} (ht : w.turns[i]? = some (.acting (.done (answer, table')))) :
    ∃ call, Account s first table' made (calls ++ [(i, call)]) h
      { w.setTurn i (.finished answer) with table := table', holder := none } := by
  obtain ⟨request, part, hh, hmade, hl, hg, rfl⟩ := ha.under_way ht
  obtain ⟨hfresh, hwaiting, hfinished⟩ := ha.others ht (.finished answer)
  refine ⟨⟨request, part, answer⟩, ?_, ?_, (List.length_set ..).trans ha.length, ha.once, hfresh,
    hwaiting, ?_⟩
  · rw [List.map_append]
    exact .snoc ha.served hl
  · refine .free rfl rfl ?_ ?_
    · rw [List.map_append]; exact hg
    · rw [inTurn_snoc]
  · intro c hc
    rcases List.mem_append.1 hc with hc | hc
    · exact hfinished c hc
    · rw [List.mem_singleton.1 hc]
      exact ⟨hmade, getElem?_setTurn_self ht _⟩

theorem release (ha : Account s first table made calls h w) {answer : SupervisorAnswer}
    {table' : FleetTable} (ht : w.turns[i]? = some (.acting (.done (answer, table')))) :
    ∃ call, Account s first table' made (calls ++ [(i, call)]) h
        (Session.release s (w.setTurn i (.finished answer)) table') ∧
      (Session.release s (w.setTurn i (.finished answer)) table').Prompt ∧
      (Session.release s (w.setTurn i (.finished answer)) table').granted ++
        (Session.release s (w.setTurn i (.finished answer)) table').queue = w.granted ++ w.queue := by
  obtain ⟨call, hf⟩ := ha.finish ht
  refine ⟨call, ?_⟩
  unfold Session.release
  split
  · next hnil =>
    have hq : w.queue = [] := hnil
    exact ⟨hf, fun _ => hq, rfl⟩
  · next j queue hcons =>
    have hq : w.queue = j :: queue := hcons
    obtain ⟨request, hmade, hturn⟩ := hf.waiting j (by show j ∈ w.queue; rw [hq]; exact List.mem_cons_self)
    have hturn' : (w.setTurn i (.finished answer)).turns[j]? = some (.queued request) := hturn
    rw [hturn']
    refine ⟨hf.grant rfl queue hmade ?_ ?_ ?_, ?_, ?_⟩
    · have honce := ha.once
      rw [hq] at honce
      exact honce
    · intro k hk
      have hk' : k ∈ w.queue := hk
      rw [hq] at hk'
      exact List.mem_cons.1 hk'
    · intro k hk
      show k ∈ w.queue
      rw [hq]
      exact List.mem_cons_of_mem _ hk
    · intro hn
      exact absurd (show some j = none from hn) (Option.some_ne_none j)
    · show w.granted ++ [j] ++ queue = w.granted ++ w.queue
      rw [hq, List.append_assoc, List.singleton_append]

/-- Every move keeps the account, and what a request asks for it is given after
those that asked before it. -/
theorem move (ha : Account s first table made calls h w) (hprompt : w.Prompt) {m : SessionMove}
    (hm : (w.move s m).Yields h' w') :
    ∃ table' calls', Account s first table' (made ++ m.request?.toList) (calls ++ calls') (h ++ h') w' ∧
      w'.Prompt ∧ w'.granted ++ w'.queue = w.granted ++ w.queue ++ w.asking m := by
  cases m with
  | arrive request =>
      obtain ⟨rfl, rfl⟩ := Dialogue.yields_done.1 hm
      refine ⟨table, [], ?_, hprompt, (List.append_nil _).symm⟩
      rw [List.append_nil, List.append_nil]
      exact ha.arrive request
  | act i =>
      have hmade : made ++ (SessionMove.act i).request?.toList = made := List.append_nil made
      rw [hmade]
      replace hm : (Session.advance s i w).Yields h' w' := hm
      unfold Session.advance at hm
      split at hm
      · next request ht =>
        obtain ⟨rfl, rfl⟩ := Dialogue.yields_done.1 hm
        have hask : w.asking (.act i) = [i] := by simp only [asking, ht]
        refine ⟨table, [], ?_⟩
        rw [List.append_nil, List.append_nil, hask]
        exact ha.ask hprompt ht
      · next r next ht =>
        obtain ⟨answer, rest, rfl, hrest⟩ := Dialogue.yields_ask.1 hm
        obtain ⟨rfl, rfl⟩ := Dialogue.yields_done.1 hrest
        have hask : w.asking (.act i) = [] := by simp only [asking, ht]
        rw [hask]
        refine ⟨table, [], ?_, hprompt, (List.append_nil _).symm⟩
        rw [List.append_nil]
        exact ha.exchange ht answer
      · next answer table' ht =>
        obtain ⟨rfl, rfl⟩ := Dialogue.yields_done.1 hm
        obtain ⟨call, hr⟩ := ha.release ht
        have hask : w.asking (.act i) = [] := by simp only [asking, ht]
        rw [hask, List.append_nil, List.append_nil]
        exact ⟨table', [(i, call)], hr⟩
      · next hfresh _ _ =>
        obtain ⟨rfl, heq⟩ := Dialogue.yields_done.1 hm
        have hask : w.asking (.act i) = [] := by
          match ht : w.turns[i]? with
          | some (.fresh request) => exact absurd ht (hfresh request)
          | some (.queued _) | some (.acting _) | some (.finished _) | none => simp only [asking, ht]
        rw [hask, heq]
        refine ⟨table, [], ?_, hprompt, (List.append_nil _).symm⟩
        rw [List.append_nil, List.append_nil]
        exact ha

theorem play {moves : List SessionMove} (ha : Account s first table made calls h w)
    (hprompt : w.Prompt) (hp : (Session.play s moves w).Yields h' w') :
    ∃ table' calls', Account s first table' (made ++ SessionMove.requests moves) (calls ++ calls')
      (h ++ h') w' ∧ w'.Prompt := by
  induction moves generalizing table made calls h w h' with
  | nil =>
      obtain ⟨rfl, rfl⟩ := Dialogue.yields_done.1 hp
      refine ⟨table, [], ?_, hprompt⟩
      have hmade : made ++ SessionMove.requests [] = made := List.append_nil made
      rw [List.append_nil, List.append_nil, hmade]
      exact ha
  | cons m rest ih =>
      obtain ⟨h₁, w₁, h₂, rfl, hm, hrest⟩ := Dialogue.yields_bind.1 hp
      obtain ⟨table₁, calls₁, ha₁, hprompt₁, _⟩ := ha.move hprompt hm
      obtain ⟨table₂, calls₂, ha₂, hprompt₂⟩ := ih ha₁ hprompt₁ hrest
      refine ⟨table₂, calls₁ ++ calls₂, ?_, hprompt₂⟩
      have hmade : made ++ SessionMove.requests (m :: rest) =
          made ++ m.request?.toList ++ SessionMove.requests rest := by
        rw [List.append_assoc]
        cases m with
        | arrive request => rfl
        | act i => rfl
      rw [hmade, ← List.append_assoc, ← List.append_assoc]
      exact ha₂

/-- When all requests are finished, every request has been served. -/
theorem of_finished (ha : Account s first table made calls h w) (hprompt : w.Prompt)
    (hdone : w.isFinished = true) :
    w.table = table ∧ w.granted = calls.map (·.1) ∧ h = inTurn calls ∧
      w.granted.Perm (List.range made.length) := by
  have hfin : ∀ {i : Nat} {t : Turn}, w.turns[i]? = some t → ∃ a, t = .finished a := by
    intro i t ht
    have hall := List.all_eq_true.1 hdone t (List.mem_of_getElem? ht)
    cases t with
    | finished a => exact ⟨a, rfl⟩
    | fresh _ => exact nomatch hall
    | queued _ => exact nomatch hall
    | acting _ => exact nomatch hall
  cases ha.stage with
  | held _ _ hact _ _ _ => obtain ⟨a, heq⟩ := hfin hact; exact nomatch heq
  | free hh htable hg hhist =>
      have hq : w.queue = [] := hprompt hh
      have honce := ha.once
      rw [hq, List.append_nil] at honce
      refine ⟨htable, hg, hhist, (List.perm_ext_iff_of_nodup honce List.nodup_range).2 fun i => ?_⟩
      rw [List.mem_range]
      constructor
      · intro hm
        rw [hg] at hm
        obtain ⟨c, hc, rfl⟩ := List.mem_map.1 hm
        exact (List.getElem?_eq_some_iff.1 (ha.finished c hc).1).1
      · intro hlt
        by_cases hm : i ∈ w.granted
        · exact hm
        · have hf := ha.fresh i _ (List.getElem?_eq_getElem hlt) hm (by rw [hq]; exact List.not_mem_nil)
          obtain ⟨a, heq⟩ := hfin hf
          exact nomatch heq

end Account

/-! ## The outcome of a session -/

/-- **Serialisation.**  However the steps of the requests are interleaved, and
whenever the requests are made: once all are finished, each has been given the
table once, and what has passed, each request's answer and the table are those
of serving the requests one after the other in the order in which they were
given the table.  Engine calls, publications and the counts for health checks
are all part of what passes, with the answers they met. -/
theorem session_serves_in_turn {s : Supervisor} {table : FleetTable}
    {requests : List SupervisorRequest} {moves : List SessionMove} {h : SessionHistory} {w : Session}
    (hplay : (play s moves (start table requests)).Yields h w) (hdone : w.isFinished = true) :
    ∃ calls : List (Nat × ServedCall),
      w.granted = calls.map (·.1) ∧
      w.granted.Perm (List.range (requests ++ SessionMove.requests moves).length) ∧
      s.Serves table (calls.map (·.2)) w.table ∧ h = inTurn calls ∧
      ∀ c ∈ calls, (requests ++ SessionMove.requests moves)[c.1]? = some c.2.request ∧
        w.turns[c.1]? = some (.finished c.2.answer) := by
  obtain ⟨table', calls, ha, hprompt⟩ := (account_start s table requests).play (fun _ => rfl) hplay
  obtain ⟨htable, hgranted, hhist, hperm⟩ := ha.of_finished hprompt hdone
  exact ⟨calls, hgranted, hperm, htable ▸ ha.served, hhist, ha.finished⟩

/-- A request to start two agents and one to stop the first, made at the same
time and stepping by turns: the second waits for the first. -/
theorem session_serves_in_turn_run_stop :
    ∃ (moves : List SessionMove) (h : SessionHistory) (w : Session)
      (calls : List (Nat × ServedCall)),
      (play AbortedStop.supervisor moves (start AbortedStop.firstTable
        [.run [AbortedStop.first, AbortedStop.second], .stop [AbortedStop.first]])).Yields h w ∧
      calls.map (·.1) = [0, 1] ∧ h = inTurn calls ∧
      AbortedStop.supervisor.Serves AbortedStop.firstTable (calls.map (·.2)) w.table := by
  let moves := (List.replicate 30 [SessionMove.act 0, SessionMove.act 1]).flatten
  let session := start AbortedStop.firstTable
    [.run [AbortedStop.first, AbortedStop.second], .stop [AbortedStop.first]]
  let answer : (r : SessionRequest) → Unit → r.Answer × Unit := fun r => AbortedStop.respond r.request
  have hplay := Dialogue.yields_run answer (play AbortedStop.supervisor moves session) ()
  have hgranted : ((play AbortedStop.supervisor moves session).run answer ()).1.granted = [0, 1] := by
    decide +kernel
  obtain ⟨calls, horder, _, hserves, hhist, _⟩ := session_serves_in_turn hplay (by decide +kernel)
  exact ⟨moves, _, _, calls, hplay, horder ▸ hgranted, hhist, hserves⟩

/-! ## Polling -/

section Polling

variable {σ : Type} (respond : (r : FleetRequest) → σ → r.Answer × σ)

/-- What a session comes to by moves, in surroundings with a state. -/
def after (s : Supervisor) (moves : List SessionMove) (w : Session) (world : σ) : Session × σ :=
  (play s moves w).run (fun (r : SessionRequest) => respond r.request) world

theorem after_append (moves moves' : List SessionMove) (w : Session) (world : σ) :
    after respond s (moves ++ moves') w world =
      after respond s moves' (after respond s moves w world).1 (after respond s moves w world).2 := by
  induction moves generalizing w world with
  | nil => rfl
  | cons m rest ih =>
      have hcons : ∀ l, after respond s (m :: l) w world =
          after respond s l ((w.move s m).run (fun (r : SessionRequest) => respond r.request) world).1
            ((w.move s m).run (fun (r : SessionRequest) => respond r.request) world).2 :=
        fun l => Dialogue.run_bind _ (play s l) (w.move s m) world
      rw [List.cons_append, hcons, hcons, ih]

theorem exists_play_poll (s : Supervisor) (i fuel : Nat) (w : Session) (world : σ) :
    ∃ moves, poll s respond i fuel w world = after respond s moves w world := by
  induction fuel generalizing w world with
  | zero => exact ⟨[], rfl⟩
  | succ fuel ih =>
      have hstep : step s respond i w world = after respond s [.act i] w world := by
        show _ = (w.move s (.act i) >>= play s []).run _ world
        rw [Dialogue.run_bind]
        rfl
      unfold poll
      rw [hstep]
      simp only
      split
      · exact ⟨[.act i], rfl⟩
      · obtain ⟨moves, hm⟩ := ih (after respond s [.act i] w world).1 (after respond s [.act i] w world).2
        exact ⟨.act i :: moves, by rw [hm]; exact (after_append respond [.act i] moves w world).symm⟩

/-- To poll all requests in turn is one of the ways in which a session can
go. -/
theorem exists_play_pollAll (s : Supervisor) (fuel : Nat) (w : Session) (world : σ) :
    ∃ moves, pollAll s respond fuel w world = after respond s moves w world := by
  have hround : ∀ (is : List Nat) (fuel : Nat) (w : Session) (world : σ), ∃ moves,
      is.foldl (fun p i => poll s respond i fuel p.1 p.2) (w, world) =
        after respond s moves w world := by
    intro is fuel
    induction is with
    | nil => exact fun w world => ⟨[], rfl⟩
    | cons i rest ih =>
        intro w world
        obtain ⟨moves, hm⟩ := exists_play_poll respond s i fuel w world
        obtain ⟨moves', hm'⟩ := ih (after respond s moves w world).1 (after respond s moves w world).2
        refine ⟨moves ++ moves', ?_⟩
        rw [List.foldl_cons, after_append, ← hm', hm]
  induction fuel generalizing w world with
  | zero => exact ⟨[], rfl⟩
  | succ fuel ih =>
      unfold pollAll
      split
      · exact ⟨[], rfl⟩
      · obtain ⟨moves, hm⟩ := hround (List.range w.turns.length) (fuel + 1) w world
        obtain ⟨moves', hm'⟩ := ih (after respond s moves w world).1 (after respond s moves w world).2
        refine ⟨moves ++ moves', ?_⟩
        rw [after_append, ← hm']
        show pollAll s respond fuel (List.foldl _ (w, world) _).1 (List.foldl _ (w, world) _).2 = _
        rw [hm]

end Polling

end Session

end NodeKeeper
