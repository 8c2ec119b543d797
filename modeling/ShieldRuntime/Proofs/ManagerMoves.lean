import ShieldRuntime.Proofs.StepMoves

/-!
# The steps of the manager are moves
-/

namespace ShieldRuntime.Proofs
open Lua

section

variable {V : Type} {s next : State V} {l : Label V}

variable {a vm : Instance} {co : Nat} {t : Thread} {source : Source} {rest : List Frame}

section

lemma suspend_moved {target : String} (hstack : s.stack t = .lua vm (.handler co source) :: rest)
    (hco : s.calls.statusOf co = some .running) :
    Moved s (.coroutine t (.call target)) ({ s with
      calls := s.calls.suspendForCall co (currentServiceId rest)
        (s.registry.queryService target) (s.actorOf (currentServiceId rest)) }.attributed vm
          (currentServiceId rest)) := by
  have hruns : Executes s vm (.handler co source) (currentServiceId rest) :=
    ⟨t, rest, hstack, rfl⟩
  refine { moved_keep s _ with
    calls := .suspend vm co source _ _ hruns (by simp [makesCall, runsAs, hstack]) hco, released := ?_,
    entered := fun _ _ _ _ h => .inl h, trace := ?_ }
  · intro co' vm' hactive
    exact .inl (active_setStatus hactive (by simp))
  · intro event hevent
    rcases List.mem_cons.mp hevent with rfl | hevent
    · exact .inr ⟨_, hruns⟩
    · exact .inl hevent

variable {target : ServiceId} {session : Nat} {args : List V}

lemma postFailed_moved (hstack : s.stack t = .lua vm (.handler co source) :: rest)
    (hco : s.calls.statusOf co = some (.registered session target))
    (hnone : s.registry.targetActor target = none) :
    Moved s (.coroutine t (.post args))
      (s.resumed t (.lua vm (.handler co source) :: rest) .response
        ((s.calls.setStatus co .running).resumeCaller (.sendFailure session) session false [])) := by
  have hanswers : answers s (.coroutine t (.post args)) = some (.sendFailure session, session) := by
    simp [answers, hstack, hco, hnone]
  have hsame : (s.calls.setStatus co .running).resumee session = s.calls.resumee session := by
    apply resumee_congr
    · rfl
    · rfl
    · exact resumable_setStatus hco (by simp) (by simp)
  apply moved_resumed (s := s) rfl
  · intro co' vm' hresumed
    have hactive := hresumed
    rw [CallState.resumeCaller_snd] at hactive hresumed
    rw [hsame] at hresumed
    have hmove := StackMove.answer (t := t) (.sendFailure session) session co' vm' .response
      [] (.lua vm (.handler co source) :: rest) hanswers hresumed (.inl rfl)
      (hstack ▸ .keep) (by rw [hstack]) (by simp) (.inr ⟨_, _, _, hstack⟩)
    exact ⟨hmove, active_resumee hactive _ _ _⟩
  · exact hstack ▸ keep_move
  · exact .sendFailure co session target hco hanswers
  · intro co' vm' hactive
    exact .inl (active_resumeCaller (active_setStatus hactive (by simp)) _ _ _ _)

lemma posted_moved (hco : s.calls.statusOf co = some (.registered session target)) :
    Moved s (.coroutine t (.post args)) { s with
      actors := s.actors.post a (.service (some args) session)
      calls := s.calls.setStatus co (.posted session) } := by
  refine { send_moved (s := s) a (some args) session with
    calls := .advance co _ _ hco (.post session target), released := ?_,
    entered := fun _ _ _ _ h => .inl h }
  intro co' vm' hactive
  exact .inl (active_setStatus hactive (by simp))

section

variable (hstack : s.stack t = .lua vm (.handler co source) :: rest)
include hstack

lemma armed_moved (hco : s.calls.statusOf co = some .running) :
    Moved s (.coroutine t .sleep) { s with
      calls := s.calls.armSleep co (currentServiceId rest) (s.actorOf (currentServiceId rest))
      trace := .slept co (s.actorOf (currentServiceId rest)).isSome ::
        .attributed vm (currentServiceId rest) :: s.trace } := by
  have hruns : Executes s vm (.handler co source) (currentServiceId rest) :=
    ⟨t, rest, hstack, rfl⟩
  refine { moved_keep s _ with
    calls := .arm vm co source _ hruns (by simp [makesTimer, runsAs, hstack]) hco, released := ?_,
    entered := fun _ _ _ _ h => .inl h, trace := ?_ }
  · intro co' vm' hactive
    left
    unfold CallState.armSleep
    split <;> exact active_setStatus hactive (by simp)
  · intro event hevent
    rcases List.mem_cons.mp hevent with rfl | hevent
    · exact .inr ⟨t, vm, source, rest, rfl, hstack, rfl⟩
    rcases List.mem_cons.mp hevent with rfl | hevent
    · exact .inr ⟨_, hruns⟩
    · exact .inl hevent

lemma yield_moved {before after : CoStatus}
    (hco : s.calls.statusOf co = some before) (hadvance : Advances before after) :
    Moved s (.coroutine t .yield)
      ({ s with calls := s.calls.setStatus co after }.setStack t rest) := by
  have hrest : rest <:+ s.stack t := hstack ▸ List.suffix_cons _ _
  refine { moved_setStack (s := s) (l := .coroutine t .yield) rfl (pop_move hstack rfl) with
    calls := .advance co _ _ hco hadvance, released := ?_,
    entered := setStack_entered (fun _ _ _ hmem => .inl (hrest.mem hmem)) }
  intro co' vm' hactive
  by_cases hne : co' = co
  · subst hne
    refine .inr ⟨t, vm, source, rest, rfl, hstack, ?_⟩
    intro vm'' source' hmem
    simpa using hmem
  · exact .inl (active_setStatus hactive (fun heq => absurd heq hne))

lemma coroutineCase_moved {op : CoroutineOp V}
    (h : CoroutineCase s t vm co source rest op next) : Moved s (.coroutine t op) next := by
  cases h with
  | call target hco => exact suspend_moved hstack hco
  | post args session target a hco => exact posted_moved hco
  | postFails args session target hco hnone => exact postFailed_moved hstack hco hnone
  | sleep hco => exact armed_moved hstack hco
  | yieldCall session hco => exact yield_moved hstack hco (.yieldCall session)
  | yieldSleep hco => exact yield_moved hstack hco .yieldSleep

end

end

lemma afterHandler_cases (source : Source) (outcome : Outcome V) (rest : List Frame) :
    (∃ conts : List Cont, (∀ cont ∈ conts, Neutral cont ∧ ¬ Passing (.cpp cont)) ∧
        State.afterHandler source outcome rest = conts.map .cpp ++ rest) ∨
      ∃ id, source = .dispatch id ∧ outcome = .raised ∧
        State.afterHandler source outcome rest = .cpp (.invokeErrorHook id) :: rest := by
  cases source with
  | dispatch id =>
    cases outcome with
    | returned => exact .inl ⟨[.resetErrorCount id], by simp [Neutral, Passing], rfl⟩
    | raised => exact .inr ⟨id, rfl, rfl, rfl⟩
  | _ => exact .inl ⟨[], by simp, rfl⟩

variable {outcome : Outcome V} {entry : Entry} {id : ServiceId}

lemma mem_afterHandler (h : .lua vm entry ∈ State.afterHandler source outcome rest) :
    .lua vm entry ∈ rest := by
  rcases afterHandler_cases source outcome rest with ⟨conts, -, heq⟩ | ⟨id, -, -, heq⟩
  · rw [heq] at h
    simpa using h
  · rw [heq] at h
    simpa using h

lemma handlerEnd_moved (late : Bool) (hstack : s.stack t = .lua vm (.handler co source) :: rest)
    (hco : s.calls.statusOf co = some .running) :
    Moved s (luaEnd t outcome late) (s.resumed t (State.afterHandler source outcome rest) .response
      (s.calls.finish co source outcome)) := by
  have hleft : ∀ conts, Left s (luaEnd t outcome late) t conts rest :=
    fun conts => .pop conts _ rest hstack (ends_luaEnd t outcome late)
  have hscope : currentServiceId rest = currentServiceId (s.stack t) := by
    rw [hstack]
    rfl
  have hanswers : ∀ values, outcome = .returned values →
      answers s (luaEnd t outcome late) = completes s.calls co source := by
    rintro values rfl
    simp [luaEnd, answers, hstack]
  apply moved_resumed (acting_luaEnd t outcome late)
  · intro co' vm' hresumed
    obtain ⟨values, cause, session, rfl, hcompletes, hresumee⟩ := finish_snd hco hresumed
    have hanswer := (hanswers values rfl).trans hcompletes
    refine ⟨?_, active_finish_resumed hco hresumed⟩
    rcases afterHandler_cases source (.returned values) rest with
      ⟨conts, hconts, heq⟩ | ⟨id, -, hraised, -⟩
    · rw [heq]
      exact .answer cause session co' vm' .response conts rest hanswer hresumee (.inl rfl)
        (hleft conts) hscope hconts (.inr ⟨_, _, _, hstack⟩)
    · cases hraised
  · rcases afterHandler_cases source outcome rest with ⟨conts, hconts, heq⟩ | ⟨id, rfl, -, heq⟩
    · rw [heq]
      refine .shrink conts rest (hleft conts) (fun cont h => (hconts cont h).1)
        (fun cont h => (hconts cont (List.mem_of_mem_tail h)).2) fun id hhead => ?_
      exact absurd trivial (hconts _ (List.mem_of_mem_head? hhead)).2
    · rw [heq]
      exact .report vm _ id rest hstack rfl (ends_luaEnd t outcome late)
  · refine .finish co source outcome hco hanswers ?_
    cases outcome <;> simp [luaEnd, unanswered, hstack]
  · intro co' vm' hactive
    by_cases hne : co' = co
    · subst hne
      refine .inr ⟨vm, source, rest, hstack, ?_, fun _ _ => mem_afterHandler⟩
      -- the coroutine that is resumed was suspended, the one that ends was running
      intro other hresumed
      obtain ⟨values, cause, session, rfl, -, hresumee⟩ := finish_snd hco hresumed
      obtain ⟨-, pending, -, -, wait, hresumable⟩ := CallState.resumee_eq_some hresumee
      obtain ⟨k, hk, hstatus, -⟩ := CallState.resumable_eq_some.mp hresumable
      simp [CallState.statusOf, hk, hstatus] at hco
    · exact .inl (active_finish source outcome hco hne hactive)

lemma afterInit_moved {i : Instance} (outcome : Outcome V) (late : Bool)
    (hstack : s.stack t = .lua i .onInit :: rest) :
    Moved s (luaEnd t outcome late) (s.afterInit t i rest outcome late) := by
  have hpop : ∀ late, CodeMove s (.api t (.raise late)) t (State.popScope rest) := fun late =>
    .shrink [] _ (.init i rest hstack rfl) (by simp) (by simp) (by simp)
  unfold State.afterInit
  split
  · refine moved_setStack rfl (.initialised i _ rest hstack rfl fun hasked => ?_)
    exact .init i rest _ rfl hstack (askedBy_of_any (by rw [hstack]; rfl) hasked)
  · refine { moved_setStack (s := s) rfl (hpop false) with
      services := fun _ _ h => .inl h, serviceActors := ?_, stopped := ?_, stoppedMono := ?_,
      exiting := fun _ h => .inl h }
    · intro id a h
      exact .inl (eraseActor_serviceActors h)
    · intro j hj
      by_cases hji : j = i
      · subst hji
        refine .inr (.inr ⟨t, _, _, rest, rfl, hstack, .inl ⟨rfl, rfl⟩, ?_, ?_⟩)
        · simpa using popScope_suffix rest
        · simp [Registry.eraseActor]
      · exact .inl (by simpa [Actors.stop, hji] using hj)
    · exact fun j hj => stop_stopped i hj
  · exact moved_setStack rfl (hpop true)

lemma afterTask_moved (outcome : Outcome V) (late : Bool)
    (hstack : s.stack t = .lua vm entry :: rest) (hreports : Reports entry id) :
    Moved s (luaEnd t outcome late) (s.setStack t (State.afterTask id outcome rest)) := by
  cases outcome with
  | returned => exact moved_setStack rfl (pop_move hstack rfl)
  | raised => exact moved_setStack rfl (.report vm entry id rest hstack hreports rfl)

lemma afterLua_moved (outcome : Outcome V) (late : Bool)
    (hstack : s.stack t = .lua vm entry :: rest) (hact : s.canAct entry = true) :
    Moved s (luaEnd t outcome late) (s.afterLua t vm entry rest outcome late) := by
  have hl := acting_luaEnd t outcome late
  have hends := ends_luaEnd t outcome late
  have hpop := pop_move hstack hends
  cases entry with
  | handler co source => exact handlerEnd_moved late hstack (of_decide_eq_true hact)
  | fallback request =>
    exact { moved_setStack (s := s) hl hpop with calls := .reject request _ (by simp) }
  | onInit => exact afterInit_moved outcome late hstack
  | onExit id =>
    refine { moved_setStack (s := s) hl (.exitStage _ _ id rest hstack (.timers vm id) hends) with
      tasks := ?_, mail := fun _ _ h => .inl h }
    intro task htask
    exact .inl (List.mem_of_mem_filter htask)
  | onError id =>
    unfold State.afterLua
    dsimp only
    split
    · exact moved_setStack hl (.panic vm id rest hstack hends)
    · exact moved_setStack hl hpop
  | onPanic id =>
    exact moved_setStack hl (.shrink [.exit id] rest (.pop _ _ rest hstack hends) (by simp [Neutral])
      (by simp) fun _ _ => .panic vm id rest outcome late rfl hstack)
  | timer | fork => exact afterTask_moved outcome late hstack rfl

lemma trace_attributed (hruns : Executes s vm entry id) :
    ∀ event ∈ ApiEvent.attributed vm id :: s.trace, event ∈ s.trace ∨ NewEvent s l event := by
  intro event hevent
  rcases List.mem_cons.mp hevent with rfl | hevent
  · exact .inr ⟨entry, hruns⟩
  · exact .inl hevent

lemma fork_moved (hruns : Executes s vm entry id)
    (hmakes : makesTask s l = some (vm, id)) (hid : id ≠ "")
    (ha : s.registry.serviceActors id = some a) :
    Moved s l ({ s with
      tasks := { id := s.nextTaskId, serviceId := id, vm } :: s.tasks
      nextTaskId := s.nextTaskId + 1
      actors := s.actors.post a (.forkTask s.nextTaskId) }.attributed vm id) := by
  refine { moved_keep s l with
    trace := trace_attributed hruns, tasks := ?_, nextTaskId := Nat.le_succ _, mail := ?_ }
  · intro task htask
    rcases List.mem_cons.mp htask with rfl | htask
    · exact .inr ⟨rfl, rfl, hid, hmakes, entry, hruns⟩
    · exact .inl htask
  · intro i mail hmail
    rcases mem_post hmail with hmail | ⟨rfl, rfl⟩
    · exact .inl hmail
    refine .inr ⟨rfl, rfl, id, ha, ?_⟩
    intro task htask
    rcases List.mem_cons.mp htask with rfl | htask
    · exact .inr rfl
    · exact .inl htask

lemma apiCase_moved {op : ApiOp V} (hstack : s.stack t = .lua vm entry :: rest)
    (hact : s.canAct entry = true) (h : ApiCase s t vm entry rest op next) :
    Moved s (.api t op) next := by
  have hruns : Executes s vm entry (currentServiceId rest) := ⟨t, rest, hstack, rfl⟩
  have hcaller : Caller s t (∃ n, t = .external n) := .inr ⟨vm, entry, rest, hstack⟩
  cases h with
  | syncCall target args a => exact call_moved args a rfl hstack.symm hcaller
  | send target args a => exact send_moved a args 0
  | spawn name hspawn => exact spawn_moved rfl hstack.symm hcaller hspawn
  | exit =>
    exact { moved_setStack (s := s) rfl (.requestExit vm entry rest hstack rfl) with
      trace := trace_attributed hruns }
  | timer repeating a hlimit ha =>
    exact { moved_keep s _ with
      calls := .addTimer vm entry _ a repeating hruns (by simp [makesTimer, runsAs, hstack]) ha
      trace := trace_attributed hruns }
  | cancelTimer => exact { moved_keep s _ with calls := .quiet _ (.filterTimers _ _) }
  | fork a hlimit hid ha => exact fork_moved hruns (by simp [makesTask, runsAs, hstack]) hid ha
  | noFork n =>
    refine { moved_keep s _ with
      trace := trace_attributed hruns, nextTaskId := ?_,
      tasks := fun _ h => .inl h, mail := fun _ _ h => .inl h }
    change s.nextTaskId ≤ n
    omega
  | ret values => exact afterLua_moved (.returned values) false hstack hact
  | raise late => exact afterLua_moved .raised late hstack hact
  | _ =>
    exact { moved_keep s _ with trace := trace_attributed hruns }

end

variable {V : Type} {s next : State V} {l : Label V}

variable {vm a i : Instance} {session co : Nat} {request : Request} {timer : ActorTimer}
  {mail : Mail V}

section

variable {t : Thread} {rest : List Frame} {id name : ServiceId} {exitAfterInit : Bool}

lemma eraseService_services {r : Registry} {other : ServiceId}
    (h : (r.eraseService id).services other = some vm) : r.services other = some vm := by
  by_cases hid : other = id
  · simp [Registry.eraseService, hid] at h
  · simpa [Registry.eraseService, hid] using h

lemma eraseService_moved (hstack : s.stack t = .cpp (.exitErase id) :: rest) :
    Moved s (.cont t) ({ s with registry := s.registry.eraseService id }.setStack t rest) :=
  { moved_setStack (s := s) (l := .cont t) rfl (pop_move hstack rfl) with
    services := fun _ _ h => .inl (eraseService_services h)
    serviceActors := fun _ _ h => .inl (eraseActor_serviceActors h)
    stopped := fun _ h => .inl h
    exiting := fun _ h => .inl h }

lemma exitErase_moved (hstack : s.stack t = .cpp (.exitErase id) :: rest)
    (ha : s.registry.serviceActors id = some a) :
    Moved s (.cont t) ({ s with
      registry := s.registry.eraseService id, actors := s.actors.askExit a }.setStack t rest) := by
  refine { eraseService_moved hstack with exiting := ?_ }
  intro i hi
  by_cases hia : i = a
  · subst hia
    refine .inr ⟨t, id, rest, hstack, ha, ?_, ?_⟩
    · simp [Registry.eraseService]
    · simp [Registry.eraseService, Registry.eraseActor]
  · exact .inl (by simpa [Actors.askExit, hia] using hi)

lemma spawnCreate_moved (hstack : s.stack t = .cpp (.spawnCreate name) :: rest) :
    Moved s (.cont t) ({ s with
      actors := s.actors.create name
      registry := s.registry.emplaceActor name s.actors.nextInstance }.setStack t
        (.lua s.actors.nextInstance .onInit :: .scope { serviceId := name } :: rest)) := by
  have hrest : rest <:+ s.stack t := hstack ▸ List.suffix_cons _ _
  refine { moved_setStack (s := s) (l := .cont t) rfl (pop_move hstack rfl) with
    others := setStack_others _ rfl,
    stack := setStack_stack rfl (.create name rest hstack rfl),
    released := fun _ _ h => .inl h, entered := ?_, created := ?_, services := ?_,
    serviceActors := ?_, names := .inr ⟨t, name, rest, rfl, hstack, rfl, rfl⟩,
    ready := fun _ h => .inl h, stopped := fun _ h => .inl h, exiting := fun _ h => .inl h }
  · apply setStack_entered
    intro vm co source hmem
    exact .inl (hrest.mem (by simpa using hmem))
  · apply setStack_created
    intro i hmem
    rcases List.mem_cons.mp hmem with heq | hmem
    · cases heq
      exact .inr (Nat.lt_succ_self _)
    · exact .inl (hrest.mem (by simpa using hmem))
  · intro id vm hservice
    left
    simp only [State.setStack, Registry.emplaceActor] at hservice
    split at hservice <;> exact hservice
  · intro id a ha
    simp only [State.setStack, Registry.emplaceActor] at ha
    split at ha
    · exact .inl ha
    by_cases hid : id = name
    · subst hid
      have heq : s.actors.nextInstance = a := by simpa using ha
      subst heq
      exact .inr ⟨rfl, rfl, by simp [Actors.create], t, rest, hstack⟩
    · exact .inl (by simpa [hid] using ha)

section

variable (hstack : s.stack t = .cpp (.spawnPublish i name exitAfterInit) :: rest)
include hstack

lemma spawnPublish_moved :
    Moved s (.cont t) ({ s with registry := s.registry.publish name i }.setStack t
      (.cpp (.spawnReady i name exitAfterInit) :: rest)) := by
  refine { moved_setStack (s := s) (l := .cont t) rfl
      (.published i name exitAfterInit rest hstack rfl) with
    services := ?_, stopped := fun _ h => .inl h, exiting := fun _ h => .inl h }
  intro id vm hservice
  by_cases hid : id = name
  · subst hid
    have heq : i = vm := by simpa [Registry.publish] using hservice
    subst heq
    exact .inr ⟨t, exitAfterInit, rest, rfl, hstack, by simp⟩
  · exact .inl (by simpa [Registry.publish, hid] using hservice)

lemma spawnRefused_moved :
    Moved s (.cont t) ({ s with
      registry := s.registry.eraseActor name, actors := s.actors.stop i }.setStack t rest) := by
  refine { moved_setStack (s := s) (l := .cont t) rfl (pop_move hstack rfl) with
    services := fun _ _ h => .inl h, serviceActors := fun _ _ h => .inl (eraseActor_serviceActors h),
    stopped := ?_, stoppedMono := fun j hj => stop_stopped i hj, exiting := fun _ h => .inl h }
  intro j hj
  by_cases hji : j = i
  · subst hji
    refine .inr (.inr ⟨t, _, name, rest, rfl, hstack, .inr ⟨exitAfterInit, rfl⟩, ?_, ?_⟩)
    · simp
    · simp [Registry.eraseActor]
  · exact .inl (by simpa [Actors.stop, hji] using hj)

end

lemma spawnReady_moved (hstack : s.stack t = .cpp (.spawnReady i name exitAfterInit) :: rest) :
    Moved s (.cont t) ({ s with actors := s.actors.setReady i }.setStack t
      (if exitAfterInit then .cpp (.exit name) :: rest else rest)) := by
  have hframes : CodeMove s (.cont t) t
      (if exitAfterInit then .cpp (.exit name) :: rest else rest) := by
    split
    · rename_i hexit
      refine .shrink [.exit name] rest (.pop _ _ rest hstack rfl) (by simp [Neutral]) (by simp) ?_
      rintro id ⟨⟩
      exact .passed _ rest rfl hstack (hexit ▸ rfl)
    · exact pop_move hstack rfl
  refine { moved_setStack (s := s) rfl hframes with ready := ?_, readyMono := ?_ }
  · intro j hj
    by_cases hji : j = i
    · subst hji
      refine .inr ⟨t, name, exitAfterInit, rest, rfl, hstack, ?_⟩
      intro frame hframe
      simp only [State.stack_setStack] at hframe
      split at hframe
      · rcases List.mem_cons.mp hframe with rfl | hframe
        · exact .inr rfl
        · exact .inl hframe
      · exact .inl hframe
    · exact .inl (by simpa [Actors.setReady, hji] using hj)
  · intro j hj
    by_cases hji : j = i
    · simp [Actors.setReady, hji]
    · simpa [Actors.setReady, hji] using hj

lemma cppCase_moved {cont : Cont} (hstack : s.stack t = .cpp cont :: rest)
    (h : CppCase s t rest cont next) : Moved s (.cont t) next := by
  have hpop : CodeMove s (.cont t) t rest := pop_move hstack rfl
  have hleft : ∀ conts, Left s (.cont t) t conts rest := fun conts => .pop conts _ rest hstack rfl
  cases h with
  | endDispatchExit id hasked =>
    refine moved_setStack rfl (.shrink [.exit id] rest (hleft _) (by simp [Neutral]) (by simp) ?_)
    rintro _ ⟨⟩
    exact .endDispatch id rest rfl hstack (askedBy_of_any (by rw [hstack]; rfl) hasked)
  | resetErrorCount | shutdownEnd => exact { moved_setStack (s := s) rfl hpop with }
  | invokeErrorHook id vm hservice =>
    exact { moved_setStack (s := s) (l := .cont t) rfl
      (.errorHook id vm rest hstack hservice rfl) with }
  | exit id vm hservice => exact moved_setStack rfl (.exit id vm rest hstack hservice rfl)
  | exitTimers id =>
    exact { moved_setStack (s := s) (l := .cont t) rfl
      (.exitStage _ _ id rest hstack (.timeouts id) rfl) with
      calls := .quiet _ (.filterTimers _ _) }
  | exitTimeouts id =>
    exact { moved_setStack (s := s) (l := .cont t) rfl
      (.exitStage _ _ id rest hstack (.erase id) rfl) with
      calls := .quiet _ (.cancelTimeouts _ _) }
  | exitErase id a ha => exact exitErase_moved hstack ha
  | exitEraseService => exact eraseService_moved hstack
  | create => exact spawnCreate_moved hstack
  | conflict => exact spawnRefused_moved hstack
  | publish => exact spawnPublish_moved hstack
  | ready => exact spawnReady_moved hstack
  | shutdownExit id order seen =>
    exact moved_setStack rfl (.shrink [.exit id, .shutdown order (id :: seen)] rest (hleft _)
      (by simp [Neutral]) (by simp [Passing]) fun _ _ => .shutdown _ _ rest rfl hstack)
  | shutdownSkip id order seen =>
    exact moved_setStack rfl (.shrink [.shutdown order (id :: seen)] rest (hleft _)
      (by simp [Neutral]) (by simp) (by simp))
  | _ => exact moved_setStack rfl hpop

lemma endWait_moved (hl : actingThread l = some t) (hends : Ends t l)
    (hstack : s.stack t = .cpp (.syncWait session) :: rest) :
    Moved s l ({ s with calls := s.calls.releaseSync session }.setStack t rest) :=
  { moved_setStack (s := s) hl (pop_move hstack hends) with
    calls := .quiet _ { Quiet.refl s.calls with } }

end

lemma commandCase_moved {n : Nat} {command : Command V} (hstack : s.stack (.external n) = [])
    (h : CommandCase s n command next) : Moved s (.command n command) next := by
  have hcaller : Caller s (.external n) (∃ m, Thread.external n = .external m) :=
    .inl ⟨hstack, n, rfl⟩
  cases h with
  | spawn name hspawn => exact spawn_moved rfl hstack.symm hcaller hspawn
  | exit id =>
    exact moved_setStack rfl (.shrink [.exit id] [] (hstack ▸ .push _ hcaller) (by simp [Neutral])
      (by simp) fun _ _ => .command n id rfl rfl)
  | shutdownAll =>
    exact { moved_setStack (s := s) rfl (.shrink [.shutdown _ []] [] (hstack ▸ .push _ hcaller)
      (by simp [Neutral]) (by simp) (by simp)) with }
  | call target args a => exact call_moved args a rfl hstack.symm hcaller
  | send target args a => exact send_moved a args 0

variable {rest : List (Mail V)} {args : Option (List V)}

lemma mem_taken {j : Instance} {other : Mail V} (hmailbox : s.actors.mailbox i = mail :: rest)
    (h : other ∈ (taken s i rest).actors.mailbox j) : other ∈ s.actors.mailbox j := by
  by_cases hj : j = i
  · subst hj
    rw [hmailbox]
    exact List.mem_cons_of_mem _ (by simpa [taken] using h)
  · simpa [taken, hj] using h

lemma moved_taken (hmailbox : s.actors.mailbox i = mail :: rest) : Moved s l (taken s i rest) :=
  { moved_keep s l with mail := fun _ _ h => .inl (mem_taken hmailbox h) }

lemma moved_received (look : MethodLookup) {frames : List Frame}
    (hmailbox : s.actors.mailbox i = mail :: rest)
    (h : CodeMove s (.receive i look) (.actor i) frames) :
    Moved s (.receive i look) ((taken s i rest).setStack (.actor i) frames) :=
  { moved_setStack (s := s) rfl h with mail := fun _ _ h => .inl (mem_taken hmailbox h) }

lemma Asks.session_ne_zero (h : Asks mail request args)
    (hsend : request ≠ .send) : request.session ≠ 0 := by
  cases h with
  | service args session =>
    unfold State.serviceRequest at hsend ⊢
    split at hsend
    · exact absurd rfl hsend
    rename_i hsession
    rw [if_neg hsession]
    exact hsession
  | syncCall args session =>
    unfold State.syncRequest at hsend ⊢
    split at hsend
    · exact absurd rfl hsend
    rename_i hsession
    rw [if_neg hsession]
    exact hsession

section

variable {look : MethodLookup} {rest : List (Mail V)}

variable (hready : Receives s.actors i) (hempty : s.stack (.actor i) = [])
include hready hempty

lemma start_moved (hmailbox : s.actors.mailbox i = mail :: rest)
    (hrequest : request ≠ .send → request.session ≠ 0)
    (hservice : s.registry.services (s.actors.serviceOf i) = some vm)
    (hco : s.calls.coroutines co = none) :
    Moved s (.receive i (.function (some co)))
      ({ taken s i rest with calls := s.calls.start co vm request }.setStack (.actor i)
        [.lua vm (.handler co (.dispatch (s.actors.serviceOf i))),
          .cpp (.endDispatch (s.actors.serviceOf i)),
            .scope { serviceId := s.actors.serviceOf i }]) := by
  have hstack := StackMove.dispatched (l := .receive i (.function (some co))) i vm co rfl hready
    hempty hservice hco
  refine { moved_taken hmailbox with
    others := setStack_others _ rfl, stack := setStack_stack rfl hstack,
    calls := .start i co vm request rfl hco hrequest hservice, released := ?_, entered := ?_,
    created := setStack_created (by simp), services := fun _ _ h => .inl h,
    ready := fun _ h => .inl h, stopped := fun _ h => .inl h }
  · rintro co' vm' ⟨k, hk, hvm, hactive⟩
    have hne : co' ≠ co := by
      rintro rfl
      simp [hco] at hk
    exact .inl ⟨k, by simp [CallState.start, hne, hk], hvm, hactive⟩
  · apply setStack_entered
    intro vm' co' source hmem
    have heq : (vm' = vm ∧ co' = co) ∧ source = .dispatch (s.actors.serviceOf i) := by
      simpa [and_assoc] using hmem
    obtain ⟨⟨rfl, rfl⟩, -⟩ := heq
    exact .inr ⟨_, Function.update_self _ _ _, rfl, by simp⟩

lemma resumeSleeper_moved {c : CallState V}
    (hmailbox : s.actors.mailbox i = .timerFire timer.id :: rest)
    (hfind : s.calls.timers.find? (fun other => other.id = timer.id) = some timer)
    (hcallback : timer.callback = .resume co)
    (hc : c = if timer.repeating then s.calls else s.calls.removeTimer timer.id) :
    Moved s (.receive i look) (s.resumed (.actor i) [] .sleepTimer (c.resumeSleeper co)) := by
  have htimer : timer ∈ s.calls.timers := List.mem_of_find?_eq_some hfind
  have hcoroutines : c.coroutines = s.calls.coroutines := by
    rw [hc]
    split <;> rfl
  have hsame : c.resumable co = s.calls.resumable co := by
    simp only [CallState.resumable, hcoroutines]
  have hkept : ∀ co' vm, Active s.calls co' vm → Active c co' vm := by
    intro co' vm hactive
    simpa only [Active, hcoroutines] using hactive
  apply moved_resumed rfl
  · intro co' vm hresumed
    unfold CallState.resumeSleeper at hresumed ⊢
    cases hresumable : c.resumable co with
    | none => simp [hresumable] at hresumed
    | some waiting =>
      obtain ⟨wait, vm'⟩ := waiting
      simp only [hresumable, Option.some.injEq, Prod.mk.injEq] at hresumed ⊢
      obtain ⟨rfl, rfl⟩ := hresumed
      refine ⟨?_, active_setStatus_resumable hresumable⟩
      rw [hsame] at hresumable
      refine .wake i timer co wait vm' rfl hready hempty htimer (by simp [hmailbox]) hcallback
        hresumable ?_
      simp [wakes, hmailbox, hfind, hcallback, hresumable]
  · exact hempty ▸ keep_move
  · rw [hc]
    exact .wake timer co htimer hcallback
  · intro co' vm hactive
    left
    unfold CallState.resumeSleeper
    split
    · exact active_setStatus (hkept co' vm hactive) (by simp)
    · exact hkept co' vm hactive

lemma callTimeout_moved
    (hmailbox : s.actors.mailbox i = .callTimeout session :: rest) :
    Moved s (.receive i look) ((taken s i rest).callTimeout i session) := by
  have hanswers : answers s (.receive i look) = some (.timeout session, session) := by
    simp only [answers, hmailbox]
  let cancelled : CallState V := { s.calls with
    callTimeouts := Function.update s.calls.callTimeouts session none }
  have hmoved : Moved s (.receive i look) (s.resumed (.actor i) [] .timeout
      (cancelled.resumeCaller (.timeout session) session false [])) := by
    apply moved_resumed rfl
    · intro co vm hresumed
      rw [CallState.resumeCaller_snd] at hresumed
      have hmove := StackMove.answer (s := s) (t := .actor i) (.timeout session) session co vm
        .timeout [] [] hanswers hresumed (.inr rfl) (hempty ▸ .keep) (by rw [hempty]) (by simp)
        (.inl ⟨hempty, i, rfl, hready⟩)
      exact ⟨hmove, active_resumee hresumed _ _ _⟩
    · exact hempty ▸ keep_move
    · exact .timeout session hanswers
    · intro co vm hactive
      have hcancelled : Active cancelled co vm := hactive
      exact .inl (active_resumeCaller hcancelled _ _ _ _)
  exact { hmoved with mail := fun _ _ h => .inl (mem_taken hmailbox h) }

lemma mailCase_moved
    (hmailbox : s.actors.mailbox i = mail :: rest)
    (h : MailCase (taken s i rest) i look mail next) : Moved s (.receive i look) next := by
  have hmail : mail ∈ s.actors.mailbox i := by simp [hmailbox]
  cases h with
  | dropped => exact moved_taken hmailbox
  | rejected look mail request args how hasks hrejection =>
    exact { moved_received look hmailbox (.rejected i (s.actors.serviceOf i) rfl hready hempty) with
      calls := .reject request how (by cases hrejection <;> simp) }
  | fallback mail request args vm hasks hservice =>
    exact moved_received _ hmailbox (.fallback i vm request rfl hready hempty hservice)
  | start mail request args vm co hasks hservice hco =>
    exact start_moved hready hempty hmailbox hasks.session_ne_zero hservice hco
  | wake look timerId timer co hfind hcallback =>
    have hid : timer.id = timerId := by simpa using List.find?_some hfind
    subst hid
    exact { resumeSleeper_moved (s := s) hready hempty hmailbox hfind hcallback rfl with
      mail := fun _ _ h => .inl (mem_taken hmailbox h) }
  | fire look timerId timer vm hfind hcallback =>
    have hid : timer.id = timerId := by simpa using List.find?_some hfind
    subst hid
    have hstack := CodeMove.fired (l := .receive i look) i timer vm rfl hready hempty
      (List.mem_of_find?_eq_some hfind) hmail hcallback
    split
    · exact moved_received look hmailbox hstack
    · exact { moved_received look hmailbox hstack with calls := .quiet _ (.filterTimers _ _) }
  | callTimeout => exact callTimeout_moved hready hempty hmailbox
  | forked look taskId task hfind =>
    have hid : task.id = taskId := by simpa using List.find?_some hfind
    subst hid
    have hstack := CodeMove.forked (l := .receive i look) i task rfl hready hempty
      (List.mem_of_find?_eq_some hfind) hmail
    refine { moved_received look hmailbox hstack with
      tasks := ?_, mail := fun _ _ h => .inl (mem_taken hmailbox h) }
    intro other hother
    exact .inl (List.mem_of_mem_filter hother)

end

lemma tick_moved {timerId : Nat}
    (hfind : s.calls.timers.find? (fun timer => timer.id = timerId) = some timer) :
    Moved s l { s with actors := s.actors.post timer.target (.timerFire timerId) } := by
  refine { moved_keep s l with mail := ?_ }
  intro i mail hmail
  rcases mem_post hmail with hmail | ⟨rfl, rfl⟩
  · exact .inl hmail
  · exact .inr ⟨timer, List.mem_of_find?_eq_some hfind, by simpa using List.find?_some hfind, rfl⟩

lemma tickTimeout_moved (ha : s.calls.callTimeouts session = some a) :
    Moved s l { s with
      actors := s.actors.post a (.callTimeout session)
      calls := { s.calls with
        callTimeouts := Function.update s.calls.callTimeouts session none } } := by
  refine { moved_keep s l with calls := .quiet _ (.cancelTimeout _ _), mail := ?_ }
  intro i mail hmail
  rcases mem_post hmail with hmail | ⟨rfl, rfl⟩
  · exact .inl hmail
  · exact .inr ha

lemma collect_moved {k : Coroutine} {wait : Wait} (hk : s.calls.coroutines co = some k)
    (hwait : k.status = .suspended wait) :
    Moved s (.collect co) { s with
      calls := { s.calls with coroutines := Function.update s.calls.coroutines co none } } := by
  have hco : s.calls.statusOf co = some (.suspended wait) := by
    simp [CallState.statusOf, hk, hwait]
  refine { moved_keep s _ with
    calls := .collect co wait rfl hco, released := ?_, entered := fun _ _ _ _ h => .inl h }
  rintro co' vm ⟨k', hk', hvm, hactive⟩
  have hne : co' ≠ co := by
    rintro rfl
    rw [hk] at hk'
    cases hk'
    exact hactive wait hwait
  exact .inl ⟨k', by simp [hne, hk'], hvm, hactive⟩

lemma terminate_moved (hexiting : s.actors.exiting i = true) (hstack : s.stack (.actor i) = []) :
    Moved s (.terminate i) { s with actors := s.actors.stop i } := by
  refine { moved_keep s _ with stopped := ?_, stoppedMono := fun j hj => stop_stopped i hj }
  intro j hj
  by_cases hji : j = i
  · subst hji
    exact .inr (.inl ⟨rfl, hexiting, hstack⟩)
  · exact .inl (by simpa [Actors.stop, hji] using hj)

/-- Every step of the manager is a move. -/
theorem step_moved (h : s.step l = some next) : Moved s l next := by
  cases step_case h with
  | coroutine t vm co source rest op next hstack h => exact coroutineCase_moved hstack h
  | api t vm entry rest op next hstack hcan h => exact apiCase_moved hstack hcan h
  | cpp t cont rest next hstack h => exact cppCase_moved hstack h
  | scope t frame rest hstack | loadFails t name rest hstack =>
    exact moved_setStack rfl (pop_move hstack rfl)
  | receive i look mail mails next hready hstack hmailbox h =>
    exact mailCase_moved hready hstack hmailbox h
  | tick timerId timer hfind => exact tick_moved hfind
  | tickTimeout session a ha => exact tickTimeout_moved ha
  | wake t session rest hstack | giveUp t session rest hstack =>
    exact endWait_moved rfl rfl hstack
  | command n command next hstack h => exact commandCase_moved hstack h
  | terminate i hexiting hstack => exact terminate_moved hexiting hstack
  | collect co k wait hk hwait => exact collect_moved hk hwait

end ShieldRuntime.Proofs
