import ShieldRuntime.Proofs.CallWakeup
import ShieldRuntime.Proofs.SpawnedInstances

/-!
# Isolation of the Lua VMs

Lua code of a VM is entered on the actor of its instance, by a spawn, by `exit` and by
`resume_caller`. `Isolated` collects what holds of a manager as long as its steps are `Confined`.
-/

namespace ShieldRuntime.Proofs
open Lua Library

section

variable {V : Type}

variable {frame : Frame} {rest : List Frame} {t : Thread} {entry : Entry} {co : Nat}
  {vm i : Instance}

def spawns (s : State V) : Label V → Option ServiceId
  | .cont t =>
    match s.stack t with
    | .cpp (.spawnCreate name) :: _ => some name
    | _ => none
  | _ => none

def exits (s : State V) : Label V → Option Instance
  | .cont t =>
    match s.stack t with
    | .cpp (.exit id) :: _ => s.registry.services id
    | _ => none
  | _ => none

def answered (s : State V) (l : Label V) : Option Instance :=
  match answers s l with
  | some (.timeout _, _) => none
  | some (_, session) => (s.calls.resumee session).map Prod.snd
  | none => none

/-- A name is spawned again after its actor is gone; exits and answers stay in their own actor. -/
def Confined (s : State V) (l : Label V) : Prop :=
  (∀ name ∈ spawns s l, ∀ i < s.actors.nextInstance,
      s.actors.serviceOf i = name → s.actors.stopped i = true) ∧
    (∀ t ∈ actingThread l, ∀ vm ∈ exits s l, t = .actor vm) ∧
    (∀ t ∈ actingThread l, ∀ vm ∈ answered s l, t = .actor vm) ∧
    ∀ co ∈ startsAt l, Unreferenced s.calls co

instance (s : State V) (l : Label V) : Decidable (Confined s l) :=
  inferInstanceAs (Decidable (_ ∧ _ ∧ _ ∧ _))

def OwnThread (a : Actors V) (t : Thread) (name : ServiceId) : Prop :=
  ∃ i, t = .actor i ∧ Named a i name

/-- Code other than the init hook runs on its own actor's thread. -/
def AtHome (a : Actors V) (t : Thread) : Frame → Prop
  | .lua vm entry => entry ≠ .onInit → t = .actor vm
  | .cpp (.invokeErrorHook id) | .cpp (.exitTimers id) | .cpp (.exitTimeouts id)
  | .cpp (.exitErase id) => OwnThread a t id
  | _ => True

/-- Nothing runs in the instance or leads to it. -/
structure Retired (s : State V) (i : Instance) : Prop where
  spawned : ∃ name, Named s.actors i name
  idle : s.stack (.actor i) = []
  token : ∀ t, .spawn i ∉ tokens (s.stack t)
  service : s.registry.services (s.actors.serviceOf i) ≠ some i
  actor : s.registry.serviceActors (s.actors.serviceOf i) ≠ some i

/-- Each VM is run by its own actor alone. -/
structure Isolated (s : State V) : Prop where
  framed : Framed true s
  distinct : ∀ i j name, Named s.actors i name → Named s.actors j name →
    s.actors.stopped i = false → s.actors.stopped j = false → i = j
  homes : ∀ t, ∀ frame ∈ s.stack t, AtHome s.actors t frame
  spawned : Spawned s
  exiting : ∀ i, s.actors.exiting i = true → s.actors.ready i = true ∧
    s.registry.services (s.actors.serviceOf i) ≠ some i ∧
      s.registry.serviceActors (s.actors.serviceOf i) ≠ some i
  stopped : ∀ i, s.actors.stopped i = true → Retired s i
  timers : ∀ timer ∈ s.calls.timers, ∀ vm, timer.callback = .lua vm → vm = timer.target
  tasks : ∀ i id, .forkTask id ∈ s.actors.mailbox i → ∀ task ∈ s.tasks, task.id = id → task.vm = i
  sleepers : ∀ timer ∈ s.calls.timers, ∀ co vm, timer.callback = .resume co →
    vmOf s.calls co = some vm → vm = timer.target
  timeouts : ∀ i n, s.calls.callTimeouts n = some i ∨ .callTimeout n ∈ s.actors.mailbox i →
    n < s.calls.nextCallSession ∧ ∀ pending vm, s.calls.pendingCalls n = some pending →
      vmOf s.calls pending.callerCo = some vm → vm = i

section

variable {s next : State V} {l : Label V} {a a' : Actors V} {cause : Cause} {session : Nat}

namespace Isolated

variable {id : ServiceId}

variable (h : Isolated s)
include h

lemma live (hnot : ¬ Retired s i) : s.actors.stopped i = false := by
  by_contra hne
  rw [Bool.not_eq_false] at hne
  exact hnot (h.stopped i hne)

lemma live_service (hservice : s.registry.services id = some vm) :
    s.actors.stopped vm = false := by
  apply h.live
  intro hretired
  apply hretired.service
  rw [(h.framed.services id vm hservice).serviceOf]
  exact hservice

lemma live_actor (hactor : s.registry.serviceActors id = some i) :
    s.actors.stopped i = false := by
  apply h.live
  intro hretired
  apply hretired.actor
  rw [(h.framed.serviceActors id i hactor).serviceOf]
  exact hactor

lemma live_top (hstack : s.stack (.actor i) = frame :: rest) : s.actors.stopped i =
    false := by
  apply h.live
  intro hretired
  rw [hretired.idle] at hstack
  cases hstack

lemma live_lua (hmem : .lua vm entry ∈ s.stack t) :
    s.actors.stopped vm = false := by
  apply h.live
  intro hretired
  by_cases hinit : entry = .onInit
  · subst hinit
    exact hretired.token t (mem_tokens hmem rfl)
  have hhome : t = .actor vm := h.homes t _ hmem hinit
  rw [hhome, hretired.idle] at hmem
  cases hmem

end Isolated

lemma completes_cause {c : CallState V} {source : Source}
    (h : completes c co source = some (cause, session)) (n : Nat) : cause ≠ .timeout n := by
  cases hk : c.coroutines co with
  | none => simp [completes, hk] at h
  | some =>
    rw [(completes_eq_some hk h).1]
    simp

lemma answers_cases (h : answers s l = some (cause, session)) :
    (∃ i look, l = .receive i look ∧ .callTimeout session ∈ s.actors.mailbox i) ∨
      (∀ n, cause ≠ .timeout n) ∧ ∃ t vm co source rest, actingThread l = some t ∧
        s.stack t = .lua vm (.handler co source) :: rest := by
  revert h
  fun_cases answers s l
  case case1 hstack =>
    intro h
    exact .inr ⟨completes_cause h, _, _, _, _, _, rfl, hstack⟩
  all_goals rintro ⟨⟩
  · exact .inr ⟨by simp, _, _, _, _, _, rfl, ‹_›⟩
  · exact .inl ⟨_, _, rfl, by simp [*]⟩

lemma answered_eq (hanswers : answers s l = some (cause, session))
    (hcause : ∀ n, cause ≠ .timeout n) (hresumee : s.calls.resumee session = some (co, vm)) :
    answered s l = some vm := by
  unfold answered
  rw [hanswers]
  cases cause with
  | timeout n => exact absurd rfl (hcause n)
  | handler | sendFailure => simp [hresumee]

lemma receive_idle {look : MethodLookup} (h : s.step (.receive i look) = some next) :
    s.stack (.actor i) = [] := by
  cases step_case h with
  | receive i look mail mails next hready hstack => exact hstack

lemma Isolated.home_top (h : Isolated s) (hstack : s.stack t = .lua vm entry :: rest)
    (hentry : entry ≠ .onInit) : t = .actor vm :=
  h.homes t (.lua vm entry) (by simp [hstack]) hentry

lemma Isolated.resumes_fit (h : Isolated s) (hgood : Confined s l) (hstep : s.step l = some next) :
    ∀ t ∈ actingThread l, ∀ vm ∈ resumes s l,
      Fits true (currentServiceId (s.stack t)) (s.actors.serviceOf vm) := by
  intro t ht vm hvm
  have hidle : (∃ i look, l = .receive i look) →
      Fits true (currentServiceId (s.stack t)) (s.actors.serviceOf vm) := by
    rintro ⟨i, look, rfl⟩
    cases ht
    rw [receive_idle hstep]
    exact .inr ⟨rfl, rfl⟩
  have hvm : resumes s l = some vm := hvm
  unfold resumes at hvm
  split at hvm
  · rename_i cause session hanswers
    obtain ⟨⟨co, vm'⟩, hresumee, rfl⟩ := Option.map_eq_some_iff.mp hvm
    rcases answers_cases hanswers with
      ⟨i, look, hl, -⟩ | ⟨hcause, t', caller, co', source, rest, ht', hstack⟩
    · exact hidle ⟨i, look, hl⟩
    · have heq : t' = t := by
        have ht : actingThread l = some t := ht
        rw [ht'] at ht
        exact Option.some.inj ht
      subst heq
      have hhome : t' = .actor vm' := hgood.2.2.1 t' ht vm' (answered_eq hanswers hcause hresumee)
      have hcaller : t' = .actor caller := h.home_top hstack (by simp)
      have hsame : vm' = caller := by simpa [hhome] using hcaller
      obtain ⟨name, hname, -, hfits⟩ := h.framed.top hstack
      rw [hsame, hname.serviceOf, hstack]
      exact hfits
  · obtain ⟨i, look, _, _, _, _, _, hl, -⟩ := wakes_eq_some hvm
    exact hidle ⟨i, look, hl⟩

lemma ownThread_mono {name : ServiceId} (hnames : ∀ i name, Named a i name → Named a' i name)
    (h : OwnThread a t name) : OwnThread a' t name := by
  obtain ⟨i, ht, hname⟩ := h
  exact ⟨i, ht, hnames i name hname⟩

lemma atHome_mono (hnames : ∀ i name, Named a i name → Named a' i name) (h : AtHome a t frame) :
    AtHome a' t frame := by
  cases frame with
  | scope => trivial
  | lua => exact h
  | cpp cont =>
    cases cont with
    | invokeErrorHook | exitTimers | exitTimeouts | exitErase =>
      exact ownThread_mono hnames h
    | _ => trivial

lemma atHome_neutral {cont : Cont} (h : Neutral cont) : AtHome a t (.cpp cont) := by
  cases cont with
  | invokeErrorHook | exitTimers | exitTimeouts | exitErase => exact h.elim
  | _ => trivial

lemma Isolated.dispatch_eq (h : Isolated s) (hready : Receives s.actors i)
    (hservice : s.registry.services (s.actors.serviceOf i) = some vm) : vm = i := by
  obtain ⟨name, hname⟩ := h.framed.ready i hready.1
  have hvm := h.framed.services _ vm hservice
  rw [hname.serviceOf] at hvm
  exact h.distinct vm i name hvm hname (h.live_service hservice) hready.2

lemma Isolated.homes_stackMove (h : Isolated s) (hgood : Confined s l) (hmoved : Moved s l next)
    {frames : List Frame} (ht : actingThread l = some t) (hmove : StackMove s l t frames) :
    ∀ frame ∈ frames, AtHome next.actors t frame := by
  intro frame hmem
  rcases hmove.mem hmem with hold | hframe
  · exact atHome_mono hmoved.named (h.homes t frame hold)
  cases hframe with
  | create => exact fun hentry => absurd rfl hentry
  | answer cause session co vm source hanswers hresumee =>
    rintro -
    rcases answers_cases hanswers with ⟨i, look, rfl, hmail⟩ | ⟨hcause, -⟩
    · cases ht
      obtain ⟨-, pending, hpending, rfl, wait, hresumable⟩ := CallState.resumee_eq_some hresumee
      obtain ⟨k, hk, -, rfl⟩ := CallState.resumable_eq_some.mp hresumable
      rw [(h.timeouts i session (.inr hmail)).2 pending k.vm hpending (vmOf_eq hk)]
    · exact hgood.2.2.1 t ht vm (answered_eq hanswers hcause hresumee)
  | wake i timer co wait vm ht htimer hmail hcallback hresumable =>
    obtain ⟨k, hk, -, rfl⟩ := CallState.resumable_eq_some.mp hresumable
    have htarget : timer.target = i := (h.framed.mail i _ hmail).2 timer htimer rfl
    have hvm := h.sleepers timer htimer co k.vm hcallback (vmOf_eq hk)
    simp [AtHome, ht, hvm, htarget]
  | dispatched i vm co ht hready hservice => simp [AtHome, ht, h.dispatch_eq hready hservice]
  | code frame hcode =>
    cases hcode with
    | neutral cont hcont => exact atHome_neutral hcont
    | report vm entry id rest hstack hreports =>
      obtain ⟨name, hname, hentry, -⟩ := h.framed.top hstack
      refine ⟨vm, ?_, ?_⟩
      · apply h.home_top hstack
        rintro rfl
        exact hreports
      · rw [reports_eq hreports hentry]
        exact hmoved.named _ _ hname
    | errorHook id vm rest hstack hservice =>
      obtain ⟨i, rfl, hname⟩ := h.homes t (.cpp (.invokeErrorHook id)) (by simp [hstack])
      rw [h.distinct vm i id (h.framed.services id vm hservice) hname (h.live_service hservice)
        (h.live_top hstack)]
      exact fun _ => rfl
    | panic vm id rest hstack => exact fun _ => h.home_top hstack (by simp)
    | exit id vm rest hstack hservice hl =>
      have hexits : exits s l = some vm := by simp only [hl, exits, hstack, hservice]
      exact fun _ => hgood.2.1 t ht vm hexits
    | exitStage top cont id rest hstack hstage =>
      have htop := h.homes t top (by simp [hstack])
      cases hstage with
      | timers vm id =>
        obtain ⟨name, hname, hentry, -⟩ := h.framed.top hstack
        have hid : id = name := hentry
        exact ⟨vm, htop (by simp), hid ▸ hmoved.named _ _ hname⟩
      | timeouts | erase => exact ownThread_mono hmoved.named htop
    | fallback i vm request ht hready hservice => simp [AtHome, ht, h.dispatch_eq hready hservice]
    | fired i timer vm ht htimer hmail hcallback =>
      have htarget : timer.target = i := (h.framed.mail i _ hmail).2 timer htimer rfl
      simp [AtHome, ht, h.timers timer htimer vm hcallback, htarget]
    | forked i task ht htask hmail => simp [AtHome, ht, h.tasks i _ hmail task htask rfl]
    | _ => trivial

lemma Moved.live (hmoved : Moved s l next) (h : next.actors.stopped i = false) :
    s.actors.stopped i = false := by
  by_contra hne
  rw [Bool.not_eq_false] at hne
  rw [hmoved.stoppedMono i hne] at h
  cases h

lemma Isolated.distinct_moved (h : Isolated s) (hgood : Confined s l) (hmoved : Moved s l next)
    (i j : Instance) (name : ServiceId) (hi : Named next.actors i name)
    (hj : Named next.actors j name) (hlive : next.actors.stopped i = false)
    (hlive' : next.actors.stopped j = false) : i = j := by
  rcases hmoved.names with ⟨hnext, hnames⟩ | ⟨t, created, rest, hl, hstack, hnext, hnames⟩
  · have hback : ∀ k, Named next.actors k name → Named s.actors k name := by
      intro k hk
      exact ⟨hnext ▸ hk.spawned, hnames ▸ hk.serviceOf, hk.nonempty⟩
    exact h.distinct i j name (hback i hi) (hback j hj) (hmoved.live hlive) (hmoved.live hlive')
  · -- the new instance is the last one, and earlier ones with its name have stopped
    have hspawns : spawns s l = some created := by simp only [hl, spawns, hstack]
    have hback : ∀ k, Named next.actors k name → next.actors.stopped k = false →
        (Named s.actors k name ∧ name ≠ created) ∨ (k = s.actors.nextInstance ∧ name = created) := by
      intro k hk hlive
      have hbound := hk.spawned
      have hname := hk.serviceOf
      rw [hnext] at hbound
      rw [hnames] at hname
      by_cases hnew : k = s.actors.nextInstance
      · rw [hnew, Function.update_self] at hname
        exact .inr ⟨hnew, hname.symm⟩
      rw [Function.update_of_ne hnew] at hname
      have hold : k < s.actors.nextInstance := lt_of_le_of_ne (Nat.lt_succ_iff.mp hbound) hnew
      refine .inl ⟨⟨hold, hname, hk.nonempty⟩, ?_⟩
      rintro rfl
      have hstopped := hgood.1 name hspawns k hold hname
      rw [hmoved.live hlive] at hstopped
      cases hstopped
    rcases hback i hi hlive with ⟨hi, hne⟩ | ⟨hi, heq⟩
    · rcases hback j hj hlive' with ⟨hj, -⟩ | ⟨-, heq⟩
      · exact h.distinct i j name hi hj (hmoved.live hlive) (hmoved.live hlive')
      · exact absurd heq hne
    · rcases hback j hj hlive' with ⟨-, hne⟩ | ⟨hj, -⟩
      · exact absurd heq hne
      · exact hi.trans hj.symm

end

end

variable {V : Type}

section

variable {s next : State V} {l : Label V} {vm i : Instance} {id name : ServiceId} {entry : Entry}
  {t : Thread}

lemma Isolated.executing_vm (h : Isolated s) {c : CallState V} (hmove : CallMove s l c)
    {vm' : Instance} {co : Nat} {source : Source} (hruns : Executes s vm (.handler co source) id)
    (hvm : vmOf c co = some vm') : vm' = vm := by
  obtain ⟨t, rest, hstack, -⟩ := hruns
  obtain ⟨k, hk, hkvm, -⟩ := h.spawned.running t vm co source (by simp [hstack])
  rcases vmOf_callMove hmove hvm with hold | ⟨-, hnone, -⟩
  · rw [vmOf_eq hk, hkvm] at hold
    exact (Option.some.inj hold).symm
  · rw [hk] at hnone
    cases hnone

lemma Isolated.actorOf_eq (h : Isolated s) (hruns : Executes s vm entry id)
    (hactor : s.actorOf id = some i) : vm = i := by
  obtain ⟨hid, hactor⟩ := actorOf_eq_some hactor
  have hvm := h.framed.executes hruns hid
  obtain ⟨t, rest, hstack, -⟩ := hruns
  have hmem : .lua vm entry ∈ s.stack t := by simp [hstack]
  exact h.distinct vm i id hvm (h.framed.serviceActors id i hactor) (h.live_lua hmem)
    (h.live_actor hactor)

lemma Isolated.sleepers_moved (h : Isolated s) (hgood : Confined s l) (hmoved : Moved s l next)
    (timer : ActorTimer) (htimer : timer ∈ next.calls.timers) (co : Nat) (vm : Instance)
    (hcallback : timer.callback = .resume co) (hvm : vmOf next.calls co = some vm) :
    vm = timer.target := by
  have hold : timer ∈ s.calls.timers → vm = timer.target := by
    intro hmem
    rcases vmOf_callMove hmoved.calls hvm with hbefore | ⟨hstart, -, -⟩
    · exact h.sleepers timer hmem co vm hcallback hbefore
    · exact absurd hcallback ((hgood.2.2.2 co hstart).2 timer hmem)
  rcases timers_callMove hmoved.calls with ⟨htimers, -⟩ | ⟨new, hnew, htimers, -⟩
  · exact hold (htimers timer htimer)
  rw [htimers] at htimer
  rcases List.mem_cons.mp htimer with rfl | hmem
  · obtain ⟨caller, entry, hruns, -, hlua | ⟨co', source, hresume, rfl⟩⟩ := hnew.callback
    · rw [hlua] at hcallback
      cases hcallback
    · rw [hresume] at hcallback
      cases hcallback
      rw [h.executing_vm hmoved.calls hruns hvm]
      exact h.actorOf_eq hruns hnew.target
  · exact hold hmem

lemma Isolated.timeouts_moved (h : Isolated s) (hgood : Confined s l) (hmoved : Moved s l next)
    (i : Instance) (n : Nat)
    (htimeout : next.calls.callTimeouts n = some i ∨ .callTimeout n ∈ next.actors.mailbox i) :
    n < next.calls.nextCallSession ∧ ∀ pending vm, next.calls.pendingCalls n = some pending →
      vmOf next.calls pending.callerCo = some vm → vm = i := by
  have hold : (s.calls.callTimeouts n = some i ∨ .callTimeout n ∈ s.actors.mailbox i) →
      n < s.calls.nextCallSession ∧ ∀ pending vm, s.calls.pendingCalls n = some pending →
        vmOf next.calls pending.callerCo = some vm → vm = i := by
    intro hbefore
    obtain ⟨hbound, hpending⟩ := h.timeouts i n hbefore
    refine ⟨hbound, ?_⟩
    intro pending vm hp hvm
    rcases vmOf_callMove hmoved.calls hvm with hvm | ⟨hstart, -, -⟩
    · exact hpending pending vm hp hvm
    · exact absurd rfl ((hgood.2.2.2 _ hstart).1 n hbound pending hp)
  have hmail : .callTimeout n ∈ next.actors.mailbox i →
      s.calls.callTimeouts n = some i ∨ .callTimeout n ∈ s.actors.mailbox i := by
    intro hmem
    rcases hmoved.mail i _ hmem with hmem | hnew
    · exact .inr hmem
    · exact .inl hnew
  rcases calls_callMove hmoved.calls with hkept | ⟨vm, co, source, id, target, hruns, -, hcalls⟩
  · have hbefore : s.calls.callTimeouts n = some i ∨ .callTimeout n ∈ s.actors.mailbox i := by
      rcases htimeout with htimeout | hmem
      · exact .inl (hkept.callTimeouts n i htimeout)
      · exact hmail hmem
    obtain ⟨hbound, hpending⟩ := hold hbefore
    rw [hkept.nextCallSession]
    exact ⟨hbound, fun pending vm hp => hpending pending vm (hkept.pendingCalls n pending hp)⟩
  · by_cases hn : n = s.calls.nextCallSession
    · -- the call that is being made; a message about its session cannot be there yet
      subst hn
      have hactor : s.actorOf id = some i := by
        rcases htimeout with htimeout | hmem
        · simpa [hcalls, CallState.suspendForCall] using htimeout
        · exact absurd (hold (hmail hmem)).1 (lt_irrefl _)
      refine ⟨by rw [hcalls]; exact Nat.lt_succ_self _, ?_⟩
      intro pending vm' hp hvm
      have hcaller : pending.callerCo = co := by
        have hpending : { callerCo := co, callerService := id } = pending := by
          simpa [hcalls, CallState.suspendForCall] using hp
        rw [← hpending]
      rw [hcaller] at hvm
      rw [h.executing_vm hmoved.calls hruns hvm]
      exact h.actorOf_eq hruns hactor
    · have hbefore : s.calls.callTimeouts n = some i ∨ .callTimeout n ∈ s.actors.mailbox i := by
        rcases htimeout with htimeout | hmem
        · exact .inl (by simpa [hcalls, CallState.suspendForCall, hn] using htimeout)
        · exact hmail hmem
      obtain ⟨hbound, hpending⟩ := hold hbefore
      refine ⟨by rw [hcalls]; exact Nat.lt_succ_of_lt hbound, ?_⟩
      intro pending vm' hp
      apply hpending pending vm'
      simpa [hcalls, CallState.suspendForCall, hn] using hp

lemma Moved.service_ne (hmoved : Moved s l next) (hname : Named s.actors i name)
    (htoken : ∀ t, .spawn i ∉ tokens (s.stack t))
    (hne : s.registry.services (s.actors.serviceOf i) ≠ some i) :
    next.registry.services (next.actors.serviceOf i) ≠ some i := by
  intro hservice
  rcases hmoved.services _ i hservice with hold | ⟨t, exitAfterInit, rest, -, hstack, -⟩
  · rw [hmoved.serviceOf_eq hname] at hold
    exact hne hold
  · exact htoken t (mem_tokens_top hstack rfl)

lemma Moved.actor_ne (hmoved : Moved s l next) (hname : Named s.actors i name)
    (hne : s.registry.serviceActors (s.actors.serviceOf i) ≠ some i) :
    next.registry.serviceActors (next.actors.serviceOf i) ≠ some i := by
  intro hactor
  rcases hmoved.serviceActors _ i hactor with hold | ⟨rfl, -⟩
  · rw [hmoved.serviceOf_eq hname] at hold
    exact hne hold
  · exact lt_irrefl _ hname.spawned

lemma Isolated.ready_token (h : Isolated s) (hready : s.actors.ready i = true) (t : Thread) :
    .spawn i ∉ tokens (s.stack t) := by
  intro hmem
  rw [h.spawned.spawning t i hmem] at hready
  cases hready

lemma Isolated.exiting_moved (h : Isolated s) (hmoved : Moved s l next) (i : Instance)
    (hexiting : next.actors.exiting i = true) : next.actors.ready i = true ∧
      next.registry.services (next.actors.serviceOf i) ≠ some i ∧
        next.registry.serviceActors (next.actors.serviceOf i) ≠ some i := by
  rcases hmoved.exiting i hexiting with hold | ⟨t, id, rest, hstack, hactor, hservice, hactor'⟩
  · obtain ⟨hready, hne, hne'⟩ := h.exiting i hold
    obtain ⟨name, hname⟩ := h.framed.ready i hready
    exact ⟨hmoved.readyMono i hready, hmoved.service_ne hname (h.ready_token hready) hne,
      hmoved.actor_ne hname hne'⟩
  · -- `exit` runs on the actor that it asks to stop
    have hname := h.framed.serviceActors id i hactor
    obtain ⟨j, rfl, hj⟩ := h.homes t (.cpp (.exitErase id)) (by simp [hstack])
    have hsame : j = i := h.distinct j i id hj hname (h.live_top hstack) (h.live_actor hactor)
    subst hsame
    have hready : s.actors.ready j = true := by
      by_contra hne
      rw [h.spawned.idle j (Bool.not_eq_true _ ▸ hne)] at hstack
      cases hstack
    rw [(hmoved.named j id hname).serviceOf, hservice, hactor']
    exact ⟨hmoved.readyMono j hready, by simp, by simp⟩

lemma Retired.moved (hmoved : Moved s l next) (hretired : Retired s i)
    (hstopped : s.actors.stopped i = true ∨ actingThread l = none) : Retired next i := by
  obtain ⟨name, hname⟩ := hretired.spawned
  exact {
    spawned := ⟨name, hmoved.named i name hname⟩
    idle := by
      rcases hstopped with hstopped | hl
      · apply hmoved.idle hretired.idle
        rintro ⟨-, hlive⟩
        rw [hstopped] at hlive
        cases hlive
      · rw [hmoved.others _ (by simp [hl])]
        exact hretired.idle
    token := by
      intro t hmem
      rcases hmoved.spawn_held hmem with hmem | rfl
      · exact hretired.token t hmem
      · exact lt_irrefl _ hname.spawned
    service := hmoved.service_ne hname hretired.token hretired.service
    actor := hmoved.actor_ne hname hretired.actor }

section

variable (h : Isolated s) (hmoved : Moved s l next)
include h hmoved

lemma Isolated.retired_failed {top : Frame}
    {rest : List Frame} (hl : actingThread l = some t) (hstack : s.stack t = top :: rest)
    (hi : Unpublished i top) (hname : Named s.actors i name) (hrest : next.stack t <:+ rest)
    (hactor : next.registry.serviceActors name = none) : Retired next i := by
  have htoken := unpublished_token hi
  have hready : s.actors.ready i = false := h.spawned.spawning t i (mem_tokens_top hstack htoken)
  have hgone := h.spawned.gone hmoved hl hstack htoken hrest
  exact {
    spawned := ⟨name, hmoved.named i name hname⟩
    idle := by
      apply hmoved.idle (h.spawned.idle i hready)
      rintro ⟨hready', -⟩
      rw [hready] at hready'
      cases hready'
    token := hgone
    service := by
      intro hservice
      rcases hmoved.services _ i hservice with hold | ⟨t', exitAfterInit, rest', -, -, hnext⟩
      · rw [hmoved.serviceOf_eq hname] at hold
        exact h.spawned.unpublished t i top (by simp [hstack]) hi hold
      · exact hgone t' (mem_tokens_top hnext rfl)
    actor := by
      rw [(hmoved.named i name hname).serviceOf, hactor]
      simp }

lemma Isolated.stopped_moved (i : Instance)
    (hstopped : next.actors.stopped i = true) : Retired next i := by
  rcases hmoved.stopped i hstopped with hold | ⟨rfl, hexiting, hempty⟩ |
      ⟨t, top, name, rest, hl, hstack, htop, hrest, hactor⟩
  · exact Retired.moved hmoved (h.stopped i hold) (.inl hold)
  · obtain ⟨hready, hservice, hactor⟩ := h.exiting i hexiting
    have hretired : Retired s i :=
      ⟨h.framed.ready i hready, hempty, h.ready_token hready, hservice, hactor⟩
    exact Retired.moved hmoved hretired (.inr rfl)
  · have hfits := h.framed.top hstack
    rcases htop with ⟨rfl, rfl⟩ | ⟨exitAfterInit, rfl⟩
    · obtain ⟨name, hname, -⟩ := hfits
      refine h.retired_failed hmoved hl hstack (.inl rfl) ?_ hrest hactor
      rwa [hname.serviceOf]
    · exact h.retired_failed hmoved hl hstack (.inr ⟨name, exitAfterInit, rfl⟩) hfits hrest hactor

lemma Isolated.timers_moved (timer : ActorTimer)
    (htimer : timer ∈ next.calls.timers) (vm : Instance) (hcallback : timer.callback = .lua vm) :
    vm = timer.target := by
  rcases timers_callMove hmoved.calls with ⟨htimers, -⟩ | ⟨new, hnew, htimers, -⟩
  · exact h.timers timer (htimers timer htimer) vm hcallback
  rw [htimers] at htimer
  rcases List.mem_cons.mp htimer with rfl | hmem
  · obtain ⟨caller, entry, hruns, -, hlua | ⟨co, source, hresume, rfl⟩⟩ := hnew.callback
    · rw [hlua] at hcallback
      cases hcallback
      exact h.actorOf_eq hruns hnew.target
    · rw [hresume] at hcallback
      cases hcallback
  · exact h.timers timer hmem vm hcallback

lemma Isolated.tasks_moved (i : Instance) (id : Nat)
    (hmail : .forkTask id ∈ next.actors.mailbox i) (task : ForkedTask) (htask : task ∈ next.tasks)
    (hid : task.id = id) : task.vm = i := by
  rcases hmoved.mail i _ hmail with hmail | ⟨hnew, -, name, hactor, hnames⟩
  · rcases hmoved.tasks task htask with htask | ⟨hnext, -⟩
    · exact h.tasks i id hmail task htask hid
    · have hbound : id < s.nextTaskId := (h.framed.mail i _ hmail).1
      omega
  · have hold : task ∉ s.tasks := by
      intro hmem
      have hbound := (h.framed.tasks task hmem).1
      omega
    rcases hmoved.tasks task htask with htask | ⟨-, -, hne, -, entry, hruns⟩
    · exact absurd htask hold
    rcases hnames task htask with htask | hname
    · exact absurd htask hold
    · apply h.actorOf_eq hruns
      simp [State.actorOf, hname ▸ hne, hname, hactor]

end

theorem isolated_step (h : Isolated s) (hgood : Confined s l) (hstep : s.step l = some next) :
    Isolated next := by
  have hmoved := step_moved hstep
  exact {
    framed := framed_moved h.framed hmoved (h.resumes_fit hgood hstep)
    distinct := h.distinct_moved hgood hmoved
    homes := by
      intro t
      by_cases hl : actingThread l = some t
      · exact h.homes_stackMove hgood hmoved hl (hmoved.stack t hl)
      · rw [hmoved.others t hl]
        exact fun frame hmem => atHome_mono hmoved.named (h.homes t frame hmem)
    spawned := spawned_moved h.spawned hmoved
    exiting := h.exiting_moved hmoved
    stopped := h.stopped_moved hmoved
    timers := h.timers_moved hmoved
    tasks := h.tasks_moved hmoved
    sleepers := h.sleepers_moved hgood hmoved
    timeouts := h.timeouts_moved hgood hmoved }

lemma isolated_init : Isolated ({} : State V) where
  framed := framed_init true
  distinct i j name hi _ := absurd hi.spawned (Nat.not_lt_zero i)
  homes _ _ h := nomatch h
  spawned := spawned_init
  exiting _ h := nomatch h
  stopped _ h := nomatch h
  timers _ h := nomatch h
  tasks _ _ h := nomatch h
  sleepers _ h := nomatch h
  timeouts i n h := by
    rcases h with h | h <;> cases h

lemma Isolated.thread_eq (h : Isolated s) {t' : Thread} {entry' : Entry}
    (hmem : .lua vm entry ∈ s.stack t) (hmem' : .lua vm entry' ∈ s.stack t') : t = t' := by
  have hmixed : ∀ {t t' entry}, Frame.lua vm .onInit ∈ s.stack t → .lua vm entry ∈ s.stack t' →
      entry ≠ .onInit → False := by
    intro t t' entry hinit hother hentry
    -- `on_init` has not returned, so the actor of the instance is not ready and does nothing
    have hready : s.actors.ready vm = false := h.spawned.spawning t vm (mem_tokens hinit rfl)
    have hhome : t' = .actor vm := h.homes t' _ hother hentry
    rw [hhome, h.spawned.idle vm hready] at hother
    cases hother
  by_cases hinit : entry = .onInit
  · subst hinit
    by_cases hinit' : entry' = .onInit
    · subst hinit'
      exact h.spawned.exclusive.owner t t' (.spawn vm) (mem_tokens hmem rfl) (mem_tokens hmem' rfl)
    · exact (hmixed hmem hmem' hinit').elim
  · by_cases hinit' : entry' = .onInit
    · subst hinit'
      exact (hmixed hmem' hmem hinit).elim
    have hhome : t = .actor vm := h.homes t _ hmem hinit
    have hhome' : t' = .actor vm := h.homes t' _ hmem' hinit'
    exact hhome.trans hhome'.symm

end

def wokenRun : List (Label Nat) :=
  spawning "loop" ++
    [.command 0 (.send "loop" (some [])), .receive 0 (.function (some 3)),
      .coroutine (.actor 0) .sleep, .coroutine (.actor 0) .yield, .cont (.actor 0),
      .cont (.actor 0), .tick 1, .receive 0 .missing]

def sharedVmRun : List (Label Nat) :=
  nestedCallStart ++
    [.coroutine (.actor 0) .yield, .cont (.actor 0), .cont (.actor 0),
      .command 0 (.send "front" (some [])), .receive 0 (.function (some 5)),
      .receive 1 (.function (some 4)), .api (.actor 1) (.ret [9])]

end ShieldRuntime.Proofs
