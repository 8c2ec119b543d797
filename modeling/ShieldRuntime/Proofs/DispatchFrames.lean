import ShieldRuntime.Proofs.ManagerMoves

/-!
# Service names and dispatch frames

Instances are known by the name they were spawned under.
-/

namespace ShieldRuntime.Proofs

open Lua

variable {V : Type}

variable {vm : Instance} {entry : Entry} {frames rest : List Frame} {bare : Bool} {frame : Frame}

/-- The instance was spawned under the name. -/
structure Named (a : Actors V) (i : Instance) (name : ServiceId) : Prop where
  spawned : i < a.nextInstance
  serviceOf : a.serviceOf i = name
  nonempty : name ≠ ""

/-- The scope is the name's own, or empty where that is allowed. -/
def Fits (bare : Bool) (scope name : ServiceId) : Prop :=
  scope = name ∨ (bare = true ∧ scope = "")

/-- The entry point names no other service. -/
def EnteredFor (name : ServiceId) : Entry → Prop
  | .handler _ (.dispatch id) | .onExit id | .onError id | .onPanic id | .timer id
  | .fork id => id = name
  | _ => True

def FrameFits (bare : Bool) (a : Actors V) (scope : ServiceId) : Frame → Prop
  | .lua vm entry => ∃ name, Named a vm name ∧ EnteredFor name entry ∧ Fits bare scope name
  | .cpp (.invokeErrorHook id) => Fits bare scope id
  | .cpp (.spawnCreate name) => name ≠ ""
  | .cpp (.spawnPublish i name _) | .cpp (.spawnReady i name _) => Named a i name
  | _ => True

def Fitting (bare : Bool) (a : Actors V) (frames : List Frame) : Prop :=
  ∀ frame rest, frame :: rest <:+ frames → FrameFits bare a (currentServiceId rest) frame

def resumes (s : State V) (l : Label V) : Option Instance :=
  match answers s l with
  | some (_, session) => (s.calls.resumee session).map Prod.snd
  | none => wakes s l

/-- The timer and its actor are of one service. -/
structure TimerFits (s : State V) (timer : ActorTimer) : Prop where
  bound : timer.id < s.calls.nextTimerId
  target : Named s.actors timer.target timer.serviceId
  callback : ∀ vm, timer.callback = .lua vm → Named s.actors vm timer.serviceId

/-- Timer and task mails sit in their own actor's mailbox. -/
def MailFits (s : State V) (i : Instance) : Mail V → Prop
  | .timerFire id => id < s.calls.nextTimerId ∧
      ∀ timer ∈ s.calls.timers, timer.id = id → timer.target = i
  | .forkTask id => id < s.nextTaskId ∧
      ∀ task ∈ s.tasks, task.id = id → Named s.actors i task.serviceId
  | _ => True

/-- All frames, timers and mails belong to the service that they are attributed to. -/
structure Framed (bare : Bool) (s : State V) : Prop where
  services : ∀ id vm, s.registry.services id = some vm → Named s.actors vm id
  serviceActors : ∀ id a, s.registry.serviceActors id = some a → Named s.actors a id
  frames : ∀ t, Fitting bare s.actors (s.stack t)
  coroutines : ∀ co vm, vmOf s.calls co = some vm → ∃ name, Named s.actors vm name
  timers : ∀ timer ∈ s.calls.timers, TimerFits s timer
  timerIds : ∀ timer ∈ s.calls.timers, ∀ timer' ∈ s.calls.timers, timer.id = timer'.id →
    timer.target = timer'.target
  tasks : ∀ task ∈ s.tasks, task.id < s.nextTaskId ∧ Named s.actors task.vm task.serviceId
  mail : ∀ i, ∀ mail ∈ s.actors.mailbox i, MailFits s i mail
  ready : ∀ i, s.actors.ready i = true → ∃ name, Named s.actors i name

section

variable {a a' : Actors V}

lemma fitting_nil : Fitting bare a [] := by
  intro frame rest h
  simp at h

lemma forall_suffix_cons {P : Frame → List Frame → Prop} :
    (∀ top below, top :: below <:+ frame :: rest → P top below) ↔
      P frame rest ∧ ∀ top below, top :: below <:+ rest → P top below := by
  constructor
  · intro h
    exact ⟨h frame rest (List.suffix_refl _),
      fun top below hsuffix => h top below (hsuffix.trans (List.suffix_cons _ _))⟩
  · rintro ⟨hframe, hrest⟩ top below hsuffix
    rcases List.suffix_cons_iff.mp hsuffix with heq | hsuffix
    · cases heq
      exact hframe
    · exact hrest top below hsuffix

lemma fitting_cons :
    Fitting bare a (frame :: rest) ↔
      FrameFits bare a (currentServiceId rest) frame ∧ Fitting bare a rest :=
  forall_suffix_cons

lemma Fitting.suffix (h : Fitting bare a frames) (hsuffix : rest <:+ frames) :
    Fitting bare a rest :=
  fun frame' rest' hsuffix' => h frame' rest' (hsuffix'.trans hsuffix)

lemma Fitting.lua_mem (h : Fitting bare a frames)
    (hmem : .lua vm entry ∈ frames) : ∃ name, Named a vm name := by
  obtain ⟨above, rest, rfl⟩ := List.append_of_mem hmem
  obtain ⟨name, hname, -⟩ := h _ rest (List.suffix_append above _)
  exact ⟨name, hname⟩

lemma frameFits_mono {scope : ServiceId} (hnames : ∀ i name, Named a i name → Named a' i name)
    (h : FrameFits bare a scope frame) : FrameFits bare a' scope frame := by
  cases frame with
  | scope => trivial
  | lua vm =>
    obtain ⟨name, hvm, hentry, hscope⟩ := h
    exact ⟨name, hnames vm name hvm, hentry, hscope⟩
  | cpp cont =>
    cases cont with
    | spawnPublish i name | spawnReady i name => exact hnames i name h
    | invokeErrorHook | spawnCreate => exact h
    | _ => trivial

lemma Fitting.mono (hnames : ∀ i name, Named a i name → Named a' i name)
    (h : Fitting bare a frames) : Fitting bare a' frames :=
  fun frame rest hsuffix => frameFits_mono hnames (h frame rest hsuffix)

lemma frameFits_neutral {cont : Cont} (h : Neutral cont) (scope : ServiceId) :
    FrameFits bare a scope (.cpp cont) := by
  cases cont with
  | invokeErrorHook | spawnPublish | spawnReady =>
    exact h.elim
  | spawnCreate => exact h
  | _ => trivial

lemma Fitting.push (h : Fitting bare a rest) {conts : List Cont}
    (hconts : ∀ cont ∈ conts, Neutral cont) : Fitting bare a (conts.map .cpp ++ rest) := by
  induction conts with
  | nil => exact h
  | cons cont conts ih =>
    have hrest := ih (fun cont hmem => hconts cont (List.mem_cons_of_mem _ hmem))
    exact fitting_cons.mpr ⟨frameFits_neutral (hconts cont List.mem_cons_self) _, hrest⟩

lemma currentServiceId_push (conts : List Cont) (rest : List Frame) :
    currentServiceId (conts.map .cpp ++ rest) = currentServiceId rest := by
  induction conts with
  | nil => rfl
  | cons cont conts ih => exact ih

lemma currentServiceId_requestCurrentExit (rest : List Frame) :
    currentServiceId (requestCurrentExit rest) = currentServiceId rest := by
  induction rest with
  | nil => rfl
  | cons frame rest ih =>
    cases frame with
    | scope =>
      simp only [requestCurrentExit, currentServiceId, currentScope, Option.map_some,
        Option.getD_some]
      split <;> rfl
    | lua | cpp => exact ih

lemma Fitting.requestCurrentExit (h : Fitting bare a rest) :
    Fitting bare a (requestCurrentExit rest) := by
  induction rest with
  | nil => exact h
  | cons frame rest ih =>
    obtain ⟨hframe, hrest⟩ := fitting_cons.mp h
    cases frame with
    | scope => exact fitting_cons.mpr ⟨trivial, hrest⟩
    | lua | cpp =>
      refine fitting_cons.mpr ⟨?_, ih hrest⟩
      rwa [currentServiceId_requestCurrentExit]

end

section

variable {s next : State V} {l : Label V}

lemma Moved.named (h : Moved s l next) (i : Instance) (name : ServiceId)
    (hname : Named s.actors i name) : Named next.actors i name := by
  rcases h.names with ⟨hnext, hnames⟩ | ⟨t, created, rest, -, -, hnext, hnames⟩
  · exact ⟨hnext ▸ hname.spawned, hnames ▸ hname.serviceOf, hname.nonempty⟩
  have hne : i ≠ s.actors.nextInstance := Nat.ne_of_lt hname.spawned
  refine ⟨by rw [hnext]; exact Nat.lt_succ_of_lt hname.spawned, ?_, hname.nonempty⟩
  rw [hnames, Function.update_of_ne hne]
  exact hname.serviceOf

section

variable (hmoved : Moved s l next)
include hmoved

lemma Moved.services_named
    (hold : ∀ id vm, s.registry.services id = some vm → Named s.actors vm id)
    (hpublish : ∀ t vm id exitAfterInit rest,
      s.stack t = .cpp (.spawnPublish vm id exitAfterInit) :: rest → Named s.actors vm id)
    (id : ServiceId) (vm : Instance) (hservice : next.registry.services id = some vm) :
    Named next.actors vm id := by
  rcases hmoved.services id vm hservice with hservice | ⟨t, exitAfterInit, rest, -, hstack, -⟩
  · exact hmoved.named _ _ (hold id vm hservice)
  · exact hmoved.named _ _ (hpublish t vm id exitAfterInit rest hstack)

lemma Moved.serviceActors_named
    (hold : ∀ id a, s.registry.serviceActors id = some a → Named s.actors a id)
    (hcreate : ∀ t name rest, s.stack t = .cpp (.spawnCreate name) :: rest → name ≠ "")
    (id : ServiceId) (a : Instance) (ha : next.registry.serviceActors id = some a) :
    Named next.actors a id := by
  rcases hmoved.serviceActors id a ha with hactor | ⟨rfl, hnext, hname, t, rest, hstack⟩
  · exact hmoved.named _ _ (hold id a hactor)
  · exact ⟨hnext ▸ Nat.lt_succ_self _, hname, hcreate t id rest hstack⟩

lemma Moved.coroutines_named
    (hold : ∀ co vm, vmOf s.calls co = some vm → ∃ name, Named s.actors vm name)
    (hservices : ∀ id vm, s.registry.services id = some vm → Named s.actors vm id)
    (co : Nat) (vm : Instance) (hvm : vmOf next.calls co = some vm) :
    ∃ name, Named next.actors vm name := by
  rcases vmOf_callMove hmoved.calls hvm with hvm | ⟨-, -, i, hservice⟩
  · obtain ⟨name, hname⟩ := hold co vm hvm
    exact ⟨name, hmoved.named _ _ hname⟩
  · exact ⟨_, hmoved.named _ _ (hservices _ vm hservice)⟩

lemma Moved.ready_named
    (hold : ∀ i, s.actors.ready i = true → ∃ name, Named s.actors i name)
    (hspawn : ∀ t i name exitAfterInit rest,
      s.stack t = .cpp (.spawnReady i name exitAfterInit) :: rest → Named s.actors i name)
    (i : Instance) (hready : next.actors.ready i = true) : ∃ name, Named next.actors i name := by
  rcases hmoved.ready i hready with hready | ⟨t, name, exitAfterInit, rest, -, hstack, -⟩
  · obtain ⟨name, hname⟩ := hold i hready
    exact ⟨name, hmoved.named _ _ hname⟩
  · exact ⟨name, hmoved.named _ _ (hspawn t i name exitAfterInit rest hstack)⟩

end

variable {t : Thread} {i : Instance} {id name : ServiceId} {timer : ActorTimer}

lemma Framed.top (h : Framed bare s) (hstack : s.stack t = frame :: rest) :
    FrameFits bare s.actors (currentServiceId rest) frame :=
  h.frames t frame rest (hstack ▸ List.suffix_refl _)

lemma Framed.below (h : Framed bare s) (hstack : s.stack t = frame :: rest) :
    Fitting bare s.actors rest :=
  (h.frames t).suffix (hstack ▸ List.suffix_cons _ _)

lemma Framed.executes (h : Framed bare s) (hruns : Executes s vm entry id) (hid : id ≠ "") :
    Named s.actors vm id := by
  obtain ⟨t, rest, hstack, rfl⟩ := hruns
  obtain ⟨name, hvm, -, hscope⟩ := h.top hstack
  rcases hscope with heq | ⟨-, hempty⟩
  · exact heq ▸ hvm
  · exact absurd hempty hid

lemma actorOf_eq_some (h : s.actorOf id = some i) :
    id ≠ "" ∧ s.registry.serviceActors id = some i := by
  unfold State.actorOf at h
  split at h
  · cases h
  · rename_i hid
    exact ⟨hid, h⟩

lemma resumes_of_wakes (h : wakes s l = some vm) : resumes s l = some vm := by
  obtain ⟨i, look, _, _, _, _, _, rfl, hmailbox, -⟩ := wakes_eq_some h
  simp only [resumes, answers, hmailbox, h]

lemma reports_eq (h : Reports entry id) (hentry : EnteredFor name entry) : id = name := by
  cases entry with
  | handler co source =>
    cases source with
    | dispatch => exact h.symm.trans hentry
    | _ => exact h.elim
  | timer | fork => exact h.symm.trans hentry
  | _ => exact h.elim

lemma fitting_codeMove (h : Framed bare s) (hmoved : Moved s l next)
    (hmove : CodeMove s l t frames) : Fitting bare next.actors frames := by
  have hold : ∀ {rest}, rest <:+ s.stack t → Fitting bare next.actors rest :=
    fun hsuffix => ((h.frames t).suffix hsuffix).mono hmoved.named
  have hrest : ∀ {frame rest}, s.stack t = frame :: rest → Fitting bare next.actors rest :=
    fun hstack => (h.below hstack).mono hmoved.named
  have hscope : ∀ frame, Fitting bare next.actors [.scope frame] :=
    fun frame => fitting_cons.mpr ⟨trivial, fitting_nil⟩
  cases hmove with
  | shrink conts rest hleft hconts => exact (hold hleft.suffix).push hconts
  | requestExit vm entry rest hstack =>
    refine fitting_cons.mpr ⟨?_, (hrest hstack).requestCurrentExit⟩
    rw [currentServiceId_requestCurrentExit]
    exact frameFits_mono hmoved.named (h.top hstack)
  | report vm entry id rest hstack hreports =>
    refine fitting_cons.mpr ⟨?_, hrest hstack⟩
    obtain ⟨name, -, hentry, hfits⟩ := h.top hstack
    rw [reports_eq hreports hentry]
    exact hfits
  | errorHook id vm rest hstack hservice =>
    exact fitting_cons.mpr
      ⟨⟨id, hmoved.named vm id (h.services id vm hservice), rfl, h.top hstack⟩, hrest hstack⟩
  | panic vm id rest hstack =>
    obtain ⟨name, hvm, hentry, hfits⟩ := h.top hstack
    exact fitting_cons.mpr ⟨⟨name, hmoved.named vm name hvm, hentry, hfits⟩, hrest hstack⟩
  | exit id vm rest hstack hservice =>
    refine fitting_cons.mpr ⟨⟨id, hmoved.named vm id (h.services id vm hservice), rfl, .inl rfl⟩, ?_⟩
    exact fitting_cons.mpr ⟨trivial, hrest hstack⟩
  | exitStage top cont id rest hstack hstage =>
    refine fitting_cons.mpr ⟨?_, hrest hstack⟩
    cases hstage with
    | _ => trivial
  | initialised i exitAfterInit rest hstack =>
    obtain ⟨name, hi, -, -⟩ := h.top hstack
    refine fitting_cons.mpr ⟨hmoved.named i _ (hi.serviceOf ▸ hi), ?_⟩
    exact (hrest hstack).suffix (popScope_suffix rest)
  | published i name exitAfterInit rest hstack =>
    exact fitting_cons.mpr ⟨hmoved.named i name (h.top hstack), hrest hstack⟩
  | rejected => exact fitting_cons.mpr ⟨trivial, hscope _⟩
  | fallback i vm request ht hready hempty hservice =>
    refine fitting_cons.mpr ⟨⟨_, hmoved.named vm _ (h.services _ vm hservice), trivial, .inl rfl⟩, ?_⟩
    exact fitting_cons.mpr ⟨trivial, hscope _⟩
  | fired i timer vm ht hready hempty htimer hmail hcallback =>
    have htarget : timer.target = i := (h.mail i _ hmail).2 timer htimer rfl
    have hfits := h.timers timer htimer
    have hname : s.actors.serviceOf i = timer.serviceId := htarget ▸ hfits.target.serviceOf
    rw [hname]
    exact fitting_cons.mpr
      ⟨⟨_, hmoved.named vm _ (hfits.callback vm hcallback), rfl, .inl rfl⟩, hscope _⟩
  | forked i task ht hready hempty htask =>
    exact fitting_cons.mpr
      ⟨⟨_, hmoved.named _ _ (h.tasks task htask).2, rfl, .inl rfl⟩, hscope _⟩

lemma Moved.named_created (hmoved : Moved s l next)
    (hstack : s.stack t = .cpp (.spawnCreate name) :: rest) (hl : l = .cont t) (hname : name ≠ "")
    (hcreated : s.actors.nextInstance < next.actors.nextInstance) :
    Named next.actors s.actors.nextInstance name := by
  rcases hmoved.names with ⟨hnext, -⟩ | ⟨t', name', rest', hl', hstack', hnext, hnames⟩
  · omega
  rw [hl] at hl'
  cases hl'
  rw [hstack] at hstack'
  cases hstack'
  exact ⟨hcreated, by rw [hnames, Function.update_self], hname⟩

lemma fitting_stackMove (h : Framed bare s) (hmoved : Moved s l next)
    (hresumes : ∀ vm ∈ resumes s l, Fits bare (currentServiceId (s.stack t)) (s.actors.serviceOf vm))
    (hmove : StackMove s l t (next.stack t)) : Fitting bare next.actors (next.stack t) := by
  have hhandler : ∀ co vm source, (∃ wait, s.calls.resumable co = some (wait, vm)) →
      Source.answers source = false ∨ source = .sleepTimer → resumes s l = some vm →
      FrameFits bare next.actors (currentServiceId (s.stack t)) (.lua vm (.handler co source)) := by
    rintro co vm source ⟨wait, hresumable⟩ hsource hresumed
    obtain ⟨k, hk, -, rfl⟩ := CallState.resumable_eq_some.mp hresumable
    obtain ⟨name, hname⟩ := h.coroutines co k.vm (vmOf_eq hk)
    have hfits := hresumes k.vm hresumed
    rw [hname.serviceOf] at hfits
    refine ⟨name, hmoved.named _ _ hname, ?_, hfits⟩
    cases source with
    | dispatch => simp [Source.answers] at hsource
    | _ => trivial
  generalize hframes : next.stack t = frames at hmove ⊢
  cases hmove with
  | code frames hcode => exact fitting_codeMove h hmoved hcode
  | create name rest hstack hl =>
    have hmem : .lua s.actors.nextInstance .onInit ∈ next.stack t := by simp [hframes]
    have hnew : s.actors.nextInstance < next.actors.nextInstance := by
      rcases hmoved.created t _ hmem with hold | hnew
      · obtain ⟨_, hname⟩ := (h.frames t).lua_mem hold
        exact absurd hname.spawned (lt_irrefl _)
      · exact hnew
    refine fitting_cons.mpr ⟨⟨name, hmoved.named_created hstack hl (h.top hstack) hnew, trivial, .inl rfl⟩, ?_⟩
    exact fitting_cons.mpr ⟨trivial, (h.below hstack).mono hmoved.named⟩
  | answer cause session co vm source conts rest hanswers hresumee hsource hleft hscope hconts =>
    obtain ⟨-, pending, -, -, hresumable⟩ := CallState.resumee_eq_some hresumee
    refine fitting_cons.mpr ⟨?_, (((h.frames t).suffix hleft.suffix).mono hmoved.named).push
      fun cont hcont => (hconts cont hcont).1⟩
    rw [currentServiceId_push, hscope]
    refine hhandler co vm source hresumable ?_ (by simp [resumes, hanswers, hresumee])
    rcases hsource with rfl | rfl <;> exact .inl rfl
  | wake i timer co wait vm ht hready hempty htimer hmail hcallback hresumable hwakes =>
    refine fitting_cons.mpr ⟨?_, fitting_nil⟩
    rw [← hempty]
    exact hhandler co vm .sleepTimer ⟨wait, hresumable⟩ (.inr rfl) (resumes_of_wakes hwakes)
  | dispatched i vm co ht hready hempty hservice =>
    refine fitting_cons.mpr ⟨⟨_, hmoved.named vm _ (h.services _ vm hservice), rfl, .inl rfl⟩, ?_⟩
    exact fitting_cons.mpr ⟨trivial, fitting_cons.mpr ⟨trivial, fitting_nil⟩⟩

lemma timerFits_new (h : Framed bare s) (hmoved : Moved s l next) (hnew : NewTimer s l timer)
    (hbound : next.calls.nextTimerId = s.calls.nextTimerId + 1) : TimerFits next timer := by
  obtain ⟨hid, htarget⟩ := actorOf_eq_some hnew.target
  refine ⟨by rw [hnew.id, hbound]; exact Nat.lt_succ_self _, ?_, ?_⟩
  · exact hmoved.named _ _ (h.serviceActors _ _ htarget)
  · intro vm hcallback
    obtain ⟨vm', entry, hruns, -, hlua | ⟨co, source, hresume, -⟩⟩ := hnew.callback
    · rw [hlua] at hcallback
      cases hcallback
      exact hmoved.named _ _ (h.executes hruns hid)
    · rw [hresume] at hcallback
      cases hcallback

lemma TimerFits.moved (hmoved : Moved s l next) (h : TimerFits s timer)
    (hbound : s.calls.nextTimerId ≤ next.calls.nextTimerId) : TimerFits next timer :=
  ⟨lt_of_lt_of_le h.bound hbound, hmoved.named _ _ h.target,
    fun vm hcallback => hmoved.named _ _ (h.callback vm hcallback)⟩

lemma mailFits_timer (hmoved : Moved s l next) {id : Nat} (hid : id < s.calls.nextTimerId)
    (htarget : ∀ timer ∈ s.calls.timers, timer.id = id → timer.target = i) :
    MailFits next i (.timerFire id) := by
  rcases timers_callMove hmoved.calls with ⟨htimers, hnext⟩ | ⟨new, hnew, htimers, hnext⟩
  · exact ⟨hnext ▸ hid, fun timer hmem => htarget timer (htimers timer hmem)⟩
  refine ⟨by omega, ?_⟩
  intro timer hmem heq
  rw [htimers] at hmem
  rcases List.mem_cons.mp hmem with rfl | hmem
  · have := hnew.id
    omega
  · exact htarget timer hmem heq

lemma mailFits_moved (h : Framed bare s) (hmoved : Moved s l next) (i : Instance) (mail : Mail V)
    (hmail : mail ∈ next.actors.mailbox i) : MailFits next i mail := by
  rcases hmoved.mail i mail hmail with hold | hnew
  · have hfits := h.mail i mail hold
    cases mail with
    | timerFire => exact mailFits_timer hmoved hfits.1 hfits.2
    | forkTask =>
      refine ⟨lt_of_lt_of_le hfits.1 hmoved.nextTaskId, ?_⟩
      intro task htask heq
      rcases hmoved.tasks task htask with htask | ⟨hid, -⟩
      · exact hmoved.named _ _ (hfits.2 task htask heq)
      · have := hfits.1
        omega
    | _ => trivial
  · cases mail with
    | timerFire =>
      obtain ⟨timer, htimer, rfl, rfl⟩ := hnew
      apply mailFits_timer hmoved (h.timers timer htimer).bound
      intro other hother heq
      exact h.timerIds other hother timer htimer heq
    | forkTask =>
      obtain ⟨rfl, hnext, name, hactor, htasks⟩ := hnew
      refine ⟨by omega, ?_⟩
      intro task htask heq
      rcases htasks task htask with hold | rfl
      · have := (h.tasks task hold).1
        omega
      · exact hmoved.named _ _ (h.serviceActors _ _ hactor)
    | _ => trivial

/-- A step keeps the names and frames in agreement if the coroutine it resumes, if any, fits into
the dispatch frame of the thread it runs on. -/
theorem framed_moved (h : Framed bare s) (hmoved : Moved s l next)
    (hresumes : ∀ t ∈ actingThread l, ∀ vm ∈ resumes s l,
      Fits bare (currentServiceId (s.stack t)) (s.actors.serviceOf vm)) :
    Framed bare next where
  services := hmoved.services_named h.services fun _ _ _ _ _ hstack => h.top hstack
  serviceActors := hmoved.serviceActors_named h.serviceActors fun _ _ _ hstack => h.top hstack
  frames t := by
    by_cases hl : actingThread l = some t
    · exact fitting_stackMove h hmoved (hresumes t hl) (hmoved.stack t hl)
    · rw [hmoved.others t hl]
      exact (h.frames t).mono hmoved.named
  coroutines := hmoved.coroutines_named h.coroutines h.services
  timers timer htimer := by
    rcases timers_callMove hmoved.calls with ⟨htimers, hnext⟩ | ⟨new, hnew, htimers, hnext⟩
    · exact (h.timers timer (htimers timer htimer)).moved hmoved hnext.ge
    rw [htimers] at htimer
    rcases List.mem_cons.mp htimer with rfl | hold
    · exact timerFits_new h hmoved hnew hnext
    · exact (h.timers timer hold).moved hmoved (by omega)
  timerIds timer htimer timer' htimer' heq := by
    rcases timers_callMove hmoved.calls with ⟨htimers, -⟩ | ⟨new, hnew, htimers, -⟩
    · exact h.timerIds timer (htimers timer htimer) timer' (htimers timer' htimer') heq
    have hid := hnew.id
    rw [htimers] at htimer htimer'
    rcases List.mem_cons.mp htimer with rfl | hold
    · rcases List.mem_cons.mp htimer' with rfl | hold'
      · rfl
      · have := (h.timers timer' hold').bound
        omega
    · rcases List.mem_cons.mp htimer' with rfl | hold'
      · have := (h.timers timer hold).bound
        omega
      · exact h.timerIds timer hold timer' hold' heq
  tasks task htask := by
    rcases hmoved.tasks task htask with hold | ⟨hid, hnext, hname, -, entry, hruns⟩
    · obtain ⟨hbound, hvm⟩ := h.tasks task hold
      exact ⟨lt_of_lt_of_le hbound hmoved.nextTaskId, hmoved.named _ _ hvm⟩
    · exact ⟨by omega, hmoved.named _ _ (h.executes hruns hname)⟩
  mail i mail hmail := mailFits_moved h hmoved i mail hmail
  ready := hmoved.ready_named h.ready fun _ _ _ _ _ hstack => h.top hstack

lemma framed_init (bare : Bool) : Framed bare ({} : State V) where
  services _ _ h := nomatch h
  serviceActors _ _ h := nomatch h
  frames _ := fitting_nil
  coroutines _ _ h := nomatch h
  timers _ h := nomatch h
  timerIds _ h := nomatch h
  tasks _ h := nomatch h
  mail _ _ h := nomatch h
  ready _ h := nomatch h

end

end ShieldRuntime.Proofs
