import KeelS2.Plugins.Scripts

/-!
# How unload and pause fail

A failing command is to leave the plugin untouched or quarantined. The proof follows the command
through the calls that were answered well (`Proceeded` says what they did) to the one that was
refused, and looks at what the turn after it restores.
-/

namespace KeelS2.Plugins

/-- Active in every service. -/
structure Active (host : Host) (plugin : PluginRecord) : Prop where
  accepting : plugin.acceptingResources = true
  factoryDispatch : plugin.factoryDispatchEnabled = true
  commands : host.commandsEnabled plugin.handle = true
  dispatch : ∀ service ∈ Host.dispatchServices, host.present service = true →
    host.dispatch service plugin.handle = true

/-- Inactive in every service. -/
structure Inactive (host : Host) (plugin : PluginRecord) : Prop where
  accepting : plugin.acceptingResources = false
  commands : host.commandsEnabled plugin.handle = false
  dispatch : ∀ service ∈ Host.dispatchServices, host.present service = true →
    host.dispatch service plugin.handle = false

/-- Nothing of the plugin was released, and it is as active as before. -/
structure Untouched (before after : Host) (old now : PluginRecord) : Prop where
  state : now.state = old.state
  pending : now.cleanupPending = false
  wasPending : old.cleanupPending = false
  accepting : now.acceptingResources = old.acceptingResources
  factoryDispatch : now.factoryDispatchEnabled = old.factoryDispatchEnabled
  commands : after.commandsEnabled old.handle = before.commandsEnabled old.handle
  commandsHeld : after.commandsHeld old.handle = before.commandsHeld old.handle
  dispatch : ∀ service ∈ Host.dispatchServices, before.present service = true →
    after.dispatch service old.handle = before.dispatch service old.handle
  held : ∀ service, before.present service = true →
    after.held service old.handle = before.held service old.handle

structure Quarantined (after : Host) (now : PluginRecord) : Prop where
  pending : now.cleanupPending = true
  inactive : Inactive after now

/-- One of the two ways, and not the other. -/
def EndsWell (before after : Host) (old : PluginRecord) : Prop :=
  ∃ now, after.pluginByHandle old.handle = some now ∧
    Xor (Untouched before after old now) (Quarantined after now)

namespace Host

/-- The call is made and answers that it will not, or it is a preparation that the wrong thread
asks for. -/
def refuses (host : Host) (gameThread : Bool) (plugin : PluginRecord) (answers : Call → Answer)
    (call : Call) : Bool :=
  match call with
  | .deactivate service | .release service =>
    host.present service && (answers call).result ≠ .ok
  | .preparePause => plugin.preparePause && !(gameThread && (answers call).agreed)
  | .prepareUnload => plugin.prepareUnload && !(gameThread && (answers call).agreed)
  | .load | .unload | .publish _ => false

/-- The calls up to the refused one have disabled the plugin's callbacks everywhere. -/
def Silenced (host : Host) (plugin : PluginRecord) (answers : Call → Answer)
    (done : List Call) (exit : Call) : Prop :=
  ∀ service ∈ dispatchServices, host.present service = true →
    host.dispatch service plugin.handle = true →
      Call.deactivate service ∈ done ∨ Call.release service ∈ done ∨
        (exit = .release service ∧ releasesPartly service (answers exit) = true)

/-- Nothing that the plugin held was released. -/
def StillHeld (host : Host) (plugin : PluginRecord) (done : List Call) : Prop :=
  ∀ service, host.present service = true → host.held service plugin.handle = true →
    Call.release service ∉ done

/-- What a refused unload comes back to, by the call that was refused: what must have been true
of the plugin for that to be one of the two ways. -/
def unloadRefusal (host : Host) (plugin : PluginRecord) (answers : Call → Answer)
    (done : List Call) : Call → Prop
  -- all is made active but the factories, which stay as the first call left them
  | .deactivate .source2Callbacks =>
    plugin.cleanupPending = false ∧ plugin.acceptingResources = true ∧
      host.commandsEnabled plugin.handle = true ∧
      (host.present .source2Callbacks = true →
        host.dispatch .source2Callbacks plugin.handle = true) ∧
      (host.present .factories = true → host.dispatch .factories plugin.handle = false)
  | .deactivate _ => plugin.cleanupPending = false ∧ Active host plugin
  | .prepareUnload =>
    if plugin.state = .loaded then plugin.cleanupPending = false ∧ Active host plugin
    else if plugin.cleanupPending = true then Silenced host plugin answers done .prepareUnload
    else
      plugin.acceptingResources = false ∧ host.commandsEnabled plugin.handle = false ∧
        (host.present .factories = true → host.dispatch .factories plugin.handle = false)
  | .release .publishedServices =>
    plugin.cleanupPending = false ∧ Active host plugin ∧ StillHeld host plugin done
  | .release .keelhook =>
    if (answers (.release .keelhook)).result = .busy ∧ plugin.cleanupPending = false ∧
        plugin.state = .loaded then Active host plugin
    else Silenced host plugin answers done (.release .keelhook)
  | .release service => Silenced host plugin answers done (.release service)
  | _ => True

/-- When a failing unload ends in one of the two ways. -/
def unloadKeeps (host : Host) (gameThread : Bool) (plugin : PluginRecord)
    (answers : Call → Answer) : Prop :=
  if (plugin.state = .loaded ∨ plugin.state = .paused) ∧ plugin.transitioning = false ∧
      host.hasRunningDependent plugin true = false then
    let calls := unloadCalls (plugin.state = .loaded)
    ∀ exit ∈ calls.find? (host.refuses gameThread plugin answers),
      host.unloadRefusal plugin answers
        (calls.takeWhile fun call => !host.refuses gameThread plugin answers call) exit
  else plugin.cleanupPending = true → Inactive host plugin

/-- When a failing pause does: a refused one makes the plugin active, whatever it was. -/
def pauseKeeps (host : Host) (plugin : PluginRecord) : Prop :=
  if plugin.state = .loaded ∧ plugin.transitioning = false ∧
      host.hasRunningDependent plugin false = false then
    plugin.cleanupPending = false ∧ Active host plugin
  else plugin.cleanupPending = true → Inactive host plugin

/-! ## Reaching the refused call -/

/-- The host when a call's turn comes, and the answer the turn gets. -/
def reach (answers : Call → Answer) (gameThread : Bool) (host : Host)
    (handle : KeelPluginHandle) (call : Call) : Host × Answer :=
  if host.makes gameThread handle call then
    ((host.calling handle call).called handle call (answers call), answers call)
  else (host, host.skipped handle call)

/-- The calls were all gone past, one after the other. -/
inductive Passed (answers : Call → Answer) (gameThread : Bool) (kind : Kind)
    (handle : KeelPluginHandle) : List Call → Bool → Bool → Host → Host → Prop
  | nil {failed : Bool} {host : Host} :
      Passed answers gameThread kind handle [] failed failed host host
  | snoc {calls : List Call} {failed failed' : Bool} {first before after : Host} {call : Call}
      (passed : Passed answers gameThread kind handle calls failed failed' first before)
      (turn : (reach answers gameThread before handle call).1.turn kind handle
        (failed' || call.refused (reach answers gameThread before handle call).2)
        (reach answers gameThread before handle call).2 call = (after, .next)) :
      Passed answers gameThread kind handle (calls ++ [call]) failed
        (failed' || call.refused (reach answers gameThread before handle call).2) first after

variable {answers : Call → Answer} {gameThread : Bool} {kind : Kind} {handle : KeelPluginHandle}

variable {service : Service} {call exit : Call} {failed running disable failed' : Bool}
  {before calls after : List Call} {first : Host} {answer : Answer}

theorem perform_cons {rest : List Call} {host : Host} :
    perform answers gameThread kind handle (call :: rest) none failed host =
      let reached := reach answers gameThread host handle call
      let failed := failed || call.refused reached.2
      match reached.1.turn kind handle failed reached.2 call with
      | (host, .next) => perform answers gameThread kind handle rest none failed host
      | (host, .skipTo target) =>
        perform answers gameThread kind handle rest (some target) failed host
      | (host, .stop result) => (host, result) := by
  rw [perform, if_neg (by simp), reach]
  cases host.makes gameThread handle call <;> rfl

/-- A command that never skips and returns false was stopped by one of its calls, and went past
all the ones before. -/
theorem perform_false
    (hskip : ∀ host failed answer call target, (turn host kind handle failed answer call).2 ≠
      .skipTo target)
    {done : List Call} {host : Host}
    (hdone : Passed answers gameThread kind handle done failed' failed first host)
    (hfalse : (perform answers gameThread kind handle calls none failed host).2 = false) :
    ∃ before exit after failed'' last,
      calls = before ++ exit :: after ∧
      Passed answers gameThread kind handle (done ++ before) failed' failed'' first last ∧
      ((reach answers gameThread last handle exit).1.turn kind handle
        (failed'' || exit.refused (reach answers gameThread last handle exit).2)
        (reach answers gameThread last handle exit).2 exit) =
          ((perform answers gameThread kind handle calls none failed host).1, .stop false) := by
  induction calls generalizing done failed host with
  | nil => simp [perform] at hfalse
  | cons call rest ih =>
    rw [perform_cons] at hfalse ⊢
    simp only at hfalse ⊢
    rcases hturn : (reach answers gameThread host handle call).1.turn kind handle
      (failed || call.refused (reach answers gameThread host handle call).2)
      (reach answers gameThread host handle call).2 call with ⟨next, verdict⟩
    rw [hturn] at hfalse
    cases verdict with
    | next =>
      obtain ⟨before, exit, after, failed'', last, hcalls, hpassed, hexit⟩ :=
        ih (hdone.snoc hturn) hfalse
      refine ⟨call :: before, exit, after, failed'', last, ?_, ?_, hexit⟩
      · rw [hcalls, List.cons_append]
      · rwa [List.append_assoc] at hpassed
    | skipTo target =>
      exact absurd (congrArg Prod.snd hturn) (hskip _ _ _ _ _)
    | stop result =>
      cases hfalse
      exact ⟨[], call, rest, failed, host, rfl, by rwa [List.append_nil], hturn⟩

/-! ## What the calls before it did -/

/-- The calls an unload or a pause may have behind it when one is refused. -/
def Call.Plain : Call → Prop
  | .deactivate _ => True
  | .release service => service ≠ .factories
  | .prepareUnload => True
  | _ => False

/-- The state behind plain calls that all answered well: what was asked of the services is done,
and nothing else has changed. -/
structure Proceeded (start : Host) (plugin : PluginRecord) (done : List Call) (host : Host)
    (now : PluginRecord) : Prop where
  found : host.pluginByHandle plugin.handle = some now
  state : now.state = plugin.state
  pending : now.cleanupPending = plugin.cleanupPending
  accepting : now.acceptingResources = false
  factoryDispatch : now.factoryDispatchEnabled = plugin.factoryDispatchEnabled
  preparePause : now.preparePause = plugin.preparePause
  prepareUnload : now.prepareUnload = plugin.prepareUnload
  present : host.present = start.present
  commands : host.commandsEnabled plugin.handle = false
  commandsHeld : host.commandsHeld plugin.handle = start.commandsHeld plugin.handle
  dispatch : ∀ service, host.dispatch service plugin.handle =
    (start.dispatch service plugin.handle && !(start.present service &&
      (decide (Call.deactivate service ∈ done) || decide (Call.release service ∈ done))))
  held : ∀ service, host.held service plugin.handle =
    (start.held service plugin.handle && !(start.present service &&
      decide (Call.release service ∈ done)))

variable {start host : Host} {plugin now : PluginRecord} {done : List Call}

section

variable (hproceeded : Proceeded start plugin done host now)

include hproceeded

theorem Proceeded.congr {other : Host} {done' : List Call} (hplugins : other.plugins = host.plugins)
    (hpresent : other.present = host.present)
    (hcommands : other.commandsEnabled = host.commandsEnabled)
    (hheld : other.commandsHeld = host.commandsHeld)
    (hdispatch : ∀ service, other.dispatch service plugin.handle = (start.dispatch service
      plugin.handle && !(start.present service && (decide (Call.deactivate service ∈ done') ||
      decide (Call.release service ∈ done')))))
    (hservices : ∀ service, other.held service plugin.handle = (start.held service plugin.handle &&
      !(start.present service && decide (Call.release service ∈ done')))) :
    Proceeded start plugin done' other now where
  found := by
    unfold pluginByHandle
    rw [hplugins]
    exact hproceeded.found
  state := hproceeded.state
  pending := hproceeded.pending
  accepting := hproceeded.accepting
  factoryDispatch := hproceeded.factoryDispatch
  preparePause := hproceeded.preparePause
  prepareUnload := hproceeded.prepareUnload
  present := hpresent.trans hproceeded.present
  commands := by rw [hcommands]; exact hproceeded.commands
  commandsHeld := by rw [hheld]; exact hproceeded.commandsHeld
  dispatch := hdispatch
  held := hservices

theorem Proceeded.deactivated
    (hok : start.present service = true → (answers (.deactivate service)).result = .ok) :
    Proceeded start plugin (done ++ [.deactivate service])
      (reach answers gameThread host plugin.handle (.deactivate service)).1 now := by
  unfold reach makes
  rw [hproceeded.present]
  by_cases hpresent : start.present service = true
  · rw [if_pos hpresent]
    simp only [calling, called, hok hpresent, true_or, if_true]
    refine hproceeded.congr rfl rfl rfl rfl (fun other => ?_) (fun other => ?_)
    · by_cases hother : other = service
      · simp [hother, hpresent]
      · simp [hother, hproceeded.dispatch other]
    · simp [hproceeded.held other]
  · rw [if_neg hpresent]
    refine hproceeded.congr rfl rfl rfl rfl (fun other => ?_) (fun other => ?_)
    · rw [hproceeded.dispatch other]
      by_cases hother : other = service
      · simp [hother, hpresent]
      · simp [hother]
    · simp [hproceeded.held other]

theorem Proceeded.released
    (hok : start.present service = true → (answers (.release service)).result = .ok) :
    Proceeded start plugin (done ++ [.release service])
      (reach answers gameThread host plugin.handle (.release service)).1 now := by
  unfold reach makes
  rw [hproceeded.present]
  by_cases hpresent : start.present service = true
  · rw [if_pos hpresent]
    simp only [calling, called, hok hpresent, true_or, if_true]
    refine hproceeded.congr rfl rfl rfl rfl (fun other => ?_) (fun other => ?_)
    · by_cases hother : other = service
      · simp [hother, hpresent]
      · simp [hother, hproceeded.dispatch other]
    · by_cases hother : other = service
      · simp [hother, hpresent]
      · simp [hother, hproceeded.held other]
  · rw [if_neg hpresent]
    refine hproceeded.congr rfl rfl rfl rfl (fun other => ?_) (fun other => ?_)
    · rw [hproceeded.dispatch other]
      by_cases hother : other = service
      · simp [hother, hpresent]
      · simp [hother]
    · rw [hproceeded.held other]
      by_cases hother : other = service
      · simp [hother, hpresent]
      · simp [hother]

theorem Proceeded.modify {write : PluginRecord → PluginRecord} {done' : List Call}
    (hhandle : ∀ record, (write record).handle = record.handle)
    (hstate : ∀ record, (write record).state = record.state)
    (hpending : ∀ record, (write record).cleanupPending = record.cleanupPending)
    (haccepting : ∀ record, (write record).acceptingResources = record.acceptingResources)
    (hfactory : ∀ record, (write record).factoryDispatchEnabled = record.factoryDispatchEnabled)
    (hpause : ∀ record, (write record).preparePause = record.preparePause)
    (hunload : ∀ record, (write record).prepareUnload = record.prepareUnload)
    (hdeactivate : ∀ service, Call.deactivate service ∈ done' ↔ Call.deactivate service ∈ done)
    (hrelease : ∀ service, Call.release service ∈ done' ↔ Call.release service ∈ done) :
    Proceeded start plugin done' (host.modify plugin.handle write) (write now) where
  found := by
    rw [pluginByHandle_modify hhandle, if_pos rfl, hproceeded.found]
    rfl
  state := (hstate now).trans hproceeded.state
  pending := (hpending now).trans hproceeded.pending
  accepting := (haccepting now).trans hproceeded.accepting
  factoryDispatch := (hfactory now).trans hproceeded.factoryDispatch
  preparePause := (hpause now).trans hproceeded.preparePause
  prepareUnload := (hunload now).trans hproceeded.prepareUnload
  present := hproceeded.present
  commands := hproceeded.commands
  commandsHeld := hproceeded.commandsHeld
  dispatch service := by
    simp only [hdeactivate, hrelease]
    exact hproceeded.dispatch service
  held service := by
    simp only [hrelease]
    exact hproceeded.held service

theorem Proceeded.prepared (hcall : call = .preparePause ∨ call = .prepareUnload) :
    ∃ now', Proceeded start plugin (done ++ [call])
      (reach answers gameThread host plugin.handle call).1 now' := by
  have hskip : Proceeded start plugin (done ++ [call]) host now := by
    refine hproceeded.congr rfl rfl rfl rfl (fun service => ?_) (fun service => ?_)
    · rw [hproceeded.dispatch service]
      rcases hcall with rfl | rfl <;> simp
    · rw [hproceeded.held service]
      rcases hcall with rfl | rfl <;> simp
  unfold reach
  by_cases hmakes : host.makes gameThread plugin.handle call = true
  · rw [if_pos hmakes]
    rcases hcall with rfl | rfl
    all_goals
      refine ⟨_, .modify (.modify hskip ?_ ?_ ?_ ?_ ?_ ?_ ?_ (fun _ => Iff.rfl) fun _ => Iff.rfl)
        ?_ ?_ ?_ ?_ ?_ ?_ ?_ (fun _ => Iff.rfl) fun _ => Iff.rfl⟩
      all_goals exact fun _ => rfl
  · rw [if_neg hmakes]
    exact ⟨now, hskip⟩

end

/-! ## Which calls are refused -/

theorem refuses_service (hcall : call = .deactivate service ∨ call = .release service) :
    start.refuses gameThread plugin answers call = false ↔
      (start.present service = true → (answers call).result = .ok) := by
  rcases hcall with rfl | rfl <;> simp [refuses]

/-- A service's turn gets `ok` exactly if the service does not refuse. -/
theorem result_reach (hproceeded : Proceeded start plugin done host now)
    (hcall : call = .deactivate service ∨ call = .release service) :
    (reach answers gameThread host plugin.handle call).2.result = .ok ↔
      start.refuses gameThread plugin answers call = false := by
  rw [refuses_service hcall]
  unfold reach
  by_cases hpresent : start.present service = true
  · rcases hcall with rfl | rfl <;> simp [makes, hproceeded.present, hpresent]
  · rcases hcall with rfl | rfl <;> simp [makes, skipped, hproceeded.present, hpresent]

/-- A preparation's turn gets agreement exactly if the preparation is not refused. -/
theorem agreed_reach (hproceeded : Proceeded start plugin done host now)
    (hcall : call = .preparePause ∨ call = .prepareUnload) :
    (reach answers gameThread host plugin.handle call).2.agreed = true ↔
      start.refuses gameThread plugin answers call = false := by
  have hpause := hproceeded.preparePause
  have hunload := hproceeded.prepareUnload
  rcases hcall with rfl | rfl
  · unfold reach makes refuses
    rw [hproceeded.found]
    cases hset : plugin.preparePause <;> cases gameThread <;>
      simp [hpause, hset, skipped, hproceeded.found, Answer.agreed]
  · unfold reach makes refuses
    rw [hproceeded.found]
    cases hset : plugin.prepareUnload <;> cases gameThread <;>
      simp [hunload, hset, skipped, hproceeded.found, Answer.agreed]

theorem passed_unload {last : Host} {record : PluginRecord}
    (hfirst : Proceeded start plugin [] first record) (hplain : ∀ call ∈ calls, Call.Plain call)
    (hpassed : Passed answers gameThread (.unload disable running) plugin.handle calls failed
      failed' first last) :
    (∃ now, Proceeded start plugin calls last now) ∧
      ∀ call ∈ calls, start.refuses gameThread plugin answers call = false := by
  induction hpassed with
  | nil => exact ⟨⟨record, hfirst⟩, by simp⟩
  | @snoc calls failed failed' first before after call passed hturn ih =>
    have hbefore : ∀ earlier ∈ calls, Call.Plain earlier := fun earlier hmem =>
      hplain earlier (List.mem_append_left _ hmem)
    obtain ⟨⟨now, hproceeded⟩, hagreed⟩ := ih hfirst hbefore
    have hcall : Call.Plain call := hplain call (List.mem_append_right _ (by simp))
    have hall : start.refuses gameThread plugin answers call = false →
        ∀ other ∈ calls ++ [call], start.refuses gameThread plugin answers other = false := by
      intro hlast other hmem
      rcases List.mem_append.1 hmem with hmem | hmem
      · exact hagreed other hmem
      · rw [List.mem_singleton.1 hmem]
        exact hlast
    cases call with
    | deactivate service =>
      have hresult : (reach answers gameThread before plugin.handle
          (.deactivate service)).2.result = .ok := by
        by_contra hrefused
        cases service <;> simp [turn, unloadTurn, fail, hrefused] at hturn
      have hafter : (reach answers gameThread before plugin.handle
          (.deactivate service)).1 = after := by
        cases service <;> simpa [turn, unloadTurn, fail, hresult] using hturn
      have hok := (result_reach hproceeded (.inl rfl)).1 hresult
      rw [← hafter]
      exact ⟨⟨now, hproceeded.deactivated ((refuses_service (.inl rfl)).1 hok)⟩, hall hok⟩
    | release service =>
      have hne : service ≠ .factories := hcall
      have hresult : (reach answers gameThread before plugin.handle
          (.release service)).2.result = .ok := by
        by_contra hrefused
        cases service <;> simp [turn, unloadTurn, fail, hrefused] at hturn
        split at hturn <;> cases hturn
      have hafter : (reach answers gameThread before plugin.handle
          (.release service)).1 = after := by
        cases service <;> first
          | exact absurd rfl hne
          | simpa [turn, unloadTurn, fail, hresult] using hturn
      have hok := (result_reach hproceeded (.inr rfl)).1 hresult
      rw [← hafter]
      exact ⟨⟨now, hproceeded.released ((refuses_service (.inr rfl)).1 hok)⟩, hall hok⟩
    | prepareUnload =>
      have hready : (reach answers gameThread before plugin.handle
          .prepareUnload).2.agreed = true := by
        by_contra hrefused
        rw [Bool.not_eq_true] at hrefused
        simp [turn, unloadTurn, fail, hrefused] at hturn
      have hafter : (reach answers gameThread before plugin.handle .prepareUnload).1 = after := by
        simpa [turn, unloadTurn, fail, hready] using hturn
      have hok := (agreed_reach hproceeded (.inr rfl)).1 hready
      rw [← hafter]
      exact ⟨hproceeded.prepared (.inr rfl), hall hok⟩
    | preparePause => exact hcall.elim
    | load => exact hcall.elim
    | unload => exact hcall.elim
    | publish event => exact hcall.elim

/-! ## Where the refused call leaves the plugin -/

/-- What a restoring exit keeps: it writes over the rest. -/
structure Kept (start : Host) (plugin : PluginRecord) (done : List Call) (host : Host)
    (now : PluginRecord) : Prop where
  found : host.pluginByHandle plugin.handle = some now
  state : now.state = plugin.state
  pending : now.cleanupPending = plugin.cleanupPending
  present : host.present = start.present
  commandsHeld : host.commandsHeld plugin.handle = start.commandsHeld plugin.handle
  held : ∀ service, host.held service plugin.handle =
    (start.held service plugin.handle && !(start.present service &&
      decide (Call.release service ∈ done)))

section

variable (hproceeded : Proceeded start plugin done host now)

include hproceeded

theorem Proceeded.handle_eq : now.handle = plugin.handle :=
  pluginByHandle_handle hproceeded.found

theorem Proceeded.kept :
    Kept start plugin done host now where
  found := hproceeded.found
  state := hproceeded.state
  pending := hproceeded.pending
  present := hproceeded.present
  commandsHeld := hproceeded.commandsHeld
  held := hproceeded.held

theorem Proceeded.deactivating :
    Kept start plugin done
      (reach answers gameThread host plugin.handle (.deactivate service)).1 now := by
  have hkept := hproceeded.kept
  unfold reach
  split
  · simp only [calling, called]
    split
    · exact ⟨hkept.found, hkept.state, hkept.pending, hkept.present, hkept.commandsHeld,
        hkept.held⟩
    · exact hkept
  · exact hkept

end

theorem reach_source2_whole
    (hrefused : (reach answers gameThread host handle
      (.deactivate .source2Callbacks)).2.result ≠ .ok) :
    (reach answers gameThread host handle (.deactivate .source2Callbacks)).1 = host := by
  unfold reach at hrefused ⊢
  by_cases hmakes : host.makes gameThread handle (.deactivate .source2Callbacks) = true
  · rw [if_pos hmakes] at hrefused ⊢
    simp only at hrefused
    simp [calling, called, hrefused, disablesPartly]
  · rw [if_neg hmakes]

theorem releasesPartly_published (answer : Answer) :
    releasesPartly .publishedServices answer = false := by
  simp [releasesPartly]

theorem releasesPartly_busy (hbusy : answer.result = .busy) :
    releasesPartly service answer = false := by
  simp [releasesPartly, hbusy]

theorem reach_release_whole
    (hrefused : (reach answers gameThread host handle (.release service)).2.result ≠ .ok)
    (hwhole : releasesPartly service (answers (.release service)) = false) :
    (reach answers gameThread host handle (.release service)).1 = host := by
  unfold reach at hrefused ⊢
  by_cases hmakes : host.makes gameThread handle (.release service) = true
  · rw [if_pos hmakes] at hrefused ⊢
    simp only at hrefused
    simp [calling, called, hrefused, hwhole]
  · rw [if_neg hmakes]

theorem Kept.restored (hkept : Kept start plugin done host now) :
    let after := (host.restorePluginDispatch plugin.handle).endTransition plugin.handle
    after.pluginByHandle plugin.handle =
        some { now with
          acceptingResources := true, factoryDispatchEnabled := true, transitioning := false } ∧
      after.commandsEnabled plugin.handle = true ∧
      after.commandsHeld plugin.handle = start.commandsHeld plugin.handle ∧
      (∀ service ∈ dispatchServices, start.present service = true →
        after.dispatch service plugin.handle = true) ∧
      ∀ service, after.held service plugin.handle =
        (start.held service plugin.handle && !(start.present service &&
          decide (Call.release service ∈ done))) := by
  intro after
  refine ⟨?_, ?_, ?_, fun service hservice hthere => ?_, fun service => ?_⟩
  · show ((host.restorePluginDispatch plugin.handle).endTransition plugin.handle).pluginByHandle
      plugin.handle = _
    rw [pluginByHandle_endTransition, restorePluginDispatch_eq]
    show Option.map _ ((host.modify plugin.handle _).pluginByHandle plugin.handle) = _
    rw [pluginByHandle_modify, if_pos rfl, hkept.found]
    · rfl
    · intro plugin
      rfl
  · show (host.restorePluginDispatch plugin.handle).commandsEnabled _ = true
    rw [restorePluginDispatch_eq]
    exact set_self _ _ _
  · show (host.restorePluginDispatch plugin.handle).commandsHeld _ = _
    rw [restorePluginDispatch_eq]
    exact hkept.commandsHeld
  · have hexists : host.present service = true := (congrFun hkept.present service).trans hthere
    show (host.restorePluginDispatch plugin.handle).dispatch _ _ = true
    rw [restorePluginDispatch_eq]
    simp [hexists, hservice]
  · show (host.restorePluginDispatch plugin.handle).held _ _ = _
    rw [restorePluginDispatch_eq]
    exact hkept.held service

/-- A restoring exit is right for a plugin that was active everywhere, if it held on to
everything. -/
theorem Kept.restored_ends (hkept : Kept start plugin done host now) :
    EndsWell start ((host.restorePluginDispatch plugin.handle).endTransition plugin.handle)
        plugin ↔
      plugin.cleanupPending = false ∧ Active start plugin ∧ StillHeld start plugin done := by
  obtain ⟨hfound, hcommands, hcommandsHeld, hdispatch, hheld⟩ := hkept.restored
  unfold EndsWell
  rw [hfound]
  simp only [Option.some.injEq, exists_eq_left']
  constructor
  · rintro (⟨huntouched, _⟩ | ⟨hquarantined, _⟩)
    · refine ⟨huntouched.wasPending, ⟨huntouched.accepting.symm, huntouched.factoryDispatch.symm,
        ?_, fun service hservice hthere => ?_⟩, fun service hthere hholds hreleased => ?_⟩
      · exact huntouched.commands.symm.trans hcommands
      · rw [← huntouched.dispatch service hservice hthere]
        exact hdispatch service hservice hthere
      · have hsame := huntouched.held service hthere
        rw [hheld service, hholds, hthere, decide_eq_true hreleased] at hsame
        cases hsame
    · exact absurd hquarantined.inactive.accepting (by simp)
  · intro ⟨hpending, hactive, hstill⟩
    refine .inl ⟨⟨hkept.state, hkept.pending.trans hpending, hpending, hactive.accepting.symm,
      hactive.factoryDispatch.symm, ?_, hcommandsHeld, fun service hservice hthere => ?_,
      fun service hthere => ?_⟩, fun hquarantined => ?_⟩
    · exact hcommands.trans hactive.commands.symm
    · rw [hdispatch service hservice hthere, hactive.dispatch service hservice hthere]
    · rw [hheld service, hthere]
      cases hholds : start.held service plugin.handle with
      | false => rfl
      | true => simp [hstill service hthere hholds]
    · exact absurd hquarantined.inactive.accepting (by simp)

/-- An exit that returned before anything was done. -/
theorem unbegun_ends (hplugin : start.pluginByHandle plugin.handle = some plugin) :
    EndsWell start start plugin ↔ (plugin.cleanupPending = true → Inactive start plugin) := by
  unfold EndsWell
  rw [hplugin]
  simp only [Option.some.injEq, exists_eq_left']
  constructor
  · rintro (⟨huntouched, _⟩ | ⟨hquarantined, _⟩)
    · intro hpending
      exact absurd huntouched.pending (by simp [hpending])
    · exact fun _ => hquarantined.inactive
  · intro hkeeps
    by_cases hpending : plugin.cleanupPending = true
    · refine .inr ⟨⟨hpending, hkeeps hpending⟩, fun huntouched => ?_⟩
      exact absurd huntouched.pending (by simp [hpending])
    · rw [Bool.not_eq_true] at hpending
      refine .inl ⟨⟨rfl, hpending, hpending, rfl, rfl, rfl, rfl, fun _ _ _ => rfl,
        fun _ _ => rfl⟩, fun hquarantined => ?_⟩
      exact absurd hquarantined.pending (by simp [hpending])

theorem Proceeded.releasing (hproceeded : Proceeded start plugin done host now)
    (hrefused : start.refuses gameThread plugin answers (.release service) = true) :
    let reached := (reach answers gameThread host plugin.handle (.release service)).1
    reached.pluginByHandle plugin.handle = some now ∧ reached.present = start.present ∧
      reached.commandsEnabled plugin.handle = false ∧
      ∀ other, reached.dispatch other plugin.handle =
        (host.dispatch other plugin.handle && !(decide (other = service) &&
          releasesPartly service (answers (.release service)))) := by
  have hnot : start.present service = true ∧ (answers (.release service)).result ≠ .ok := by
    simpa [refuses] using hrefused
  obtain ⟨hthere, hresult⟩ := hnot
  have hmakes : host.makes gameThread plugin.handle (.release service) = true :=
    (congrFun hproceeded.present service).trans hthere
  unfold reach
  rw [if_pos hmakes]
  by_cases hpartly : releasesPartly service (answers (.release service)) = true
  · simp only [calling, called, hresult, hpartly, false_or, if_true]
    refine ⟨hproceeded.found, hproceeded.present, hproceeded.commands, fun other => ?_⟩
    by_cases hother : other = service <;> simp [hother]
  · simp only [calling, called, hresult, hpartly, false_or]
    exact ⟨hproceeded.found, hproceeded.present, hproceeded.commands, fun other => by simp⟩

theorem Proceeded.quarantined_ends (hproceeded : Proceeded start plugin done host now)
    {diagnostic : Diagnostic}
    (hrefused : start.refuses gameThread plugin answers (.release service) = true) :
    EndsWell start
        ((((reach answers gameThread host plugin.handle (.release service)).1).quarantine
          plugin.handle diagnostic).endTransition plugin.handle) plugin ↔
      Silenced start plugin answers done (.release service) := by
  obtain ⟨hsame, hpresent, hcommands, hdispatch⟩ := hproceeded.releasing hrefused
  generalize (reach answers gameThread host plugin.handle (.release service)).1 = reached
    at hsame hpresent hcommands hdispatch
  have hfound : ((reached.quarantine plugin.handle diagnostic).endTransition
      plugin.handle).pluginByHandle plugin.handle =
      some { now with
        cleanupPending := true, diagnostic := diagnostic, transitioning := false } := by
    rw [pluginByHandle_endTransition]
    unfold quarantine
    rw [pluginByHandle_modify, if_pos rfl, hsame]
    · rfl
    · intro plugin
      rfl
  unfold EndsWell
  rw [hfound]
  simp only [Option.some.injEq, exists_eq_left']
  constructor
  · rintro (⟨huntouched, _⟩ | ⟨hquarantined, _⟩)
    · exact absurd huntouched.pending (by simp)
    · intro other hother hexists hactive
      have hoff : reached.dispatch other plugin.handle = false := by
        have := hquarantined.inactive.dispatch other hother
          ((congrFun hpresent other).trans hexists)
        rwa [hproceeded.handle_eq] at this
      rw [hdispatch other, hproceeded.dispatch other, hactive, hexists] at hoff
      by_cases hdeactivated : Call.deactivate other ∈ done
      · exact .inl hdeactivated
      by_cases hreleased : Call.release other ∈ done
      · exact .inr (.inl hreleased)
      obtain ⟨rfl, hpartly⟩ : other = service ∧
          releasesPartly service (answers (.release service)) = true := by
        simpa [hdeactivated, hreleased] using hoff
      exact .inr (.inr ⟨rfl, hpartly⟩)
  · intro hsilenced
    refine .inr ⟨⟨rfl, hproceeded.accepting, ?_, fun other hother hexists => ?_⟩, fun huntouched =>
      absurd huntouched.pending (by simp)⟩
    · rw [hproceeded.handle_eq]
      exact hcommands
    · rw [hproceeded.handle_eq]
      show reached.dispatch other plugin.handle = false
      rw [hdispatch other, hproceeded.dispatch other]
      have hthere : start.present other = true := (congrFun hpresent other).symm.trans hexists
      by_cases hactive : start.dispatch other plugin.handle = true
      · rcases hsilenced other hother hthere hactive with hdone | hdone | ⟨hsame, hpartly⟩
        · simp [hdone, hthere]
        · simp [hdone, hthere]
        · cases hsame
          simp [hpartly]
      · simp [hactive]

theorem Proceeded.bare_ends (answers : Call → Answer)
    (hproceeded : Proceeded start plugin [.deactivate .factories, .prepareUnload] host now) :
    EndsWell start (host.endTransition plugin.handle) plugin ↔
      if plugin.cleanupPending = true then
        Silenced start plugin answers [.deactivate .factories] .prepareUnload
      else
        plugin.acceptingResources = false ∧ start.commandsEnabled plugin.handle = false ∧
          (start.present .factories = true →
            start.dispatch .factories plugin.handle = false) := by
  have hdispatch : ∀ service, host.dispatch service plugin.handle =
      (start.dispatch service plugin.handle &&
        !(start.present service && decide (service = .factories))) := by
    intro service
    rw [hproceeded.dispatch service]
    simp
  have hfound : (host.endTransition plugin.handle).pluginByHandle plugin.handle =
      some { now with transitioning := false } := by
    rw [pluginByHandle_endTransition, hproceeded.found]
    rfl
  unfold EndsWell
  rw [hfound]
  simp only [Option.some.injEq, exists_eq_left']
  constructor
  · rintro (⟨huntouched, _⟩ | ⟨hquarantined, _⟩)
    · rw [if_neg (by simp [huntouched.wasPending])]
      refine ⟨huntouched.accepting.symm.trans hproceeded.accepting,
        huntouched.commands.symm.trans hproceeded.commands, fun hthere => ?_⟩
      have hsame := huntouched.dispatch .factories (by simp [dispatchServices]) hthere
      rw [← hsame]
      show host.dispatch .factories plugin.handle = false
      simp [hdispatch, hthere]
    · have hpending : plugin.cleanupPending = true :=
        hproceeded.pending.symm.trans hquarantined.pending
      rw [if_pos hpending]
      intro service hservice hthere hactive
      have hoff : host.dispatch service plugin.handle = false := by
        have := hquarantined.inactive.dispatch service hservice
          ((congrFun hproceeded.present service).trans hthere)
        rwa [hproceeded.handle_eq] at this
      have hfactories : service = .factories := by
        simpa [hdispatch, hactive, hthere] using hoff
      exact .inl (by simp [hfactories])
  · intro hkeeps
    by_cases hpending : plugin.cleanupPending = true
    · rw [if_pos hpending] at hkeeps
      refine .inr ⟨⟨hproceeded.pending.trans hpending, hproceeded.accepting, ?_,
        fun service hservice hexists => ?_⟩, fun huntouched =>
          absurd huntouched.wasPending (by simp [hpending])⟩
      · rw [hproceeded.handle_eq]
        exact hproceeded.commands
      · rw [hproceeded.handle_eq]
        show host.dispatch service plugin.handle = false
        have hthere : start.present service = true :=
          (congrFun hproceeded.present service).symm.trans hexists
        by_cases hactive : start.dispatch service plugin.handle = true
        · have hfactories : service = .factories := by
            simpa using hkeeps service hservice hthere hactive
          simp [hdispatch, hfactories, hfactories ▸ hthere]
        · simp [hdispatch, hactive]
    · rw [if_neg hpending] at hkeeps
      rw [Bool.not_eq_true] at hpending
      obtain ⟨haccepting, hcommands, hfactories⟩ := hkeeps
      refine .inl ⟨⟨hproceeded.state, hproceeded.pending.trans hpending, hpending,
        hproceeded.accepting.trans haccepting.symm, hproceeded.factoryDispatch,
        hproceeded.commands.trans hcommands.symm, hproceeded.commandsHeld,
        fun service _ hthere => ?_, fun service _ => ?_⟩, fun hquarantined =>
          absurd hquarantined.pending (by simp [hproceeded.pending, hpending])⟩
      · show host.dispatch service plugin.handle = start.dispatch service plugin.handle
        rw [hdispatch service]
        by_cases hsame : service = .factories
        · rw [hsame] at hthere ⊢
          simp [hfactories hthere]
        · simp [hsame]
      · show host.held service plugin.handle = start.held service plugin.handle
        simp [hproceeded.held service]

/-- The refused deactivation of the Source 2 callbacks restores them, and the commands, only. -/
theorem Proceeded.source2_ends
    (hproceeded : Proceeded start plugin [.deactivate .factories] host now) :
    EndsWell start
        ((((host.modify plugin.handle fun plugin =>
          { plugin with acceptingResources := true }).setCommandsOwnedEnabled plugin.handle
            true).activate .source2Callbacks plugin.handle).endTransition plugin.handle) plugin ↔
      plugin.cleanupPending = false ∧ plugin.acceptingResources = true ∧
        start.commandsEnabled plugin.handle = true ∧
        (start.present .source2Callbacks = true →
          start.dispatch .source2Callbacks plugin.handle = true) ∧
        (start.present .factories = true →
          start.dispatch .factories plugin.handle = false) := by
  generalize hafter : (((host.modify plugin.handle fun plugin =>
    { plugin with acceptingResources := true }).setCommandsOwnedEnabled plugin.handle
      true).activate .source2Callbacks plugin.handle).endTransition plugin.handle = after
  have hdispatch : ∀ service, start.present service = true →
      after.dispatch service plugin.handle =
        (decide (service = .source2Callbacks) ||
          (start.dispatch service plugin.handle && !decide (service = .factories))) := by
    intro service hthere
    have hexists : host.present service = true :=
      (congrFun hproceeded.present service).trans hthere
    rw [← hafter]
    show (if service = .source2Callbacks ∧ host.present service = true then
      set (host.dispatch service) plugin.handle true else host.dispatch service)
        plugin.handle = _
    by_cases hsource2 : service = .source2Callbacks
    · simp [hsource2, hsource2 ▸ hexists]
    · simp [hsource2, hproceeded.dispatch service, hthere]
  have hheld : ∀ service, after.held service plugin.handle = start.held service plugin.handle := by
    intro service
    rw [← hafter]
    show host.held service plugin.handle = start.held service plugin.handle
    simp [hproceeded.held service]
  have hcommands : after.commandsEnabled plugin.handle = true := by
    rw [← hafter]
    exact set_self _ _ _
  have hcommandsHeld : after.commandsHeld plugin.handle = start.commandsHeld plugin.handle := by
    rw [← hafter]
    exact hproceeded.commandsHeld
  have hfound : after.pluginByHandle plugin.handle =
      some { now with acceptingResources := true, transitioning := false } := by
    rw [← hafter, pluginByHandle_endTransition]
    show Option.map _ ((host.modify plugin.handle _).pluginByHandle plugin.handle) = _
    rw [pluginByHandle_modify, if_pos rfl, hproceeded.found]
    · rfl
    · intro plugin
      rfl
  unfold EndsWell
  rw [hfound]
  simp only [Option.some.injEq, exists_eq_left']
  constructor
  · rintro (⟨huntouched, _⟩ | ⟨hquarantined, _⟩)
    · refine ⟨huntouched.wasPending, huntouched.accepting.symm,
        huntouched.commands.symm.trans hcommands, fun hthere => ?_, fun hthere => ?_⟩
      · rw [← huntouched.dispatch _ (by simp [dispatchServices]) hthere]
        simp [hdispatch _ hthere]
      · rw [← huntouched.dispatch _ (by simp [dispatchServices]) hthere]
        simp [hdispatch _ hthere]
    · exact absurd hquarantined.inactive.accepting (by simp)
  · intro ⟨hpending, haccepting, hrunning, hsource2, hfactories⟩
    refine .inl ⟨⟨hproceeded.state, hproceeded.pending.trans hpending, hpending,
      haccepting.symm, hproceeded.factoryDispatch, hcommands.trans hrunning.symm, hcommandsHeld,
      fun service _ hthere => ?_, fun service _ => hheld service⟩, fun hquarantined =>
        absurd hquarantined.inactive.accepting (by simp)⟩
    rw [hdispatch service hthere]
    by_cases hfirst : service = .source2Callbacks
    · rw [hfirst] at hthere ⊢
      simp [hsource2 hthere]
    · by_cases hsecond : service = .factories
      · rw [hsecond] at hthere ⊢
        simp [hfactories hthere]
      · simp [hfirst, hsecond]

/-! ## The commands -/

/-- Where a command stands when it makes its first call. -/
theorem proceeded_begun (hplugin : start.pluginByHandle plugin.handle = some plugin) :
    Proceeded start plugin []
      ((start.modify plugin.handle fun plugin =>
        { plugin with transitioning := true }).silence plugin.handle)
      { plugin with transitioning := true, acceptingResources := false } where
  found := by
    show (Host.modify _ _ _).pluginByHandle _ = _
    rw [pluginByHandle_modify, if_pos rfl]
    · rw [pluginByHandle_modify, if_pos rfl, hplugin]
      · rfl
      · intro plugin
        rfl
    · intro plugin
      rfl
  state := rfl
  pending := rfl
  accepting := rfl
  factoryDispatch := rfl
  preparePause := rfl
  prepareUnload := rfl
  present := rfl
  commands := set_self _ _ _
  commandsHeld := rfl
  dispatch service := by
    show start.dispatch service plugin.handle = _
    simp
  held service := by
    show start.held service plugin.handle = _
    simp

theorem find_refused (hcalls : calls = before ++ exit :: after)
    (hbefore : ∀ call ∈ before, start.refuses gameThread plugin answers call = false)
    (hexit : start.refuses gameThread plugin answers exit = true) :
    calls.find? (start.refuses gameThread plugin answers) = some exit ∧
      (calls.takeWhile fun call => !start.refuses gameThread plugin answers call) = before := by
  constructor
  · rw [List.find?_eq_some_iff_append]
    exact ⟨hexit, before, after, hcalls, fun call hmem => by simp [hbefore call hmem]⟩
  · rw [hcalls, List.takeWhile_append_of_pos (fun call hmem => by simp [hbefore call hmem]),
      List.takeWhile_cons_of_neg (by simp [hexit]), List.append_nil]

/-- Only calls that an unload goes on from stand before one that it can stop at. -/
theorem unloadCalls_plain (running : Bool) :
    (unloadCalls running).Pairwise fun earlier later =>
      later ≠ .unload → later ≠ .publish .unloaded → Call.Plain earlier := by
  cases running <;> simp [unloadCalls, Call.Plain]

theorem unload_skip {target : Call} :
    (host.turn (.unload disable running) handle failed answer call).2 ≠ .skipTo target := by
  show (host.unloadTurn handle disable running answer call).2 ≠ .skipTo target
  unfold unloadTurn fail
  split <;> (try split) <;> (try split) <;> simp

theorem unloadTurn_refused {after : Host} (hproceeded : Proceeded start plugin done host now)
    (hstop : (reach answers gameThread host plugin.handle call).1.turn (.unload disable running)
      plugin.handle failed (reach answers gameThread host plugin.handle call).2 call = (after, .stop
      false)) : start.refuses gameThread plugin answers call = true := by
  by_contra hagreed
  rw [Bool.not_eq_true] at hagreed
  cases call with
  | deactivate service =>
    have hresult := (result_reach hproceeded (.inl rfl)).2 hagreed
    cases service <;> simp [turn, unloadTurn, hresult] at hstop
  | release service =>
    have hresult := (result_reach hproceeded (.inr rfl)).2 hagreed
    cases service <;> simp [turn, unloadTurn, hresult] at hstop
  | prepareUnload =>
    have hready := (agreed_reach hproceeded (.inr rfl)).2 hagreed
    simp [turn, unloadTurn, hready] at hstop
  | preparePause => simp [turn, unloadTurn] at hstop
  | load => simp [turn, unloadTurn] at hstop
  | unload => simp [turn, unloadTurn] at hstop
  | publish event => simp [turn, unloadTurn] at hstop

/-- What stands before the two calls of an unload that restore less than everything. -/
theorem before_source2
    (hcalls : unloadCalls running = before ++ .deactivate .source2Callbacks :: after) :
    before = [.deactivate .factories] := by
  cases running with
  | false =>
    have hmem : Call.deactivate .source2Callbacks ∈ unloadCalls false := by simp [hcalls]
    simp [unloadCalls] at hmem
  | true =>
    rcases before with _ | ⟨first, _ | ⟨second, before⟩⟩
    · simp [unloadCalls] at hcalls
    · simp only [unloadCalls, if_true, List.cons_append, List.nil_append,
        List.cons.injEq] at hcalls
      rw [hcalls.1]
    · have hmem : Call.deactivate .source2Callbacks ∈ (unloadCalls true).drop 2 := by
        simp [hcalls]
      simp [unloadCalls] at hmem

theorem before_prepareUnload (hcalls : unloadCalls false = before ++ .prepareUnload :: after) :
    before = [.deactivate .factories] := by
  rcases before with _ | ⟨first, _ | ⟨second, before⟩⟩
  · simp [unloadCalls] at hcalls
  · simp only [unloadCalls, List.cons_append, List.nil_append, List.cons.injEq] at hcalls
    rw [hcalls.1]
  · have hmem : Call.prepareUnload ∈ (unloadCalls false).drop 2 := by
      simp [hcalls]
    simp [unloadCalls] at hmem

/-- Nothing is released before the plugin is prepared, and the hooks are released first. -/
theorem unloadCalls_released (running : Bool) :
    (unloadCalls running).Pairwise fun earlier later =>
      ((∃ service, later = .deactivate service) ∨ later = .prepareUnload ∨
        later = .release .keelhook) → ∀ service, earlier ≠ .release service := by
  cases running <;> simp [unloadCalls]

theorem stillHeld_before (hcalls : unloadCalls running = before ++ exit :: after)
    (hexit : (∃ service, exit = .deactivate service) ∨ exit = .prepareUnload ∨ exit = .release
      .keelhook) : StillHeld start plugin before := by
  intro service _ _ hmem
  have hpairs := unloadCalls_released running
  rw [hcalls, List.pairwise_append] at hpairs
  exact hpairs.2.2 _ hmem exit List.mem_cons_self hexit service rfl

theorem reach_refused (hproceeded : Proceeded start plugin done host now)
    (hrefused : start.refuses gameThread plugin answers (.release service) = true) :
    (reach answers gameThread host plugin.handle (.release service)).2 =
      answers (.release service) := by
  have hthere : start.present service = true ∧ (answers (.release service)).result ≠ .ok := by
    simpa [refuses] using hrefused
  have hmakes : host.makes gameThread plugin.handle (.release service) = true :=
    (congrFun hproceeded.present service).trans hthere.1
  unfold reach
  rw [if_pos hmakes]

theorem unload_refused {rest : List Call} {after : Host}
    (hproceeded : Proceeded start plugin before host now)
    (hrunning : running = decide (plugin.state = .loaded))
    (hcalls : unloadCalls running = before ++ exit :: rest)
    (hstop : (reach answers gameThread host plugin.handle exit).1.turn (.unload disable running)
      plugin.handle failed (reach answers gameThread host plugin.handle exit).2 exit = (after, .stop
      false)) : EndsWell start after plugin ↔ start.unloadRefusal plugin answers before exit := by
  have hrefused := unloadTurn_refused hproceeded hstop
  cases exit with
  | deactivate service =>
    have hresult : (reach answers gameThread host plugin.handle
        (.deactivate service)).2.result ≠ .ok := fun hok => by
      rw [(result_reach hproceeded (.inl rfl)).1 hok] at hrefused
      cases hrefused
    by_cases hsource2 : service = .source2Callbacks
    · subst hsource2
      cases before_source2 hcalls
      have hreach : (reach answers gameThread host plugin.handle
          (.deactivate .source2Callbacks)).1 = host := reach_source2_whole hresult
      have hafter : after = (((host.modify plugin.handle fun plugin =>
          { plugin with acceptingResources := true }).setCommandsOwnedEnabled plugin.handle
            true).activate .source2Callbacks plugin.handle).endTransition plugin.handle := by
        simpa [turn, unloadTurn, fail, hresult, hreach] using hstop.symm
      rw [hafter]
      exact hproceeded.source2_ends
    · have hafter : after = ((reach answers gameThread host plugin.handle
          (.deactivate service)).1.restorePluginDispatch plugin.handle).endTransition
            plugin.handle := by
        cases service <;> first
          | exact absurd rfl hsource2
          | simpa [turn, unloadTurn, fail, hresult] using hstop.symm
      rw [hafter, hproceeded.deactivating.restored_ends]
      have hstill : StillHeld start plugin before :=
        stillHeld_before hcalls (.inl ⟨service, rfl⟩)
      cases service <;> first
        | exact absurd rfl hsource2
        | simp [unloadRefusal, hstill]
  | prepareUnload =>
    have hready : (reach answers gameThread host plugin.handle .prepareUnload).2.agreed
        = false := by
      by_contra hagreed
      rw [Bool.not_eq_false] at hagreed
      rw [(agreed_reach hproceeded (.inr rfl)).1 hagreed] at hrefused
      cases hrefused
    have hprepared : ∃ now', Proceeded start plugin (before ++ [.prepareUnload])
        (reach answers gameThread host plugin.handle .prepareUnload).1 now' :=
      hproceeded.prepared (.inr rfl)
    obtain ⟨now', hprepared⟩ := hprepared
    cases running with
    | true =>
      have hloaded : plugin.state = .loaded := of_decide_eq_true hrunning.symm
      have hafter : after = ((reach answers gameThread host plugin.handle
          .prepareUnload).1.restorePluginDispatch plugin.handle).endTransition plugin.handle := by
        simpa [turn, unloadTurn, fail, hready] using hstop.symm
      have hstill : StillHeld start plugin (before ++ [.prepareUnload]) := by
        intro service hthere hholds hmem
        rw [List.mem_append] at hmem
        rcases hmem with hmem | hmem
        · exact stillHeld_before hcalls (.inr (.inl rfl)) service hthere hholds hmem
        · simp at hmem
      rw [hafter, hprepared.kept.restored_ends]
      simp [unloadRefusal, hstill, hloaded]
    | false =>
      have hpaused : plugin.state ≠ .loaded := of_decide_eq_false hrunning.symm
      cases before_prepareUnload hcalls
      have hafter : after = (reach answers gameThread host plugin.handle
          .prepareUnload).1.endTransition plugin.handle := by
        simpa [turn, unloadTurn, fail, hready] using hstop.symm
      rw [hafter, hprepared.bare_ends answers]
      simp [unloadRefusal, hpaused]
  | release service =>
    have hanswer := reach_refused hproceeded hrefused
    have hresult : (answers (.release service)).result ≠ .ok := by
      rw [← hanswer]
      intro hok
      rw [(result_reach hproceeded (.inr rfl)).1 hok] at hrefused
      cases hrefused
    rw [hanswer] at hstop
    by_cases hpublished : service = .publishedServices
    · subst hpublished
      have hreach := reach_release_whole (hanswer ▸ hresult) (releasesPartly_published _)
      have hafter : after =
          (host.restorePluginDispatch plugin.handle).endTransition plugin.handle := by
        simpa [turn, unloadTurn, fail, hresult, hreach] using hstop.symm
      rw [hafter]
      exact hproceeded.kept.restored_ends
    by_cases hkeelhook : service = .keelhook
    · subst hkeelhook
      obtain ⟨hfound, _, _, _⟩ := hproceeded.releasing hrefused
      by_cases hrestores : (answers (.release .keelhook)).result = .busy ∧
          plugin.cleanupPending = false ∧ plugin.state = .loaded
      · obtain ⟨hbusy, hpending, hloaded⟩ := hrestores
        have hreach := reach_release_whole (hanswer ▸ hresult) (releasesPartly_busy hbusy)
        have hrun : running = true := hrunning.trans (decide_eq_true hloaded)
        have hafter : after =
            (host.restorePluginDispatch plugin.handle).endTransition plugin.handle := by
          rw [hreach] at hfound
          simpa [turn, unloadTurn, fail, hbusy, hreach, hfound, hproceeded.pending, hpending, hrun]
            using hstop.symm
        rw [hafter, hproceeded.kept.restored_ends]
        simp [unloadRefusal, hbusy, hpending, hloaded,
          stillHeld_before hcalls (.inr (.inr rfl))]
      · have hafter : after = ((reach answers gameThread host plugin.handle
            (.release .keelhook)).1.quarantine plugin.handle
              .keelHookIncomplete).endTransition plugin.handle := by
          have hguard : ¬((answers (.release .keelhook)).result = .busy ∧
              ((reach answers gameThread host plugin.handle
                (.release .keelhook)).1.pluginByHandle plugin.handle).all
                  (!·.cleanupPending) = true ∧ running = true) := by
            rw [hfound, hrunning]
            simpa [hproceeded.pending] using hrestores
          simp only [turn, unloadTurn, fail, hresult, ne_eq, not_false_eq_true, if_true,
            if_neg hguard] at hstop
          exact (congrArg Prod.fst hstop).symm
        rw [hafter, hproceeded.quarantined_ends hrefused]
        simp [unloadRefusal, if_neg hrestores]
    · have hafter : ∃ diagnostic, after = ((reach answers gameThread host plugin.handle
          (.release service)).1.quarantine plugin.handle diagnostic).endTransition
            plugin.handle := by
        cases service <;> first
          | exact absurd rfl hpublished
          | exact absurd rfl hkeelhook
          | exact ⟨_, by simpa [turn, unloadTurn, fail, hresult] using hstop.symm⟩
      obtain ⟨diagnostic, hafter⟩ := hafter
      rw [hafter, hproceeded.quarantined_ends hrefused]
      cases service <;> first
        | exact absurd rfl hpublished
        | exact absurd rfl hkeelhook
        | exact Iff.rfl
  | preparePause => simp [turn, unloadTurn] at hstop
  | load => simp [turn, unloadTurn] at hstop
  | unload => simp [turn, unloadTurn] at hstop
  | publish event => simp [turn, unloadTurn] at hstop

theorem knownPlugins_find (hplugin : host.pluginByHandle handle = some plugin) :
    host.knownPlugins.find? (fun plugin => plugin.handle == handle) = some plugin := by
  unfold knownPlugins
  rw [List.find?_append]
  unfold pluginByHandle at hplugin
  rw [hplugin]
  rfl

theorem unload_ends (hplugin : host.pluginByHandle plugin.handle = some plugin)
    (hfails : (host.unloadPlugin answers gameThread plugin.handle disable).2 = false) :
    EndsWell host (host.unloadPlugin answers gameThread plugin.handle disable).1 plugin ↔
      host.unloadKeeps gameThread plugin answers := by
  unfold unloadKeeps
  by_cases hbegins : (plugin.state = .loaded ∨ plugin.state = .paused) ∧
      plugin.transitioning = false ∧ host.hasRunningDependent plugin true = false
  · obtain ⟨hstate, htransition, hdependent⟩ := hbegins
    have hbegun : host.beginUnload plugin.handle = some
        ((host.modify plugin.handle fun plugin => { plugin with transitioning := true }).silence
          plugin.handle, decide (plugin.state = .loaded)) := by
      unfold beginUnload
      rw [knownPlugins_find hplugin]
      have hstopped : ¬(plugin.state ≠ .loaded ∧ plugin.state ≠ .paused) := by tauto
      simp [if_neg hstopped, htransition, hdependent]
    unfold unloadPlugin at hfails ⊢
    rw [hbegun] at hfails ⊢
    simp only at hfails ⊢
    obtain ⟨before, exit, rest, failed, last, hcalls, hpassed, hexit⟩ :=
      perform_false (fun _ _ _ _ _ => unload_skip) Passed.nil hfails
    have hpairs := unloadCalls_plain (decide (plugin.state = .loaded))
    rw [hcalls, List.pairwise_append] at hpairs
    have hplain : ∀ call ∈ before, Call.Plain call := by
      intro call hmem
      refine hpairs.2.2 call hmem exit List.mem_cons_self ?_ ?_
      · rintro rfl
        simp [turn, unloadTurn] at hexit
      · rintro rfl
        simp [turn, unloadTurn] at hexit
    obtain ⟨⟨now, hproceeded⟩, hagreed⟩ :=
      passed_unload (proceeded_begun hplugin) hplain hpassed
    obtain ⟨hfirst, htaken⟩ := find_refused hcalls hagreed (unloadTurn_refused hproceeded hexit)
    rw [unload_refused hproceeded rfl hcalls hexit, if_pos ⟨hstate, htransition, hdependent⟩]
    simp [hfirst, htaken, forall_eq']
  · have hnone : host.beginUnload plugin.handle = none := by
      unfold beginUnload
      rw [knownPlugins_find hplugin]
      simp only [ite_eq_left_iff, reduceCtorEq, imp_false, not_not]
      intro hstate htransition
      by_contra hdependent
      simp only [Bool.not_eq_true] at htransition hdependent
      exact hbegins ⟨by tauto, htransition, hdependent⟩
    unfold unloadPlugin
    rw [hnone, if_neg hbegins]
    exact unbegun_ends hplugin

theorem passed_pause {last : Host} {record : PluginRecord}
    (hfirst : Proceeded start plugin [] first record)
    (hplain : ∀ call ∈ calls, ∃ service, call = .deactivate service)
    (hpassed : Passed answers gameThread .pause plugin.handle calls failed failed' first last) :
    ∃ now, Proceeded start plugin calls last now := by
  induction hpassed with
  | nil => exact ⟨record, hfirst⟩
  | @snoc calls failed failed' first before after call passed hturn ih =>
    obtain ⟨now, hproceeded⟩ := ih hfirst fun earlier hmem =>
      hplain earlier (List.mem_append_left _ hmem)
    obtain ⟨service, rfl⟩ := hplain call (List.mem_append_right _ (by simp))
    have hresult : (reach answers gameThread before plugin.handle
        (.deactivate service)).2.result = .ok := by
      by_contra hrefused
      simp [turn, pauseTurn, fail, hrefused] at hturn
    have hafter : (reach answers gameThread before plugin.handle
        (.deactivate service)).1 = after := by
      simpa [turn, pauseTurn, fail, hresult] using hturn
    have hok := (result_reach hproceeded (.inl rfl)).1 hresult
    rw [← hafter]
    exact ⟨now, hproceeded.deactivated ((refuses_service (.inl rfl)).1 hok)⟩

theorem pause_skip {target : Call} :
    (host.turn .pause handle failed answer call).2 ≠ .skipTo target := by
  show (host.pauseTurn handle answer call).2 ≠ .skipTo target
  unfold pauseTurn fail
  split <;> (try split) <;> simp

theorem pauseCalls_plain :
    pauseCalls.Pairwise fun earlier later =>
      later ≠ .publish .paused → ∃ service, earlier = .deactivate service := by
  simp [pauseCalls]

theorem pause_ends (hplugin : host.pluginByHandle plugin.handle = some plugin)
    (hfails : (host.pausePlugin answers gameThread plugin.handle).2 = false) :
    EndsWell host (host.pausePlugin answers gameThread plugin.handle).1 plugin ↔
      host.pauseKeeps plugin := by
  unfold pauseKeeps
  by_cases hbegins : plugin.state = .loaded ∧ plugin.transitioning = false ∧
      host.hasRunningDependent plugin false = false
  · obtain ⟨hstate, htransition, hdependent⟩ := hbegins
    have hbegun : host.beginPause plugin.handle = some
        ((host.modify plugin.handle fun plugin => { plugin with transitioning := true }).silence
          plugin.handle) := by
      unfold beginPause
      rw [hplugin]
      simp [hstate, htransition, hdependent]
    unfold pausePlugin at hfails ⊢
    rw [hbegun] at hfails ⊢
    simp only at hfails ⊢
    obtain ⟨before, exit, rest, failed, last, hcalls, hpassed, hexit⟩ :=
      perform_false (fun _ _ _ _ _ => pause_skip) Passed.nil hfails
    have hpairs := pauseCalls_plain
    rw [hcalls, List.pairwise_append] at hpairs
    have hplain : ∀ call ∈ before, ∃ service, call = .deactivate service := by
      intro call hmem
      refine hpairs.2.2 call hmem exit List.mem_cons_self ?_
      rintro rfl
      simp [turn, pauseTurn] at hexit
    obtain ⟨now, hproceeded⟩ := passed_pause (proceeded_begun hplugin) hplain hpassed
    rw [if_pos ⟨hstate, htransition, hdependent⟩]
    have hstill : StillHeld host plugin before := by
      intro service _ _ hmem
      obtain ⟨other, hother⟩ := hplain _ hmem
      cases hother
    have hends : ∀ {reached : Host} {now : PluginRecord}, Kept host plugin before reached now →
        (EndsWell host ((reached.restorePluginDispatch plugin.handle).endTransition plugin.handle)
          plugin ↔ plugin.cleanupPending = false ∧ Active host plugin) := by
      intro reached now hkept
      rw [hkept.restored_ends]
      simp [hstill]
    cases exit with
    | deactivate service =>
      have hrefused : (reach answers gameThread last plugin.handle
          (.deactivate service)).2.result ≠ .ok := fun hok => by
        simp [turn, pauseTurn, hok] at hexit
      simp only [turn, pauseTurn, fail, if_pos hrefused] at hexit
      rw [← congrArg Prod.fst hexit]
      exact hends hproceeded.deactivating
    | preparePause =>
      obtain ⟨now', hprepared⟩ : ∃ now', Proceeded host plugin (before ++ [.preparePause])
          (reach answers gameThread last plugin.handle .preparePause).1 now' :=
        hproceeded.prepared (.inl rfl)
      have hready : (reach answers gameThread last plugin.handle .preparePause).2.agreed
          = false := by
        by_contra hagreed
        simp [turn, pauseTurn, hagreed] at hexit
      simp only [turn, pauseTurn, fail, hready, Bool.not_false, if_true] at hexit
      rw [← congrArg Prod.fst hexit]
      refine hends ⟨hprepared.found, hprepared.state, hprepared.pending, hprepared.present,
        hprepared.commandsHeld, fun service => ?_⟩
      simpa using hprepared.held service
    | prepareUnload => simp [turn, pauseTurn] at hexit
    | release service => simp [turn, pauseTurn] at hexit
    | load => simp [turn, pauseTurn] at hexit
    | unload => simp [turn, pauseTurn] at hexit
    | publish event => simp [turn, pauseTurn] at hexit
  · have hnone : host.beginPause plugin.handle = none := by
      unfold beginPause
      rw [hplugin]
      simp only [ite_eq_left_iff, reduceCtorEq, imp_false, not_not]
      intro hstate htransition
      by_contra hdependent
      simp only [Bool.not_eq_true] at htransition hdependent
      exact hbegins ⟨hstate, htransition, hdependent⟩
    unfold pausePlugin
    rw [hnone, if_neg hbegins]
    exact unbegun_ends hplugin

/-- A failing unload or pause leaves the plugin untouched or quarantined exactly if it comes back
to what the plugin was. -/
theorem failing_command_ends_iff (answers : Call → Answer) (gameThread disable : Bool)
    (hplugin : host.pluginByHandle plugin.handle = some plugin) :
    ((host.unloadPlugin answers gameThread plugin.handle disable).2 = false →
      (EndsWell host (host.unloadPlugin answers gameThread plugin.handle disable).1 plugin ↔
        host.unloadKeeps gameThread plugin answers)) ∧
    ((host.pausePlugin answers gameThread plugin.handle).2 = false →
      (EndsWell host (host.pausePlugin answers gameThread plugin.handle).1 plugin ↔
        host.pauseKeeps plugin)) :=
  ⟨unload_ends hplugin, pause_ends hplugin⟩

/-- The only plugin of a host. -/
def loneRecord (state : PluginState) (active : Bool) : PluginRecord :=
  { PluginRecord.new 1 "a.so".toList with
    state := state, acceptingResources := active, factoryDispatchEnabled := active
    library := true, load := true, unload := true, selectable := true }

/-- That host: the plugin is active in every service or in none, and holds something in each. -/
def lone (state : PluginState) (active : Bool) : Host where
  plugins := [loneRecord state active]
  disabledPlugins := []
  loadOrder := [1]
  nextPlugin := 2
  bulkPluginOperation := false
  present := fun _ => true
  dispatch := fun _ _ => active
  held := fun _ _ => true
  commandsEnabled := fun _ => active
  commandsHeld := fun _ => true
  commandActive := fun _ => false
  pinned := fun _ => false
  leased := fun _ => false

/-- One call is answered BUSY, the others well. -/
def busyAt (busy : Call) (call : Call) : Answer :=
  if call = busy then ⟨.busy, false, true, false⟩ else ⟨.ok, false, true, false⟩

/-- A running plugin whose lifecycle callbacks are busy is left untouched. -/
theorem failing_command_ends_running :
    EndsWell (lone .loaded true) ((lone .loaded true).unloadPlugin
      (busyAt (.deactivate .lifecycle)) true 1 false).1 (loneRecord .loaded true) := by
  have hplugin : (lone .loaded true).pluginByHandle (loneRecord .loaded true).handle =
      some (loneRecord .loaded true) := by decide
  refine ((failing_command_ends_iff (busyAt (.deactivate .lifecycle)) true false
    hplugin).1 (by decide)).2 ?_
  have hbegins : ((loneRecord .loaded true).state = .loaded ∨
      (loneRecord .loaded true).state = .paused) ∧
      (loneRecord .loaded true).transitioning = false ∧
      (lone .loaded true).hasRunningDependent (loneRecord .loaded true) true = false := by decide
  have hexit : (unloadCalls true).find? ((lone .loaded true).refuses true
      (loneRecord .loaded true) (busyAt (.deactivate .lifecycle))) =
        some (.deactivate .lifecycle) := by decide
  unfold unloadKeeps
  rw [if_pos hbegins]
  intro calls exit hmem
  cases hexit.symm.trans hmem
  exact ⟨rfl, rfl, rfl, rfl, fun _ _ _ => rfl⟩

/-- A paused plugin whose factories are busy is made active by the unload that fails. -/
theorem failing_command_activates_paused :
    ¬ ∀ (host : Host) (plugin : PluginRecord) (answers : Call → Answer) (gameThread disable : Bool),
      host.pluginByHandle plugin.handle = some plugin →
      plugin.state = .loaded ∧ Active host plugin ∨ plugin.state = .paused ∧ Inactive host plugin →
      plugin.cleanupPending = false →
      (host.unloadPlugin answers gameThread plugin.handle disable).2 = false →
      EndsWell host (host.unloadPlugin answers gameThread plugin.handle disable).1 plugin := by
  intro hclaim
  obtain ⟨now, hnow, hends⟩ := hclaim (lone .paused false) (loneRecord .paused false)
    (busyAt (.deactivate .factories)) true false (by decide)
    (.inr ⟨rfl, rfl, rfl, fun _ _ _ => rfl⟩) rfl (by decide)
  have haccepting : (((lone .paused false).unloadPlugin (busyAt (.deactivate .factories)) true 1
      false).1.pluginByHandle 1).map (·.acceptingResources) = some true := by decide
  have hactive : now.acceptingResources = true := by
    rw [show ((lone .paused false).unloadPlugin (busyAt (.deactivate .factories)) true 1
      false).1.pluginByHandle 1 = some now from hnow] at haccepting
    exact Option.some.inj haccepting
  rcases hends with ⟨huntouched, _⟩ | ⟨hquarantined, _⟩
  · exact absurd (hactive.symm.trans huntouched.accepting) (by decide)
  · exact absurd (hactive.symm.trans hquarantined.inactive.accepting) (by decide)

end Host
end KeelS2.Plugins
