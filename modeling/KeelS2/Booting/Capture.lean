import KeelS2.Lib.Runs

/-!
# What the bootstrap captures

The bootstrap stands where the engine looks for the game's server module. It hands the engine the
genuine interfaces, and writes three of its own functions into their vtables: over `Connect` and
`Disconnect` of the configuration, and over `Init` of the server. Each of them takes itself back
when it is called, and calls what it stood for.
-/

namespace KeelS2.Booting

open Lib (run Heeds)
open Function (update update_of_ne)

inductive Capture
  | connect
  | disconnect
  | init
  deriving DecidableEq, Repr

/-- What a vtable entry may be. -/
inductive Pointer
  | null
  /-- A function of the genuine server module. -/
  | genuine (address : Nat)
  /-- One of another module. -/
  | foreign (address : Nat)
  | hook (capture : Capture)
  deriving DecidableEq, Repr

/-- How a `WriteVtablePointer` comes out. -/
inductive VtableWriteResult
  | failed
  /-- Written, and the protection of the page not restored. -/
  | unprotected
  | written
  deriving DecidableEq, Repr

structure VtablePatch where
  slot : Option Nat
  original : Pointer
  installed : Bool
  deriving DecidableEq, Repr

inductive HostState
  | stopped
  | starting
  | running
  | stopping
  deriving DecidableEq, Repr

structure CompatibilityProfile where
  connectSlot : Nat
  disconnectSlot : Nat
  initSlot : Nat
  deriving DecidableEq, Repr

/-- The vtables of the genuine server module as it is loaded. -/
structure Image where
  entry : Nat → Pointer
  unhooked : ∀ slot capture, entry slot ≠ .hook capture

structure Bootstrap where
  memory : Nat → Pointer
  /-- `connect_patch_`, `disconnect_patch_` and `init_patch_`. -/
  patches : Capture → VtablePatch
  serverFactory : Bool
  realServerAttempted : Bool
  profile : Option CompatibilityProfile
  engineFactory : Bool
  connectObserved : Bool
  initObserved : Bool
  captureDisabled : Bool
  lifecycleComplete : Bool
  hostState : HostState
  /-- The `Disconnect` slots of the configurations that the engine has been given. -/
  configSlots : List Nat

namespace Bootstrap

def initial (image : Image) : Bootstrap where
  memory := image.entry
  patches := fun _ => ⟨none, .null, false⟩
  serverFactory := false
  realServerAttempted := false
  profile := none
  engineFactory := false
  connectObserved := false
  initObserved := false
  captureDisabled := false
  lifecycleComplete := false
  hostState := .stopped
  configSlots := []

variable (bootstrap : Bootstrap)

def setPatch (capture : Capture) (patch : VtablePatch) : Bootstrap :=
  { bootstrap with patches := update bootstrap.patches capture patch }

def writeSlot (slot : Nat) (value : Pointer) : Bootstrap :=
  { bootstrap with memory := update bootstrap.memory slot value }

/-! ## Patches -/

/-- `VtablePatch::Install`. `resolves` is that the module of the entry can be told, and compared to
the server's. -/
def install (capture : Capture) (slot : Nat) (resolves : Bool) (result : VtableWriteResult) :
    Bootstrap × Bool :=
  let patch := bootstrap.patches capture
  let rejected := bootstrap.setPatch capture ⟨none, .null, false⟩
  if patch.installed then (bootstrap, patch.slot = some slot)
  else match bootstrap.memory slot with
    | .genuine address =>
      if !resolves || result = .failed then (rejected, false)
      else
        ((bootstrap.setPatch capture ⟨some slot, .genuine address, true⟩).writeSlot slot
          (.hook capture), result = .written)
    | _ => (rejected, false)

/-- `RestorePatch`. -/
def restore (capture : Capture) (result : VtableWriteResult) : Bootstrap :=
  let patch := bootstrap.patches capture
  match patch.slot with
  | some slot =>
    if !patch.installed || result = .failed then bootstrap
    else (bootstrap.writeSlot slot patch.original).setPatch capture
      { patch with slot := none, installed := false }
  | none => bootstrap

def disableLifecycleCapture (results : Capture → VtableWriteResult) : Bootstrap :=
  if bootstrap.captureDisabled then bootstrap
  else
    ((({ bootstrap with captureDisabled := true }.restore .connect (results .connect)).restore
      .disconnect (results .disconnect)).restore .init (results .init))

/-- What the platform answers while an interface is captured. -/
structure Platform where
  resolves : Capture → Bool
  installs : Capture → VtableWriteResult
  restores : Capture → VtableWriteResult

def patchConfig (profile : CompatibilityProfile) (vtable : Nat) (platform : Platform) : Bootstrap :=
  let (connecting, connected) :=
    if bootstrap.connectObserved then (bootstrap, true)
    else bootstrap.install .connect (vtable + profile.connectSlot) (platform.resolves .connect)
      (platform.installs .connect)
  if !connected then connecting.disableLifecycleCapture platform.restores
  else
    let (disconnecting, disconnected) := connecting.install .disconnect
      (vtable + profile.disconnectSlot) (platform.resolves .disconnect)
        (platform.installs .disconnect)
    if !disconnected then disconnecting.disableLifecycleCapture platform.restores
    else disconnecting

def patchServer (profile : CompatibilityProfile) (vtable : Nat) (platform : Platform) : Bootstrap :=
  if bootstrap.initObserved then bootstrap
  else
    let (patched, installed) := bootstrap.install .init (vtable + profile.initSlot)
      (platform.resolves .init) (platform.installs .init)
    if !installed then patched.disableLifecycleCapture platform.restores else patched

/-! ## What the engine calls -/

inductive InterfaceName
  | config
  | server
  | other
  deriving DecidableEq, Repr

/-- `EnsureRealServer`; `loads` is what comes of it, when it is attempted. -/
def ensureRealServer (loads : Option (Option CompatibilityProfile)) : Bootstrap × Bool :=
  if bootstrap.serverFactory then (bootstrap, true)
  else if bootstrap.realServerAttempted then (bootstrap, false)
  else
    let attempted := { bootstrap with realServerAttempted := true }
    match loads with
    | none => (attempted, false)
    | some profile => ({ attempted with serverFactory := true, profile := profile }, true)

/-- The lifecycle is still captured. -/
def captures : Bool :=
  bootstrap.profile.isSome && !bootstrap.captureDisabled && !bootstrap.lifecycleComplete

/-- The genuine module has given out an object with this vtable. -/
def captureInterface (name : InterfaceName) (profile : CompatibilityProfile) (vtable : Nat)
    (platform : Platform) : Bootstrap :=
  match name with
  | .config =>
    let given :=
      { bootstrap with configSlots := (vtable + profile.disconnectSlot) :: bootstrap.configSlots }
    if given.captures then given.patchConfig profile vtable platform else given
  | .server =>
    if bootstrap.captures then bootstrap.patchServer profile vtable platform else bootstrap
  | .other => bootstrap

/-- `QueryInterface`. `object` is the vtable of what the genuine factory returns, if it does. -/
def queryInterface (name : Option InterfaceName) (loads : Option (Option CompatibilityProfile))
    (object : Option Nat) (platform : Platform) : Bootstrap :=
  match name with
  | none => bootstrap
  | some name =>
    let (loaded, ready) := bootstrap.ensureRealServer loads
    if !ready then loaded
    else match object, loaded.profile with
      | some vtable, some profile => loaded.captureInterface name profile vtable platform
      | _, _ => loaded

/-- What the host's `KeelHost_Start` comes back with. -/
inductive StartResult
  | failed
  | running
  | retained
  | other
  deriving DecidableEq, Repr

/-- What a call of the engine meets on its way. -/
structure Answer where
  /-- The factory that `Connect` is given is one. -/
  factory : Bool
  restores : VtableWriteResult
  /-- The host library is there and has its exports. -/
  opens : Bool
  starts : StartResult
  /-- What the genuine `Init` returns. -/
  result : Int
  /-- `KeelHost_CompleteStartup` returns something else than zero. -/
  completes : Bool
  /-- `KeelHost_Stop` does, before the deadline. -/
  stops : Bool

def startHost (answer : Answer) : Bootstrap :=
  if bootstrap.hostState ≠ .stopped || !bootstrap.engineFactory || !bootstrap.captures then
    bootstrap
  else if !answer.opens then { bootstrap with hostState := .stopped }
  else match answer.starts with
    | .failed => { bootstrap with hostState := .stopped }
    | .running => { bootstrap with hostState := .running }
    | .retained | .other => { bootstrap with hostState := .stopping }

def stopHost (answer : Answer) : Bootstrap :=
  if bootstrap.hostState ≠ .running && bootstrap.hostState ≠ .stopping then bootstrap
  else { bootstrap with hostState := if answer.stops then .stopped else .stopping }

/-- A genuine function is called; whether the host runs then. -/
structure GenuineCall where
  function : Pointer
  running : Bool
  deriving DecidableEq, Repr

/-- The original of a patch is called, if there is one. -/
def callOriginal (original : Pointer) : List GenuineCall :=
  if original = .null then [] else [⟨original, bootstrap.hostState = .running⟩]

def onConnect (answer : Answer) : Bootstrap × List GenuineCall :=
  let observed := { bootstrap with engineFactory := answer.factory, connectObserved := true }
  let original := (observed.patches .connect).original
  let restored := observed.restore .connect answer.restores
  (restored, restored.callOriginal original)

def onDisconnect (answer : Answer) : Bootstrap × List GenuineCall :=
  let original := (bootstrap.patches .disconnect).original
  let stopped := (bootstrap.restore .disconnect answer.restores).stopHost answer
  let complete := { stopped with lifecycleComplete := true }
  (complete, complete.callOriginal original)

def onInit (answer : Answer) : Bootstrap × List GenuineCall :=
  let observed := { bootstrap with initObserved := true }
  let original := (observed.patches .init).original
  let started := (observed.restore .init answer.restores).startHost answer
  let calls := started.callOriginal original
  let result := if original = .null then 0 else answer.result
  if result = 0 then (started.stopHost answer, calls)
  else if started.hostState = .running ∧ answer.completes = false then
    (started.stopHost answer, calls)
  else (started, calls)

/-- The engine calls what stands in a slot. -/
def call (slot : Nat) (answer : Answer) : Bootstrap × List GenuineCall :=
  match bootstrap.memory slot with
  | .hook .connect => bootstrap.onConnect answer
  | .hook .disconnect => bootstrap.onDisconnect answer
  | .hook .init => bootstrap.onInit answer
  | function => (bootstrap, [⟨function, bootstrap.hostState = .running⟩])

inductive Act
  | queryInterface (name : Option InterfaceName) (loads : Option (Option CompatibilityProfile))
    (object : Option Nat) (platform : Platform)
  | call (slot : Nat) (answer : Answer)

def step (bootstrap : Bootstrap) : Act → Bootstrap
  | .queryInterface name loads object platform =>
    bootstrap.queryInterface name loads object platform
  | .call slot answer => (bootstrap.call slot answer).1

/-- A configuration that is given out while the host runs has the slot that is patched; and
`Disconnect` comes when neither `Connect` nor `Init` is patched any more. -/
def Orderly (bootstrap : Bootstrap) : Act → Prop
  | .queryInterface name _ object _ => bootstrap.hostState = .running → name = some .config →
    ∀ vtable profile, object = some vtable → bootstrap.profile = some profile →
      (bootstrap.patches .disconnect).slot = some (vtable + profile.disconnectSlot)
  | .call slot _ => bootstrap.memory slot = .hook .disconnect →
    (bootstrap.patches .connect).installed = false ∧ (bootstrap.patches .init).installed = false

/-! ## What is patched -/

/-- A patch knows what it stands over, and what is not patched is as it was. -/
structure Patched (image : Image) (bootstrap : Bootstrap) : Prop where
  restorable : ∀ capture, (bootstrap.patches capture).installed = true → ∃ slot address,
    (bootstrap.patches capture).slot = some slot ∧ bootstrap.memory slot = .hook capture ∧
      (bootstrap.patches capture).original = .genuine address ∧ image.entry slot = .genuine address
  removed : ∀ capture, (bootstrap.patches capture).installed = false →
    (bootstrap.patches capture).slot = none
  original : ∀ capture other, (bootstrap.patches capture).original ≠ .hook other
  untouched : ∀ slot, (∀ capture, (bootstrap.patches capture).slot ≠ some slot) →
    bootstrap.memory slot = image.entry slot

variable {image : Image} {bootstrap : Bootstrap} {capture : Capture} {slot : Nat} {resolves : Bool}
variable {result : VtableWriteResult}

theorem Patched.of_slot (hpatched : Patched image bootstrap)
    (hslot : (bootstrap.patches capture).slot = some slot) :
    (bootstrap.patches capture).installed = true ∧ bootstrap.memory slot = .hook capture ∧
      ∃ address, (bootstrap.patches capture).original = .genuine address ∧
        image.entry slot = .genuine address := by
  cases hinstalled : (bootstrap.patches capture).installed with
  | false =>
    rw [hpatched.removed capture hinstalled] at hslot
    cases hslot
  | true =>
    obtain ⟨other, address, hother, hmemory, horiginal⟩ := hpatched.restorable capture hinstalled
    obtain rfl : slot = other := Option.some.inj (hslot.symm.trans hother)
    exact ⟨rfl, hmemory, address, horiginal⟩

theorem Patched.of_hook (hpatched : Patched image bootstrap)
    (hmemory : bootstrap.memory slot = .hook capture) :
    (bootstrap.patches capture).slot = some slot := by
  by_contra hother
  have hbare : ∀ other, (bootstrap.patches other).slot ≠ some slot := by
    intro other hslot
    obtain ⟨_, hhook, _⟩ := hpatched.of_slot hslot
    obtain rfl : capture = other := Pointer.hook.inj (hmemory.symm.trans hhook)
    exact hother hslot
  exact image.unhooked slot capture ((hpatched.untouched slot hbare).symm.trans hmemory)

theorem Patched.rejects (hpatched : Patched image bootstrap)
    (hinstalled : (bootstrap.patches capture).installed = false) :
    Patched image (bootstrap.setPatch capture ⟨none, .null, false⟩) := by
  have hslots : ∀ other slot, ((bootstrap.setPatch capture ⟨none, .null, false⟩).patches
    other).slot =
      some slot ↔ (bootstrap.patches other).slot = some slot := by
    intro other slot
    by_cases hsame : other = capture
    · subst hsame
      simp [setPatch, hpatched.removed other hinstalled]
    · simp [setPatch, update_of_ne hsame]
  refine ⟨fun other hother => ?_, fun other hother => ?_, fun other third => ?_,
    fun slot hbare => ?_⟩
  · by_cases hsame : other = capture
    · subst hsame
      simp [setPatch] at hother
    · simp only [setPatch, update_of_ne hsame] at hother ⊢
      exact hpatched.restorable other hother
  · by_cases hsame : other = capture
    · subst hsame
      simp [setPatch]
    · simp only [setPatch, update_of_ne hsame] at hother ⊢
      exact hpatched.removed other hother
  · by_cases hsame : other = capture
    · subst hsame
      simp [setPatch]
    · simp only [setPatch, update_of_ne hsame]
      exact hpatched.original other third
  · exact hpatched.untouched slot fun other hslot => hbare other ((hslots other slot).2 hslot)

theorem Patched.installs (hpatched : Patched image bootstrap) {address : Nat}
    (hinstalled : (bootstrap.patches capture).installed = false)
    (hmemory : bootstrap.memory slot = .genuine address) :
    Patched image ((bootstrap.setPatch capture ⟨some slot, .genuine address, true⟩).writeSlot slot
      (.hook capture)) := by
  have hbare : ∀ other, (bootstrap.patches other).slot ≠ some slot := by
    intro other hslot
    have hhook := (hpatched.of_slot hslot).2.1
    rw [hmemory] at hhook
    cases hhook
  have hentry : image.entry slot = .genuine address := by
    rw [← hpatched.untouched slot hbare]
    exact hmemory
  refine ⟨fun other hother => ?_, fun other hother => ?_, fun other third => ?_,
    fun third hthird => ?_⟩
  · by_cases hsame : other = capture
    · subst hsame
      exact ⟨slot, address, by simp [setPatch, writeSlot], by simp [writeSlot],
        by simp [setPatch, writeSlot], hentry⟩
    · simp only [setPatch, writeSlot, update_of_ne hsame] at hother ⊢
      obtain ⟨theirs, original, hslot, hhook, horiginal⟩ := hpatched.restorable other hother
      have hdiffers : theirs ≠ slot := by
        rintro rfl
        exact hbare other hslot
      exact ⟨theirs, original, hslot,
        by rw [update_of_ne hdiffers]; exact hhook, horiginal⟩
  · by_cases hsame : other = capture
    · subst hsame
      simp [setPatch, writeSlot] at hother
    · simp only [setPatch, writeSlot, update_of_ne hsame] at hother ⊢
      exact hpatched.removed other hother
  · by_cases hsame : other = capture
    · subst hsame
      simp [setPatch, writeSlot]
    · simp only [setPatch, writeSlot, update_of_ne hsame]
      exact hpatched.original other third
  · have hdiffers : third ≠ slot := by
      rintro rfl
      exact hthird capture (by simp [setPatch, writeSlot])
    simp only [writeSlot, setPatch, update_of_ne hdiffers]
    refine hpatched.untouched third fun other hslot => ?_
    have hsame : other ≠ capture := by
      rintro rfl
      rw [hpatched.removed other hinstalled] at hslot
      cases hslot
    refine hthird other ?_
    simp only [setPatch, writeSlot, update_of_ne hsame]
    exact hslot

theorem Patched.install (hpatched : Patched image bootstrap) (capture : Capture) (slot : Nat)
    (resolves : Bool) (result : VtableWriteResult) :
    Patched image (bootstrap.install capture slot resolves result).1 := by
  unfold Bootstrap.install
  simp only
  split
  · exact hpatched
  · next hinstalled =>
    rw [Bool.not_eq_true] at hinstalled
    split
    · next address hmemory =>
      split
      · exact hpatched.rejects hinstalled
      · exact hpatched.installs hinstalled hmemory
    · exact hpatched.rejects hinstalled

theorem Patched.restore (hpatched : Patched image bootstrap) (capture : Capture)
    (result : VtableWriteResult) : Patched image (bootstrap.restore capture result) := by
  unfold Bootstrap.restore
  simp only
  split
  · next slot hslot =>
    split
    · exact hpatched
    · obtain ⟨_, hhook, address, horiginal, hentry⟩ := hpatched.of_slot hslot
      refine ⟨fun other hother => ?_, fun other hother => ?_, fun other third => ?_,
        fun third hthird => ?_⟩
      · by_cases hsame : other = capture
        · subst hsame
          simp [setPatch, writeSlot] at hother
        · simp only [setPatch, writeSlot, update_of_ne hsame] at hother ⊢
          obtain ⟨theirs, original, htheirs, hmemory, hrest⟩ := hpatched.restorable other hother
          have hdiffers : theirs ≠ slot := by
            rintro rfl
            exact hsame (Pointer.hook.inj (hmemory.symm.trans hhook))
          exact ⟨theirs, original, htheirs,
            by rw [update_of_ne hdiffers]; exact hmemory, hrest⟩
      · by_cases hsame : other = capture
        · subst hsame
          simp [setPatch]
        · simp only [setPatch, writeSlot, update_of_ne hsame] at hother ⊢
          exact hpatched.removed other hother
      · by_cases hsame : other = capture
        · subst hsame
          simp only [setPatch, Function.update_self]
          exact hpatched.original other third
        · simp only [setPatch, writeSlot, update_of_ne hsame]
          exact hpatched.original other third
      · by_cases hmine : third = slot
        · subst hmine
          simp only [setPatch, writeSlot, Function.update_self]
          exact horiginal.trans hentry.symm
        · simp only [setPatch, writeSlot, update_of_ne hmine]
          refine hpatched.untouched third fun other htheirs => ?_
          have hsame : other ≠ capture := by
            rintro rfl
            exact hmine (Option.some.inj (htheirs.symm.trans hslot))
          refine hthird other ?_
          simp only [setPatch, update_of_ne hsame]
          exact htheirs
  · exact hpatched

/-! ## What patches leave alone -/

/-- Nothing but vtables and patches is written. -/
def Rewritten (bootstrap after : Bootstrap) : Prop :=
  after = { bootstrap with memory := after.memory, patches := after.patches }

variable {after : Bootstrap} {other : Capture}

theorem install_rewritten (bootstrap : Bootstrap) (capture : Capture) (slot : Nat) (resolves : Bool)
    (result : VtableWriteResult) :
    Rewritten bootstrap (bootstrap.install capture slot resolves result).1 := by
  unfold Bootstrap.install
  simp only
  split
  · rfl
  split
  · split
    · rfl
    · rfl
  · rfl

theorem restore_rewritten (bootstrap : Bootstrap) (capture : Capture) (result : VtableWriteResult) :
    Rewritten bootstrap (bootstrap.restore capture result) := by
  unfold Bootstrap.restore
  simp only
  split
  · split
    · rfl
    · rfl
  · rfl

theorem install_other (bootstrap : Bootstrap) (slot : Nat) (resolves : Bool)
    (result : VtableWriteResult) (hother : other ≠ capture) :
    (bootstrap.install capture slot resolves result).1.patches other = bootstrap.patches other := by
  unfold Bootstrap.install
  simp only
  split
  · rfl
  split
  · split
    · simp [setPatch, update_of_ne hother]
    · simp [setPatch, writeSlot, update_of_ne hother]
  · simp [setPatch, update_of_ne hother]

theorem restore_other (bootstrap : Bootstrap) (result : VtableWriteResult)
    (hother : other ≠ capture) :
    (bootstrap.restore capture result).patches other = bootstrap.patches other := by
  unfold Bootstrap.restore
  simp only
  split
  · split
    · rfl
    · simp [setPatch, writeSlot, update_of_ne hother]
  · rfl

theorem installed_of_restore
    (hinstalled : ((bootstrap.restore capture result).patches other).installed = true) :
    (bootstrap.patches other).installed = true := by
  unfold Bootstrap.restore at hinstalled
  simp only at hinstalled
  split at hinstalled
  · split at hinstalled
    · exact hinstalled
    · by_cases hsame : other = capture
      · subst hsame
        simp [setPatch, writeSlot] at hinstalled
      · simpa [setPatch, writeSlot, update_of_ne hsame] using hinstalled
  · exact hinstalled

theorem install_again (hinstalled : (bootstrap.patches capture).installed = true) :
    bootstrap.install capture slot resolves result =
      (bootstrap, decide ((bootstrap.patches capture).slot = some slot)) := by
  unfold Bootstrap.install
  simp only [hinstalled, if_true]

theorem install_ok (hok : (bootstrap.install capture slot resolves result).2 = true) :
    ((bootstrap.install capture slot resolves result).1.patches capture).installed = true ∧
      ((bootstrap.install capture slot resolves result).1.patches capture).slot = some slot := by
  unfold Bootstrap.install at hok ⊢
  simp only at hok ⊢
  split at hok
  · next hinstalled =>
    rw [if_pos hinstalled]
    exact ⟨hinstalled, by simpa using hok⟩
  · next hinstalled =>
    rw [if_neg hinstalled]
    split at hok
    · next address hmemory =>
      split at hok
      · cases hok
      · next hwrites =>
        rw [if_neg hwrites]
        simp [setPatch, writeSlot]
    · cases hok

/-! ## What is kept -/

/-- What is captured while it is. -/
structure Kept (image : Image) (bootstrap : Bootstrap) : Prop where
  patched : Patched image bootstrap
  given : (bootstrap.patches .connect).installed = true ∨ bootstrap.connectObserved = true →
    bootstrap.configSlots ≠ []
  connected : bootstrap.engineFactory = true → bootstrap.connectObserved = true
  unloaded : bootstrap.serverFactory = false →
    bootstrap.profile = none ∧ bootstrap.configSlots = []
  guarded : bootstrap.captures = true → ∀ slot ∈ bootstrap.configSlots,
    (bootstrap.patches .disconnect).slot = some slot
  running : bootstrap.hostState = .running → bootstrap.captures = true ∧
    bootstrap.connectObserved = true ∧ bootstrap.initObserved = true

theorem initial_kept (image : Image) : Kept image (initial image) where
  patched :=
    { restorable := fun _ hinstalled => by cases hinstalled
      removed := fun _ _ => rfl
      original := fun _ _ hsame => by cases hsame
      untouched := fun _ _ => rfl }
  given hinstalled := by
    rcases hinstalled with hinstalled | hobserved
    · cases hinstalled
    · cases hobserved
  connected hfactory := by cases hfactory
  unloaded _ := ⟨rfl, rfl⟩
  guarded _ _ hmem := by cases hmem
  running hrunning := by cases hrunning

theorem Kept.restore (hkept : Kept image bootstrap) (hcapture : capture ≠ .disconnect)
    (result : VtableWriteResult) : Kept image (bootstrap.restore capture result) := by
  have hsame := restore_rewritten bootstrap capture result
  refine ⟨hkept.patched.restore capture result, fun hgiven => ?_, ?_, ?_,
    fun hcaptures slot hmem => ?_, ?_⟩
  · rw [hsame] at hgiven ⊢
    refine hkept.given (hgiven.imp_left fun hinstalled => ?_)
    rw [← hsame] at hinstalled
    exact installed_of_restore hinstalled
  · rw [hsame]
    exact hkept.connected
  · rw [hsame]
    exact hkept.unloaded
  · rw [restore_other bootstrap result hcapture.symm]
    rw [hsame] at hcaptures hmem
    exact hkept.guarded hcaptures slot hmem
  · rw [hsame]
    exact hkept.running

/-- What is kept on the way, while the host does not run. -/
structure Halfway (image : Image) (bootstrap : Bootstrap) : Prop where
  patched : Patched image bootstrap
  given : (bootstrap.patches .connect).installed = true ∨ bootstrap.connectObserved = true →
    bootstrap.configSlots ≠ []
  connected : bootstrap.engineFactory = true → bootstrap.connectObserved = true
  unloaded : bootstrap.serverFactory = false →
    bootstrap.profile = none ∧ bootstrap.configSlots = []
  stopped : bootstrap.hostState ≠ .running

theorem Halfway.kept (hhalfway : Halfway image bootstrap)
    (hguarded : bootstrap.captures = true → ∀ slot ∈ bootstrap.configSlots,
      (bootstrap.patches .disconnect).slot = some slot) : Kept image bootstrap where
  patched := hhalfway.patched
  given := hhalfway.given
  connected := hhalfway.connected
  unloaded := hhalfway.unloaded
  guarded := hguarded
  running hrunning := absurd hrunning hhalfway.stopped

theorem Halfway.install (hhalfway : Halfway image bootstrap) (capture : Capture)
    (hlisted : capture = .connect → bootstrap.configSlots ≠ []) (slot : Nat) (resolves : Bool)
    (result : VtableWriteResult) :
    Halfway image (bootstrap.install capture slot resolves result).1 := by
  have hsame := install_rewritten bootstrap capture slot resolves result
  refine ⟨hhalfway.patched.install capture slot resolves result, fun hgiven => ?_, ?_, ?_, ?_⟩
  · by_cases hcapture : capture = .connect
    · rw [hsame]
      exact hlisted hcapture
    · rw [install_other bootstrap slot resolves result (Ne.symm hcapture)] at hgiven
      rw [hsame] at hgiven ⊢
      exact hhalfway.given hgiven
  · rw [hsame]
    exact hhalfway.connected
  · rw [hsame]
    exact hhalfway.unloaded
  · rw [hsame]
    exact hhalfway.stopped

theorem Halfway.disable (hkept : Halfway image bootstrap) (results : Capture → VtableWriteResult) :
    Kept image (bootstrap.disableLifecycleCapture results) := by
  unfold disableLifecycleCapture
  split
  · next hdisabled =>
    refine hkept.kept fun hcaptures => ?_
    simp [captures, hdisabled] at hcaptures
  · generalize hgiven : { bootstrap with captureDisabled := true } = given
    have hoff : given.captures = false := by
      rw [← hgiven]
      simp [captures]
    have hpatched : Patched image given := by
      rw [← hgiven]
      exact ⟨hkept.patched.restorable, hkept.patched.removed, hkept.patched.original,
        hkept.patched.untouched⟩
    -- Three restorations, after which nothing is captured.
    generalize hfirst : given.restore .connect (results .connect) = first
    generalize hsecond : first.restore .disconnect (results .disconnect) = second
    generalize hthird : second.restore .init (results .init) = third
    have hone : Rewritten given first := hfirst ▸ restore_rewritten _ _ _
    have htwo : Rewritten first second := hsecond ▸ restore_rewritten _ _ _
    have hthree : Rewritten second third := hthird ▸ restore_rewritten _ _ _
    have hfields : third = { given with memory := third.memory, patches := third.patches } := by
      rw [hthree, htwo, hone]
    have hcaptures : third.captures = false := by
      rw [hfields]
      exact hoff
    have hconnect : (third.patches .connect).installed = true →
        (bootstrap.patches .connect).installed = true := by
      intro hinstalled
      rw [← hthird] at hinstalled
      have hsecond' := installed_of_restore hinstalled
      rw [← hsecond] at hsecond'
      have hfirst' := installed_of_restore hsecond'
      rw [← hfirst] at hfirst'
      have hgiven' := installed_of_restore hfirst'
      rw [← hgiven] at hgiven'
      exact hgiven'
    refine ⟨?_, fun hinstalled => ?_, ?_, ?_, fun hcaptured => ?_, fun hrunning => ?_⟩
    · rw [← hthird, ← hsecond, ← hfirst]
      exact ((hpatched.restore _ _).restore _ _).restore _ _
    · rw [hfields, ← hgiven]
      refine hkept.given (hinstalled.imp hconnect fun hobserved => ?_)
      rw [hfields, ← hgiven] at hobserved
      exact hobserved
    · rw [hfields, ← hgiven]
      exact hkept.connected
    · rw [hfields, ← hgiven]
      exact hkept.unloaded
    · rw [hcaptures] at hcaptured
      cases hcaptured
    · rw [hfields, ← hgiven] at hrunning
      exact absurd hrunning hkept.stopped

/-! ## Interfaces -/

variable {profile : CompatibilityProfile} {vtable : Nat}

theorem captures_of_rewritten (hrewritten : Rewritten bootstrap after) :
    after.captures = bootstrap.captures := by
  rw [hrewritten]
  rfl

section

variable (hkept : Kept image bootstrap)

include hkept

theorem Kept.halfway (hstopped : bootstrap.hostState ≠ .running) : Halfway image bootstrap :=
  ⟨hkept.patched, hkept.given, hkept.connected, hkept.unloaded, hstopped⟩

theorem Kept.patchConfig (hstopped : bootstrap.hostState ≠ .running)
    (hserver : bootstrap.serverFactory = true) (hcaptures : bootstrap.captures = true)
    (profile : CompatibilityProfile) (vtable : Nat) (platform : Platform) :
    Kept image (({ bootstrap with
      configSlots := (vtable + profile.disconnectSlot) :: bootstrap.configSlots } :
        Bootstrap).patchConfig profile vtable platform) := by
  generalize hgiven : ({ bootstrap with
    configSlots := (vtable + profile.disconnectSlot) :: bootstrap.configSlots } : Bootstrap) = given
  have hhalfway : Halfway image given := by
    rw [← hgiven]
    exact ⟨⟨hkept.patched.restorable, hkept.patched.removed, hkept.patched.original,
      hkept.patched.untouched⟩, fun _ => List.cons_ne_nil _ _, hkept.connected,
      fun hunloaded => absurd (hserver.symm.trans hunloaded) (by simp), hstopped⟩
  have hlisted : given.configSlots = (vtable + profile.disconnectSlot)
    :: bootstrap.configSlots := by
    rw [← hgiven]
  have hpatches : given.patches .disconnect = bootstrap.patches .disconnect := by rw [← hgiven]
  unfold Bootstrap.patchConfig
  generalize hconnecting : (if given.connectObserved = true then (given, true)
    else given.install .connect (vtable + profile.connectSlot) (platform.resolves .connect)
      (platform.installs .connect)) = connecting
  obtain ⟨connecting, connected⟩ := connecting
  have hconnect : Halfway image connecting ∧ Rewritten given connecting ∧
      connecting.patches .disconnect = given.patches .disconnect := by
    split at hconnecting
    · cases hconnecting
      exact ⟨hhalfway, rfl, rfl⟩
    · have hfirst := congrArg Prod.fst hconnecting
      simp only at hfirst
      rw [← hfirst]
      exact ⟨hhalfway.install _ (fun _ => by rw [hlisted]; exact List.cons_ne_nil _ _) _ _ _,
        install_rewritten _ _ _ _ _, install_other _ _ _ _ (by decide)⟩
  obtain ⟨hconnecting, hrewritten, hdisconnect⟩ := hconnect
  simp only
  split
  · exact hconnecting.disable _
  · have hdisconnecting := hconnecting.install .disconnect (fun hsame => by cases hsame)
      (vtable + profile.disconnectSlot) (platform.resolves .disconnect)
        (platform.installs .disconnect)
    split
    · exact hdisconnecting.disable _
    · next hinstalled =>
      have hok : (connecting.install .disconnect (vtable + profile.disconnectSlot)
          (platform.resolves .disconnect) (platform.installs .disconnect)).2 = true := by
        simpa using hinstalled
      refine hdisconnecting.kept fun _ slot hmem => ?_
      rw [install_rewritten connecting .disconnect, hrewritten, hlisted] at hmem
      rcases List.mem_cons.1 hmem with rfl | hmem
      · exact (install_ok hok).2
      · -- Another configuration was given out before: the patch stands in its slot.
        have hslot : (connecting.patches .disconnect).slot = some slot := by
          rw [hdisconnect, hpatches]
          exact hkept.guarded hcaptures slot hmem
        have hagain := (hconnecting.patched.of_slot hslot).1
        rw [install_again hagain]
        exact hslot

theorem Kept.givesAgain (hrunning : bootstrap.hostState = .running)
    (hserver : bootstrap.serverFactory = true)
    (horderly : (bootstrap.patches .disconnect).slot = some (vtable + profile.disconnectSlot))
    (platform : Platform) :
    Kept image (({ bootstrap with
      configSlots := (vtable + profile.disconnectSlot) :: bootstrap.configSlots } :
        Bootstrap).patchConfig profile vtable platform) := by
  obtain ⟨hcaptures, hobserved, _⟩ := hkept.running hrunning
  have hinstalled := (hkept.patched.of_slot horderly).1
  generalize hgiven : ({ bootstrap with
    configSlots := (vtable + profile.disconnectSlot) :: bootstrap.configSlots } : Bootstrap) = given
  have hagain : given.patchConfig profile vtable platform = given := by
    unfold Bootstrap.patchConfig
    have hgiven' : given.connectObserved = true := by
      rw [← hgiven]
      exact hobserved
    have hpatch : given.patches .disconnect = bootstrap.patches .disconnect := by rw [← hgiven]
    simp only [hgiven', if_true]
    rw [install_again (by rw [hpatch]; exact hinstalled), hpatch, horderly]
    simp
  rw [hagain, ← hgiven]
  refine ⟨⟨hkept.patched.restorable, hkept.patched.removed, hkept.patched.original,
    hkept.patched.untouched⟩, fun _ => List.cons_ne_nil _ _, hkept.connected,
    fun hunloaded => absurd (hserver.symm.trans hunloaded) (by simp), fun _ slot hmem => ?_,
    hkept.running⟩
  rcases List.mem_cons.1 hmem with rfl | hmem
  · exact horderly
  · exact hkept.guarded hcaptures slot hmem

theorem Kept.patchServer (profile : CompatibilityProfile) (vtable : Nat) (platform : Platform) :
    Kept image (bootstrap.patchServer profile vtable platform) := by
  unfold Bootstrap.patchServer
  split
  · exact hkept
  · next hunobserved =>
    have hstopped : bootstrap.hostState ≠ .running := fun hrunning =>
      hunobserved (hkept.running hrunning).2.2
    have hinstalled := (hkept.halfway hstopped).install .init (fun hsame => by cases hsame)
      (vtable + profile.initSlot) (platform.resolves .init) (platform.installs .init)
    simp only
    split
    · exact hinstalled.disable _
    · refine hinstalled.kept fun hcaptures slot hmem => ?_
      rw [install_other bootstrap _ _ _ (by decide : Capture.disconnect ≠ .init)]
      rw [captures_of_rewritten (install_rewritten _ _ _ _ _)] at hcaptures
      rw [install_rewritten bootstrap .init] at hmem
      exact hkept.guarded hcaptures slot hmem

theorem Kept.captureInterface (hserver : bootstrap.serverFactory = true) (name : InterfaceName)
    (platform : Platform)
    (horderly : bootstrap.hostState = .running → name = .config → (bootstrap.patches
      .disconnect).slot = some (vtable + profile.disconnectSlot)) :
    Kept image (bootstrap.captureInterface name profile vtable platform) := by
  cases name with
  | config =>
    simp only [Bootstrap.captureInterface]
    split
    · next hcaptures =>
      by_cases hrunning : bootstrap.hostState = .running
      · exact hkept.givesAgain hrunning hserver (horderly hrunning rfl) platform
      · exact hkept.patchConfig hrunning hserver hcaptures profile vtable platform
    · next hoff =>
      refine ⟨⟨hkept.patched.restorable, hkept.patched.removed, hkept.patched.original,
        hkept.patched.untouched⟩, fun _ => List.cons_ne_nil _ _, hkept.connected,
        fun hunloaded => absurd (hserver.symm.trans hunloaded) (by simp),
        fun hcaptures => absurd hcaptures hoff, hkept.running⟩
  | server =>
    simp only [Bootstrap.captureInterface]
    split
    · exact hkept.patchServer profile vtable platform
    · exact hkept
  | other => exact hkept

theorem Kept.ensure (loads : Option (Option CompatibilityProfile)) :
    Kept image (bootstrap.ensureRealServer loads).1 := by
  unfold ensureRealServer
  split
  · exact hkept
  · next hunloaded =>
    have hunloaded : bootstrap.serverFactory = false := by simpa using hunloaded
    obtain ⟨hprofile, hempty⟩ := hkept.unloaded hunloaded
    have hoff : bootstrap.captures = false := by simp [captures, hprofile]
    have hstopped : bootstrap.hostState ≠ .running := by
      intro hrunning
      exact absurd (hkept.running hrunning).1 (by simp [hoff])
    split
    · exact hkept
    · simp only
      split
      · exact ⟨⟨hkept.patched.restorable, hkept.patched.removed, hkept.patched.original,
          hkept.patched.untouched⟩, hkept.given, hkept.connected, hkept.unloaded, hkept.guarded,
          hkept.running⟩
      · refine ⟨⟨hkept.patched.restorable, hkept.patched.removed, hkept.patched.original,
          hkept.patched.untouched⟩, hkept.given, hkept.connected, fun hfalse => (by cases hfalse),
          fun _ slot hmem => ?_, fun hrunning => absurd hrunning hstopped⟩
        have hmem : slot ∈ bootstrap.configSlots := hmem
        rw [hempty] at hmem
        cases hmem

end

theorem ensure_ready {loads : Option (Option CompatibilityProfile)}
    (hready : (bootstrap.ensureRealServer loads).2 = true) :
    (bootstrap.ensureRealServer loads).1.serverFactory = true := by
  unfold ensureRealServer at hready ⊢
  split at hready
  · next hloaded => rw [if_pos hloaded]; exact hloaded
  · next hunloaded =>
    rw [if_neg hunloaded]
    split at hready
    · cases hready
    · next hfirst =>
      rw [if_neg hfirst]
      cases loads with
      | none => cases hready
      | some profile => rfl

theorem ensure_of_loaded (hloaded : bootstrap.serverFactory = true)
    (loads : Option (Option CompatibilityProfile)) :
    bootstrap.ensureRealServer loads = (bootstrap, true) := by
  unfold ensureRealServer
  rw [if_pos hloaded]

theorem ensure_hostState (bootstrap : Bootstrap) (loads : Option (Option CompatibilityProfile)) :
    (bootstrap.ensureRealServer loads).1.hostState = bootstrap.hostState := by
  unfold ensureRealServer
  split
  · rfl
  split
  · rfl
  · cases loads <;> rfl

theorem Kept.loaded (hkept : Kept image bootstrap) (hrunning : bootstrap.hostState = .running) :
    bootstrap.serverFactory = true := by
  have hcaptures := (hkept.running hrunning).1
  cases hloaded : bootstrap.serverFactory with
  | true => rfl
  | false => simp [captures, (hkept.unloaded hloaded).1] at hcaptures

theorem Kept.queryInterface (hkept : Kept image bootstrap) {name : Option InterfaceName}
    {loads : Option (Option CompatibilityProfile)} {object : Option Nat} {platform : Platform}
    (horderly : bootstrap.Orderly (.queryInterface name loads object platform)) :
    Kept image (bootstrap.queryInterface name loads object platform) := by
  unfold Bootstrap.queryInterface
  cases name with
  | none => exact hkept
  | some name =>
    have hensured := hkept.ensure loads
    have hready := @ensure_ready bootstrap loads
    have hstate := ensure_hostState bootstrap loads
    generalize hensure : bootstrap.ensureRealServer loads = ensured at hensured hready hstate
    obtain ⟨loaded, ready⟩ := ensured
    simp only at hensured hready hstate ⊢
    cases ready with
    | false => exact hensured
    | true =>
      simp only [Bool.not_true, Bool.false_eq_true, if_false]
      split
      · next vtable profile hprofile =>
        refine hensured.captureInterface (hready rfl) name platform fun hrunning hname => ?_
        -- While the host runs the server module has long been loaded.
        have hrunning := hstate.symm.trans hrunning
        rw [ensure_of_loaded (hkept.loaded hrunning) loads] at hensure
        cases hensure
        exact horderly hrunning (hname ▸ rfl) vtable profile rfl hprofile
      · exact hensured

/-! ## Calls -/

section

variable (hkept : Kept image bootstrap)

include hkept

theorem Kept.stopHost (answer : Answer) :
    Kept image (bootstrap.stopHost answer) ∧ (bootstrap.stopHost answer).hostState ≠ .running := by
  unfold Bootstrap.stopHost
  split
  · next hidle =>
    refine ⟨hkept, fun hrunning => ?_⟩
    simp [hrunning] at hidle
  · have hstopped : (if answer.stops = true then HostState.stopped else .stopping) ≠ .running := by
      split
      · simp
      · simp
    exact ⟨⟨⟨hkept.patched.restorable, hkept.patched.removed, hkept.patched.original,
      hkept.patched.untouched⟩, hkept.given, hkept.connected, hkept.unloaded, hkept.guarded,
      fun hrunning => absurd hrunning hstopped⟩, hstopped⟩

theorem Kept.startHost (hinit : bootstrap.initObserved = true) (answer : Answer) :
    Kept image (bootstrap.startHost answer) := by
  unfold Bootstrap.startHost
  split
  · exact hkept
  · next hready =>
    simp only [ne_eq, Bool.or_eq_true, decide_eq_true_eq, Bool.not_eq_true', not_or, not_not,
      Bool.not_eq_false] at hready
    obtain ⟨⟨_, hfactory⟩, hcaptures⟩ := hready
    have hstate : ∀ state, Kept image { bootstrap with hostState := state } := fun state =>
      ⟨⟨hkept.patched.restorable, hkept.patched.removed, hkept.patched.original,
        hkept.patched.untouched⟩, hkept.given, hkept.connected, hkept.unloaded, hkept.guarded,
        fun _ => ⟨hcaptures, hkept.connected hfactory, hinit⟩⟩
    split
    · exact hstate .stopped
    split
    · exact hstate .stopped
    · exact hstate .running
    · exact hstate .stopping
    · exact hstate .stopping

theorem Kept.onConnect (hinstalled : (bootstrap.patches .connect).installed = true)
    (answer : Answer) : Kept image (bootstrap.onConnect answer).1 := by
  have hobserved : Kept image
      { bootstrap with engineFactory := answer.factory, connectObserved := true } :=
    ⟨⟨hkept.patched.restorable, hkept.patched.removed, hkept.patched.original,
      hkept.patched.untouched⟩, fun _ => hkept.given (.inl hinstalled), fun _ => rfl,
        hkept.unloaded,
      hkept.guarded, fun hrunning =>
        ⟨(hkept.running hrunning).1, rfl, (hkept.running hrunning).2.2⟩⟩
  exact hobserved.restore (by decide) answer.restores

theorem Kept.onInit (answer : Answer) : Kept image (bootstrap.onInit answer).1 := by
  have hobserved : Kept image { bootstrap with initObserved := true } :=
    ⟨⟨hkept.patched.restorable, hkept.patched.removed, hkept.patched.original,
      hkept.patched.untouched⟩, hkept.given, hkept.connected, hkept.unloaded, hkept.guarded,
      fun hrunning => ⟨(hkept.running hrunning).1, (hkept.running hrunning).2.1, rfl⟩⟩
  have hrestored := hobserved.restore (by decide : Capture.init ≠ .disconnect) answer.restores
  have hstarted := hrestored.startHost (by rw [restore_rewritten]) answer
  have hended := (hstarted.stopHost answer).1
  unfold Bootstrap.onInit
  simp only
  by_cases hresult : (if (bootstrap.patches .init).original = .null then 0 else answer.result) = 0
  · rw [if_pos hresult]
    exact hended
  rw [if_neg hresult]
  split
  · exact hended
  · exact hstarted

theorem Kept.onDisconnect (answer : Answer) :
    Kept image (bootstrap.onDisconnect answer).1 ∧
      (bootstrap.onDisconnect answer).1.hostState ≠ .running := by
  have hrewritten := restore_rewritten bootstrap .disconnect answer.restores
  generalize hrestored : bootstrap.restore .disconnect answer.restores = restored at hrewritten
  have hpatched : Patched image restored := hrestored ▸ hkept.patched.restore _ _
  have hstopped : (restored.stopHost answer).hostState ≠ .running := by
    unfold Bootstrap.stopHost
    split
    · next hidle =>
      intro hrunning
      simp [hrunning] at hidle
    · simp only
      split
      · simp
      · simp
  have hfields : restored.stopHost answer =
      { restored with hostState := (restored.stopHost answer).hostState } := by
    unfold Bootstrap.stopHost
    split <;> rfl
  unfold Bootstrap.onDisconnect
  rw [hrestored]
  refine ⟨⟨?_, fun hgiven => ?_, ?_, ?_, fun hcaptures => ?_, fun hrunning =>
    absurd hrunning hstopped⟩,
    hstopped⟩
  · rw [hfields]
    exact ⟨hpatched.restorable, hpatched.removed, hpatched.original, hpatched.untouched⟩
  · rw [hfields, hrewritten] at hgiven ⊢
    refine hkept.given (hgiven.imp_left fun hinstalled => ?_)
    have hinstalled : (restored.patches .connect).installed = true := hinstalled
    rw [← hrestored] at hinstalled
    exact installed_of_restore hinstalled
  · rw [hfields, hrewritten]
    exact hkept.connected
  · rw [hfields, hrewritten]
    exact hkept.unloaded
  · simp [captures] at hcaptures

theorem Kept.call (slot : Nat) (answer : Answer) : Kept image (bootstrap.call slot answer).1 := by
  unfold Bootstrap.call
  split
  · next hmemory =>
    exact hkept.onConnect (hkept.patched.of_slot (hkept.patched.of_hook hmemory)).1 answer
  · exact (hkept.onDisconnect answer).1
  · exact hkept.onInit answer
  · exact hkept

theorem step_kept {act : Act} (horderly : bootstrap.Orderly act) :
    Kept image (bootstrap.step act) := by
  cases act with
  | queryInterface name loads object platform => exact hkept.queryInterface horderly
  | call slot answer => exact hkept.call slot answer

end

/-! ## The discipline -/

/-- What is expected of the patches, whatever was asked and called before. -/
structure Disciplined (image : Image) (bootstrap : Bootstrap) : Prop where
  /-- What is patched can be restored, to what was read before it was. -/
  restorable : ∀ capture, (bootstrap.patches capture).installed = true → ∃ slot,
    (bootstrap.patches capture).slot = some slot ∧ bootstrap.memory slot = .hook capture ∧
      (bootstrap.patches capture).original = image.entry slot
  unpatched : ∀ slot, (∀ capture, (bootstrap.patches capture).slot ≠ some slot) →
    bootstrap.memory slot = image.entry slot
  original : ∀ capture other, (bootstrap.patches capture).original ≠ .hook other
  /-- A call reaches the genuine function once, and no other. -/
  once : ∀ slot answer, (bootstrap.call slot answer).2.map GenuineCall.function = [image.entry slot]
  guarded : bootstrap.hostState = .running → ∀ slot ∈ bootstrap.configSlots,
    bootstrap.memory slot = .hook .disconnect
  /-- The genuine `Disconnect` is not reached while the host runs. -/
  asked : ∀ slot ∈ bootstrap.configSlots, ∀ answer, ∀ genuine ∈ (bootstrap.call slot answer).2,
    genuine.running = false

/-- `OnDisconnect`, where that was the last call and it could write, has left nothing patched. -/
def Cleared (image : Image) (acts : List Act) : Prop :=
  ∀ earlier slot answer, acts = earlier ++ [.call slot answer] →
    (run step (initial image) earlier).memory slot = .hook .disconnect →
      answer.restores = .written →
        ∀ capture, ((run step (initial image) acts).patches capture).installed = false

theorem callOriginal_function {original : Pointer} (hgenuine : original ≠ .null) :
    (bootstrap.callOriginal original).map GenuineCall.function = [original] := by
  unfold callOriginal
  rw [if_neg hgenuine]
  rfl

theorem running_of_callOriginal {original : Pointer} {genuine : GenuineCall}
    (hmem : genuine ∈ bootstrap.callOriginal original) :
    genuine.running = decide (bootstrap.hostState = .running) := by
  unfold callOriginal at hmem
  split at hmem
  · cases hmem
  · rw [List.mem_singleton.1 hmem]

theorem onInit_calls (bootstrap : Bootstrap) (answer : Answer) :
    (bootstrap.onInit answer).2 =
      (({ bootstrap with initObserved := true }.restore .init answer.restores).startHost
        answer).callOriginal (bootstrap.patches .init).original := by
  unfold onInit
  simp only
  split_ifs <;> rfl

theorem Patched.once (hpatched : Patched image bootstrap) (slot : Nat) (answer : Answer) :
    (bootstrap.call slot answer).2.map GenuineCall.function = [image.entry slot] := by
  have hentry : ∀ capture, bootstrap.memory slot = .hook capture →
      (bootstrap.patches capture).original = image.entry slot ∧ image.entry slot ≠ .null := by
    intro capture hmemory
    obtain ⟨_, _, address, horiginal, hgenuine⟩ := hpatched.of_slot (hpatched.of_hook hmemory)
    refine ⟨horiginal.trans hgenuine.symm, ?_⟩
    rw [hgenuine]
    simp
  unfold Bootstrap.call
  split
  · next hmemory =>
    obtain ⟨horiginal, hgenuine⟩ := hentry .connect hmemory
    rw [← horiginal] at hgenuine ⊢
    exact callOriginal_function hgenuine
  · next hmemory =>
    obtain ⟨horiginal, hgenuine⟩ := hentry .disconnect hmemory
    rw [← horiginal] at hgenuine ⊢
    exact callOriginal_function hgenuine
  · next hmemory =>
    obtain ⟨horiginal, hgenuine⟩ := hentry .init hmemory
    rw [← horiginal] at hgenuine ⊢
    rw [onInit_calls]
    exact callOriginal_function hgenuine
  · next hconnect hdisconnect hinit =>
    have hbare : ∀ capture, (bootstrap.patches capture).slot ≠ some slot := by
      intro capture hslot
      have hhook := (hpatched.of_slot hslot).2.1
      cases capture with
      | connect => exact hconnect hhook
      | disconnect => exact hdisconnect hhook
      | init => exact hinit hhook
    rw [← hpatched.untouched slot hbare]
    rfl

theorem onDisconnect_stopped (bootstrap : Bootstrap) (answer : Answer) {genuine : GenuineCall}
    (hmem : genuine ∈ (bootstrap.onDisconnect answer).2) : genuine.running = false := by
  unfold onDisconnect at hmem
  rw [running_of_callOriginal hmem]
  simp only [decide_eq_false_iff_not]
  unfold stopHost
  split
  · next hidle =>
    intro hrunning
    simp [hrunning] at hidle
  · simp only
    split
    · simp
    · simp

/-- The host is started only while the lifecycle is captured. -/
theorem startHost_running {answer : Answer} (hoff : bootstrap.captures = false)
    (hstopped : bootstrap.hostState ≠ .running) :
    (bootstrap.startHost answer).hostState ≠ .running := by
  unfold startHost
  rw [if_pos (by simp [hoff])]
  exact hstopped

theorem Kept.asked (hkept : Kept image bootstrap) (hlisted : slot ∈ bootstrap.configSlots)
    (answer : Answer) {genuine : GenuineCall} (hmem : genuine ∈ (bootstrap.call slot answer).2) :
    genuine.running = false := by
  by_cases hdisconnect : bootstrap.memory slot = .hook .disconnect
  · have hcall : bootstrap.call slot answer = bootstrap.onDisconnect answer := by
      unfold Bootstrap.call
      rw [hdisconnect]
    rw [hcall] at hmem
    exact onDisconnect_stopped bootstrap answer hmem
  -- Otherwise the lifecycle is no longer captured, and the host does not run.
  have hoff : bootstrap.captures = false := by
    rw [Bool.eq_false_iff]
    intro hcaptures
    exact hdisconnect (hkept.patched.of_slot (hkept.guarded hcaptures slot hlisted)).2.1
  have hstopped : bootstrap.hostState ≠ .running := by
    intro hrunning
    rw [(hkept.running hrunning).1] at hoff
    cases hoff
  unfold Bootstrap.call at hmem
  split at hmem
  · rw [running_of_callOriginal hmem, restore_rewritten]
    exact decide_eq_false hstopped
  · next hmemory => exact absurd hmemory hdisconnect
  · rw [onInit_calls] at hmem
    rw [running_of_callOriginal hmem]
    refine decide_eq_false (startHost_running ?_ ?_)
    · rw [captures_of_rewritten (restore_rewritten _ _ _)]
      exact hoff
    · rw [restore_rewritten]
      exact hstopped
  · rw [List.mem_singleton.1 hmem]
    exact decide_eq_false hstopped

theorem Kept.cleared (hkept : Kept image bootstrap) {answer : Answer}
    (hmemory : bootstrap.memory slot = .hook .disconnect) (hwritten : answer.restores = .written)
    (horderly : bootstrap.Orderly (.call slot answer)) (capture : Capture) :
    ((bootstrap.call slot answer).1.patches capture).installed = false := by
  have hpatches : (bootstrap.call slot answer).1.patches =
      (bootstrap.restore .disconnect answer.restores).patches := by
    unfold Bootstrap.call
    rw [hmemory]
    unfold Bootstrap.onDisconnect Bootstrap.stopHost
    simp only
    split
    · rfl
    · rfl
  obtain ⟨hconnect, hinit⟩ := horderly hmemory
  have hslot := hkept.patched.of_hook hmemory
  have hinstalled := (hkept.patched.of_slot hslot).1
  rw [hpatches]
  cases capture with
  | connect =>
    rw [restore_other bootstrap _ (by decide)]
    exact hconnect
  | disconnect =>
    unfold Bootstrap.restore
    simp [hslot, hinstalled, hwritten, setPatch]
  | init =>
    rw [restore_other bootstrap _ (by decide)]
    exact hinit

theorem Kept.disciplined (hkept : Kept image bootstrap) : Disciplined image bootstrap where
  restorable capture hinstalled := by
    obtain ⟨slot, address, hslot, hmemory, horiginal, hentry⟩ :=
      hkept.patched.restorable capture hinstalled
    exact ⟨slot, hslot, hmemory, horiginal.trans hentry.symm⟩
  unpatched := hkept.patched.untouched
  original := hkept.patched.original
  once := hkept.patched.once
  guarded hrunning slot hmem :=
    (hkept.patched.of_slot (hkept.guarded (hkept.running hrunning).1 slot hmem)).2.1
  asked slot hmem answer genuine hgenuine := hkept.asked hmem answer hgenuine

theorem run_kept {acts : List Act} (horderly : Heeds step Orderly (initial image) acts) :
    Kept image (run step (initial image) acts) := by
  have hstep : ∀ (bootstrap : Bootstrap) (act : Act), Kept image bootstrap →
      bootstrap.Orderly act → Kept image (bootstrap.step act) := by
    intro bootstrap act hkept hact
    exact step_kept hkept hact
  exact horderly.invariant hstep (initial_kept image)

/-- The discipline holds in every run in which the configuration stays the same while the host
runs, and `Disconnect` comes last. -/
theorem patches_disciplined (image : Image) (acts : List Act)
    (horderly : Heeds step Orderly (initial image) acts) :
    Disciplined image (run step (initial image) acts) ∧ Cleared image acts := by
  refine ⟨(run_kept horderly).disciplined, ?_⟩
  intro earlier slot answer hacts hmemory hwritten capture
  subst hacts
  obtain ⟨hearlier, hlast⟩ := Lib.heeds_append.1 horderly
  rw [Lib.run_append]
  exact (run_kept hearlier).cleared hmemory hwritten hlast.1 capture

/-! ## Runs of it -/

/-- Vtables of genuine functions. -/
def genuineImage : Image where
  entry := .genuine
  unhooked _ _ hsame := by cases hsame

def plainProfile : CompatibilityProfile := ⟨0, 1, 2⟩

def plainPlatform : Platform where
  resolves _ := true
  installs _ := .written
  restores _ := .written

def plainAnswer : Answer where
  factory := true
  restores := .written
  opens := true
  starts := .running
  result := 1
  completes := true
  stops := true

def givenConfig (vtable : Nat) : Act :=
  .queryInterface (some .config) (some (some plainProfile)) (some vtable) plainPlatform

def givenServer (vtable : Nat) : Act :=
  .queryInterface (some .server) (some (some plainProfile)) (some vtable) plainPlatform

/-- The engine starts, and is given the configuration and the server. -/
def startup : List Act :=
  [givenConfig 10, .call 10 plainAnswer, givenServer 20, .call 22 plainAnswer]

/-- It asks for the configuration again, and disconnects. -/
theorem startup_disciplined :
    Disciplined genuineImage (run step (initial genuineImage)
      (startup ++ [givenConfig 10, .call 11 plainAnswer])) ∧
        Cleared genuineImage (startup ++ [givenConfig 10, .call 11 plainAnswer]) := by
  refine patches_disciplined genuineImage _ ?_
  refine ⟨fun hrunning => (by cases hrunning), fun hslot => (by cases hslot),
    fun hrunning => (by cases hrunning), fun hslot => (by cases hslot),
    fun _ _ vtable profile hvtable hprofile => ?_,
    fun _ => ⟨by decide, by decide⟩, trivial⟩
  cases hvtable
  cases hprofile
  decide

/-- A configuration of another vtable, asked for while the host runs, leaves its `Disconnect` as it
was before it was patched. -/
theorem given_another_undisciplined :
    ¬ ∀ (image : Image) (acts : List Act),
      Disciplined image (run step (initial image) acts) ∧ Cleared image acts := by
  intro hall
  have hguarded := (hall genuineImage (startup ++ [givenConfig 30])).1.guarded (by decide) 11
    (by decide)
  exact absurd hguarded (by decide)

end Bootstrap
end KeelS2.Booting
