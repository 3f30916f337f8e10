import KeelS2.Booting.Capture

/-!
# The host library, on several threads

The bootstrap opens the host library, calls its exports and closes it. It lets go of its mutex
around each of these calls, and what it saw before need not hold any more when it goes on: another
thread, or the host itself from within the export, may have come in between. A thread is the stack
of what it is in the middle of, and a step is what one thread does in one hold of the mutex.
-/

namespace KeelS2.Booting

open Lib (run Heeds)
open Function (update_of_ne update_self)

/-- Where an `OnDisconnect` goes on. -/
inductive DisconnectPoint
  | stop
  | mark
  | genuine
  deriving DecidableEq, Repr

/-- Where an `OnInit` does. The state of the host and its export are read without the mutex. -/
inductive InitPoint
  | start
  | genuine
  | examine
  | examined
  | checked
  | completing (symbol : Option Nat)
  | stop
  | leave
  deriving DecidableEq, Repr

/-- Where the call of an export stands. -/
inductive ExportPoint
  | ready
  | executing
  deriving DecidableEq, Repr

/-- What a thread is in the middle of. -/
inductive Frame
  | queryInterface (name : Bootstrap.InterfaceName)
  | onConnect
  | onDisconnect (point : DisconnectPoint)
  | onInit (point : InitPoint)
  /-- `StartHost`, with the export it has read once it calls it. -/
  | startHost (symbol : Option (Option Nat))
  /-- `StopHost`, with the library as it was when it began and the export it has read. -/
  | stopHost (began : Option Nat) (symbol : Option Nat) (point : ExportPoint)
  deriving DecidableEq, Repr

/-- What is outside of the bootstrap answers. -/
structure Reply where
  /-- What the genuine factory returns. -/
  object : Option Nat
  platform : Bootstrap.Platform
  /-- The host library is there and has its exports. -/
  opens : Bool
  starts : Bootstrap.StartResult
  result : Int
  completes : Bool
  stops : Bool
  /-- The deadline of a `StopHost` is over. -/
  late : Bool

/-- Libraries are numbered as they are opened, and an export is that of its library. -/
structure HostLibrary where
  bootstrap : Bootstrap
  opened : Nat
  /-- `host_library_`. -/
  library : Option Nat
  hostStart : Option Nat
  hostCompleteStartup : Option Nat
  hostStop : Option Nat
  callStacks : Nat → List Frame

namespace HostLibrary

def initial (image : Image) : HostLibrary where
  bootstrap := .initial image
  opened := 0
  library := none
  hostStart := none
  hostCompleteStartup := none
  hostStop := none
  callStacks := fun _ => []

variable (host : HostLibrary)

def setStack (thread : Nat) (frames : List Frame) : HostLibrary :=
  { host with callStacks := Function.update host.callStacks thread frames }

def setState (state : HostState) : HostLibrary :=
  { host with bootstrap := { host.bootstrap with hostState := state } }

def closeHostLibrary : HostLibrary :=
  { host with
    hostStart := none
    hostCompleteStartup := none
    hostStop := none
    library := none
    bootstrap := { host.bootstrap with hostState := .stopped } }

/-- The first hold of `StartHost`. -/
def startHost (thread : Nat) (rest : List Frame) (reply : Reply) : HostLibrary :=
  if host.bootstrap.hostState ≠ .stopped || !host.bootstrap.engineFactory ||
    !host.bootstrap.captures
  then host.setStack thread rest
  else if !reply.opens then host.closeHostLibrary.setStack thread rest
  else
    { host.setState .starting with
      opened := host.opened + 1
      library := some host.opened
      hostStart := some host.opened
      hostCompleteStartup := some host.opened
      hostStop := some host.opened }.setStack thread (.startHost none :: rest)

/-- The export of `StartHost` has returned. -/
def started (thread : Nat) (rest : List Frame) (starts : Bootstrap.StartResult) : HostLibrary :=
  match starts with
  | .failed => host.closeHostLibrary.setStack thread rest
  | .running => (host.setState .running).setStack thread rest
  | .retained | .other => (host.setState .stopping).setStack thread rest

/-- The first hold of `StopHost`. -/
def stopHost (thread : Nat) (rest : List Frame) : HostLibrary :=
  if host.bootstrap.hostState ≠ .running && host.bootstrap.hostState ≠ .stopping then
    host.setStack thread rest
  else (host.setState .stopping).setStack thread
    (.stopHost host.library host.hostStop .ready :: rest)

/-- The export of `StopHost` has returned. -/
def stopped (thread : Nat) (rest : List Frame) (began : Option Nat) (reply : Reply) : HostLibrary :=
  if reply.stops then host.closeHostLibrary.setStack thread rest
  else if reply.late then host.setStack thread rest
  else host.setStack thread (.stopHost began host.hostStop .ready :: rest)

def setBootstrap (bootstrap : Bootstrap) : HostLibrary :=
  { host with bootstrap := bootstrap }

/-- What is called from outside of the bootstrap. -/
inductive Entry
  | queryInterface (name : Option Bootstrap.InterfaceName)
    (loads : Option (Option CompatibilityProfile))
  | onConnect (factory : Bool) (restores : VtableWriteResult)
  | onDisconnect (restores : VtableWriteResult)
  | onInit (restores : VtableWriteResult)

/-- The first hold of a call. -/
def enter (thread : Nat) (rest : List Frame) : Entry → HostLibrary
  | .queryInterface none _ => host
  | .queryInterface (some name) loads =>
    let (loaded, ready) := host.bootstrap.ensureRealServer loads
    if !ready then host.setBootstrap loaded
    else (host.setBootstrap loaded).setStack thread (.queryInterface name :: rest)
  | .onConnect factory restores =>
    let observed := { host.bootstrap with engineFactory := factory, connectObserved := true }
    (host.setBootstrap (observed.restore .connect restores)).setStack thread (.onConnect :: rest)
  | .onDisconnect restores =>
    (host.setBootstrap (host.bootstrap.restore .disconnect restores)).setStack thread
      (.onDisconnect .stop :: rest)
  | .onInit restores =>
    let observed := { host.bootstrap with initObserved := true }
    (host.setBootstrap (observed.restore .init restores)).setStack thread (.onInit .start :: rest)

/-- The genuine factory has returned. -/
def captured (thread : Nat) (rest : List Frame) (name : Bootstrap.InterfaceName) (reply : Reply) :
    HostLibrary :=
  match reply.object, host.bootstrap.profile with
  | some vtable, some profile =>
    (host.setBootstrap (host.bootstrap.captureInterface name profile vtable
      reply.platform)).setStack thread rest
  | _, _ => host.setStack thread rest

/-- A thread goes on with what it is in the middle of. -/
def advance (thread : Nat) (rest : List Frame) (reply : Reply) : Frame → HostLibrary
  | .queryInterface name => host.captured thread rest name reply
  | .onConnect => host.setStack thread rest
  | .onDisconnect .stop => host.stopHost thread (.onDisconnect .mark :: rest)
  | .onDisconnect .mark =>
    (host.setBootstrap { host.bootstrap with lifecycleComplete := true }).setStack thread
      (.onDisconnect .genuine :: rest)
  | .onDisconnect .genuine => host.setStack thread rest
  | .onInit .start => host.startHost thread (.onInit .genuine :: rest) reply
  | .onInit .genuine =>
    host.setStack thread (.onInit (if reply.result = 0 then .stop else .examine) :: rest)
  | .onInit .examine =>
    if host.bootstrap.hostState = .running then host.setStack thread (.onInit .examined :: rest)
    else host.setStack thread rest
  | .onInit .examined =>
    host.setStack thread
      (.onInit (if host.hostCompleteStartup = none then .stop else .checked) :: rest)
  | .onInit .checked =>
    host.setStack thread (.onInit (.completing host.hostCompleteStartup) :: rest)
  | .onInit (.completing _) =>
    if reply.completes then host.setStack thread rest
    else host.setStack thread (.onInit .stop :: rest)
  | .onInit .stop => host.stopHost thread (.onInit .leave :: rest)
  | .onInit .leave => host.setStack thread rest
  | .startHost none => host.setStack thread (.startHost (some host.hostStart) :: rest)
  | .startHost (some _) => host.started thread rest reply.starts
  | .stopHost began symbol .ready => host.setStack thread
    (.stopHost began symbol .executing :: rest)
  | .stopHost began _ .executing => host.stopped thread rest began reply

/-- The thread is outside of the bootstrap, in a function of the game or in an export. -/
def Outside : List Frame → Bool
  | [] => true
  | .queryInterface _ :: _ => true
  | .onConnect :: _ => true
  | .onDisconnect .genuine :: _ => true
  | .onInit .genuine :: _ => true
  | .onInit (.completing _) :: _ => true
  | .startHost (some _) :: _ => true
  | .stopHost _ _ .executing :: _ => true
  | _ => false

inductive Act
  | call (thread : Nat) (entry : Entry)
  | proceed (thread : Nat) (reply : Reply)

def step (host : HostLibrary) : Act → HostLibrary
  | .call thread entry =>
    if Outside (host.callStacks thread) then host.enter thread (host.callStacks thread)
      entry else host
  | .proceed thread reply =>
    match host.callStacks thread with
    | [] => host
    | frame :: rest => host.advance thread rest reply frame

/-! ## What is expected -/

/-- The export that a frame has called. -/
def executes : Frame → Option (Option Nat)
  | .onInit (.completing symbol) => some symbol
  | .startHost symbol => symbol
  | .stopHost _ symbol .executing => some symbol
  | _ => none

/-- The library that a `StopHost` is to stop. -/
def stops : Frame → Option (Option Nat)
  | .stopHost began _ _ => some began
  | _ => none

/-- An export that is executed is one of the library that is open, and a `StopHost` that is not
over has not seen its library closed. -/
structure Sound (host : HostLibrary) : Prop where
  executed : ∀ thread, ∀ frame ∈ host.callStacks thread, ∀ symbol, executes frame = some symbol →
    symbol ≠ none ∧ symbol = host.library
  stopping : ∀ thread, ∀ frame ∈ host.callStacks thread, ∀ began, stops frame = some began →
    began ≠ none ∧ began = host.library
  starting : ∀ thread symbol, .startHost symbol ∈ host.callStacks thread →
    host.bootstrap.hostState = .starting

/-- A start comes after a stop, and after the engine has connected a game that is known. -/
def Begins (host : HostLibrary) (act : Act) : Prop :=
  (host.step act).bootstrap.hostState = .starting → host.bootstrap.hostState ≠ .starting →
    host.bootstrap.hostState = .stopped ∧ host.bootstrap.connectObserved = true ∧
      host.bootstrap.profile.isSome = true

/-- A `StopHost` is under way, or the completion of a host that was seen to run. -/
def engaged : Frame → Bool
  | .onInit .examined => true
  | .onInit .checked => true
  | .onInit (.completing _) => true
  | .stopHost .. => true
  | _ => false

/-- The thread begins to stop the host, or to complete it. -/
def Engages (host : HostLibrary) : Act → Prop
  | .call _ _ => False
  | .proceed thread _ =>
    match (host.callStacks thread).head? with
    | some (.onDisconnect .stop) | some (.onInit .stop) =>
      host.bootstrap.hostState = .running ∨ host.bootstrap.hostState = .stopping
    | some (.onInit .examine) => host.bootstrap.hostState = .running
    | _ => False

/-- It does while no other is at it. -/
def Apart (host : HostLibrary) (act : Act) : Prop :=
  host.Engages act → ∀ thread, ∀ frame ∈ host.callStacks thread, engaged frame = false

/-! ## One at a time -/

/-- A frame that the library stays open for. -/
def busy : Frame → Bool
  | .startHost _ => true
  | frame => engaged frame

/-- No more than one of these frames is on any stack. -/
def Alone (callStacks : Nat → List Frame) : Prop :=
  ∃ holder, ∀ thread, (callStacks thread).countP busy ≤ if thread = holder then 1 else 0

variable {host} {thread : Nat} {frame : Frame} {rest frames : List Frame} {reply : Reply}
variable {callStacks : Nat → List Frame}

theorem Alone.update (halone : Alone callStacks)
    (hfewer : frames.countP busy ≤ (callStacks thread).countP busy) :
    Alone (Function.update callStacks thread frames) := by
  obtain ⟨holder, hholder⟩ := halone
  refine ⟨holder, fun other => ?_⟩
  by_cases hsame : other = thread
  · subst hsame
    rw [update_self]
    exact Nat.le_trans hfewer (hholder other)
  · rw [update_of_ne hsame]
    exact hholder other

theorem Alone.only (halone : Alone callStacks) (hstack : callStacks thread = frame :: rest)
    (hbusy : busy frame = true) :
    ∀ other, ∀ left ∈ Function.update callStacks thread rest other, busy left = false := by
  obtain ⟨holder, hholder⟩ := halone
  have hmine := hholder thread
  rw [hstack, List.countP_cons_of_pos hbusy] at hmine
  have hsame : thread = holder := by
    by_contra hother
    rw [if_neg hother] at hmine
    omega
  rw [if_pos hsame] at hmine
  intro other left hleft
  by_cases hother : other = thread
  · subst hother
    rw [update_self] at hleft
    have hnone := List.countP_eq_zero.1 (by omega : rest.countP busy = 0) left hleft
    simpa using hnone
  · rw [update_of_ne hother] at hleft
    have htheirs := hholder other
    rw [if_neg (fun heq => hother (heq.trans hsame.symm))] at htheirs
    have hnone := List.countP_eq_zero.1 (Nat.le_zero.1 htheirs) left hleft
    simpa using hnone

theorem alone_of_free (hfree : ∀ other, ∀ left ∈ callStacks other, busy left = false) :
    Alone (Function.update callStacks thread (frame :: callStacks thread)) := by
  have hnone : ∀ other, (callStacks other).countP busy = 0 := by
    intro other
    refine List.countP_eq_zero.2 fun left hleft => ?_
    simp [hfree other left hleft]
  refine ⟨thread, fun other => ?_⟩
  by_cases hsame : other = thread
  · subst hsame
    rw [update_self, if_pos rfl, List.countP_cons, hnone other]
    split
    · omega
    · omega
  · rw [update_of_ne hsame, hnone other]
    exact Nat.zero_le _

/-! ## What is kept -/

/-- What a busy frame finds. -/
def Fits (host : HostLibrary) : Frame → Prop
  | .startHost symbol => host.bootstrap.hostState = .starting ∧
    ∀ read, symbol = some read → read = host.library
  | .onInit .examined => host.bootstrap.hostState = .running
  | .onInit .checked => host.bootstrap.hostState = .running
  | .onInit (.completing symbol) => host.bootstrap.hostState = .running ∧ symbol = host.library
  | .stopHost began symbol _ => host.bootstrap.hostState = .stopping ∧ began = host.library ∧
    symbol = host.library
  | _ => True

theorem fits_of_free (host : HostLibrary) (hfree : busy frame = false) : Fits host frame := by
  cases frame with
  | onInit point =>
    cases point with
    | examined => cases hfree
    | checked => cases hfree
    | completing symbol => cases hfree
    | _ => trivial
  | startHost symbol => cases hfree
  | stopHost began symbol point => cases hfree
  | _ => trivial

/-- The library is open, and the exports are its own. -/
def Opened (host : HostLibrary) : Prop :=
  ∃ number, host.library = some number ∧ host.hostStart = some number ∧
    host.hostCompleteStartup = some number ∧ host.hostStop = some number

structure Kept (host : HostLibrary) : Prop where
  connected : host.bootstrap.engineFactory = true → host.bootstrap.connectObserved = true
  opened : host.bootstrap.hostState ≠ .stopped → Opened host
  alone : Alone host.callStacks
  fits : ∀ thread, ∀ frame ∈ host.callStacks thread, Fits host frame

theorem initial_kept (image : Image) : Kept (initial image) where
  connected hfactory := by cases hfactory
  opened hstate := absurd rfl hstate
  alone := ⟨0, fun _ => Nat.zero_le _⟩
  fits _ _ hmem := by cases hmem

theorem Fits.congr {other : HostLibrary}
    (hstate : other.bootstrap.hostState = host.bootstrap.hostState)
    (hlibrary : other.library = host.library) (hfits : Fits host frame) : Fits other frame := by
  cases frame with
  | startHost symbol =>
    simp only [Fits, hstate, hlibrary] at hfits ⊢
    exact hfits
  | onInit point =>
    cases point with
    | examined =>
      simp only [Fits, hstate] at hfits ⊢
      exact hfits
    | checked =>
      simp only [Fits, hstate] at hfits ⊢
      exact hfits
    | completing symbol =>
      simp only [Fits, hstate, hlibrary] at hfits ⊢
      exact hfits
    | _ => trivial
  | stopHost began symbol point =>
    simp only [Fits, hstate, hlibrary] at hfits ⊢
    exact hfits
  | _ => trivial

theorem Kept.setBootstrap (hkept : Kept host) {bootstrap : Bootstrap}
    (hstate : bootstrap.hostState = host.bootstrap.hostState)
    (hconnected : bootstrap.engineFactory = true → bootstrap.connectObserved = true) :
    Kept (host.setBootstrap bootstrap) where
  connected := hconnected
  opened hopened := hkept.opened (hstate ▸ hopened)
  alone := hkept.alone
  fits other left hleft := (hkept.fits other left hleft).congr hstate rfl

theorem Kept.setStack (hkept : Kept host)
    (hfewer : frames.countP busy ≤ (host.callStacks thread).countP busy)
    (hfits : ∀ left ∈ frames, left ∈ host.callStacks thread ∨ Fits host left) :
    Kept (host.setStack thread frames) where
  connected := hkept.connected
  opened := hkept.opened
  alone := hkept.alone.update hfewer
  fits other left hleft := by
    by_cases hsame : other = thread
    · subst hsame
      simp only [HostLibrary.setStack, update_self] at hleft
      rcases hfits left hleft with hold | hfits
      · exact (hkept.fits other left hold).congr rfl rfl
      · exact hfits.congr rfl rfl
    · simp only [HostLibrary.setStack, update_of_ne hsame] at hleft
      exact (hkept.fits other left hleft).congr rfl rfl

/-- No other frame is busy. -/
def Free (host : HostLibrary) (thread : Nat) (rest : List Frame) : Prop :=
  ∀ other, ∀ left ∈ Function.update host.callStacks thread rest other, busy left = false

theorem Free.below (hfree : Free host thread rest) : ∀ left ∈ rest, busy left = false := by
  intro left hleft
  refine hfree thread left ?_
  rw [update_self]
  exact hleft

theorem Free.left (hfree : Free host thread rest)
    (hconnected : host.bootstrap.engineFactory = true → host.bootstrap.connectObserved = true)
    (hopened : host.bootstrap.hostState ≠ .stopped → Opened host) :
    Kept (host.setStack thread rest) where
  connected := hconnected
  opened := hopened
  alone := by
    refine ⟨thread, fun other => ?_⟩
    have hnone : (Function.update host.callStacks thread rest other).countP busy = 0 := by
      refine List.countP_eq_zero.2 fun left hleft => ?_
      simp [hfree other left hleft]
    simp only [HostLibrary.setStack, hnone]
    exact Nat.zero_le _
  fits other left hleft := fits_of_free _ (hfree other left hleft)

theorem Free.held (hfree : Free host thread rest)
    (hconnected : host.bootstrap.engineFactory = true → host.bootstrap.connectObserved = true)
    (hopened : host.bootstrap.hostState ≠ .stopped → Opened host) (hfits : Fits host frame) :
    Kept (host.setStack thread (frame :: rest)) where
  connected := hconnected
  opened := hopened
  alone := by
    have halone : Alone (Function.update (Function.update host.callStacks thread rest) thread
      (frame :: Function.update host.callStacks thread rest thread)) := alone_of_free hfree
    rw [update_self, Function.update_idem] at halone
    exact halone
  fits other left hleft := by
    by_cases hsame : other = thread
    · subst hsame
      simp only [HostLibrary.setStack, update_self] at hleft
      rcases List.mem_cons.1 hleft with rfl | hleft
      · exact hfits.congr rfl rfl
      · exact fits_of_free _ (hfree.below left hleft)
    · refine fits_of_free _ (hfree other left ?_)
      simp only [HostLibrary.setStack, update_of_ne hsame] at hleft ⊢
      exact hleft

theorem Kept.free_of_busy (hkept : Kept host) (hstack : host.callStacks thread = frame :: rest)
    (hbusy : busy frame = true) : Free host thread rest :=
  hkept.alone.only hstack hbusy

/-- Nothing is busy where nothing is under way, and the state is not that of a start. -/
theorem Kept.free (hkept : Kept host) (hidle : ∀ other, ∀ left ∈ host.callStacks other,
      engaged left = false) (hstate : host.bootstrap.hostState ≠ .starting)
    (hrest : ∀ left ∈ rest, left ∈ host.callStacks thread ∨ busy left = false) :
    Free host thread rest := by
  have hall : ∀ other, ∀ left ∈ host.callStacks other, busy left = false := by
    intro other left hleft
    cases left with
    | startHost symbol => exact absurd (hkept.fits other _ hleft).1 hstate
    | _ => exact hidle other _ hleft
  intro other left hleft
  by_cases hsame : other = thread
  · subst hsame
    rw [update_self] at hleft
    exact (hrest left hleft).elim (hall other left) id
  · rw [update_of_ne hsame] at hleft
    exact hall other left hleft

theorem Kept.idle_of_stopped (hkept : Kept host) (hstopped : host.bootstrap.hostState = .stopped) :
    ∀ other, ∀ left ∈ host.callStacks other, engaged left = false := by
  intro other left hleft
  have hfits := hkept.fits other left hleft
  cases left with
  | onInit point =>
    cases point with
    | examined => simp [Fits, hstopped] at hfits
    | checked => simp [Fits, hstopped] at hfits
    | completing symbol => simp [Fits, hstopped] at hfits
    | _ => rfl
  | stopHost began symbol point => simp [Fits, hstopped] at hfits
  | _ => rfl

/-! ## Steps -/

theorem Kept.closes (hkept : Kept host) (hfree : Free host thread rest) :
    Kept (host.closeHostLibrary.setStack thread rest) := by
  have hclosed : Free host.closeHostLibrary thread rest := hfree
  exact hclosed.left hkept.connected fun hopen => absurd rfl hopen

theorem Kept.states (hkept : Kept host) (hfree : Free host thread rest) {state : HostState}
    (hopened : Opened host) : Kept ((host.setState state).setStack thread rest) := by
  have hset : Free (host.setState state) thread rest := hfree
  exact hset.left hkept.connected fun _ => hopened

theorem Kept.startHost (hkept : Kept host)
    (hstack : host.callStacks thread = .onInit .start :: rest) (reply : Reply) :
    Kept (host.startHost thread (.onInit .genuine :: rest) reply) := by
  have hbelow : ∀ left ∈ Frame.onInit .genuine :: rest, left ∈ host.callStacks thread ∨
      busy left = false := by
    intro left hleft
    rcases List.mem_cons.1 hleft with rfl | hleft
    · exact .inr rfl
    · rw [hstack]
      exact .inl (List.mem_cons_of_mem _ hleft)
  unfold HostLibrary.startHost
  split
  · refine hkept.setStack ?_ fun left hleft => ?_
    · rw [hstack]
      simp [busy, engaged]
    · exact (hbelow left hleft).imp_right (fits_of_free host)
  · next hready =>
    simp only [ne_eq, Bool.or_eq_true, decide_eq_true_eq, Bool.not_eq_true', not_or, not_not,
      Bool.not_eq_false] at hready
    obtain ⟨⟨hstopped, _⟩, _⟩ := hready
    have hfree : Free host thread (.onInit .genuine :: rest) :=
      hkept.free (hkept.idle_of_stopped hstopped) (by rw [hstopped]; decide) hbelow
    split
    · exact hkept.closes hfree
    · have hopened : Free ({ host.setState .starting with
          opened := host.opened + 1
          library := some host.opened
          hostStart := some host.opened
          hostCompleteStartup := some host.opened
          hostStop := some host.opened }) thread (.onInit .genuine :: rest) := hfree
      refine hopened.held hkept.connected (fun _ => ⟨host.opened, rfl, rfl, rfl, rfl⟩) ?_
      exact ⟨rfl, fun _ hread => (by cases hread)⟩

theorem Kept.stopHost (hkept : Kept host) (hstack : host.callStacks thread = frame :: rest)
    {below : Frame} (hbelow : busy below = false) (hframe : busy frame = false)
    (hapart : host.bootstrap.hostState = .running ∨ host.bootstrap.hostState = .stopping →
      ∀ other, ∀ left ∈ host.callStacks other, engaged left = false) :
    Kept (host.stopHost thread (below :: rest)) := by
  have hrest : ∀ left ∈ below :: rest, left ∈ host.callStacks thread ∨ busy left = false := by
    intro left hleft
    rcases List.mem_cons.1 hleft with rfl | hleft
    · exact .inr hbelow
    · rw [hstack]
      exact .inl (List.mem_cons_of_mem _ hleft)
  unfold HostLibrary.stopHost
  split
  · refine hkept.setStack ?_ fun left hleft => ?_
    · refine Nat.le_of_eq ?_
      rw [hstack, List.countP_cons, List.countP_cons, hbelow, hframe]
    · exact (hrest left hleft).imp_right (fits_of_free host)
  · next hactive =>
    have hactive : host.bootstrap.hostState = .running ∨ host.bootstrap.hostState = .stopping := by
      by_contra hidle
      rw [not_or] at hidle
      exact hactive (by simp [hidle.1, hidle.2])
    have hstate : host.bootstrap.hostState ≠ .starting ∧ host.bootstrap.hostState ≠ .stopped := by
      rcases hactive with hactive | hactive
      · simp [hactive]
      · simp [hactive]
    have hfree := hkept.free (hapart hactive) hstate.1 hrest
    have hset : Free (host.setState .stopping) thread (below :: rest) := hfree
    obtain ⟨number, hlibrary, hstart, hcomplete, hstop⟩ := hkept.opened hstate.2
    refine hset.held hkept.connected (fun _ => ⟨number, hlibrary, hstart, hcomplete, hstop⟩) ?_
    exact ⟨rfl, rfl, hstop.trans hlibrary.symm⟩

theorem Kept.started (hkept : Kept host) {symbol : Option (Option Nat)}
    (hstack : host.callStacks thread = .startHost symbol :: rest) (starts : Bootstrap.StartResult) :
    Kept (host.started thread rest starts) := by
  have hfree := hkept.free_of_busy hstack rfl
  have hstate : host.bootstrap.hostState = .starting :=
    (hkept.fits thread (.startHost symbol) (by rw [hstack]; exact List.mem_cons_self)).1
  have hopened := hkept.opened (by rw [hstate]; decide)
  unfold HostLibrary.started
  cases starts with
  | failed => exact hkept.closes hfree
  | running => exact hkept.states hfree hopened
  | retained => exact hkept.states hfree hopened
  | other => exact hkept.states hfree hopened

theorem Kept.stopped (hkept : Kept host) {began symbol : Option Nat}
    (hstack : host.callStacks thread = .stopHost began symbol .executing :: rest) (reply : Reply) :
    Kept (host.stopped thread rest began reply) := by
  have hfree := hkept.free_of_busy hstack rfl
  obtain ⟨hstate, hbegan, _⟩ := hkept.fits thread (.stopHost began symbol .executing)
    (by rw [hstack]; exact List.mem_cons_self)
  have hopened := hkept.opened (by rw [hstate]; decide)
  unfold HostLibrary.stopped
  split
  · exact hkept.closes hfree
  split
  · exact hfree.left hkept.connected fun _ => hopened
  · obtain ⟨number, hlibrary, _, _, hstop⟩ := hopened
    refine hfree.held hkept.connected (fun hopen => hkept.opened hopen) ?_
    exact ⟨hstate, hbegan, hstop.trans hlibrary.symm⟩

/-! ## What a capture leaves alone -/

/-- The host and what `Connect` has left are as they were. -/
def Framed (before after : Bootstrap) : Prop :=
  after.hostState = before.hostState ∧ after.engineFactory = before.engineFactory ∧
    after.connectObserved = before.connectObserved

variable {before between after : Bootstrap}

theorem Framed.trans (hfirst : Framed before between) (hsecond : Framed between after) :
    Framed before after :=
  ⟨hsecond.1.trans hfirst.1, hsecond.2.1.trans hfirst.2.1, hsecond.2.2.trans hfirst.2.2⟩

theorem framed_of_rewritten (hrewritten : Bootstrap.Rewritten before after) :
    Framed before after := by
  rw [hrewritten]
  exact ⟨rfl, rfl, rfl⟩

theorem framed_disable (before : Bootstrap) (results : Capture → VtableWriteResult) :
    Framed before (before.disableLifecycleCapture results) := by
  unfold Bootstrap.disableLifecycleCapture
  split
  · exact ⟨rfl, rfl, rfl⟩
  · have hset : Framed before { before with captureDisabled := true } := ⟨rfl, rfl, rfl⟩
    have hone := hset.trans (framed_of_rewritten
      (Bootstrap.restore_rewritten _ .connect (results .connect)))
    have htwo := hone.trans (framed_of_rewritten
      (Bootstrap.restore_rewritten _ .disconnect (results .disconnect)))
    exact htwo.trans (framed_of_rewritten (Bootstrap.restore_rewritten _ .init (results .init)))

theorem framed_patchConfig (before : Bootstrap) (profile : CompatibilityProfile) (vtable : Nat)
    (platform : Bootstrap.Platform) : Framed before
    (before.patchConfig profile vtable platform) := by
  unfold Bootstrap.patchConfig
  generalize hconnecting : (if before.connectObserved = true then (before, true)
    else before.install .connect (vtable + profile.connectSlot) (platform.resolves .connect)
      (platform.installs .connect)) = connecting
  obtain ⟨connecting, connected⟩ := connecting
  have hconnect : Framed before connecting := by
    split at hconnecting
    · cases hconnecting
      exact ⟨rfl, rfl, rfl⟩
    · have hfirst := congrArg Prod.fst hconnecting
      simp only at hfirst
      rw [← hfirst]
      exact framed_of_rewritten (Bootstrap.install_rewritten _ _ _ _ _)
  have hdisconnect := hconnect.trans (framed_of_rewritten (Bootstrap.install_rewritten connecting
    .disconnect (vtable + profile.disconnectSlot) (platform.resolves .disconnect)
      (platform.installs .disconnect)))
  simp only
  split
  · exact hconnect.trans (framed_disable _ _)
  split
  · exact hdisconnect.trans (framed_disable _ _)
  · exact hdisconnect

theorem framed_patchServer (before : Bootstrap) (profile : CompatibilityProfile) (vtable : Nat)
    (platform : Bootstrap.Platform) : Framed before
    (before.patchServer profile vtable platform) := by
  unfold Bootstrap.patchServer
  split
  · exact ⟨rfl, rfl, rfl⟩
  · have hinit := framed_of_rewritten (Bootstrap.install_rewritten before .init
      (vtable + profile.initSlot) (platform.resolves .init) (platform.installs .init))
    simp only
    split
    · exact hinit.trans (framed_disable _ _)
    · exact hinit

theorem framed_captureInterface (before : Bootstrap) (name : Bootstrap.InterfaceName)
    (profile : CompatibilityProfile) (vtable : Nat) (platform : Bootstrap.Platform) :
    Framed before (before.captureInterface name profile vtable platform) := by
  cases name with
  | config =>
    have hlisted : Framed before { before with
        configSlots := (vtable + profile.disconnectSlot) :: before.configSlots } := ⟨rfl, rfl, rfl⟩
    simp only [Bootstrap.captureInterface]
    split
    · exact hlisted.trans (framed_patchConfig _ _ _ _)
    · exact hlisted
  | server =>
    simp only [Bootstrap.captureInterface]
    split
    · exact framed_patchServer _ _ _ _
    · exact ⟨rfl, rfl, rfl⟩
  | other => exact ⟨rfl, rfl, rfl⟩

theorem framed_ensure (before : Bootstrap) (loads : Option (Option CompatibilityProfile)) :
    Framed before (before.ensureRealServer loads).1 := by
  unfold Bootstrap.ensureRealServer
  split
  · exact ⟨rfl, rfl, rfl⟩
  split
  · exact ⟨rfl, rfl, rfl⟩
  · cases loads with
    | none => exact ⟨rfl, rfl, rfl⟩
    | some profile => exact ⟨rfl, rfl, rfl⟩

theorem Kept.framed (hkept : Kept host) (hframed : Framed host.bootstrap after) :
    Kept (host.setBootstrap after) := by
  refine hkept.setBootstrap hframed.1 fun hfactory => ?_
  rw [hframed.2.2]
  rw [hframed.2.1] at hfactory
  exact hkept.connected hfactory

/-! ## Threads -/

theorem Kept.goes (hkept : Kept host) (hstack : host.callStacks thread = frame :: rest)
    {next : Frame} (hnext : busy next = false) :
    Kept (host.setStack thread (next :: rest)) := by
  refine hkept.setStack ?_ fun left hleft => ?_
  · rw [hstack, List.countP_cons, List.countP_cons, hnext]
    simp
  · rcases List.mem_cons.1 hleft with rfl | hleft
    · exact .inr (fits_of_free host hnext)
    · rw [hstack]
      exact .inl (List.mem_cons_of_mem _ hleft)

theorem Kept.leaves (hkept : Kept host) (hstack : host.callStacks thread = frame :: rest) :
    Kept (host.setStack thread rest) := by
  refine hkept.setStack ?_ fun left hleft => ?_
  · rw [hstack, List.countP_cons]
    exact Nat.le_add_right _ _
  · rw [hstack]
    exact .inl (List.mem_cons_of_mem _ hleft)

theorem Kept.calls (hkept : Kept host) {next : Frame} (hnext : busy next = false) :
    Kept (host.setStack thread (next :: host.callStacks thread)) := by
  refine hkept.setStack ?_ fun left hleft => ?_
  · rw [List.countP_cons, hnext]
    simp
  · rcases List.mem_cons.1 hleft with rfl | hleft
    · exact .inr (fits_of_free host hnext)
    · exact .inl hleft

theorem Kept.stays (hkept : Kept host) (hstack : host.callStacks thread = frame :: rest)
    (hbusy : busy frame = true) {next : Frame} (hfits : Fits host next) :
    Kept (host.setStack thread (next :: rest)) :=
  (hkept.free_of_busy hstack hbusy).held hkept.connected hkept.opened hfits

theorem Kept.enter (hkept : Kept host) (thread : Nat) (entry : Entry) :
    Kept (host.enter thread (host.callStacks thread) entry) := by
  cases entry with
  | queryInterface name loads =>
    cases name with
    | none => exact hkept
    | some name =>
      have hloaded := hkept.framed (framed_ensure host.bootstrap loads)
      simp only [HostLibrary.enter]
      split
      · exact hloaded
      · exact hloaded.calls rfl
  | onConnect factory restores =>
    have hobserved : Kept (host.setBootstrap
        { host.bootstrap with engineFactory := factory, connectObserved := true }) :=
      hkept.setBootstrap rfl fun _ => rfl
    have hrestored := hobserved.framed (framed_of_rewritten
      (Bootstrap.restore_rewritten _ .connect restores))
    exact hrestored.calls rfl
  | onDisconnect restores =>
    have hrestored := hkept.framed (framed_of_rewritten
      (Bootstrap.restore_rewritten host.bootstrap .disconnect restores))
    exact hrestored.calls rfl
  | onInit restores =>
    have hobserved : Kept (host.setBootstrap { host.bootstrap with initObserved := true }) :=
      hkept.setBootstrap rfl hkept.connected
    have hrestored := hobserved.framed (framed_of_rewritten
      (Bootstrap.restore_rewritten _ .init restores))
    exact hrestored.calls rfl

theorem Kept.captured (hkept : Kept host) {name : Bootstrap.InterfaceName}
    (hstack : host.callStacks thread = .queryInterface name :: rest) (reply : Reply) :
    Kept (host.captured thread rest name reply) := by
  unfold HostLibrary.captured
  split
  · next vtable profile _ _ =>
    have hcaptured := hkept.framed (framed_captureInterface host.bootstrap name profile vtable
      reply.platform)
    exact hcaptured.leaves hstack
  · exact hkept.leaves hstack

theorem step_kept (hkept : Kept host) {act : Act} (hapart : host.Apart act) :
    Kept (host.step act) := by
  cases act with
  | call thread entry =>
    simp only [step]
    split
    · exact hkept.enter thread entry
    · exact hkept
  | proceed thread reply =>
    unfold step
    simp only
    cases hstack : host.callStacks thread with
    | nil => exact hkept
    | cons frame rest =>
      simp only
      have hfits := hkept.fits thread frame (by rw [hstack]; exact List.mem_cons_self)
      cases frame with
      | queryInterface name => exact hkept.captured hstack reply
      | onConnect => exact hkept.leaves hstack
      | onDisconnect point =>
        cases point with
        | stop =>
          refine hkept.stopHost hstack rfl rfl fun hactive => hapart ?_
          simpa [Engages, hstack] using hactive
        | mark =>
          have hmarked : Kept (host.setBootstrap
            { host.bootstrap with lifecycleComplete := true }) :=
            hkept.framed ⟨rfl, rfl, rfl⟩
          exact hmarked.goes hstack rfl
        | genuine => exact hkept.leaves hstack
      | onInit point =>
        cases point with
        | start => exact hkept.startHost hstack reply
        | genuine =>
          refine hkept.goes hstack ?_
          split
          · rfl
          · rfl
        | examine =>
          simp only [advance]
          split
          · next hrunning =>
            -- The host is seen to run, and nothing else is under way.
            have hidle := hapart (by simpa [Engages, hstack] using hrunning)
            have hfree : Free host thread rest := by
              refine hkept.free hidle (by rw [hrunning]; decide) fun left hleft => ?_
              rw [hstack]
              exact .inl (List.mem_cons_of_mem _ hleft)
            exact hfree.held hkept.connected hkept.opened hrunning
          · exact hkept.leaves hstack
        | examined =>
          simp only [advance]
          split
          · exact hkept.goes hstack rfl
          · exact hkept.stays hstack rfl hfits
        | checked =>
          obtain ⟨number, hlibrary, _, hcomplete, _⟩ :=
            hkept.opened (by rw [show host.bootstrap.hostState = .running from hfits]; decide)
          exact hkept.stays hstack rfl ⟨hfits, hcomplete.trans hlibrary.symm⟩
        | completing symbol =>
          simp only [advance]
          split
          · exact hkept.leaves hstack
          · exact hkept.goes hstack rfl
        | stop =>
          refine hkept.stopHost hstack rfl rfl fun hactive => hapart ?_
          simpa [Engages, hstack] using hactive
        | leave => exact hkept.leaves hstack
      | startHost symbol =>
        cases symbol with
        | none =>
          obtain ⟨number, hlibrary, hstart, _, _⟩ := hkept.opened (by rw [hfits.1]; decide)
          refine hkept.stays hstack rfl ⟨hfits.1, fun read hread => ?_⟩
          cases hread
          exact hstart.trans hlibrary.symm
        | some read => exact hkept.started hstack reply.starts
      | stopHost began symbol point =>
        cases point with
        | ready => exact hkept.stays hstack rfl hfits
        | executing => exact hkept.stopped hstack reply

/-! ## What is expected holds -/

theorem Kept.sound (hkept : Kept host) : Sound host where
  executed thread frame hmem symbol hsymbol := by
    have hfits := hkept.fits thread frame hmem
    have hopened : host.bootstrap.hostState ≠ .stopped → symbol = host.library →
        symbol ≠ none ∧ symbol = host.library := by
      intro hstate hsame
      obtain ⟨number, hlibrary, _⟩ := hkept.opened hstate
      exact ⟨by rw [hsame, hlibrary]; simp, hsame⟩
    cases frame with
    | onInit point =>
      cases point with
      | completing read =>
        cases hsymbol
        exact hopened (by rw [hfits.1]; decide) hfits.2
      | _ => cases hsymbol
    | startHost read => exact hopened (by rw [hfits.1]; decide) (hfits.2 symbol hsymbol)
    | stopHost began read point =>
      cases point with
      | ready => cases hsymbol
      | executing =>
        cases hsymbol
        exact hopened (by rw [hfits.1]; decide) hfits.2.2
    | _ => cases hsymbol
  stopping thread frame hmem began hbegan := by
    have hfits := hkept.fits thread frame hmem
    cases frame with
    | stopHost first read point =>
      cases hbegan
      obtain ⟨number, hlibrary, _⟩ := hkept.opened (by rw [hfits.1]; decide)
      exact ⟨by rw [hfits.2.1, hlibrary]; simp, hfits.2.1⟩
    | _ => cases hbegan
  starting thread symbol hmem := (hkept.fits thread _ hmem).1

/-! ## Starts -/

theorem stopHost_state (host : HostLibrary) (thread : Nat) (rest : List Frame) :
    (host.stopHost thread rest).bootstrap.hostState = host.bootstrap.hostState ∨
      (host.stopHost thread rest).bootstrap.hostState = .stopping := by
  unfold stopHost
  split
  · exact .inl rfl
  · exact .inr rfl

theorem enter_state (host : HostLibrary) (thread : Nat) (rest : List Frame) (entry : Entry) :
    (host.enter thread rest entry).bootstrap.hostState = host.bootstrap.hostState := by
  cases entry with
  | queryInterface name loads =>
    cases name with
    | none => rfl
    | some name =>
      simp only [enter]
      split
      · exact (framed_ensure host.bootstrap loads).1
      · exact (framed_ensure host.bootstrap loads).1
  | onConnect factory restores =>
    exact (framed_of_rewritten (Bootstrap.restore_rewritten _ .connect restores)).1
  | onDisconnect restores =>
    exact (framed_of_rewritten (Bootstrap.restore_rewritten _ .disconnect restores)).1
  | onInit restores =>
    exact (framed_of_rewritten (Bootstrap.restore_rewritten _ .init restores)).1

theorem starting_of_advance {next : Frame}
    (hstarting : (host.advance thread rest reply next).bootstrap.hostState = .starting)
    (hother : host.bootstrap.hostState ≠ .starting) : next = .onInit .start := by
  have hstops : ∀ frames, (host.stopHost thread frames).bootstrap.hostState ≠ .starting := by
    intro frames hstate
    rcases stopHost_state host thread frames with hsame | hstopping
    · exact hother (hsame.symm.trans hstate)
    · rw [hstopping] at hstate
      cases hstate
  cases next with
  | queryInterface name =>
    refine absurd ?_ hother
    rw [← hstarting]
    simp only [advance, captured]
    split
    · exact (framed_captureInterface _ _ _ _ _).1.symm
    · rfl
  | onConnect => exact absurd hstarting hother
  | onDisconnect point =>
    cases point with
    | stop => exact absurd hstarting (hstops _)
    | mark => exact absurd hstarting hother
    | genuine => exact absurd hstarting hother
  | onInit point =>
    cases point with
    | start => rfl
    | examine =>
      refine absurd ?_ hother
      rw [← hstarting]
      simp only [advance]
      split
      · rfl
      · rfl
    | completing symbol =>
      refine absurd ?_ hother
      rw [← hstarting]
      simp only [advance]
      split
      · rfl
      · rfl
    | stop => exact absurd hstarting (hstops _)
    | _ => exact absurd hstarting hother
  | startHost symbol =>
    cases symbol with
    | none => exact absurd hstarting hother
    | some read =>
      simp only [advance, started] at hstarting
      cases hresult : reply.starts with
      | failed => simp [hresult, closeHostLibrary, setStack] at hstarting
      | running => simp [hresult, setState, setStack] at hstarting
      | retained => simp [hresult, setState, setStack] at hstarting
      | other => simp [hresult, setState, setStack] at hstarting
  | stopHost began symbol point =>
    cases point with
    | ready => exact absurd hstarting hother
    | executing =>
      simp only [advance, stopped] at hstarting
      split at hstarting
      · cases hstarting
      split at hstarting
      · exact absurd hstarting hother
      · exact absurd hstarting hother

theorem startHost_ready
    (hstarting : (host.startHost thread rest reply).bootstrap.hostState = .starting)
    (hother : host.bootstrap.hostState ≠ .starting) :
    host.bootstrap.hostState = .stopped ∧ host.bootstrap.engineFactory = true ∧
      host.bootstrap.captures = true := by
  unfold startHost at hstarting
  split at hstarting
  · exact absurd hstarting hother
  · next hready =>
    simp only [ne_eq, Bool.or_eq_true, decide_eq_true_eq, Bool.not_eq_true', not_or, not_not,
      Bool.not_eq_false] at hready
    exact ⟨hready.1.1, hready.1.2, hready.2⟩

theorem Kept.begins (hkept : Kept host) (act : Act) : host.Begins act := by
  intro hstarting hother
  cases act with
  | call thread entry =>
    simp only [step] at hstarting
    split at hstarting
    · rw [enter_state] at hstarting
      exact absurd hstarting hother
    · exact absurd hstarting hother
  | proceed thread reply =>
    unfold step at hstarting
    simp only at hstarting
    split at hstarting
    · exact absurd hstarting hother
    · next frame rest hstack =>
      obtain rfl := starting_of_advance hstarting hother
      obtain ⟨hstopped, hfactory, hcaptures⟩ := startHost_ready hstarting hother
      refine ⟨hstopped, hkept.connected hfactory, ?_⟩
      simp only [Bootstrap.captures, Bool.and_eq_true] at hcaptures
      exact hcaptures.1.1

/-- The host library is safe in every run in which no two threads, and no two calls of one thread,
stop or complete the host at the same time. -/
theorem host_sound (image : Image) (acts : List Act)
    (hapart : Heeds step Apart (initial image) acts) :
    Sound (run step (initial image) acts) ∧ ∀ act, Begins (run step (initial image) acts) act := by
  have hstep : ∀ (host : HostLibrary) (act : Act), Kept host → host.Apart act →
      Kept (host.step act) := by
    intro host act hkept hact
    exact step_kept hkept hact
  have hkept := hapart.invariant hstep (initial_kept image)
  exact ⟨hkept.sound, hkept.begins⟩

/-! ## Runs of it -/

def plainReply : Reply where
  object := some 10
  platform := Bootstrap.plainPlatform
  opens := true
  starts := .running
  result := 1
  completes := true
  stops := true
  late := false

/-- The engine connects a known game and initializes it, and the host is being completed. -/
def completing : List Act :=
  [.call 0 (.queryInterface (some .config) (some (some Bootstrap.plainProfile))),
    .proceed 0 plainReply, .call 0 (.onConnect true .written), .proceed 0 plainReply,
    .call 0 (.onInit .written), .proceed 0 plainReply, .proceed 0 plainReply,
    .proceed 0 plainReply, .proceed 0 plainReply, .proceed 0 plainReply, .proceed 0 plainReply,
    .proceed 0 plainReply]

/-- The completion is over before the engine disconnects. -/
def ended : List Act :=
  completing ++ [.proceed 0 plainReply, .call 0 (.onDisconnect .written), .proceed 0 plainReply,
    .proceed 0 plainReply, .proceed 0 plainReply]

theorem free_of_zero (hzero : (host.callStacks 0).all (fun frame => !engaged frame) = true)
    (hothers : ∀ thread, host.callStacks (thread + 1) = []) :
    ∀ thread, ∀ frame ∈ host.callStacks thread, engaged frame = false := by
  intro thread frame hmem
  cases thread with
  | zero => simpa using List.all_eq_true.1 hzero frame hmem
  | succ thread =>
    rw [hothers thread] at hmem
    cases hmem

theorem ended_sound :
    Sound (run step (initial Bootstrap.genuineImage) ended) ∧
      ∀ act, Begins (run step (initial Bootstrap.genuineImage) ended) act := by
  refine host_sound Bootstrap.genuineImage ended ?_
  unfold ended completing
  simp only [List.cons_append, List.nil_append, Lib.heeds_cons]
  iterate 9 refine ⟨fun hcloses => (by cases hcloses), ?_⟩
  refine ⟨fun _ => free_of_zero rfl fun _ => rfl, ?_⟩
  iterate 4 refine ⟨fun hcloses => (by cases hcloses), ?_⟩
  refine ⟨fun _ => free_of_zero rfl fun _ => rfl, ?_⟩
  iterate 2 refine ⟨fun hcloses => (by cases hcloses), ?_⟩
  trivial

/-- A disconnection that comes from within the completion closes the library below it. -/
theorem disconnect_while_completing_unsound :
    ¬ ∀ (image : Image) (acts : List Act), Sound (run step (initial image) acts) ∧
      ∀ act, Begins (run step (initial image) acts) act := by
  intro hall
  have hsound := (hall Bootstrap.genuineImage (completing ++
    [.call 0 (.onDisconnect .written), .proceed 0 plainReply, .proceed 0 plainReply,
      .proceed 0 plainReply])).1
  -- `KeelHost_CompleteStartup` has not returned.
  have hexecuted := hsound.executed 0 (.onInit (.completing (some 0))) (by decide) (some 0) rfl
  exact absurd hexecuted.2 (by decide)

end HostLibrary
end KeelS2.Booting
