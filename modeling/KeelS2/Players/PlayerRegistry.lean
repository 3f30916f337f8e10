import KeelS2.KeelHook.Abi
import KeelS2.Lib.Runs
import Mathlib.Data.Fintype.Basic

/-!
# The player registry

`PlayerRegistry` keeps one entry a server slot. An entry's connection is a generation number
taken from a 64-bit counter that is never reset; a plugin holds a slot and a generation, and
`Current` says whether the slot still serves that generation.

An index into `entries_` is only ever formed from a slot that `ValidSlot` accepted.
-/

namespace KeelS2.Players

def nameCapacity : Nat := 129
def sizeofPlayerInfo : Nat := 184

def playerConnected : UInt32 := 0x01
def playerConnecting : UInt32 := 0x02
def playerAuthenticated : UInt32 := 0x04
def playerBot : UInt32 := 0x08
def playerSourceTv : UInt32 := 0x10
def playerAlive : UInt32 := 0x20

/-- `KeelPlayerConnection`: what a plugin holds on to. -/
structure KeelPlayerConnection where
  slot : Int
  reserved : Nat
  generation : Nat
  deriving DecidableEq, Repr

structure KeelPlayerInfo where
  size : Nat
  slot : Int
  userId : Int
  flags : UInt32
  connection : Nat
  steamId : Nat
  controllerHandle : Nat
  pawnHandle : Nat
  team : Int
  reserved : Nat
  name : Fin nameCapacity → Char
  deriving DecidableEq

/-- `KeelPlayerInfo{}`: every byte is zero. -/
def KeelPlayerInfo.zero : KeelPlayerInfo :=
  ⟨0, 0, 0, 0, 0, 0, 0, 0, 0, 0, fun _ => '\x00'⟩

structure Entry where
  player : KeelPlayerInfo
  disconnecting : Bool
  pending : Bool

/-- `Entry{}`. Its user id is zero, which is a known one, but it has no connection. -/
def Entry.empty : Entry := ⟨.zero, false, false⟩

structure PlayerRegistry where
  entries : List Entry
  next : Nat

/-- The constructor; `none` is the exception it throws. -/
def PlayerRegistry.create (capacity : Nat) : Option PlayerRegistry :=
  if capacity = 0 ∨ capacity > 2 ^ 31 - 1 then none
  else some ⟨List.replicate capacity .empty, 1⟩

namespace PlayerRegistry

def capacity (registry : PlayerRegistry) : Nat := registry.entries.length

def validSlot (registry : PlayerRegistry) (slot : Int) : Bool :=
  0 ≤ slot ∧ slot < registry.capacity

def entry (registry : PlayerRegistry) (slot : Int) : Entry :=
  registry.entries.getD slot.toNat .empty

def put (registry : PlayerRegistry) (slot : Int) (entry : Entry) : PlayerRegistry :=
  { registry with entries := registry.entries.set slot.toNat entry }

def clear : KeelPlayerInfo :=
  { KeelPlayerInfo.zero with
    size := sizeofPlayerInfo, slot := -1, userId := -1,
    controllerHandle := 2 ^ 32 - 1, pawnHandle := 2 ^ 32 - 1 }

/-- `NextGeneration`: zero, and no change, once the counter has wrapped around. -/
def nextGeneration (registry : PlayerRegistry) : Nat × PlayerRegistry :=
  if registry.next = 0 then (0, registry)
  else (registry.next,
    { registry with next := (registry.next + 1) % 2 ^ 64 })

/-- The array `name` after `Connected`: at most all but the last byte is copied, and the rest is
zero as `Clear` left it. -/
def copyName (name : Text) : Fin nameCapacity → Char := fun index =>
  ((name.takeWhile (· ≠ '\x00')).take (nameCapacity - 1)).getD index '\x00'

def connected (registry : PlayerRegistry) (slot : Int) (name : Option Text) (bot : Bool) :
    KeelResult × PlayerRegistry :=
  match name with
  | none => (.invalidArgument, registry)
  | some name =>
    if !registry.validSlot slot then (.invalidArgument, registry)
    else
      let (generation, registry) := registry.nextGeneration
      let player := { clear with slot := slot, connection := generation }
      if generation = 0 then
        (.engineFailure, registry.put slot { Entry.empty with player, disconnecting := true })
      else
        let flags := playerConnected ||| playerConnecting |||
          (if bot then playerBot else 0)
        (.ok, registry.put slot
          { Entry.empty with
            player := { player with flags := flags, name := copyName name }
            pending := true })

def disconnected (registry : PlayerRegistry) (slot : Int) : PlayerRegistry :=
  if registry.validSlot slot then registry.put slot { Entry.empty with disconnecting := true }
  else registry

def missing (registry : PlayerRegistry) (slot : Int) : PlayerRegistry :=
  if registry.validSlot slot then
    if !(registry.entry slot).pending && !(registry.entry slot).disconnecting then
      registry.put slot .empty
    else registry
  else registry

def validFacts (facts : KeelPlayerInfo) : Bool :=
  let flags := playerConnected ||| playerConnecting ||| playerAuthenticated ||| playerBot |||
    playerSourceTv ||| playerAlive
  if facts.size ≠ sizeofPlayerInfo ∨ facts.reserved ≠ 0 ∨ facts.flags &&& ~~~flags ≠ 0 ∨
      facts.flags &&& playerConnected = 0 ∨ facts.userId < -1 ∨
      ¬ ∃ index, facts.name index = '\x00' then false
  else
    let authenticated : Bool := facts.flags &&& playerAuthenticated ≠ 0
    if authenticated ≠ decide (facts.steamId ≠ 0) ∨
        (authenticated ∧ facts.flags &&& (playerBot ||| playerSourceTv) ≠ 0) then false
    else 0 ≤ facts.userId ∨ facts.flags &&& playerConnecting ≠ 0

/-- `different_user`. -/
def differentUser (entry : Entry) (current : KeelPlayerInfo) : Bool :=
  0 ≤ entry.player.userId ∧ 0 ≤ current.userId ∧ entry.player.userId ≠ current.userId

/-- `different_kind`: while the connection is pending its kind is not yet known. -/
def differentKind (entry : Entry) (current : KeelPlayerInfo) : Bool :=
  !entry.pending ∧
    (entry.player.flags ^^^ current.flags) &&& (playerBot ||| playerSourceTv) ≠ 0

/-- The facts start a new connection in the slot instead of continuing the one it has. -/
def startsConnection (entry : Entry) (current : KeelPlayerInfo) : Bool :=
  entry.player.connection = 0 ∨ differentUser entry current ∨ differentKind entry current

/-- `Update`, with the `player` it writes. -/
def update (registry : PlayerRegistry) (facts : KeelPlayerInfo) :
    KeelResult × KeelPlayerInfo × PlayerRegistry :=
  if !registry.validSlot facts.slot || !validFacts facts then
    (.invalidArgument, clear, registry)
  else
    let entry := registry.entry facts.slot
    if entry.disconnecting then (.notFound, clear, registry)
    else
      let (generation, registry) :=
        if startsConnection entry facts then registry.nextGeneration
        else (entry.player.connection, registry)
      if generation = 0 then (.engineFailure, clear, registry)
      else
        let player := { facts with connection := generation }
        (.ok, player, registry.put facts.slot
          ⟨player, entry.disconnecting, facts.flags &&& playerConnecting ≠ 0⟩)

def pending (registry : PlayerRegistry) (slot : Int) : Option KeelPlayerInfo :=
  if !registry.validSlot slot then none
  else
    let entry := registry.entry slot
    if !entry.pending || entry.disconnecting || entry.player.connection = 0 then none
    else some entry.player

def current (registry : PlayerRegistry) (connection : KeelPlayerConnection) : Bool :=
  if !registry.validSlot connection.slot || connection.reserved ≠ 0 ||
      connection.generation = 0 then false
  else
    let entry := registry.entry connection.slot
    !entry.disconnecting && entry.player.connection == connection.generation

end PlayerRegistry

/-- The calls that change a registry. -/
inductive PlayerCall
  | connected (slot : Int) (name : Option Text) (bot : Bool)
  | disconnected (slot : Int)
  | missing (slot : Int)
  | update (facts : KeelPlayerInfo)

namespace PlayerRegistry

def call (registry : PlayerRegistry) : PlayerCall → PlayerRegistry
  | .connected slot name bot => (registry.connected slot name bot).2
  | .disconnected slot => registry.disconnected slot
  | .missing slot => registry.missing slot
  | .update facts => (registry.update facts).2.2

/-! ## Entries -/

@[simp] theorem capacity_put (registry : PlayerRegistry) (slot : Int) (entry : Entry) :
    (registry.put slot entry).capacity = registry.capacity := by
  simp [put, capacity]

@[simp] theorem validSlot_put (registry : PlayerRegistry) (slot : Int) (entry : Entry)
    (other : Int) : (registry.put slot entry).validSlot other = registry.validSlot other := by
  simp [validSlot]

theorem validSlot_iff {registry : PlayerRegistry} {slot : Int} :
    registry.validSlot slot = true ↔ 0 ≤ slot ∧ slot < registry.capacity := by
  simp [validSlot]

theorem entry_put_self {registry : PlayerRegistry} {slot : Int}
    (hslot : registry.validSlot slot = true) (entry : Entry) :
    (registry.put slot entry).entry slot = entry := by
  have hindex : slot.toNat < registry.entries.length := by
    have := validSlot_iff.1 hslot
    unfold capacity at this
    omega
  simp [put, PlayerRegistry.entry, List.getD_eq_getElem?_getD, hindex]

theorem entry_put_ne {registry : PlayerRegistry} {slot other : Int}
    (hslot : registry.validSlot slot = true) (hother : registry.validSlot other = true)
    (hne : other ≠ slot) (entry : Entry) :
    (registry.put slot entry).entry other = registry.entry other := by
  have hindex : slot.toNat ≠ other.toNat := by
    have := validSlot_iff.1 hslot
    have := validSlot_iff.1 hother
    omega
  simp [put, PlayerRegistry.entry, List.getD_eq_getElem?_getD, List.getElem?_set_ne hindex]

end PlayerRegistry
end KeelS2.Players
