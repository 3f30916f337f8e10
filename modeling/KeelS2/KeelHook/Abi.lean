import Mathlib.Algebra.Group.Nat.Defs
import Mathlib.Data.List.Basic

/-!
# The plugin ABI's vocabulary

The result codes of `plugin.h`, and the value types and limits of `keelhook.h`. A result
code is only ever produced by the host, so it is an enumeration; a value type also comes in
from a plugin, where it may be any 32-bit number, so it stays a number and is *checked*.
-/

namespace KeelS2

inductive KeelResult
  | ok
  | invalidArgument
  | notReady
  | notFound
  | alreadyExists
  | engineFailure
  | reservedName
  | incompatible
  | unsupported
  | ambiguous
  | busy
  | wrongThread
  deriving DecidableEq, Repr

abbrev KeelPluginHandle := Nat

/-- The bytes of a `std::string`, one character a byte. -/
abbrev Text := List Char

namespace KeelHook

/-! ## Value types -/

abbrev KeelHookValueType := Nat

def valueVoid : KeelHookValueType := 0
def valueBool : KeelHookValueType := 1
def valuePointer : KeelHookValueType := 10
def valueFloat64 : KeelHookValueType := 12
def valueAggregate : KeelHookValueType := 13

def isValueType (type : KeelHookValueType) (allowVoid : Bool) : Bool :=
  (allowVoid && type == valueVoid) || (valueBool ≤ type && type ≤ valueAggregate)

def isScalarValueType (type : KeelHookValueType) : Bool :=
  valueBool ≤ type && type ≤ valueFloat64

def scalarByteSize : KeelHookValueType → Nat
  | 1 | 2 | 3 => 1
  | 4 | 5 => 2
  | 6 | 7 | 11 => 4
  | 8 | 9 | 10 | 12 => 8
  | _ => 0

/-! ## Limits -/

def maxArguments : Nat := 32
def maxAggregateSize : Nat := 64
def maxAggregateAlignment : Nat := 16
def maxAggregateFields : Nat := 64
def maxAggregateDepth : Nat := 8
def maxAggregateDescriptors : Nat := 256
def maxObjectIdentity : Nat := 512

/-! ## Bounded C strings -/

/-- `CopyText`: the characters up to the terminator, when there are at most `maximum` and,
unless the caller allows it, at least one. -/
def copyText (value : Option Text) (maximum : Nat) (allowEmpty : Bool) : Option Text :=
  match value with
  | none => none
  | some characters =>
    let text := characters.takeWhile (· ≠ '\x00')
    if text.length > maximum || (!allowEmpty && text.length == 0) then none else some text

end KeelHook
end KeelS2
