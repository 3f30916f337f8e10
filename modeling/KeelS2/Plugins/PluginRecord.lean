import KeelS2.KeelHook.Abi

/-!
# Plugin records

The host's record of a plugin, the manifest it declares its dependencies in, and the three
checks that read records of other plugins: names are compared without case, versions as
`major.minor.patch`.
-/

namespace KeelS2.Plugins

/-! ## Names -/

/-- `EqualInsensitive`; `std::tolower` in the "C" locale. -/
def equalInsensitive (left right : Text) : Bool :=
  left.length == right.length && (left.zip right).all fun pair => pair.1.toLower == pair.2.toLower

theorem equalInsensitive_iff {left right : Text} :
    equalInsensitive left right = true ↔ left.map Char.toLower = right.map Char.toLower := by
  unfold equalInsensitive
  induction left generalizing right with
  | nil => cases right <;> simp
  | cons first left ih =>
    cases right with
    | nil => simp
    | cons second right =>
      have := @ih right
      simp only [Bool.and_eq_true, beq_iff_eq] at this
      simp only [List.length_cons, List.zip_cons_cons, List.all_cons, List.map_cons,
        Bool.and_eq_true, beq_iff_eq, List.cons.injEq, ← this, Nat.add_right_cancel_iff]
      tauto

theorem equalInsensitive_symm {left right : Text} (h : equalInsensitive left right = true) :
    equalInsensitive right left = true :=
  equalInsensitive_iff.2 (equalInsensitive_iff.1 h).symm

theorem equalInsensitive_trans {left middle right : Text}
    (h : equalInsensitive left middle = true) (h' : equalInsensitive middle right = true) :
    equalInsensitive left right = true :=
  equalInsensitive_iff.2 ((equalInsensitive_iff.1 h).trans (equalInsensitive_iff.1 h'))

/-! ## Versions -/

/-- `std::from_chars` on a whole range: decimal digits, one at least, of a 32-bit number. -/
def fromChars (digits : Text) : Option Nat :=
  let value := digits.foldl (fun value digit => value * 10 + (digit.toNat - '0'.toNat)) 0
  if digits.isEmpty || !digits.all Char.isDigit || 2 ^ 32 ≤ value then none else some value

/-- What stands before the first `.` and behind it; `none` if there is no `.`. -/
def splitDot (version : Text) : Option (Text × Text) :=
  match version.dropWhile (· ≠ '.') with
  | [] => none
  | _ :: rest => some (version.takeWhile (· ≠ '.'), rest)

def parseSemanticVersion (version : Text) : Option (Nat × Nat × Nat) := do
  let (major, rest) ← splitDot version
  let major ← fromChars major
  let (minor, patch) ← splitDot rest
  let minor ← fromChars minor
  let patch ← fromChars patch
  return (major, minor, patch)

def pluginDependencyExact : Nat := 1
def pluginDependencyAtLeast : Nat := 2

structure PluginDependencyRecord where
  name : Text
  version : Text
  requirement : Nat
  deriving DecidableEq, Repr

/-- `>=` of the version arrays. -/
def versionAtLeast (actual required : Nat × Nat × Nat) : Bool :=
  required.1 < actual.1 || (required.1 == actual.1 &&
    (required.2.1 < actual.2.1 || (required.2.1 == actual.2.1 && required.2.2 ≤ actual.2.2)))

def dependencyVersionMatches (actual : Text) (dependency : PluginDependencyRecord) : Bool :=
  match parseSemanticVersion actual, parseSemanticVersion dependency.version with
  | some actual, some required =>
    if dependency.requirement = pluginDependencyExact then actual == required
    else if dependency.requirement = pluginDependencyAtLeast then versionAtLeast actual required
    else false
  | _, _ => false

/-! ## Records -/

inductive PluginState
  | loading
  | loaded
  | paused
  | disabled
  | invalid
  | error
  deriving DecidableEq, Repr

/-- Why a plugin is where it is; each constructor stands for one text of the manager. -/
inductive Diagnostic
  | none
  | runtimeDirectory
  | staging
  | module
  | missingExports
  | incompatibleQuery
  | incompatibleManifest
  | selfDependency
  | duplicateName (other : Text)
  | missingDependency (name version : Text)
  | versionMismatch (name found required : Text)
  | dependencyNotRunning (name : Text)
  | dependencyCycle
  | differentName
  | threwDuringLoad
  | changedDuringLoad (reason : Diagnostic)
  | refusedPausedReplacement
  | pausedReplacementRetained
  | rollbackFailed
  | rejectedStartup
  | keelHookIncomplete
  | lifecycleIncomplete
  | source2Incomplete
  | conVarIncomplete
  | schemaIncomplete
  | pluginEventIncomplete
  | factoryIncomplete
  deriving DecidableEq, Repr

/-- `PluginRecord`. A function pointer of the plugin is whether it is there, and `library` is
whether the module is open. -/
structure PluginRecord where
  handle : KeelPluginHandle
  filename : Text
  library : Bool
  load : Bool
  unload : Bool
  preparePause : Bool
  preparePauseActive : Bool
  prepareUnload : Bool
  prepareUnloadActive : Bool
  name : Text
  version : Text
  diagnostic : Diagnostic
  dependencies : List PluginDependencyRecord
  state : PluginState
  selectable : Bool
  acceptingResources : Bool
  loading : Bool
  transitioning : Bool
  cleanupPending : Bool
  cleanupCallbackActive : Bool
  factoryDispatchEnabled : Bool
  activeNativeOperations : Nat
  deriving DecidableEq, Repr

/-- `PluginRecord{}` under its handle and path. -/
def PluginRecord.new (handle : KeelPluginHandle) (filename : Text) : PluginRecord where
  handle := handle
  filename := filename
  library := false
  load := false
  unload := false
  preparePause := false
  preparePauseActive := false
  prepareUnload := false
  prepareUnloadActive := false
  name := []
  version := []
  diagnostic := .none
  dependencies := []
  state := .error
  selectable := false
  acceptingResources := false
  loading := false
  transitioning := false
  cleanupPending := false
  cleanupCallbackActive := false
  factoryDispatchEnabled := false
  activeNativeOperations := 0

/-- The plugin a dependency's name stands for: the first selectable one of that name. -/
def dependencyTarget (plugins : List PluginRecord) (name : Text) : Option PluginRecord :=
  plugins.find? fun candidate => candidate.selectable && equalInsensitive candidate.name name

theorem dependencyTarget_some {plugins : List PluginRecord} {name : Text}
    {target : PluginRecord} (h : dependencyTarget plugins name = some target) :
    target ∈ plugins ∧ target.selectable = true ∧ equalInsensitive target.name name = true := by
  have hpair := List.find?_some h
  rw [Bool.and_eq_true] at hpair
  exact ⟨List.mem_of_find?_eq_some h, hpair⟩

/-- One turn of `DependenciesReady`'s loop; `none` if the dependency is running. -/
def dependencyProblem (plugins : List PluginRecord) (plugin : PluginRecord)
    (dependency : PluginDependencyRecord) : Option Diagnostic :=
  match dependencyTarget plugins dependency.name with
  | none => some (.missingDependency dependency.name dependency.version)
  | some target =>
    if target.handle = plugin.handle then some .selfDependency
    else if !dependencyVersionMatches target.version dependency then
      some (.versionMismatch dependency.name target.version dependency.version)
    else if target.state ≠ .loaded ∨ target.transitioning then
      some (.dependencyNotRunning dependency.name)
    else none

/-- `DependenciesReady`: `none` when it is true, else its diagnostic. -/
def dependenciesReady (plugins : List PluginRecord) (plugin : PluginRecord) :
    Option Diagnostic :=
  plugin.dependencies.findSome? (dependencyProblem plugins plugin)

theorem dependencyProblem_eq_none {plugins : List PluginRecord} {plugin : PluginRecord}
    {dependency : PluginDependencyRecord} :
    dependencyProblem plugins plugin dependency = none ↔ ∃ target,
      dependencyTarget plugins dependency.name = some target ∧ target.handle ≠ plugin.handle ∧
        dependencyVersionMatches target.version dependency = true ∧ target.state = .loaded ∧
        target.transitioning = false := by
  unfold dependencyProblem
  cases htarget : dependencyTarget plugins dependency.name with
  | none => simp
  | some target =>
    simp only [Option.some.injEq, exists_eq_left']
    split
    · simp_all
    · split
      · simp_all
      · split
        · next hidle =>
          simp_all
          tauto
        · simp_all

theorem dependenciesReady_eq_none {plugins : List PluginRecord} {plugin : PluginRecord} :
    dependenciesReady plugins plugin = none ↔ ∀ dependency ∈ plugin.dependencies, ∃ target,
      dependencyTarget plugins dependency.name = some target ∧ target.handle ≠ plugin.handle ∧
        dependencyVersionMatches target.version dependency = true ∧ target.state = .loaded ∧
        target.transitioning = false := by
  unfold dependenciesReady
  rw [List.findSome?_eq_none_iff]
  exact forall₂_congr fun dependency _ => dependencyProblem_eq_none

end KeelS2.Plugins
