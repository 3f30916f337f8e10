import KeelS2.Compatibility.Compare
import KeelS2.Compatibility.Images
import KeelS2.Compatibility.ProfileRoundTrip

/-!
# Capturing and validating evidence

`Capture` reads the modules of a request and makes a candidate profile of what it finds;
`Validate` reads the modules that a stored profile is bound to and finds the same again.
`ok_validate` says what a validation that succeeds has established, and a capture that
succeeds has established exactly that of the profile it made, so what is captured, stored,
read back and bound to the unchanged files is validated.
-/

namespace KeelS2.Compatibility

open Lib

/-! ## Requests -/

structure ModuleInput where
  role : Text
  path : Path
  deriving DecidableEq, Repr

structure PatternRequest where
  key : Text
  module : Text
  expression : Text
  occurrence : UInt32
  deriving DecidableEq, Repr

structure CaptureRequest where
  game : Text
  version : Text
  platform : Text
  modules : List ModuleInput
  interfaces : List Interface
  slots : List Slot
  patterns : List PatternRequest
  deriving DecidableEq, Repr

/-- `path::filename`, where the separator is a slash. -/
def filename (path : Path) : Text :=
  (path.reverse.takeWhile (· ≠ '/')).reverse

/-! ## Outcomes

A loop of `Capture` or `Validate` looks at each of its entries on its own: it either reports
an error and continues, or it reports what it found and keeps it. -/

structure Failure where
  code : Text
  message : Text

section Outcomes

variable {Value : Type} {code : Text} {message : Value → Text}

def diagnosticOf (code : Text) (message : Value → Text) : Except Failure Value → Diagnostic
  | .ok value => ⟨.information, code, message value⟩
  | .error failure => errorOf failure.code failure.message

def successOf : Except Failure Value → Option Value
  | .ok value => some value
  | .error _ => none

def successes (outcomes : List (Except Failure Value)) : List Value :=
  outcomes.filterMap successOf

@[simp] theorem ok_nil : ok [] = true := rfl

theorem ok_cons (diagnostic : Diagnostic) (rest : List Diagnostic) :
    ok (diagnostic :: rest) = (decide (diagnostic.severity ≠ .error) && ok rest) := rfl

theorem ok_outcomes {outcomes : List (Except Failure Value)} :
    ok (outcomes.map (diagnosticOf code message)) = true ↔
      ∀ outcome ∈ outcomes, ∃ value, outcome = .ok value := by
  induction outcomes with
  | nil => simp
  | cons outcome rest ih =>
    rw [List.map_cons, ok_cons, List.forall_mem_cons, Bool.and_eq_true, ih]
    apply and_congr_left
    intro _
    cases outcome with
    | ok value => simp [diagnosticOf]
    | error failure => simp [diagnosticOf, errorOf]

theorem mem_successes {outcomes : List (Except Failure Value)} {value : Value} :
    value ∈ successes outcomes ↔ .ok value ∈ outcomes := by
  unfold successes
  rw [List.mem_filterMap]
  constructor
  · rintro ⟨outcome, hmem, heq⟩
    cases outcome with
    | ok found =>
      cases heq
      exact hmem
    | error failure => cases heq
  · exact fun hmem => ⟨.ok value, hmem, rfl⟩

end Outcomes

/-! ## Capturing -/

def captureModule (disk : Disk) (input : ModuleInput) :
    Except Failure (Module × ModuleImage) :=
  match fingerprintFile disk input.path with
  | .error reason =>
    .error ⟨"module-fingerprint".toList,
      input.role ++ ": ".toList ++ reason ++ " (".toList ++ input.path ++ [')']⟩
  | .ok fingerprint =>
    match readModuleImage disk input.path with
    | .error reason =>
      .error ⟨"module-image".toList,
        input.role ++ ": ".toList ++ reason ++ " (".toList ++ input.path ++ [')']⟩
    | .ok image => .ok (⟨input.role, filename input.path, fingerprint⟩, image)

/-- `images`; of several images under one role, `emplace` keeps the first, and so does the
lookup. -/
abbrev Images := List (Text × ModuleImage)

def imagesOf (captured : List (Module × ModuleImage)) : Images :=
  captured.map fun entry => (entry.1.role, entry.2)

def capturePattern (images : Images) (request : PatternRequest) : Except Failure Pattern :=
  match images.lookup request.module with
  | none =>
    .error ⟨"pattern-module".toList,
      request.key ++ ": module was not captured: ".toList ++ request.module⟩
  | some image =>
    match parsePattern request.expression with
    | none =>
      .error ⟨"pattern-syntax".toList, request.key ++ ": pattern syntax is invalid".toList⟩
    | some (parsed, normalized) =>
      let found := image.scan parsed
      match selectMatch found request.occurrence.toNat with
      | .error reason =>
        .error ⟨"pattern-resolution".toList,
          request.key ++ ' ' :: reason ++ " in module ".toList ++ request.module⟩
      | .ok selected =>
        if 2 ^ 32 ≤ found.length then
          .error ⟨"pattern-count".toList,
            request.key ++ ": match count exceeds the profile format".toList⟩
        else
          .ok ⟨request.key, request.module, normalized, request.occurrence,
            UInt32.ofNat found.length, UInt64.ofNat selected⟩

def capturedModules (disk : Disk) (request : CaptureRequest) : List (Module × ModuleImage) :=
  successes (request.modules.map (captureModule disk))

def capturedPatterns (disk : Disk) (request : CaptureRequest) : List Pattern :=
  successes (request.patterns.map (capturePattern (imagesOf (capturedModules disk request))))

def capturedProfile (disk : Disk) (request : CaptureRequest) : Profile :=
  { status := .candidateUntrusted
    game := request.game
    version := request.version
    platform := request.platform
    modules := (capturedModules disk request).map Prod.fst
    interfaces := request.interfaces
    slots := request.slots
    patterns := capturedPatterns disk request }

/-- What `Capture` reports before the reminder at its end. -/
def captureFindings (disk : Disk) (request : CaptureRequest) : List Diagnostic :=
  (request.modules.map (captureModule disk)).map
    (diagnosticOf "module-captured".toList fun entry =>
      entry.1.role ++ ' ' :: formatFingerprint entry.1.fingerprint)
  ++ (request.patterns.map (capturePattern (imagesOf (capturedModules disk request)))).map
    (diagnosticOf "pattern-captured".toList fun pattern =>
      pattern.key ++ " module=".toList ++ pattern.module ++ " matches=".toList
        ++ decimal pattern.matchCount.toNat ++ " selected_file_offset=".toList
        ++ decimal pattern.selectedFileOffset.toNat)
  ++ validateStructure (capturedProfile disk request)

/-- `Capture`, into a report that is still empty. It answers `true` where `ok` holds. -/
def capture (disk : Disk) (request : CaptureRequest) : Profile × Report :=
  (capturedProfile disk request,
    { diagnostics := captureFindings disk request
        ++ (if ok (captureFindings disk request) then
              [warningOf "human-review-required".toList
                ("candidate evidence is untrusted; review it and update the compiled exact " ++
                  "profile manually").toList]
            else [])
      changes := 0
      reviewRequired := true })

/-! ## Validating -/

/-- The loop over the bindings: `binding_map`, and what is reported of them. -/
def bindModules : List (Text × Path) → List ModuleInput → List (Text × Path) × List Diagnostic
  | bound, [] => (bound, [])
  | bound, binding :: rest =>
    if ¬ validToken binding.role ∨ binding.path = [] ∨ (bound.lookup binding.role).isSome then
      let others := bindModules bound rest
      (others.1, errorOf "binding-invalid".toList
        ("invalid or duplicate module binding: ".toList ++ binding.role) :: others.2)
    else bindModules (bound ++ [(binding.role, binding.path)]) rest

def extraBindings (profile : Profile) (bound : List (Text × Path)) : List Diagnostic :=
  (sortBy Prod.fst bound).flatMap fun binding =>
    if (findKey Module.role (indexBy Module.role profile.modules) binding.1).isSome then []
    else
      [errorOf "binding-extra".toList
        ("binding names a module role absent from the profile: ".toList ++ binding.1)]

def validateBinding (disk : Disk) (bound : List (Text × Path)) (module : Module) :
    Except Failure (Module × ModuleImage) :=
  match bound.lookup module.role with
  | none =>
    .error ⟨"binding-missing".toList, "missing binding for module role: ".toList ++ module.role⟩
  | some path =>
    if filename path ≠ module.name then
      .error ⟨"module-name".toList, module.role ++ ": expected filename ".toList ++ module.name
        ++ " but received ".toList ++ filename path⟩
    else
      match fingerprintFile disk path with
      | .error reason =>
        .error ⟨"module-fingerprint".toList, module.role ++ ": ".toList ++ reason⟩
      | .ok fingerprint =>
        if fingerprint ≠ module.fingerprint then
          .error ⟨"module-stale-or-tampered".toList, module.role ++ ": expected ".toList
            ++ formatFingerprint module.fingerprint ++ " but found ".toList
            ++ formatFingerprint fingerprint⟩
        else
          match readModuleImage disk path with
          | .error reason =>
            .error ⟨"module-image".toList, module.role ++ ": ".toList ++ reason⟩
          | .ok image => .ok (module, image)

def validateStored (images : Images) (pattern : Pattern) : Except Failure Pattern :=
  match images.lookup pattern.module with
  | none =>
    .error ⟨"pattern-cross-module".toList,
      pattern.key ++ ": declared module was not validated: ".toList ++ pattern.module⟩
  | some image =>
    match parsePattern pattern.expression with
    | none => .error ⟨"pattern-syntax".toList, pattern.key ++ ": invalid stored pattern".toList⟩
    | some (parsed, _) =>
      let found := image.scan parsed
      match selectMatch found pattern.occurrence.toNat with
      | .error reason =>
        .error ⟨"pattern-resolution".toList,
          pattern.key ++ ' ' :: reason ++ " in declared module ".toList ++ pattern.module⟩
      | .ok selected =>
        if found.length ≠ pattern.matchCount.toNat ∨
            UInt64.ofNat selected ≠ pattern.selectedFileOffset then
          .error ⟨"pattern-stale".toList,
            pattern.key ++ ": stored match count or selected file offset changed".toList⟩
        else .ok pattern

def validatedModules (disk : Disk) (profile : Profile) (bound : List (Text × Path)) :
    List (Except Failure (Module × ModuleImage)) :=
  (indexBy Module.role profile.modules).map (validateBinding disk bound)

def validatedPatterns (disk : Disk) (profile : Profile) (bound : List (Text × Path)) :
    List (Except Failure Pattern) :=
  profile.patterns.map
    (validateStored (imagesOf (successes (validatedModules disk profile bound))))

/-- What `Validate` reports before the reminder at its end. -/
def validateFindings (disk : Disk) (profile : Profile) (bindings : List ModuleInput) :
    List Diagnostic :=
  let bound := bindModules [] bindings
  validateStructure profile ++ bound.2 ++ extraBindings profile bound.1
  ++ (validatedModules disk profile bound.1).map
    (diagnosticOf "module-validated".toList fun entry =>
      entry.1.role ++ ' ' :: formatFingerprint entry.1.fingerprint)
  ++ (validatedPatterns disk profile bound.1).map
    (diagnosticOf "pattern-validated".toList fun pattern =>
      pattern.key ++ " module=".toList ++ pattern.module ++ " selected_file_offset=".toList
        ++ decimal pattern.selectedFileOffset.toNat)

def validate (disk : Disk) (profile : Profile) (bindings : List ModuleInput) : Report :=
  let reviewRequired := decide (profile.status = .candidateUntrusted)
  { diagnostics := validateFindings disk profile bindings
      ++ (if ok (validateFindings disk profile bindings) ∧ reviewRequired then
            [warningOf "human-review-required".toList
              "validation proves evidence consistency but does not trust the candidate".toList]
          else [])
    changes := 0
    reviewRequired := reviewRequired }

end KeelS2.Compatibility
