import KeelS2.Compatibility.Evidence

/-!
# What validated evidence establishes

`Validated` is what `Validate` has found when it reports no error, and `ok_validate` is the
equivalence. Both directions are used: a capture establishes `Validated` of the profile it
made, and a change of a file that `Validated` does not survive makes the validation fail.
-/

namespace KeelS2.Compatibility

open Lib

/-! ## Bindings -/

variable {disk later : Disk} {bindings : List ModuleInput} {path : Path}
  {bound : List (Text × Path)} {profile : Profile} {image : ModuleImage} {pattern : Pattern}
  {module : Module} {Entry : Type}

theorem bindModules_of_nil (h : (bindModules bound bindings).2 = []) :
    (bindModules bound bindings).1
      = bound ++ bindings.map fun binding => (binding.role, binding.path) := by
  induction bindings generalizing bound with
  | nil => simp [bindModules]
  | cons binding rest ih =>
    unfold bindModules at h ⊢
    split at h
    · cases h
    · rename_i hbad
      rw [if_neg hbad, ih h]
      simp

theorem bindModules_eq_nil :
    (bindModules bound bindings).2 = [] ↔
      (bindings.map ModuleInput.role).Nodup ∧
      ∀ binding ∈ bindings, validToken binding.role = true ∧ binding.path ≠ [] ∧
        binding.role ∉ bound.map Prod.fst := by
  induction bindings generalizing bound with
  | nil => simp [bindModules]
  | cons binding rest ih =>
    unfold bindModules
    simp only [isSome_lookup]
    split
    · rename_i hbad
      simp only [List.cons_ne_nil, List.forall_mem_cons, false_iff]
      rintro ⟨-, ⟨hvalid, hpath, hfresh⟩, -⟩
      rcases hbad with hbad | hbad | hbad
      · exact hbad hvalid
      · exact hpath hbad
      · exact hfresh hbad
    · rename_i hgood
      simp only [not_or, not_not] at hgood
      rw [ih, List.map_cons, List.nodup_cons, List.forall_mem_cons]
      simp only [List.map_append, List.map_cons, List.map_nil, List.mem_append,
        List.mem_singleton, not_or]
      constructor
      · rintro ⟨hnodup, hall⟩
        refine ⟨⟨fun hmem => ?_, hnodup⟩, hgood, fun other hother => ?_⟩
        · obtain ⟨other, hother, hrole⟩ := List.mem_map.1 hmem
          exact (hall other hother).2.2.2 hrole
        · obtain ⟨hvalid, hpath, hfresh, -⟩ := hall other hother
          exact ⟨hvalid, hpath, hfresh⟩
      · rintro ⟨⟨hnew, hnodup⟩, -, hall⟩
        refine ⟨hnodup, fun other hother => ?_⟩
        obtain ⟨hvalid, hpath, hfresh⟩ := hall other hother
        refine ⟨hvalid, hpath, hfresh, fun hrole => ?_⟩
        apply hnew
        rw [← hrole]
        exact List.mem_map_of_mem hother

theorem onlyErrors_bindModules (bound : List (Text × Path)) (bindings : List ModuleInput) :
    OnlyErrors (bindModules bound bindings).2 := by
  induction bindings generalizing bound with
  | nil => exact onlyErrors_nil
  | cons binding rest ih =>
    unfold bindModules
    split
    · exact (onlyErrors_errorOf _ _).append (ih bound)
    · exact ih _

/-- The map that distinct bindings make. -/
def boundOf (bindings : List ModuleInput) : List (Text × Path) :=
  bindings.map fun binding => (binding.role, binding.path)

theorem lookup_boundOf (hroles : (bindings.map ModuleInput.role).Nodup) {role : Text} :
    (boundOf bindings).lookup role = some path ↔ ModuleInput.mk role path ∈ bindings := by
  have hkeys : (boundOf bindings).map Prod.fst = bindings.map ModuleInput.role := by
    simp [boundOf, Function.comp_def]
  constructor
  · intro h
    have hmem := mem_of_lookup h
    obtain ⟨binding, hbinding, heq⟩ := List.mem_map.1 hmem
    cases heq
    exact hbinding
  · intro hmem
    apply lookup_of_distinct (hkeys ▸ hroles)
    exact List.mem_map.2 ⟨_, hmem, rfl⟩

/-! ## The finding of a validation -/

/-- The stored pattern is found in the image again, as often and where it was. -/
def Stored (image : ModuleImage) (pattern : Pattern) : Prop :=
  ∃ parsed normalized, parsePattern pattern.expression = some (parsed, normalized) ∧
    (image.scan parsed).length = pattern.matchCount.toNat ∧
    ∃ selected, selectMatch (image.scan parsed) pattern.occurrence.toNat = .ok selected ∧
      UInt64.ofNat selected = pattern.selectedFileOffset

/-- The module of the profile is the file at `path`. -/
def Bound (disk : Disk) (path : Path) (module : Module) (image : ModuleImage) : Prop :=
  filename path = module.name ∧ fingerprintFile disk path = .ok module.fingerprint ∧
    readModuleImage disk path = .ok image

/-- What `Validate` establishes when it reports no error. -/
structure Validated (disk : Disk) (profile : Profile) (bindings : List ModuleInput) : Prop where
  valid : profile.Valid
  roles : (bindings.map ModuleInput.role).Nodup
  bound : ∀ binding ∈ bindings, validToken binding.role = true ∧ binding.path ≠ [] ∧
    binding.role ∈ profile.modules.map Module.role
  modules : ∀ module ∈ profile.modules, ∃ path image,
    ModuleInput.mk module.role path ∈ bindings ∧ Bound disk path module image
  patterns : ∀ pattern ∈ profile.patterns, ∃ path image,
    ModuleInput.mk pattern.module path ∈ bindings ∧ readModuleImage disk path = .ok image ∧
      Stored image pattern

theorem validateBinding_eq_ok {entry : Module × ModuleImage} :
    validateBinding disk bound module = .ok entry ↔
      entry.1 = module ∧ ∃ path, bound.lookup module.role = some path ∧
        Bound disk path module entry.2 := by
  obtain ⟨found, image⟩ := entry
  unfold validateBinding Bound
  constructor
  · intro h
    split at h
    · cases h
    · rename_i path hpath
      split at h
      · cases h
      · rename_i hname
        split at h
        · cases h
        · rename_i fingerprint hfingerprint
          split at h
          · cases h
          · rename_i hsame
            split at h
            · cases h
            · rename_i hread
              cases h
              exact ⟨rfl, path, hpath, not_not.1 hname, not_not.1 hsame ▸ hfingerprint, hread⟩
  · rintro ⟨rfl, path, hpath, hname, hfingerprint, hread⟩
    simp [hpath, hname, hfingerprint, hread]

theorem validateStored_eq_ok {images : Images} {found : Pattern} :
    validateStored images pattern = .ok found ↔
      found = pattern ∧ ∃ image, images.lookup pattern.module = some image ∧
        Stored image pattern := by
  unfold validateStored Stored
  constructor
  · intro h
    split at h
    · cases h
    · rename_i image himage
      split at h
      · cases h
      · rename_i parsed normalized hparse
        dsimp only at h
        split at h
        · cases h
        · rename_i selected hselected
          split at h
          · cases h
          · rename_i hsame
            cases h
            simp only [not_or, not_not, ne_eq] at hsame
            exact ⟨rfl, image, himage, parsed, normalized, hparse, hsame.1, selected, hselected,
              hsame.2⟩
  · rintro ⟨rfl, image, himage, parsed, normalized, hparse, hcount, selected, hselected, hoffset⟩
    simp [himage, hparse, hcount, hselected, hoffset]

theorem ok_extraBindings (hvalid : profile.Valid) :
    ok (extraBindings profile bound) = true ↔
      ∀ binding ∈ bound, binding.1 ∈ profile.modules.map Module.role := by
  have hone : ∀ binding : Text × Path,
      ok (if (findKey Module.role (indexBy Module.role profile.modules) binding.1).isSome then []
        else [errorOf "binding-extra".toList
          ("binding names a module role absent from the profile: ".toList ++ binding.1)]) = true ↔
      binding.1 ∈ profile.modules.map Module.role := by
    intro binding
    simp only [isSome_findKey hvalid.roles]
    split
    · simp_all
    · simp_all
  unfold extraBindings ok
  rw [List.all_flatMap, List.all_eq_true]
  constructor
  · intro h binding hbinding
    exact (hone binding).1 (h binding ((perm_sortBy Prod.fst bound).mem_iff.2 hbinding))
  · intro h binding hbinding
    exact (hone binding).2 (h binding ((perm_sortBy Prod.fst bound).mem_iff.1 hbinding))

theorem sublist_successes {Value Key : Type} {look : Entry → Except Failure Value}
    {key : Entry → Key} {keyOf : Value → Key}
    (h : ∀ entry value, look entry = .ok value → keyOf value = key entry) (entries : List Entry) :
    ((successes (entries.map look)).map keyOf).Sublist (entries.map key) := by
  induction entries with
  | nil => exact List.Sublist.refl _
  | cons entry rest ih =>
    cases hlook : look entry with
    | ok value =>
      have hkey := h entry value hlook
      simp only [successes, List.map_cons, hlook, List.filterMap_cons, successOf] at ih ⊢
      rw [hkey]
      exact ih.cons_cons _
    | error failure =>
      simp only [successes, List.map_cons, hlook, List.filterMap_cons, successOf] at ih ⊢
      exact ih.cons _

theorem lookup_imagesOf {look : Entry → Except Failure (Module × ModuleImage)} {role : Entry → Text}
    {entries : List Entry} (hroles : (entries.map role).Nodup)
    (h : ∀ entry value, look entry = .ok value → value.1.role = role entry) {wanted : Text} :
    (imagesOf (successes (entries.map look))).lookup wanted = some image ↔
      ∃ entry ∈ entries, ∃ module, look entry = .ok (module, image) ∧ module.role = wanted := by
  have hkeys : (imagesOf (successes (entries.map look))).map Prod.fst
      = (successes (entries.map look)).map fun value => value.1.role := by
    simp [imagesOf, Function.comp_def]
  have hdistinct : ((imagesOf (successes (entries.map look))).map Prod.fst).Nodup := by
    rw [hkeys]
    exact (sublist_successes h entries).nodup hroles
  constructor
  · intro hlookup
    have hmem := mem_of_lookup hlookup
    obtain ⟨value, hvalue, heq⟩ := List.mem_map.1 hmem
    obtain ⟨entry, hentry, hlook⟩ := List.mem_map.1 (mem_successes.1 hvalue)
    obtain ⟨module, found⟩ := value
    cases heq
    exact ⟨entry, hentry, module, hlook, rfl⟩
  · rintro ⟨entry, hentry, module, hlook, rfl⟩
    apply lookup_of_distinct hdistinct
    refine List.mem_map.2 ⟨(module, image), ?_, rfl⟩
    exact mem_successes.2 (List.mem_map.2 ⟨entry, hentry, hlook⟩)

theorem role_of_validateBinding (module : Module) (entry : Module × ModuleImage)
    (h : validateBinding disk bound module = .ok entry) : entry.1.role = module.role := by
  rw [(validateBinding_eq_ok.1 h).1]

/-- **What a validation that reports no error has established.** -/
theorem ok_validateFindings :
    ok (validateFindings disk profile bindings) = true ↔ Validated disk profile bindings := by
  simp only [validateFindings, ok_append, Bool.and_eq_true, ok_outcomes, ok_validateStructure]
  rw [(onlyErrors_bindModules [] bindings).ok_iff]
  constructor
  · rintro ⟨⟨⟨⟨hvalid, hbound⟩, hextra⟩, hmodules⟩, hpatterns⟩
    have hmap := bindModules_of_nil hbound
    rw [List.nil_append] at hmap
    obtain ⟨hroles, hbindings⟩ := bindModules_eq_nil.1 hbound
    rw [hmap] at hextra hmodules hpatterns
    rw [ok_extraBindings hvalid] at hextra
    have hindex := perm_indexBy hvalid.roles
    have hindexRoles := (hindex.map Module.role).nodup_iff.2 hvalid.roles
    exact {
      valid := hvalid
      roles := hroles
      bound := fun binding hmem => by
        obtain ⟨hrole, hpath, -⟩ := hbindings binding hmem
        exact ⟨hrole, hpath, hextra _ (List.mem_map.2 ⟨binding, hmem, rfl⟩)⟩
      modules := fun module hmem => by
        have hin : validateBinding disk (boundOf bindings) module
            ∈ validatedModules disk profile (boundOf bindings) :=
          List.mem_map_of_mem (hindex.mem_iff.2 hmem)
        obtain ⟨entry, hentry⟩ := hmodules _ hin
        obtain ⟨-, path, hlookup, hfile⟩ := validateBinding_eq_ok.1 hentry
        exact ⟨path, entry.2, (lookup_boundOf hroles).1 hlookup, hfile⟩
      patterns := fun pattern hmem => by
        obtain ⟨found, hfound⟩ := hpatterns _ (List.mem_map_of_mem hmem)
        obtain ⟨-, image, hlookup, hstored⟩ := validateStored_eq_ok.1 hfound
        obtain ⟨module, -, same, hbinding, hrole⟩ :=
          (lookup_imagesOf hindexRoles role_of_validateBinding).1 hlookup
        obtain ⟨rfl, path, hpath, -, -, hread⟩ := validateBinding_eq_ok.1 hbinding
        rw [hrole] at hpath
        exact ⟨path, image, (lookup_boundOf hroles).1 hpath, hread, hstored⟩ }
  · intro h
    have hbound : (bindModules [] bindings).2 = [] := by
      refine bindModules_eq_nil.2 ⟨h.roles, fun binding hmem => ?_⟩
      obtain ⟨hrole, hpath, -⟩ := h.bound binding hmem
      exact ⟨hrole, hpath, List.not_mem_nil⟩
    have hmap := bindModules_of_nil hbound
    rw [List.nil_append] at hmap
    have hindex := perm_indexBy h.valid.roles
    have hindexRoles := (hindex.map Module.role).nodup_iff.2 h.valid.roles
    rw [hmap]
    refine ⟨⟨⟨⟨h.valid, hbound⟩, ?_⟩, ?_⟩, ?_⟩
    · refine (ok_extraBindings h.valid).2 fun entry hentry => ?_
      obtain ⟨binding, hbinding, rfl⟩ := List.mem_map.1 hentry
      exact (h.bound binding hbinding).2.2
    · intro outcome houtcome
      obtain ⟨module, hmodule, rfl⟩ := List.mem_map.1 houtcome
      obtain ⟨path, image, hpath, hfile⟩ := h.modules module (hindex.mem_iff.1 hmodule)
      exact ⟨(module, image),
        validateBinding_eq_ok.2 ⟨rfl, path, (lookup_boundOf h.roles).2 hpath, hfile⟩⟩
    · intro outcome houtcome
      obtain ⟨pattern, hpattern, rfl⟩ := List.mem_map.1 houtcome
      obtain ⟨path, image, hpath, hread, hstored⟩ := h.patterns pattern hpattern
      obtain ⟨-, hmodule, -⟩ := h.valid.patterns pattern hpattern
      obtain ⟨module, hmem, hrole⟩ := List.mem_map.1 hmodule
      obtain ⟨path', image', hpath', hfile⟩ := h.modules module hmem
      -- One role has one binding, so the two paths are the same file.
      rw [← lookup_boundOf h.roles, hrole] at hpath'
      rw [← lookup_boundOf h.roles, hpath', Option.some.injEq] at hpath
      have himage : image' = image := by
        have hread' := hfile.2.2
        rw [hpath, hread] at hread'
        cases hread'
        rfl
      rw [himage] at hfile
      refine ⟨pattern, validateStored_eq_ok.2 ⟨rfl, image, ?_, hstored⟩⟩
      refine (lookup_imagesOf hindexRoles role_of_validateBinding).2 ?_
      refine ⟨module, hindex.mem_iff.2 hmem, module, ?_, hrole⟩
      exact validateBinding_eq_ok.2 ⟨rfl, path', by rw [hrole]; exact hpath', hfile⟩

theorem ok_validate :
    ok (validate disk profile bindings).diagnostics = true ↔ Validated disk profile bindings := by
  rw [← ok_validateFindings]
  simp only [validate, ok_append]
  split
  · simp [ok, warningOf]
  · simp [ok]

/-! ## The finding of a capture -/

theorem captureModule_eq_ok {input : ModuleInput} {entry : Module × ModuleImage} :
    captureModule disk input = .ok entry ↔
      entry.1.role = input.role ∧ Bound disk input.path entry.1 entry.2 := by
  obtain ⟨⟨role, name, fingerprint⟩, image⟩ := entry
  unfold captureModule Bound
  constructor
  · intro h
    split at h
    · cases h
    · rename_i found hfound
      split at h
      · cases h
      · rename_i hread
        cases h
        exact ⟨rfl, rfl, hfound, hread⟩
  · rintro ⟨rfl, rfl, hfingerprint, hread⟩
    simp only [hfingerprint, hread]

theorem capturePattern_eq_ok {images : Images} {request : PatternRequest}
    (h : capturePattern images request = .ok pattern) :
    ∃ image, images.lookup pattern.module = some image ∧ Stored image pattern := by
  unfold capturePattern at h
  split at h
  · cases h
  · rename_i image himage
    split at h
    · cases h
    · rename_i parsed normalized hparse
      dsimp only at h
      split at h
      · cases h
      · rename_i selected hselected
        split at h
        · cases h
        · rename_i hcount
          cases h
          refine ⟨image, himage, parsed, normalized, parsePattern_normalized hparse, ?_,
            selected, hselected, rfl⟩
          exact (UInt32.toNat_ofNat_of_lt' (Nat.not_le.1 hcount)).symm

theorem map_successes {Value Key : Type} {look : Entry → Except Failure Value} {key : Entry → Key}
    {keyOf : Value → Key} (h : ∀ entry value, look entry = .ok value → keyOf value = key entry)
    {entries : List Entry} (hall : ∀ outcome ∈ entries.map look, ∃ value, outcome = .ok value) :
    (successes (entries.map look)).map keyOf = entries.map key := by
  induction entries with
  | nil => rfl
  | cons entry rest ih =>
    rw [List.map_cons, List.forall_mem_cons] at hall
    obtain ⟨⟨value, hlook⟩, hrest⟩ := hall
    have hkey := h entry value hlook
    have htail := ih hrest
    simp only [successes, List.map_cons, hlook, List.filterMap_cons, successOf] at htail ⊢
    rw [hkey, htail]

theorem Bound.of_same (h : Bound disk path module image)
    (hsame : later.files path = disk.files path) : Bound later path module image := by
  obtain ⟨hname, hfingerprint, hread⟩ := h
  unfold Bound fingerprintFile readModuleImage at *
  rw [hsame]
  exact ⟨hname, hfingerprint, hread⟩

theorem path_ne_nil (hbound : Bound disk path module image)
    (hname : validText module.name false = true) : path ≠ [] := by
  rintro rfl
  rw [← hbound.1] at hname
  exact absurd hname (by decide)

/-- **A capture establishes what a validation looks for**, of the profile it made and for
every binding of the roles to the same files. -/
theorem validated_of_capture {request : CaptureRequest}
    (h : ok (captureFindings disk request) = true)
    (hsame : ∀ input ∈ request.modules, later.files input.path = disk.files input.path)
    (hbindings : bindings.Perm request.modules) :
    Validated later (capturedProfile disk request).sorted bindings := by
  simp only [captureFindings, ok_append, Bool.and_eq_true, ok_outcomes,
    ok_validateStructure] at h
  obtain ⟨⟨hmodules, hpatterns⟩, hvalid⟩ := h
  have hrole : ∀ input entry, captureModule disk input = .ok entry →
      entry.1.role = input.role := fun input entry hlook => (captureModule_eq_ok.1 hlook).1
  have hroles : (capturedProfile disk request).modules.map Module.role
      = request.modules.map ModuleInput.role := by
    rw [← map_successes hrole hmodules]
    simp [capturedProfile, capturedModules, Function.comp_def]
  have hdistinct : (request.modules.map ModuleInput.role).Nodup := hroles ▸ hvalid.roles
  have hsorted := perm_sortBy Module.role (capturedProfile disk request).modules
  have hfile : ∀ input ∈ request.modules, ∃ module image,
      module ∈ (capturedProfile disk request).modules ∧ module.role = input.role ∧
      Bound later input.path module image := by
    intro input hinput
    obtain ⟨entry, hentry⟩ := hmodules _ (List.mem_map_of_mem hinput)
    obtain ⟨hentryRole, hbound⟩ := captureModule_eq_ok.1 hentry
    refine ⟨entry.1, entry.2, ?_, hentryRole, hbound.of_same (hsame input hinput)⟩
    refine List.mem_map_of_mem (mem_successes.2 ?_)
    exact List.mem_map.2 ⟨input, hinput, hentry⟩
  exact {
    valid := hvalid.sorted
    roles := (hbindings.map ModuleInput.role).nodup_iff.2 hdistinct
    bound := fun binding hmem => by
      obtain ⟨module, image, hmodule, hsameRole, hbound⟩ := hfile binding (hbindings.mem_iff.1 hmem)
      obtain ⟨htoken, hname, -⟩ := hvalid.modules module hmodule
      refine ⟨hsameRole ▸ htoken, path_ne_nil hbound hname, ?_⟩
      exact List.mem_map.2 ⟨module, hsorted.mem_iff.2 hmodule, hsameRole⟩
    modules := fun module hmem => by
      obtain ⟨entry, hentry, rfl⟩ := List.mem_map.1 (hsorted.mem_iff.1 hmem)
      obtain ⟨input, hinput, hlook⟩ := List.mem_map.1 (mem_successes.1 hentry)
      obtain ⟨hentryRole, hbound⟩ := captureModule_eq_ok.1 hlook
      refine ⟨input.path, entry.2, ?_, hbound.of_same (hsame input hinput)⟩
      rw [hentryRole]
      exact hbindings.mem_iff.2 hinput
    patterns := fun pattern hmem => by
      have hin := (perm_sortBy Pattern.key _).mem_iff.1 hmem
      obtain ⟨wanted, -, hlook⟩ := List.mem_map.1 (mem_successes.1 hin)
      obtain ⟨image, hlookup, hstored⟩ := capturePattern_eq_ok hlook
      obtain ⟨input, hinput, module, hcaptured, hsameRole⟩ :=
        (lookup_imagesOf hdistinct hrole).1 hlookup
      obtain ⟨hmoduleRole, hbound⟩ := captureModule_eq_ok.1 hcaptured
      refine ⟨input.path, image, ?_, (hbound.of_same (hsame input hinput)).2.2, hstored⟩
      rw [← hsameRole, hmoduleRole]
      exact hbindings.mem_iff.2 hinput }

theorem ok_capture {request : CaptureRequest} :
    ok (capture disk request).2.diagnostics = true ↔ ok (captureFindings disk request) = true := by
  simp only [capture, ok_append]
  split
  · simp [ok, warningOf]
  · simp [ok]

/-! ## What a change of a file does -/

/-- How often and where a stored pattern is found in the module at `path`. -/
def resolution (disk : Disk) (path : Path) (pattern : Pattern) : Option (Nat × Nat) :=
  match readModuleImage disk path, parsePattern pattern.expression with
  | .ok image, some (parsed, _) =>
    match selectMatch (image.scan parsed) pattern.occurrence.toNat with
    | .ok selected => some ((image.scan parsed).length, selected)
    | .error _ => none
  | _, _ => none

theorem lt_of_mem_scan (hread : readModuleImage disk path = .ok image)
    {parsed : List (Option UInt8)} {position : Nat} (hmem : position ∈ image.scan parsed) :
    position < 2 ^ 64 := by
  unfold readModuleImage at hread
  split at hread
  · cases hread
  · obtain ⟨hbytes, hbounds, hlength⟩ := imageOf_eq_ok hread
    obtain ⟨-, range, hrange, hlow, hhigh⟩ := mem_scan.1 hmem
    have hend := (hbounds range hrange).2
    omega

theorem Stored.resolution (hread : readModuleImage disk path = .ok image) (h : Stored image pattern) :
    Compatibility.resolution disk path pattern
      = some (pattern.matchCount.toNat, pattern.selectedFileOffset.toNat) := by
  obtain ⟨parsed, normalized, hparse, hcount, selected, hselected, hoffset⟩ := h
  have hsmall := lt_of_mem_scan hread (mem_of_selectMatch hselected)
  have hnat : pattern.selectedFileOffset.toNat = selected := by
    rw [← hoffset]
    exact UInt64.toNat_ofNat_of_lt' hsmall
  unfold Compatibility.resolution
  simp only [hread, hparse, hselected, hcount, hnat]

theorem Validated.fingerprint (h : Validated disk profile bindings) {binding : ModuleInput}
    (hmem : binding ∈ bindings) :
    ∃ module ∈ profile.modules, module.role = binding.role ∧
      fingerprintFile disk binding.path = .ok module.fingerprint := by
  obtain ⟨module, hmodule, hrole⟩ := List.mem_map.1 (h.bound binding hmem).2.2
  obtain ⟨path, image, hpath, hbound⟩ := h.modules module hmodule
  have hpaths : path = binding.path := by
    rw [hrole] at hpath
    have hother : ModuleInput.mk binding.role binding.path ∈ bindings := hmem
    rw [← lookup_boundOf h.roles] at hpath hother
    rw [hpath] at hother
    exact Option.some.inj hother
  exact ⟨module, hmodule, hrole, hpaths ▸ hbound.2.1⟩

theorem Validated.resolution (h : Validated disk profile bindings) {binding : ModuleInput}
    (hmem : binding ∈ bindings) (hpattern : pattern ∈ profile.patterns)
    (hmodule : pattern.module = binding.role) :
    Compatibility.resolution disk binding.path pattern
      = some (pattern.matchCount.toNat, pattern.selectedFileOffset.toNat) := by
  obtain ⟨path, image, hpath, hread, hstored⟩ := h.patterns pattern hpattern
  have hpaths : path = binding.path := by
    rw [hmodule] at hpath
    have hother : ModuleInput.mk binding.role binding.path ∈ bindings := hmem
    rw [← lookup_boundOf h.roles] at hpath hother
    rw [hpath] at hother
    exact Option.some.inj hother
  rw [← hpaths]
  exact hstored.resolution hread

/-- The file at `path` differs in one byte. -/
def OneByteChanged (disk later : Disk) (path : Path) : Prop :=
  ∃ content changed front byte other back, disk.files path = some content ∧
    later.files path = some changed ∧ bytesOf content = front ++ byte :: back ∧
    bytesOf changed = front ++ other :: back ∧ byte ≠ other

theorem OneByteChanged.fingerprint (h : OneByteChanged disk later path) :
    fingerprintFile later path ≠ fingerprintFile disk path := by
  obtain ⟨content, changed, front, byte, other, back, hcontent, hchanged, hbefore, hafter, hne⟩ := h
  simp only [fingerprintFile, hcontent, hchanged, hbefore, hafter, ne_eq, Except.ok.injEq]
  exact fingerprint_of_one_byte hne.symm

/-- The file of a binding has another fingerprint, or a stored pattern of its module is
found another number of times or selected elsewhere. -/
def Altered (disk later : Disk) (profile : Profile) (binding : ModuleInput) : Prop :=
  fingerprintFile later binding.path ≠ fingerprintFile disk binding.path ∨
    ∃ pattern ∈ profile.patterns, pattern.module = binding.role ∧
      resolution later binding.path pattern ≠ resolution disk binding.path pattern

/-- **Capture and validation keep in step.** What a successful capture found can be stored,
read back and validated against the same files, still untrusted; a successful validation has
found every stored pattern as often and where the profile says; and it does not survive a
change of a bound file that alters what is found there, nor of any one byte. -/
theorem capture_validate_law :
    (∀ disk request, ok (capture disk request).2.diagnostics = true →
      ∀ store path, store.Fresh path →
        ∃ written, writeProfile store path (capture disk request).1 = .ok written ∧
        ∃ reread, Accepts written path reread ∧
        ∀ later : Disk,
          (∀ input ∈ request.modules, later.files input.path = disk.files input.path) →
          ∀ bindings, bindings.Perm request.modules →
            ok (validate later reread bindings).diagnostics = true ∧
            (validate later reread bindings).reviewRequired = true) ∧
    (∀ disk profile bindings, ok (validate disk profile bindings).diagnostics = true →
      ∀ pattern ∈ profile.patterns, ∃ path image parsed,
        ModuleInput.mk pattern.module path ∈ bindings ∧
        readModuleImage disk path = .ok image ∧
        parsePattern pattern.expression = some (parsed, pattern.expression) ∧
        (image.scan parsed).length = pattern.matchCount.toNat ∧
        selectMatch (image.scan parsed) pattern.occurrence.toNat
          = .ok pattern.selectedFileOffset.toNat) ∧
    (∀ disk later profile bindings, ok (validate disk profile bindings).diagnostics = true →
      ∀ binding ∈ bindings, Altered disk later profile binding ∨
          OneByteChanged disk later binding.path →
        ok (validate later profile bindings).diagnostics = false) := by
  refine ⟨?_, ?_, ?_⟩
  · intro disk request hcapture store path hfresh
    have hfindings := ok_capture.1 hcapture
    have hvalid : (capturedProfile disk request).Valid := by
      have h := hfindings
      simp only [captureFindings, ok_append, Bool.and_eq_true, ok_validateStructure] at h
      exact h.2
    refine ⟨_, writeProfile_eq_ok.2 ⟨hvalid, hfresh, rfl⟩, (capturedProfile disk request).sorted,
      ?_, ?_⟩
    · apply accepts_written hvalid
      exact Function.update_self ..
    · intro later hsame bindings hbindings
      exact ⟨ok_validate.2 (validated_of_capture hfindings hsame hbindings), rfl⟩
  · intro disk profile bindings hok pattern hpattern
    have hvalidated := ok_validate.1 hok
    obtain ⟨path, image, hpath, hread, parsed, normalized, hparse, hcount, selected, hselected,
      hoffset⟩ := hvalidated.patterns pattern hpattern
    have hsmall := lt_of_mem_scan hread (mem_of_selectMatch hselected)
    have hnormal : normalized = pattern.expression := by
      obtain ⟨-, -, hnormalized, -⟩ := hvalidated.valid.patterns pattern hpattern
      simpa [isNormalized, hparse] using hnormalized
    refine ⟨path, image, parsed, hpath, hread, hnormal ▸ hparse, hcount, ?_⟩
    rw [hselected, ← hoffset, UInt64.toNat_ofNat_of_lt' hsmall]
  · intro disk later profile bindings hok binding hbinding haltered
    have hbefore := ok_validate.1 hok
    by_contra hagain
    rw [Bool.not_eq_false] at hagain
    have hafter := ok_validate.1 hagain
    have hfingerprint : fingerprintFile later binding.path = fingerprintFile disk binding.path := by
      obtain ⟨module, hmodule, hrole, hfile⟩ := hbefore.fingerprint hbinding
      obtain ⟨other, hother, hotherRole, hotherFile⟩ := hafter.fingerprint hbinding
      have hsame := List.inj_on_of_nodup_map hbefore.valid.roles hmodule hother
        (hrole.trans hotherRole.symm)
      rw [hfile, hotherFile, hsame]
    rcases haltered with (hchanged | ⟨pattern, hpattern, hmodule, hchanged⟩) | hbyte
    · exact hchanged hfingerprint
    · apply hchanged
      rw [hbefore.resolution hbinding hpattern hmodule, hafter.resolution hbinding hpattern hmodule]
    · exact hbyte.fingerprint hfingerprint

/-- An ELF image whose one loaded segment is its last four bytes. -/
def exampleImage : Text :=
  ([0x7f, 0x45, 0x4c, 0x46, 2, 1, 1] ++ List.replicate 11 0 ++ [62] ++ List.replicate 13 0
    ++ [64] ++ List.replicate 21 0 ++ [56, 0, 1] ++ List.replicate 7 0
    ++ [1, 0, 0, 0, 5, 0, 0, 0, 120] ++ List.replicate 23 0 ++ [4] ++ List.replicate 23 0
    ++ [0x0f, 0x1f, 0x90, 0xc3]).map Char.ofNat

def exampleDisk : Disk :=
  { files := fun path => if path = "/lib/engine.so".toList then some exampleImage else none
    creates := fun _ => true }

def exampleRequest : CaptureRequest :=
  { game := "cs2".toList, version := "1.40".toList, platform := "linux-x64".toList
    modules := [⟨"engine".toList, "/lib/engine.so".toList⟩]
    interfaces := []
    slots := []
    patterns := [⟨"find".toList, "engine".toList, "0f ? 90".toList, 0⟩] }

/-- The example is captured, stored as `p` beside the module, read back and validated. -/
theorem exampleRequest_validated :
    ∃ written, writeProfile exampleDisk ['p'] (capture exampleDisk exampleRequest).1 = .ok written ∧
      ∃ reread, Accepts written ['p'] reread ∧
        ok (validate written reread exampleRequest.modules).diagnostics = true := by
  have hcapture : ok (capture exampleDisk exampleRequest).2.diagnostics = true := by
    decide +kernel
  have hfresh : exampleDisk.Fresh ['p'] := ⟨by decide, rfl⟩
  obtain ⟨written, hwrite, reread, haccepts, hvalidate⟩ :=
    capture_validate_law.1 _ _ hcapture _ _ hfresh
  refine ⟨written, hwrite, reread, haccepts, ?_⟩
  refine (hvalidate written (fun input hinput => ?_) _ (List.Perm.refl _)).1
  obtain ⟨-, -, rfl⟩ := writeProfile_eq_ok.1 hwrite
  have hother : input.path ≠ ['p'] := by
    rw [List.mem_singleton.1 hinput]
    decide
  exact Function.update_of_ne hother ..

end KeelS2.Compatibility
