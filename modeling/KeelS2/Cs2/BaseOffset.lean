import KeelS2.Cs2.SchemaClasses
import KeelS2.Lib.Unfolding

/-!
# What FindBaseOffset finds

An object of a class unfolds into its base-class parts, one for each path of base classes. The
search is one fold over the list of these parts (`search_eq_fold`), whatever is shared, repeated
or circular in the classes, so that its answer is decided by what holds of all of them.
-/

namespace KeelS2.Cs2

open Lib.Unfolding

variable {Class : Type*}

/-! ## The parts of an object -/

/-- A base-class part of an object: where it stands in the base-class arrays, the classes it is a
part of, nearest first, its class, and where it begins. -/
structure Part (Class : Type*) where
  place : List Nat
  way : List Class
  type : Option Class
  offset : Nat

def Part.whole (start : Option Class) : Part Class where
  place := []
  way := []
  type := start
  offset := 0

/-- The part that is a base of `current`. -/
def Part.base (part : Part Class) (current : Class)
    (entry : SchemaBaseClassInfoData Class × Nat) : Part Class where
  place := entry.2 :: part.place
  way := current :: part.way
  type := entry.1.type
  offset := part.offset + entry.1.offset

variable [DecidableEq Class] (classes : Class → CSchemaClassInfo Class)

/-- The bases of a part; those of the target are not looked at. -/
def parts (target : Class) (part : Part Class) : List (Part Class) :=
  match part.type with
  | none => []
  | some current =>
    if current = target then []
    else (classes current).baseClasses.elements.zipIdx.map (part.base current)

/-- A part of an object of class `start`. -/
abbrev PartOf (start : Option Class) (target : Class) (part : Part Class) : Prop :=
  Below (parts classes target) (Part.whole start) part

/-- The object's parts are few, no class is part of itself, and all of them are valid classes that
lie inside the class they are a base of. -/
structure WellFormed (start : Option Class) (target : Class) : Prop where
  few : {part | PartOf classes start target part}.encard ≤ 256
  shallow : ∀ part, PartOf classes start target part → part.way.length < 64
  valid : ∀ part, PartOf classes start target part → validClass classes part.type false = true
  acyclic : ∀ part, PartOf classes start target part → ∀ current, part.type = some current →
    current ∉ part.way
  inside : ∀ part, PartOf classes start target part → ∀ current, part.type = some current →
    current ≠ target → ∀ base ∈ (classes current).baseClasses.elements, ∀ inner,
    base.type = some inner → base.offset + classSize classes inner ≤ classSize classes current

variable {classes}

theorem placed_parts (target : Class) : Placed (parts classes target) Part.place where
  turn part child hchild := by
    unfold parts at hchild
    split at hchild
    · cases hchild
    · split at hchild
      · cases hchild
      · obtain ⟨entry, -, rfl⟩ := List.mem_map.1 hchild
        exact ⟨entry.2, rfl⟩
  distinct part := by
    unfold parts
    split
    · exact List.nodup_nil
    · split
      · exact List.nodup_nil
      · next current _ _ =>
        rw [List.map_map]
        have hplaces : Part.place ∘ part.base current = (· :: part.place) ∘ Prod.snd := rfl
        rw [hplaces, ← List.map_map, List.zipIdx_map_snd]
        refine List.Nodup.map ?_ List.nodup_range'
        intro first second heq
        exact (List.cons.inj heq).1

variable {target current : Class} {start : Option Class} {part : Part Class}
  {hierarchy after : Hierarchy}

theorem way_length (h : PartOf classes start target part) :
    part.way.length = part.place.length := by
  induction h with
  | refl => rfl
  | tail h hchild ih =>
    unfold parts at hchild
    split at hchild
    · cases hchild
    · split at hchild
      · cases hchild
      · obtain ⟨entry, -, rfl⟩ := List.mem_map.1 hchild
        simp only [Part.base, List.length_cons, ih]

theorem WellFormed.room {start : Class} (hformed : WellFormed classes (some start) target)
    (h : PartOf classes (some start) target part) (hcurrent : part.type = some current) :
    part.offset + classSize classes current ≤ classSize classes start := by
  induction h generalizing current with
  | refl =>
    cases hcurrent
    simp [Part.whole]
  | @tail above below h hchild ih =>
    unfold parts at hchild
    split at hchild
    · cases hchild
    · next derived hderived =>
      split at hchild
      · cases hchild
      · next hne =>
        obtain ⟨entry, hentry, rfl⟩ := List.mem_map.1 hchild
        have hmem := (List.mem_zipIdx' hentry).2
        have hinside := hformed.inside above h derived hderived hne entry.1
          (hmem ▸ List.getElem_mem _) current hcurrent
        have habove := ih hderived
        simp only [Part.base]
        omega

/-! ## The search as a fold -/

variable (classes) in
/-- What has to hold of one part for the search to go on. -/
structure Sound (target : Class) (part : Part Class) (current : Class) : Prop where
  type : part.type = some current
  valid : validClass classes (some current) false = true
  shallow : part.way.length < 64
  acyclic : current ∉ part.way
  fits : current ≠ target →
    ∀ base ∈ (classes current).baseClasses.elements, baseFits classes current part.offset base

variable (classes) in
/-- What the search does at one part; `none` ends it. -/
def look (target : Class) (hierarchy : Hierarchy) (part : Part Class) : Option Hierarchy :=
  match part.type with
  | none => none
  | some current =>
    if validClass classes (some current) false ∧ hierarchy.visited + 1 ≤ 256 ∧
        part.way.length < 64 ∧ current ∉ part.way then
      if current = target then
        if hierarchy.found && hierarchy.result ≠ part.offset then none
        else some ⟨hierarchy.visited + 1, true, part.offset⟩
      else if ∀ base ∈ (classes current).baseClasses.elements,
          baseFits classes current part.offset base then
        some { hierarchy with visited := hierarchy.visited + 1 }
      else none
    else none

/-- The answer of a search of the listed parts that the fold over them says; `state` is the answer
if the target is not one of them. -/
def Answers (target : Class) (state : HierarchyResult) (listed : List (Part Class)) :
    Option Hierarchy → HierarchyResult × Hierarchy → Prop
  | none, answer => answer.1 = .incompatible
  | some hierarchy, answer =>
    answer = (if ∃ part ∈ listed, part.type = some target then .found else state, hierarchy)

theorem Answers.append {state : HierarchyResult} (before : List (Part Class))
    {listed : List (Part Class)} {after : Option Hierarchy} {answer : HierarchyResult × Hierarchy}
    (h : Answers target (if ∃ part ∈ before, part.type = some target then .found else state) listed
      after answer) : Answers target state (before ++ listed) after answer := by
  cases after with
  | none => exact h
  | some hierarchy =>
    have hanswer : answer = _ := h
    rw [hanswer]
    simp only [Answers, List.mem_append, or_and_right, exists_or]
    by_cases hbefore : ∃ part ∈ before, part.type = some target <;> simp [hbefore]

theorem Answers.cons {target : Class} {state : HierarchyResult} {part : Part Class}
    (hpart : part.type ≠ some target) {listed : List (Part Class)} {after : Option Hierarchy}
    {answer : HierarchyResult × Hierarchy} (h : Answers target state listed after answer) :
    Answers target state (part :: listed) after answer := by
  apply Answers.append [part]
  rw [if_neg fun ⟨_, hmem, htype⟩ => hpart (List.mem_singleton.1 hmem ▸ htype)]
  exact h

theorem searchBases_eq_fold {levels : Nat}
    (visit : Option Class → Nat → Hierarchy → HierarchyResult × Hierarchy)
    {entries : List (SchemaBaseClassInfoData Class × Nat)}
    (hvisit : ∀ entry ∈ entries, ∀ hierarchy, Answers target .absent (preorder (parts classes
      target) levels (part.base current entry)) ((preorder (parts classes target) levels (part.base
      current entry)).foldlM (look classes target) hierarchy) (visit entry.1.type (part.offset +
      entry.1.offset) hierarchy))
    (state : HierarchyResult) (hierarchy : Hierarchy) :
    Answers target state
      ((entries.map (part.base current)).flatMap (preorder (parts classes target) levels))
      (if ∀ base ∈ entries.map Prod.fst, baseFits classes current part.offset base then
        ((entries.map (part.base current)).flatMap (preorder (parts classes target) levels)).foldlM
          (look classes target) hierarchy
      else none)
      (searchBases classes current part.offset visit (entries.map Prod.fst) state hierarchy) := by
  induction entries generalizing state hierarchy with
  | nil => simp [Answers, searchBases]
  | cons entry entries ih =>
    have hfirst := hvisit entry List.mem_cons_self hierarchy
    have hrest := ih fun entry hmem => hvisit entry (List.mem_cons_of_mem _ hmem)
    rw [List.map_cons, List.map_cons, List.flatMap_cons, searchBases]
    by_cases hfits : baseFits classes current part.offset entry.1 = true
    · rw [if_pos hfits]
      simp only [List.forall_mem_cons, hfits, true_and, List.foldlM_append]
      cases hfold : (preorder (parts classes target) levels (part.base current entry)).foldlM
          (look classes target) hierarchy with
      | none =>
        rw [hfold] at hfirst
        have hanswer : (visit entry.1.type (part.offset + entry.1.offset) hierarchy).1 =
            .incompatible := hfirst
        cases hvisited : visit entry.1.type (part.offset + entry.1.offset) hierarchy with
        | mk answer after =>
          rw [hvisited] at hanswer
          cases hanswer
          split <;> rfl
      | some after =>
        rw [hfold] at hfirst
        have hanswer : visit entry.1.type (part.offset + entry.1.offset) hierarchy = _ := hfirst
        rw [hanswer]
        apply Answers.append _
        by_cases htarget : ∃ below ∈ preorder (parts classes target) levels
            (part.base current entry), below.type = some target
        · rw [if_pos htarget, if_pos htarget]
          exact hrest .found after
        · rw [if_neg htarget, if_neg htarget]
          exact hrest state after
    · rw [if_neg hfits, if_neg fun hall => hfits (hall entry.1 List.mem_cons_self)]
      rfl

/-- The search below a part is the fold over its parts: by induction on the levels that are
left. -/
theorem search_eq_fold {target : Class} {levels : Nat} {part : Part Class}
    (hlevels : part.way.length + levels = 64) (hierarchy : Hierarchy) :
    Answers target .absent (preorder (parts classes target) (levels + 1) part)
      ((preorder (parts classes target) (levels + 1) part).foldlM (look classes target) hierarchy)
      (findBaseOffset classes (some target) levels part.way part.type part.offset hierarchy) := by
  induction levels generalizing part hierarchy with
  | zero =>
    have hlook : look classes target hierarchy part = none := by
      unfold look
      split
      · rfl
      · rw [if_neg fun h => by omega]
    simp [preorder, hlook, Answers, findBaseOffset]
  | succ levels ih =>
    rw [preorder, List.foldlM_cons]
    cases hcurrent : part.type with
    | none => simp [look, hcurrent, Answers, findBaseOffset]
    | some current =>
      by_cases hchecks : validClass classes (some current) false = true ∧
          hierarchy.visited + 1 ≤ 256 ∧ part.way.length < 64 ∧ current ∉ part.way
      · obtain ⟨hvalid, hfew, hshallow, hacyclic⟩ := hchecks
        have hfew' : ¬256 < hierarchy.visited + 1 := Nat.not_lt.2 hfew
        simp only [findBaseOffset, look, hcurrent, hvalid, hfew, hfew', hshallow, hacyclic,
          not_false_eq_true, and_self, if_true, Bool.not_true, Bool.false_eq_true, if_false]
        by_cases htarget : current = target
        · have hparts : parts classes target part = [] := by simp [parts, hcurrent, htarget]
          simp only [htarget, if_true, hparts, List.flatMap_nil]
          split
          · rfl
          · simp [Answers, hcurrent, htarget]
        · have hparts : parts classes target part =
              (classes current).baseClasses.elements.zipIdx.map (part.base current) := by
            simp [parts, hcurrent, htarget]
          have hbelow : ∀ entry ∈ (classes current).baseClasses.elements.zipIdx, ∀ hierarchy,
              Answers target .absent
                (preorder (parts classes target) (levels + 1) (part.base current entry))
                ((preorder (parts classes target) (levels + 1)
                  (part.base current entry)).foldlM (look classes target) hierarchy)
                (findBaseOffset classes (some target) levels (current :: part.way) entry.1.type
                  (part.offset + entry.1.offset) hierarchy) := by
            intro entry _ hierarchy
            apply @ih (part.base current entry)
            simp only [Part.base, List.length_cons]
            omega
          have hbases := searchBases_eq_fold
            (fun base offset hierarchy => findBaseOffset classes (some target) levels
              (current :: part.way) base offset hierarchy)
            hbelow .absent { hierarchy with visited := hierarchy.visited + 1 }
          rw [List.zipIdx_map_fst] at hbases
          simp only [htarget, if_false, hparts]
          apply Answers.cons (by rw [hcurrent]; simpa using htarget)
          by_cases hfits : ∀ base ∈ (classes current).baseClasses.elements,
              baseFits classes current part.offset base = true
          · rw [if_pos hfits] at hbases
            rw [if_pos hfits]
            exact hbases
          · rw [if_neg hfits] at hbases
            rw [if_neg hfits]
            exact hbases
      · have hlook : look classes target hierarchy part = none := by
          simp only [look, hcurrent]
          rw [if_neg hchecks]
        rw [hlook]
        simp only [findBaseOffset]
        split
        · rfl
        · next hvalid =>
          split
          · rfl
          · next hfew =>
            rw [if_pos ?_]
            · rfl
            · by_contra hacyclic
              refine hchecks ⟨?_, Nat.not_lt.1 hfew, by omega, hacyclic⟩
              simpa using hvalid

/-! ## The fold -/

theorem look_eq_some (h : look classes target hierarchy part = some after) :
    (∃ current, Sound classes target part current) ∧ after.visited = hierarchy.visited + 1 ∧
      after.visited ≤ 256 ∧
      (part.type = some target → after.found = true ∧ after.result = part.offset ∧
        (hierarchy.found = true → hierarchy.result = part.offset)) ∧
      (part.type ≠ some target → after.found = hierarchy.found ∧
        after.result = hierarchy.result) := by
  unfold look at h
  split at h
  · cases h
  · next current hcurrent =>
    split at h
    · next hchecks =>
      obtain ⟨hvalid, hfew, hshallow, hacyclic⟩ := hchecks
      split at h
      · next htarget =>
        split at h
        · cases h
        · next hsame =>
          cases h
          refine ⟨⟨current, hcurrent, hvalid, hshallow, hacyclic, fun hne => absurd htarget hne⟩,
            rfl, hfew, fun _ => ⟨rfl, rfl, fun hfound => ?_⟩, fun hne => ?_⟩
          · by_contra hne
            exact hsame (by simp [hfound, hne])
          · exact absurd (htarget ▸ hcurrent) hne
      · next htarget =>
        split at h
        · next hfits =>
          cases h
          refine ⟨⟨current, hcurrent, hvalid, hshallow, hacyclic, fun _ => hfits⟩, rfl, hfew,
            fun heq => ?_, fun _ => ⟨rfl, rfl⟩⟩
          rw [hcurrent] at heq
          exact absurd (Option.some.inj heq) htarget
        · cases h
    · cases h

theorem look_of_sound (hsound : Sound classes target part current)
    (hfew : hierarchy.visited + 1 ≤ 256)
    (hsame : part.type = some target → hierarchy.found = true → hierarchy.result = part.offset) :
    ∃ after, look classes target hierarchy part = some after := by
  unfold look
  rw [hsound.type]
  dsimp only
  rw [if_pos ⟨hsound.valid, hfew, hsound.shallow, hsound.acyclic⟩]
  by_cases htarget : current = target
  · rw [if_pos htarget, if_neg]
    · exact ⟨_, rfl⟩
    · intro hguard
      simp only [Bool.and_eq_true, decide_eq_true_eq] at hguard
      exact hguard.2 (hsame (htarget ▸ hsound.type) hguard.1)
  · rw [if_neg htarget, if_pos (hsound.fits htarget)]
    exact ⟨_, rfl⟩

theorem fold_eq_some {listed : List (Part Class)}
    (h : listed.foldlM (look classes target) hierarchy = some after) :
    (∀ part ∈ listed, ∃ current, Sound classes target part current) ∧
      after.visited = hierarchy.visited + listed.length ∧
      (listed ≠ [] → after.visited ≤ 256) ∧
      (∀ part ∈ listed, part.type = some target →
        after.found = true ∧ after.result = part.offset) ∧
      (hierarchy.found = true → after.found = true ∧ after.result = hierarchy.result) ∧
      ((∀ part ∈ listed, part.type ≠ some target) → after.found = hierarchy.found) := by
  induction listed generalizing hierarchy with
  | nil =>
    cases h
    simp
  | cons part listed ih =>
    rw [List.foldlM_cons] at h
    obtain ⟨middle, hlook, hrest⟩ := Option.bind_eq_some_iff.1 h
    obtain ⟨hsound, hvisited, hfew, hhere, hother⟩ := look_eq_some hlook
    obtain ⟨hsounds, hvisits, hfews, htargets, hkept, hnone⟩ := ih hrest
    refine ⟨?_, ?_, ?_, ?_, ?_, ?_⟩
    · exact List.forall_mem_cons.2 ⟨hsound, hsounds⟩
    · rw [hvisits, hvisited, List.length_cons]
      omega
    · intro _
      cases listed with
      | nil =>
        cases hrest
        exact hfew
      | cons _ _ => exact hfews (List.cons_ne_nil _ _)
    · refine List.forall_mem_cons.2 ⟨fun htype => ?_, htargets⟩
      obtain ⟨hfound, hresult, -⟩ := hhere htype
      obtain ⟨hfound', hresult'⟩ := hkept hfound
      exact ⟨hfound', hresult'.trans hresult⟩
    · intro hfound
      by_cases htype : part.type = some target
      · obtain ⟨hnow, hresult, hsame⟩ := hhere htype
        obtain ⟨hfound', hresult'⟩ := hkept hnow
        exact ⟨hfound', (hresult'.trans hresult).trans (hsame hfound).symm⟩
      · obtain ⟨hfound', hresult'⟩ := hother htype
        obtain ⟨hlast, hresult''⟩ := hkept (hfound'.trans hfound)
        exact ⟨hlast, hresult''.trans hresult'⟩
    · intro hall
      obtain ⟨hpart, hall⟩ := List.forall_mem_cons.1 hall
      exact (hnone hall).trans (hother hpart).1

theorem fold_of_sound {target : Class} {listed : List (Part Class)} {hierarchy : Hierarchy}
    {offset : Nat} (hsound : ∀ part ∈ listed, ∃ current, Sound classes target part current)
    (hfew : hierarchy.visited + listed.length ≤ 256)
    (hsame : ∀ part ∈ listed, part.type = some target → part.offset = offset)
    (hfound : hierarchy.found = true → hierarchy.result = offset) :
    ∃ after, listed.foldlM (look classes target) hierarchy = some after := by
  induction listed generalizing hierarchy with
  | nil => exact ⟨hierarchy, rfl⟩
  | cons part listed ih =>
    obtain ⟨⟨current, hcurrent⟩, hsound⟩ := List.forall_mem_cons.1 hsound
    obtain ⟨hhere, hsame⟩ := List.forall_mem_cons.1 hsame
    rw [List.length_cons] at hfew
    have hagrees : part.type = some target → hierarchy.found = true →
        hierarchy.result = part.offset :=
      fun htype hbefore => (hfound hbefore).trans (hhere htype).symm
    obtain ⟨middle, hlook⟩ := look_of_sound hcurrent (by omega) hagrees
    obtain ⟨-, hvisited, -, htarget, hother⟩ := look_eq_some hlook
    obtain ⟨after, hafter⟩ := @ih middle hsound (by omega) hsame fun hmiddle => by
      by_cases htype : part.type = some target
      · exact (htarget htype).2.1.trans (hhere htype)
      · obtain ⟨hkept, hresult⟩ := hother htype
        exact hresult.trans (hfound (hkept ▸ hmiddle))
    exact ⟨after, by rw [List.foldlM_cons, hlook]; exact hafter⟩

/-! ## The answer -/

variable (classes) in
/-- What a search from `start` looks at: one level more than the path has places. -/
abbrev searched (start : Option Class) (target : Class) : List (Part Class) :=
  preorder (parts classes target) 65 (Part.whole start)

theorem steps_lt (hshallow : ∀ part ∈ searched classes start target, part.way.length < 64) :
    ∀ steps below, Steps (parts classes target) steps (Part.whole start) below → steps < 64 := by
  intro steps below h
  by_contra hdeep
  obtain ⟨middle, hmiddle⟩ := h.before (Nat.not_lt.1 hdeep)
  have hshort := hshallow middle (mem_preorder_iff.2 ⟨64, by omega, hmiddle⟩)
  rw [way_length (below_iff_steps.2 ⟨_, hmiddle⟩),
    (placed_parts target).length hmiddle] at hshort
  simp [Part.whole] at hshort

theorem partOf_iff (hshallow : ∀ part ∈ searched classes start target, part.way.length < 64) :
    PartOf classes start target part ↔ part ∈ searched classes start target :=
  below_iff_mem_preorder fun steps below h =>
    Nat.lt_succ_of_lt (steps_lt hshallow steps below h)

theorem wellFormed_of_sound
    (hsound : ∀ part ∈ searched classes start target, ∃ current, Sound classes target part current)
    (hfew : (searched classes start target).length ≤ 256) : WellFormed classes start target := by
  have hshallow : ∀ part ∈ searched classes start target, part.way.length < 64 := by
    intro part hmem
    obtain ⟨current, hcurrent⟩ := hsound part hmem
    exact hcurrent.shallow
  have hpart : ∀ {part}, PartOf classes start target part → ∃ current,
      Sound classes target part current := fun h => hsound _ ((partOf_iff hshallow).1 h)
  refine ⟨?_, ?_, ?_, ?_, ?_⟩
  · rw [(placed_parts target).encard_below fun steps below h =>
      Nat.lt_succ_of_lt (steps_lt hshallow steps below h)]
    exact_mod_cast hfew
  · intro part h
    obtain ⟨current, hcurrent⟩ := hpart h
    exact hcurrent.shallow
  · intro part h
    obtain ⟨current, hcurrent⟩ := hpart h
    rw [hcurrent.type]
    exact hcurrent.valid
  · intro part h current htype
    obtain ⟨current', hcurrent⟩ := hpart h
    cases hcurrent.type.symm.trans htype
    exact hcurrent.acyclic
  · intro part h current htype hne base hbase inner hinner
    obtain ⟨current', hcurrent⟩ := hpart h
    cases hcurrent.type.symm.trans htype
    have hfits := hcurrent.fits hne base hbase
    rw [baseFits, hinner] at hfits
    simp only [Bool.and_eq_true, decide_eq_true_eq] at hfits
    exact hfits.1.2

theorem WellFormed.part_mem (hformed : WellFormed classes start target) :
    PartOf classes start target part ↔ part ∈ searched classes start target := by
  apply partOf_iff
  intro part hmem
  obtain ⟨steps, -, h⟩ := mem_preorder_iff.1 hmem
  exact hformed.shallow part (below_iff_steps.2 ⟨steps, h⟩)

theorem WellFormed.length_searched (hformed : WellFormed classes start target) :
    (searched classes start target).length ≤ 256 := by
  have hfew := hformed.few
  rw [(placed_parts target).encard_below fun steps below h =>
    Nat.lt_succ_of_lt (steps_lt (fun part hmem =>
      hformed.shallow part (hformed.part_mem.2 hmem)) steps below h)] at hfew
  exact_mod_cast hfew

omit [DecidableEq Class] in
theorem size_le_of_valid {info : Class} (h : validClass classes (some info) false = true) :
    classSize classes info ≤ 16 * 1024 * 1024 := by
  simp only [validClass, validInfo, Bool.and_eq_true, decide_eq_true_eq] at h
  have hsize := h.1.1.1.1.2
  unfold classSize
  omega

/-- The checks of the search hold of a well formed object, the one for overflow because its
parts lie inside 16 MiB. -/
theorem WellFormed.sound (hformed : WellFormed classes start target)
    (h : PartOf classes start target part) : ∃ current, Sound classes target part current := by
  have hvalid := hformed.valid part h
  cases hcurrent : part.type with
  | none =>
    rw [hcurrent] at hvalid
    cases hvalid
  | some current =>
    rw [hcurrent] at hvalid
    refine ⟨current, hcurrent, hvalid, hformed.shallow part h,
      hformed.acyclic part h current hcurrent, fun hne base hbase => ?_⟩
    obtain ⟨index, hindex, rfl⟩ := List.getElem_of_mem hbase
    have hbelow : part.base current ((classes current).baseClasses.elements[index], index) ∈
        parts classes target part := by
      simp only [parts, hcurrent, hne, if_false]
      apply List.mem_map_of_mem
      rw [List.mk_mem_zipIdx_iff_getElem?]
      exact List.getElem?_eq_getElem hindex
    have hinner := hformed.valid _ (Relation.ReflTransGen.tail h hbelow)
    simp only [Part.base] at hinner
    cases htype : (classes current).baseClasses.elements[index].type with
    | none =>
      rw [htype] at hinner
      cases hinner
    | some inner =>
      rw [htype] at hinner
      have hinside := hformed.inside part h current hcurrent hne _ hbase inner htype
      cases start with
      | none =>
        exact absurd (hformed.valid _ Relation.ReflTransGen.refl)
          (by simp [Part.whole, validClass])
      | some start =>
        have hroom := hformed.room h hcurrent
        have hbound := size_le_of_valid (hformed.valid _ Relation.ReflTransGen.refl)
        rw [baseFits, htype]
        simp only [hinner, Bool.true_and, Bool.and_eq_true, decide_eq_true_eq]
        omega

variable (classes) in
/-- The object's parts of class `target` all begin at this offset. -/
def TargetAt (start : Option Class) (target : Class) (offset : Nat) : Prop :=
  ∀ part, PartOf classes start target part → part.type = some target → part.offset = offset

variable (classes) in
def HasTarget (start : Option Class) (target : Class) : Prop :=
  ∃ part, PartOf classes start target part ∧ part.type = some target

theorem search_of_fold
    (hfold : (searched classes start target).foldlM (look classes target) Hierarchy.new = some
      after) :
    WellFormed classes start target ∧ TargetAt classes start target after.result ∧
      (after.found = true ↔ HasTarget classes start target) ∧
      findBase classes start (some target) = (if after.found then .found else .absent, after) := by
  obtain ⟨hsound, hvisited, hfew, htarget, -, hnone⟩ := fold_eq_some hfold
  have hnonempty : searched classes start target ≠ [] := List.cons_ne_nil _ _
  have hformed := wellFormed_of_sound hsound (by
    have hcount := hfew hnonempty
    rw [hvisited] at hcount
    exact le_trans (Nat.le_add_left _ _) hcount)
  have hfound : after.found = true ↔ HasTarget classes start target := by
    constructor
    · intro hfound
      by_contra hnot
      rw [hnone fun part hmem htype => hnot ⟨part, hformed.part_mem.2 hmem, htype⟩] at hfound
      cases hfound
    · rintro ⟨part, hpart, htype⟩
      exact (htarget part (hformed.part_mem.1 hpart) htype).1
  refine ⟨hformed, ?_, hfound, ?_⟩
  · intro part hpart htype
    exact (htarget part (hformed.part_mem.1 hpart) htype).2.symm
  · have hanswer := @search_eq_fold _ _ classes target 64 (Part.whole start) rfl Hierarchy.new
    rw [hfold] at hanswer
    have hanswer : findBase classes start (some target) = _ := hanswer
    rw [hanswer]
    have hlisted : (∃ part ∈ searched classes start target, part.type = some target) ↔
        HasTarget classes start target :=
      exists_congr fun part => and_congr_left fun _ => hformed.part_mem.symm
    simp only [hlisted, ← hfound]

theorem search_of_no_fold
    (hfold : (searched classes start target).foldlM (look classes target) Hierarchy.new = none) :
    (findBase classes start (some target)).1 = .incompatible ∧
      ¬(WellFormed classes start target ∧ ∃ offset, TargetAt classes start target offset) := by
  constructor
  · have hanswer := @search_eq_fold _ _ classes target 64 (Part.whole start) rfl Hierarchy.new
    rw [hfold] at hanswer
    exact hanswer
  · rintro ⟨hformed, offset, htarget⟩
    obtain ⟨after, hafter⟩ := @fold_of_sound _ _ classes target (searched classes start target)
      Hierarchy.new offset (fun part hmem => hformed.sound (hformed.part_mem.2 hmem))
      (by simpa [Hierarchy.new] using hformed.length_searched)
      (fun part hmem => htarget part (hformed.part_mem.2 hmem))
      (fun h => by cases h)
    rw [hfold] at hafter
    cases hafter

theorem findBase_found_iff {start : Option Class} {target : Class} {offset : Nat} :
    (findBase classes start (some target)).1 = .found ∧
        (findBase classes start (some target)).2.result = offset ↔
      WellFormed classes start target ∧ HasTarget classes start target ∧
        TargetAt classes start target offset := by
  cases hfold : (searched classes start target).foldlM (look classes target) Hierarchy.new with
  | none =>
    obtain ⟨hanswer, hnot⟩ := search_of_no_fold hfold
    rw [hanswer]
    constructor
    · rintro ⟨hfound, -⟩
      cases hfound
    · rintro ⟨hformed, -, htarget⟩
      exact absurd ⟨hformed, offset, htarget⟩ hnot
  | some after =>
    obtain ⟨hformed, htarget, hfound, hanswer⟩ := search_of_fold hfold
    rw [hanswer]
    constructor
    · rintro ⟨hstate, rfl⟩
      have hflag : after.found = true := by
        by_contra hflag
        simp [hflag] at hstate
      exact ⟨hformed, hfound.1 hflag, htarget⟩
    · rintro ⟨-, hhas, hoffset⟩
      have hflag := hfound.2 hhas
      obtain ⟨part, hpart, htype⟩ := hhas
      refine ⟨by simp [hflag], ?_⟩
      exact (htarget part hpart htype).symm.trans (hoffset part hpart htype)

theorem findBase_absent_iff {start : Option Class} {target : Class} :
    (findBase classes start (some target)).1 = .absent ↔
      WellFormed classes start target ∧ ¬HasTarget classes start target := by
  cases hfold : (searched classes start target).foldlM (look classes target) Hierarchy.new with
  | none =>
    obtain ⟨hanswer, hnot⟩ := search_of_no_fold hfold
    rw [hanswer]
    constructor
    · intro habsent
      cases habsent
    · rintro ⟨hformed, hhas⟩
      exact absurd ⟨hformed, 0, fun part hpart htype => absurd ⟨part, hpart, htype⟩ hhas⟩ hnot
  | some after =>
    obtain ⟨hformed, -, hfound, hanswer⟩ := search_of_fold hfold
    rw [hanswer, ← hfound]
    cases hflag : after.found <;> simp [hformed]

theorem findBase_inside (h : (findBase classes start (some target)).1 = .found) :
    ∃ whole, start = some whole ∧ (findBase classes start (some target)).2.result +
      classSize classes target ≤ classSize classes whole := by
  obtain ⟨hformed, ⟨part, hpart, htype⟩, htarget⟩ := findBase_found_iff.1 ⟨h, rfl⟩
  cases start with
  | none =>
    exact absurd (hformed.valid _ Relation.ReflTransGen.refl) (by simp [Part.whole, validClass])
  | some whole =>
    refine ⟨whole, rfl, ?_⟩
    rw [← htarget part hpart htype]
    exact hformed.room hpart htype

/-- The search ends on every class graph, with what the unfolding of the object says. -/
theorem findBaseOffset_decides (classes : Class → CSchemaClassInfo Class)
    (start : Option Class) (target : Class) :
    (∀ offset, (findBase classes start (some target)).1 = .found ∧
        (findBase classes start (some target)).2.result = offset ↔
      WellFormed classes start target ∧ HasTarget classes start target ∧
        TargetAt classes start target offset) ∧
    ((findBase classes start (some target)).1 = .absent ↔
      WellFormed classes start target ∧ ¬HasTarget classes start target) ∧
    ((findBase classes start (some target)).1 = .incompatible ↔
      ¬(WellFormed classes start target ∧ (HasTarget classes start target →
        ∃ offset, TargetAt classes start target offset))) ∧
    ((findBase classes start (some target)).1 = .found →
      ∃ whole, start = some whole ∧ (findBase classes start (some target)).2.result +
        classSize classes target ≤ classSize classes whole) ∧
    (findBase classes start none).1 = .incompatible := by
  refine ⟨fun _ => findBase_found_iff, findBase_absent_iff, ?_, findBase_inside, ?_⟩
  · have hfound := @findBase_found_iff Class _ classes start target
    have habsent := @findBase_absent_iff Class _ classes start target
    cases hanswer : (findBase classes start (some target)).1 with
    | absent =>
      obtain ⟨hformed, hhas⟩ := habsent.1 hanswer
      simp [hformed, hhas]
    | found =>
      obtain ⟨hformed, -, htarget⟩ := hfound.1 ⟨hanswer, rfl⟩
      simp only [reduceCtorEq, false_iff, not_not]
      exact ⟨hformed, fun _ => ⟨_, htarget⟩⟩
    | incompatible =>
      simp only [true_iff]
      rintro ⟨hformed, htarget⟩
      by_cases hhas : HasTarget classes start target
      · obtain ⟨offset, hoffset⟩ := htarget hhas
        rw [(hfound.2 ⟨hformed, hhas, hoffset⟩).1] at hanswer
        cases hanswer
      · rw [habsent.2 ⟨hformed, hhas⟩] at hanswer
        cases hanswer
  · unfold findBase findBaseOffset
    cases start <;> rfl

end KeelS2.Cs2
