import KeelS2.KeelHook.Prototype
import KeelS2.Lib.BoundedSearch
import KeelS2.Lib.Keyed

/-!
# The graph of the aggregate descriptors

`CanonicalAggregate` is a search of the graph its descriptors make, with a memo: it accepts what
`Lib.search` does (`canonicalAggregate_agrees`). So the limit on the nesting is kept on the first
path to each descriptor, in the order of the fields, and a descriptor that is met again deeper is
not looked at again.
-/

namespace KeelS2.KeelHook

open Lib

/-! ## The rules for one descriptor -/

/-- What the field loop reads. -/
def KeelHookAggregate.fieldList (input : KeelHookAggregate) : List KeelHookAggregateField :=
  match input.fields with
  | none => []
  | some fields => (List.range input.fieldCount).map fields

def nestedAggregate (field : KeelHookAggregateField) : Option Address :=
  if field.type = valueAggregate then field.aggregate else none

/-- The descriptors the fields of a descriptor point at, in order. -/
def nestedAggregates (descriptors : Descriptors) (pointer : Address) : List Address :=
  (descriptors.aggregate pointer).fieldList.filterMap nestedAggregate

section Rules

variable (descriptors : Descriptors) (platform : Platform)

/-- An array of elements of this size does not exceed the object. -/
def Fits (byteSize : Nat) (field : KeelHookAggregateField) (elementSize : Nat) : Prop :=
  elementSize ≠ 0 ∧ field.arrayLength ≤ (byteSize - field.offset) / elementSize

def FieldRules (byteSize : Nat) (field : KeelHookAggregateField) : Prop :=
  field.size = sizeofAggregateField ∧ field.arrayLength ≠ 0 ∧ field.offset < byteSize ∧
    if field.type = valueAggregate then
      ∃ pointer ∈ field.aggregate, Fits byteSize field (descriptors.aggregate pointer).byteSize
    else
      isScalarValueType field.type = true ∧ field.aggregate = none ∧
        Fits byteSize field (scalarByteSize field.type)

/-- The rules for the fields that are left, and their order, which starts at `previous`. -/
def FieldsMeet (byteSize : Nat) (previous : Option Nat) (fields : List KeelHookAggregateField) :
    Prop :=
  (∀ field ∈ fields, FieldRules descriptors byteSize field) ∧
    (previous.toList ++ fields.map KeelHookAggregateField.offset).IsChain (· ≤ ·)

/-- The rules for one descriptor, and that the call adapter has an aggregate for it. -/
def MeetsRules (pointer : Address) : Prop :=
  let input := descriptors.aggregate pointer
  input.fields.isSome = true ∧ input.size = sizeofAggregate ∧ input.flags = 0 ∧
    input.byteSize ≠ 0 ∧ input.byteSize ≤ maxAggregateSize ∧
    input.fieldCount ≠ 0 ∧ input.fieldCount ≤ maxAggregateFields ∧
    FieldsMeet descriptors input.byteSize none input.fieldList ∧
    platform.newAggregate input.fieldCount input.byteSize = true

instance (byteSize : Nat) (field : KeelHookAggregateField) (elementSize : Nat) :
    Decidable (Fits byteSize field elementSize) :=
  inferInstanceAs (Decidable (elementSize ≠ 0 ∧
    field.arrayLength ≤ (byteSize - field.offset) / elementSize))

instance (byteSize : Nat) (field : KeelHookAggregateField) :
    Decidable (FieldRules descriptors byteSize field) :=
  inferInstanceAs (Decidable (field.size = sizeofAggregateField ∧ field.arrayLength ≠ 0 ∧
    field.offset < byteSize ∧ if field.type = valueAggregate then
      ∃ pointer ∈ field.aggregate, Fits byteSize field (descriptors.aggregate pointer).byteSize
    else
      isScalarValueType field.type = true ∧ field.aggregate = none ∧
        Fits byteSize field (scalarByteSize field.type)))

instance (byteSize : Nat) (previous : Option Nat) (fields : List KeelHookAggregateField) :
    Decidable (FieldsMeet descriptors byteSize previous fields) :=
  inferInstanceAs (Decidable (_ ∧ _))

instance : DecidablePred (MeetsRules descriptors platform) := fun _ =>
  inferInstanceAs (Decidable (_ ∧ _))

theorem fieldsMeet_cons {byteSize : Nat} {previous : Option Nat} {field : KeelHookAggregateField}
    {rest : List KeelHookAggregateField} :
    FieldsMeet descriptors byteSize previous (field :: rest) ↔
      FieldRules descriptors byteSize field ∧ (∀ offset ∈ previous, offset ≤ field.offset) ∧
        FieldsMeet descriptors byteSize (some field.offset) rest := by
  unfold FieldsMeet
  rw [List.forall_mem_cons]
  cases previous with
  | none => simp [and_assoc]
  | some offset =>
    simp only [Option.toList_some, List.map_cons, List.cons_append, List.nil_append,
      List.isChain_cons_cons, Option.mem_some_iff, forall_eq']
    tauto

end Rules

/-! ## The code as a search -/

section Search

variable (descriptors : Descriptors)

def AggregateBuildContext.finished (context : AggregateBuildContext) : List Address :=
  context.completed.map Prod.fst

/-- `count` counts what is open and what is completed, and what is completed has the size of its
descriptor. -/
structure Consistent (context : AggregateBuildContext) : Prop where
  count : context.count = context.active.length + context.finished.length
  sizes : ∀ entry ∈ context.completed,
    entry.2.byteSize = (descriptors.aggregate entry.1).byteSize

/-- What the code returns for a descriptor, and what is finished after the visit. -/
inductive Agrees (active : List Address) (pointer : Address) :
    Except Failure (AggregateData × AggregateBuildContext) → Option (List Address) → Prop
  | ok {data : AggregateData} {context : AggregateBuildContext}
      (hconsistent : Consistent descriptors context) (hactive : context.active = active)
      (hsize : data.byteSize = (descriptors.aggregate pointer).byteSize) :
      Agrees active pointer (.ok (data, context)) (some context.finished)
  | error {failure : Failure} : Agrees active pointer (.error failure) none

inductive FieldsAgree (active : List Address) :
    Except Failure (Text × FieldLayout × AggregateBuildContext) → Option (List Address) → Prop
  | ok {identity : Text} {layout : FieldLayout} {context : AggregateBuildContext}
      (hconsistent : Consistent descriptors context) (hactive : context.active = active) :
      FieldsAgree active (.ok (identity, layout, context)) (some context.finished)
  | error {failure : Failure} : FieldsAgree active (.error failure) none

variable {descriptors}

theorem canonicalFields_agrees {active : List Address}
    {descend : Option Address → AggregateBuildContext →
      Except Failure (AggregateData × AggregateBuildContext)}
    {visit : Address → List Address → Option (List Address)}
    (hdescend : ∀ pointer context, Consistent descriptors context → context.active = active →
      Agrees descriptors active pointer (descend (some pointer) context)
        (visit pointer context.finished))
    (hnone : ∀ context, ∃ failure, descend none context = .error failure) (byteSize : Nat) :
    ∀ fields previous context identity, Consistent descriptors context →
      context.active = active →
      (FieldsMeet descriptors byteSize previous fields →
        FieldsAgree descriptors active
          (canonicalFields descend byteSize fields previous context identity)
          (searchAll visit (fields.filterMap nestedAggregate) context.finished)) ∧
      (¬ FieldsMeet descriptors byteSize previous fields →
        FieldsAgree descriptors active
          (canonicalFields descend byteSize fields previous context identity) none) := by
  intro fields
  induction fields with
  | nil =>
    intro previous context identity hconsistent hactive
    have hmeet : FieldsMeet descriptors byteSize previous [] := by
      refine ⟨fun _ hmem => absurd hmem List.not_mem_nil, ?_⟩
      cases previous <;> simp
    exact ⟨fun _ => .ok hconsistent hactive, fun hnot => absurd hmeet hnot⟩
  | cons field rest ih =>
    intro previous context identity hconsistent hactive
    rw [fieldsMeet_cons, canonicalFields]
    split
    · -- the field's own numbers are wrong
      rename_i hfield
      refine ⟨fun hmeet => ?_, fun _ => .error⟩
      obtain ⟨⟨hsize, hlength, hoffset, -⟩, hprevious, -⟩ := hmeet
      rcases hfield with h | h | h | ⟨offset, hmem, h⟩
      · exact absurd hsize h
      · exact absurd h hlength
      · exact absurd hoffset (not_lt.mpr h)
      · exact absurd (hprevious offset hmem) (not_le.mpr h)
    · rename_i hfield
      simp only [not_or, not_exists, not_and, not_lt, ge_iff_le, not_le, ne_eq, not_not] at hfield
      obtain ⟨hsize, hlength, hoffset, hprevious⟩ := hfield
      have hown : FieldRules descriptors byteSize field ↔
          if field.type = valueAggregate then
            ∃ pointer ∈ field.aggregate,
              Fits byteSize field (descriptors.aggregate pointer).byteSize
          else
            isScalarValueType field.type = true ∧ field.aggregate = none ∧
              Fits byteSize field (scalarByteSize field.type) :=
        ⟨fun h => h.2.2.2, fun h => ⟨hsize, hlength, hoffset, h⟩⟩
      split
      · rename_i htype
        rw [if_pos htype] at hown
        cases haggregate : field.aggregate with
        | none =>
          obtain ⟨failure, hfailure⟩ := hnone context
          rw [hfailure]
          refine ⟨fun hmeet => ?_, fun _ => .error⟩
          obtain ⟨pointer, hmem, -⟩ := hown.mp hmeet.1
          rw [haggregate] at hmem
          cases hmem
        | some pointer =>
          have hnested : nestedAggregate field = some pointer := by
            rw [nestedAggregate, if_pos htype, haggregate]
          have hfits : FieldRules descriptors byteSize field ↔
              Fits byteSize field (descriptors.aggregate pointer).byteSize := by
            rw [hown, haggregate]
            simp
          have hvisit := hdescend pointer context hconsistent hactive
          rw [List.filterMap_cons_some hnested, searchAll, hfits]
          cases hresult : descend (some pointer) context with
          | error failure =>
            rw [hresult] at hvisit
            generalize visit pointer context.finished = visited at hvisit
            cases hvisit
            exact ⟨fun _ => .error, fun _ => .error⟩
          | ok answer =>
            rw [hresult] at hvisit
            generalize visit pointer context.finished = visited at hvisit
            cases hvisit with
            | @ok data context' hconsistent' hactive' hdata =>
              simp only [Option.bind_some]
              split
              · rename_i hexceeds
                refine ⟨fun hmeet => ?_, fun _ => .error⟩
                rw [hdata] at hexceeds
                exact absurd hexceeds (not_or_intro hmeet.1.1 (not_lt.mpr hmeet.1.2))
              · rename_i hexceeds
                rw [hdata, not_or, gt_iff_lt, not_lt] at hexceeds
                obtain ⟨hrest, hnot⟩ := ih (some field.offset) context'
                  (identity ++ fieldIdentity field data.identity) hconsistent' hactive'
                generalize canonicalFields descend byteSize rest (some field.offset) context'
                  (identity ++ fieldIdentity field data.identity) = result at hrest hnot
                generalize searchAll visit (rest.filterMap nestedAggregate) context'.finished =
                  after at hrest
                refine ⟨fun hmeet => ?_, fun hnotMeet => ?_⟩
                · cases hrest hmeet.2.2 with
                  | ok hconsistent hactive => exact .ok hconsistent hactive
                  | error => exact .error
                · cases hnot fun hmeet => hnotMeet ⟨hexceeds, hprevious, hmeet⟩
                  exact .error
      · rename_i htype
        rw [if_neg htype] at hown
        have hnested : nestedAggregate field = none := by
          rw [nestedAggregate, if_neg htype]
        rw [List.filterMap_cons_none hnested, hown]
        split
        · rename_i hscalar
          split
          · rename_i hexceeds
            refine ⟨fun hmeet => ?_, fun _ => .error⟩
            exact absurd hexceeds (not_or_intro hmeet.1.2.2.1 (not_lt.mpr hmeet.1.2.2.2))
          · rename_i hexceeds
            rw [not_or, gt_iff_lt, not_lt] at hexceeds
            obtain ⟨hrest, hnot⟩ := ih (some field.offset) context
              (identity ++ fieldIdentity field []) hconsistent hactive
            generalize canonicalFields descend byteSize rest (some field.offset) context
              (identity ++ fieldIdentity field []) = result at hrest hnot
            generalize searchAll visit (rest.filterMap nestedAggregate) context.finished =
              after at hrest
            refine ⟨fun hmeet => ?_, fun hnotMeet => ?_⟩
            · cases hrest hmeet.2.2 with
              | ok hconsistent hactive => exact .ok hconsistent hactive
              | error => exact .error
            · cases hnot fun hmeet =>
                hnotMeet ⟨⟨hscalar.1, hscalar.2, hexceeds⟩, hprevious, hmeet⟩
              exact .error
        · rename_i hscalar
          exact ⟨fun hmeet => absurd ⟨hmeet.1.1, hmeet.1.2.1⟩ hscalar, fun _ => .error⟩

variable (descriptors) in
theorem canonicalAggregate_none (platform : Platform) (levels : Nat)
    (context : AggregateBuildContext) :
    ∃ failure, canonicalAggregate descriptors platform levels none context = .error failure := by
  cases levels with
  | zero => exact ⟨_, rfl⟩
  | succ levels => exact ⟨_, rfl⟩

theorem canonicalAggregate_agrees {platform : Platform} {levels : Nat} :
    ∀ pointer context, Consistent descriptors context →
      Agrees descriptors context.active pointer
        (canonicalAggregate descriptors platform levels (some pointer) context)
        (search (nestedAggregates descriptors)
          (fun pointer => MeetsRules descriptors platform pointer)
          maxAggregateDescriptors levels context.active pointer context.finished) := by
  induction levels with
  | zero => exact fun _ _ _ => .error
  | succ levels ih =>
    intro pointer context hconsistent
    rw [canonicalAggregate, search]
    have hlookup : (context.completed.lookup pointer).isSome = true ↔ pointer ∈ context.finished :=
      isSome_lookup
    cases hfound : context.completed.lookup pointer with
    | some data =>
      rw [hfound] at hlookup
      rw [if_pos (hlookup.mp rfl)]
      exact .ok hconsistent rfl (hconsistent.sizes (pointer, data) (mem_of_lookup hfound))
    | none =>
      rw [hfound] at hlookup
      have hfinished : pointer ∉ context.finished := fun hmem => by cases hlookup.mpr hmem
      rw [if_neg hfinished]
      dsimp only
      cases hfields : (descriptors.aggregate pointer).fields with
      | none =>
        have hrules : ¬ MeetsRules descriptors platform pointer := by
          intro h
          have hsome := h.1
          rw [hfields] at hsome
          cases hsome
        rw [if_pos (Or.inr (Or.inr (decide_eq_false hrules)))]
        exact .error
      | some fields =>
        have hlist : (descriptors.aggregate pointer).fieldList =
            (List.range (descriptors.aggregate pointer).fieldCount).map fields := by
          unfold KeelHookAggregate.fieldList
          rw [hfields]
        dsimp only
        rw [← hlist]
        split
        · rename_i hrefused
          rw [if_pos]
          · exact .error
          · rcases hrefused with h | h | h
            · exact Or.inl h
            · rw [hconsistent.count] at h
              exact Or.inr (Or.inl (Nat.lt_succ_iff.mp h))
            · refine Or.inr (Or.inr (decide_eq_false ?_))
              rintro ⟨-, hsize, hflags, hbyte, hmax, hcount, hmost, -⟩
              omega
        · rename_i haccepted
          simp only [not_or, not_not, ne_eq, gt_iff_lt, not_lt] at haccepted
          obtain ⟨hactive, hcount, hsize, hflags, hbyte, hmax, hfew, hmost⟩ := haccepted
          rw [hconsistent.count] at hcount
          have hopen : Consistent descriptors
              { context with active := pointer :: context.active, count := context.count + 1 } :=
            ⟨by simp only [hconsistent.count, List.length_cons, AggregateBuildContext.finished]
                omega, hconsistent.sizes⟩
          obtain ⟨hmeets, hnot⟩ := canonicalFields_agrees
            (fun child inner hinner hsame => hsame ▸ ih child inner hinner)
            (canonicalAggregate_none descriptors platform levels)
            (descriptors.aggregate pointer).byteSize (descriptors.aggregate pointer).fieldList none
            { context with active := pointer :: context.active, count := context.count + 1 }
            (decimal (descriptors.aggregate pointer).byteSize ++ ['{']) hopen rfl
          have hrules : MeetsRules descriptors platform pointer ↔
              FieldsMeet descriptors (descriptors.aggregate pointer).byteSize none
                (descriptors.aggregate pointer).fieldList ∧
              platform.newAggregate (descriptors.aggregate pointer).fieldCount
                (descriptors.aggregate pointer).byteSize = true := by
            refine ⟨fun h => h.2.2.2.2.2.2.2, fun h => ?_⟩
            exact ⟨hfields ▸ rfl, hsize, hflags, hbyte, hmax, hfew, hmost, h⟩
          generalize canonicalFields _ _ _ _ _ _ = result at hmeets hnot
          by_cases hmeet : FieldsMeet descriptors (descriptors.aggregate pointer).byteSize none
              (descriptors.aggregate pointer).fieldList
          · have hloop : FieldsAgree descriptors (pointer :: context.active) result
                (searchAll (search (nestedAggregates descriptors)
                  (fun pointer => MeetsRules descriptors platform pointer) maxAggregateDescriptors
                  levels (pointer :: context.active)) (nestedAggregates descriptors pointer)
                  context.finished) := hmeets hmeet
            have hlimit : ¬ maxAggregateDescriptors ≤
                context.active.length + context.finished.length := by omega
            by_cases hnative : platform.newAggregate (descriptors.aggregate pointer).fieldCount
                (descriptors.aggregate pointer).byteSize = true
            · have hsound := hrules.mpr ⟨hmeet, hnative⟩
              rw [if_neg (by simp [hactive, hlimit, hsound])]
              generalize searchAll _ _ _ = visited at hloop ⊢
              cases hloop with
              | @ok identity layout inner hinner hopened =>
                dsimp only
                rw [if_pos hnative]
                have hclosed : inner.active.erase pointer = context.active := by
                  rw [hopened, List.erase_cons_head]
                have hcompleted : Consistent descriptors
                    { inner with
                      completed := (pointer, ⟨(descriptors.aggregate pointer).byteSize,
                        identity ++ ['}'], layout⟩) :: inner.completed
                      active := inner.active.erase pointer } := by
                  constructor
                  · have hcount := hinner.count
                    rw [hopened] at hcount
                    simp only [hclosed, AggregateBuildContext.finished, List.map_cons,
                      List.length_cons] at hcount ⊢
                    omega
                  · intro entry hentry
                    rcases List.mem_cons.mp hentry with rfl | hentry
                    · rfl
                    · exact hinner.sizes entry hentry
                exact .ok hcompleted hclosed rfl
              | error => exact .error
            · have hunsound : ¬ MeetsRules descriptors platform pointer :=
                fun h => hnative (hrules.mp h).2
              rw [if_pos (Or.inr (Or.inr (decide_eq_false hunsound)))]
              cases result with
              | error failure => exact .error
              | ok answer =>
                dsimp only
                rw [if_neg hnative]
                exact .error
          · have hunsound : ¬ MeetsRules descriptors platform pointer :=
              fun h => hmeet (hrules.mp h).1
            rw [if_pos (Or.inr (Or.inr (decide_eq_false hunsound)))]
            cases hnot hmeet
            exact .error

end Search

/-! ## Which descriptors are accepted -/

section Accepts

variable (descriptors : Descriptors) (platform : Platform) (root : Address)

def Accepts : Prop :=
  (canonicalAggregate descriptors platform maxAggregateDepth (some root)
    AggregateBuildContext.empty).isOk = true

instance : Decidable (Accepts descriptors platform root) :=
  inferInstanceAs (Decidable (_ = true))

/-- What can be reached from the descriptor is acyclic, meets the rules, and is not too much. -/
structure Sound : Prop where
  acyclic : ∀ pointer, Reach (nestedAggregates descriptors) root pointer →
    ¬ Below (nestedAggregates descriptors) pointer pointer
  rules : ∀ pointer, Reach (nestedAggregates descriptors) root pointer →
    MeetsRules descriptors platform pointer
  count : ∃ part : Finset Address,
    (∀ pointer, pointer ∈ part ↔ Reach (nestedAggregates descriptors) root pointer) ∧
      part.card ≤ maxAggregateDescriptors

/-- What is to be accepted. -/
structure WellBuilt : Prop extends Sound descriptors platform root where
  depth : DepthAtMost (nestedAggregates descriptors) maxAggregateDepth root

/-- Some descriptor has nested ones beyond the last level, on the first path to it. -/
def FirstTooDeep : Prop :=
  ∃ pointer steps, nestedAggregates descriptors pointer ≠ [] ∧
    FirstPath (nestedAggregates descriptors) [root] pointer steps ∧ maxAggregateDepth < steps + 2

theorem accepts_iff_search :
    Accepts descriptors platform root ↔
      ∃ after, search (nestedAggregates descriptors)
        (fun pointer => MeetsRules descriptors platform pointer) maxAggregateDescriptors
        maxAggregateDepth [] root [] = some after := by
  have hempty : Consistent descriptors AggregateBuildContext.empty :=
    ⟨rfl, fun _ hmem => absurd hmem List.not_mem_nil⟩
  have hagrees : Agrees descriptors [] root
      (canonicalAggregate descriptors platform maxAggregateDepth (some root)
        AggregateBuildContext.empty)
      (search (nestedAggregates descriptors)
        (fun pointer => MeetsRules descriptors platform pointer)
        maxAggregateDescriptors maxAggregateDepth [] root []) :=
    canonicalAggregate_agrees root AggregateBuildContext.empty hempty
  unfold Accepts
  generalize canonicalAggregate descriptors platform maxAggregateDepth (some root)
    AggregateBuildContext.empty = result at hagrees ⊢
  generalize search (nestedAggregates descriptors) _ _ _ _ _ _ = visited at hagrees ⊢
  cases hagrees with
  | ok hconsistent hactive hsize => exact iff_of_true rfl ⟨_, rfl⟩
  | error => exact iff_of_false Bool.false_ne_true fun ⟨_, h⟩ => by cases h

theorem accepts_iff :
    Accepts descriptors platform root ↔
      Sound descriptors platform root ∧ ¬ FirstTooDeep descriptors root := by
  rw [accepts_iff_search, search_isSome_iff]
  constructor
  · rintro ⟨-, hreach, hcount, hshallow⟩
    refine ⟨⟨fun pointer h => (hreach pointer h).2,
      fun pointer h => of_decide_eq_true (hreach pointer h).1, hcount⟩, ?_⟩
    rintro ⟨pointer, steps, hnested, hpath, hdeep⟩
    exact absurd (hshallow pointer steps hnested hpath) (not_le.mpr hdeep)
  · rintro ⟨hsound, hshallow⟩
    refine ⟨by decide, fun pointer h => ⟨decide_eq_true (hsound.rules pointer h),
      hsound.acyclic pointer h⟩, hsound.count, fun pointer steps hnested hpath => ?_⟩
    exact not_lt.mp fun hdeep => hshallow ⟨pointer, steps, hnested, hpath, hdeep⟩

theorem not_firstTooDeep_of_depth
    (h : DepthAtMost (nestedAggregates descriptors) maxAggregateDepth root) :
    ¬ FirstTooDeep descriptors root := by
  rintro ⟨pointer, steps, hnested, hpath, hdeep⟩
  have hleft : DepthAtMost (nestedAggregates descriptors) 1 pointer := by
    refine hpath.depth fun start hstart => ?_
    obtain rfl := List.mem_singleton.mp hstart
    exact h.mono (by omega)
  obtain ⟨child, hchild⟩ := List.exists_mem_of_ne_nil _ hnested
  exact hleft child hchild

/-- When `CanonicalAggregate` accepts exactly what is well built. -/
theorem accepts_iff_wellBuilt_iff :
    (Accepts descriptors platform root ↔ WellBuilt descriptors platform root) ↔
      DepthAtMost (nestedAggregates descriptors) maxAggregateDepth root ∨
        ¬ Sound descriptors platform root ∨ FirstTooDeep descriptors root := by
  rw [accepts_iff]
  constructor
  · intro h
    by_contra hnot
    rw [not_or, not_or, not_not] at hnot
    obtain ⟨hdepth, hsound, hfirst⟩ := hnot
    exact hdepth (h.mp ⟨hsound, hfirst⟩).depth
  · rintro (hdepth | hsound | hfirst)
    · exact ⟨fun h => ⟨h.1, hdepth⟩,
        fun h => ⟨h.toSound, not_firstTooDeep_of_depth descriptors root hdepth⟩⟩
    · exact iff_of_false (fun h => hsound h.1) fun h => hsound h.toSound
    · exact iff_of_false (fun h => h.2 hfirst)
        fun h => not_firstTooDeep_of_depth descriptors root h.depth hfirst

end Accepts

/-! ### Nine levels, in two orders -/

def wholeField (type : KeelHookValueType) (nested : Option Address) : KeelHookAggregateField :=
  ⟨sizeofAggregateField, type, 0, 1, nested⟩

/-- Eight bytes, with a field for each of the descriptors, or a number where there is none. -/
def overlay : List Address → KeelHookAggregate
  | [] => ⟨sizeofAggregate, 8, 1, 0, some fun _ => wholeField 8 none⟩
  | nested => ⟨sizeofAggregate, 8, nested.length, 0,
      some fun index => wholeField valueAggregate nested[index]?⟩

/-- From 0 to 8 each descriptor has the next one. The first one also has 7. -/
def nineLevels (first : List Address) : Descriptors where
  aggregate pointer :=
    overlay (if pointer = 0 then first else if pointer < 8 then [pointer + 1] else [])
  object _ := ⟨0, 0, 0, 0, none, none, none, none, none⟩

def allocating : Platform := ⟨fun _ => .failed, fun _ => false, fun _ => .error "", fun _ _ => true⟩

/-- The shared descriptor at level eight is refused, unless it was met at level two. -/
theorem nine_levels_accepted :
    ¬ (Accepts (nineLevels [7, 1]) allocating 0 ↔ WellBuilt (nineLevels [7, 1]) allocating 0) ∧
      ¬ Accepts (nineLevels [1, 7]) allocating 0 := by
  refine ⟨fun h => ?_, by decide⟩
  have haccepts : Accepts (nineLevels [7, 1]) allocating 0 := by decide
  exact absurd (h.mp haccepts).depth (by decide)

end KeelS2.KeelHook
