import KeelS2.KeelHook.AggregateIdentity

/-!
# What the flat identity of a prototype says

`PrototypeData::operator==` compares the descriptors of two prototypes through one
concatenated text. This file settles when that text determines the descriptors.

The aggregate part of the encoding is self-delimiting. The object part is not, because the
identity text a plugin supplies is copied in as it is and nothing marks where it ends. So a
name may *overrun*: what it adds to a shorter name of the same size and alignment can be
exactly how the descriptors behind the shorter one begin. `argumentText_eq_iff` says that
this is the only way two descriptor lists can collide.
-/

namespace KeelS2.KeelHook

open Lib

/-! ## One value's descriptors -/

/-- What a value's descriptor says, apart from how the code encodes it: the size and the
fields of an aggregate, or everything that is kept of an object. -/
inductive Description
  | aggregate (byteSize : Nat) (layout : FieldLayout)
  | object (data : ObjectData)
  deriving DecidableEq, Repr

def ValueShape.description : ValueShape → Option Description
  | ⟨some data, _⟩ => some (.aggregate data.byteSize data.layout)
  | ⟨none, some data⟩ => some (.object data)
  | ⟨none, none⟩ => none

/-- At most one of the two descriptors is there; an aggregate is well formed and an object
fits a storage. -/
inductive ValueShape.WellFormed : ValueShape → Prop
  | plain : WellFormed ⟨none, none⟩
  | aggregate {data : AggregateData} (h : data.WellFormed) : WellFormed ⟨some data, none⟩
  | object (data : ObjectData) (h : data.byteSize ≤ maxAggregateSize) :
    WellFormed ⟨none, some data⟩

theorem ValueShape.WellFormed.eq_iff_description {v w : ValueShape} (hv : v.WellFormed)
    (hw : w.WellFormed) : v = w ↔ v.description = w.description := by
  refine ⟨fun h => h ▸ rfl, fun h => ?_⟩
  cases hv with
  | plain => cases hw <;> simp_all [ValueShape.description]
  | object data _ => cases hw <;> simp_all [ValueShape.description]
  | @aggregate d hd =>
    cases hw with
    | plain => simp [ValueShape.description] at h
    | object data => simp [ValueShape.description] at h
    | @aggregate e he =>
      simp only [ValueShape.description, Option.some.injEq, Description.aggregate.injEq] at h
      obtain ⟨hsize, hlayout⟩ := h
      have hident : d.identity = e.identity := by
        rw [hd.identity, he.identity, hsize, hlayout]
      cases d
      cases e
      simp_all

/-- Two objects of one size and one alignment, encoded in front of two tails. -/
structure ObjectClash (d e : ObjectData) (s t : Text) : Prop where
  byteSize : d.byteSize = e.byteSize
  alignment : d.alignment = e.alignment
  identity : d.identity ++ s = e.identity ++ t

/-- **One value's descriptor can be read back, up to where an object's name ends.** -/
theorem ValueShape.identity_append_eq_iff {tag : Char} {v w : ValueShape} (hv : v.WellFormed)
    (hw : w.WellFormed) (hkind : v.description.isSome = w.description.isSome) {s t : Text} :
    v.identity tag ++ s = w.identity tag ++ t ↔
      (v = w ∧ s = t) ∨
        ∃ d e, v = ⟨none, some d⟩ ∧ w = ⟨none, some e⟩ ∧ ObjectClash d e s t := by
  cases hv with
  | plain => cases hw <;> simp_all [ValueShape.description, ValueShape.identity]
  | @aggregate d hd =>
    cases hw with
    | plain => simp [ValueShape.description] at hkind
    | object e => simp [ValueShape.identity]
    | @aggregate e he =>
      simp only [ValueShape.identity, List.cons_append, List.cons.injEq, true_and]
      constructor
      · intro h
        obtain ⟨rfl, rfl⟩ := hd.identity_cancel he h
        exact .inl ⟨rfl, rfl⟩
      · rintro (⟨h, rfl⟩ | ⟨x, y, h, -⟩)
        · cases h
          rfl
        · cases h
  | object d =>
    cases hw with
    | plain => simp [ValueShape.description] at hkind
    | aggregate he => simp [ValueShape.identity]
    | object e =>
      simp only [ValueShape.identity, List.cons_append, List.append_assoc, List.cons.injEq,
        true_and]
      constructor
      · intro h
        obtain ⟨hsize, -, h⟩ := decimal_cons_cancel (by decide) (by decide) h
        obtain ⟨halign, -, h⟩ := decimal_cons_cancel (by decide) (by decide) h
        exact .inr ⟨d, e, rfl, rfl, hsize, halign, h⟩
      · rintro (⟨h, rfl⟩ | ⟨x, y, hx, hy, hsize, halign, hident⟩)
        · cases h
          rfl
        · cases hx
          cases hy
          rw [hsize, halign, hident]

/-! ## Descriptor lists -/

/-- The encoding of the arguments' descriptors. -/
def argumentText (shapes : List ValueShape) : Text :=
  shapes.flatMap (ValueShape.identity 'A')

/-- The first descriptors that differ are two objects of one size and one alignment whose
names differ by an overrun: one continues the other, and what it adds is how the
descriptors behind the shorter one are encoded, up to where those behind the longer one
begin. -/
def Overrun : List ValueShape → List ValueShape → Prop
  | v :: vs, w :: ws =>
    (v = w ∧ Overrun vs ws) ∨
      ∃ d e, v = ⟨none, some d⟩ ∧ w = ⟨none, some e⟩ ∧
        d.byteSize = e.byteSize ∧ d.alignment = e.alignment ∧
        ∃ extra ≠ [],
          (e.identity = d.identity ++ extra ∧ argumentText vs = extra ++ argumentText ws) ∨
            (d.identity = e.identity ++ extra ∧ argumentText ws = extra ++ argumentText vs)
  | _, _ => False

theorem Overrun.ne : ∀ {vs ws : List ValueShape}, Overrun vs ws → vs ≠ ws
  | [], _, h => absurd h (by simp [Overrun])
  | _ :: _, [], h => absurd h (by simp [Overrun])
  | v :: vs, w :: ws, h => by
    rcases h with ⟨rfl, h⟩ | ⟨d, e, rfl, rfl, -, -, extra, hextra, hname⟩
    · intro heq
      exact Overrun.ne h (List.cons.inj heq).2
    · intro heq
      have hde : d = e := by simpa using (List.cons.inj heq).1
      subst hde
      rcases hname with ⟨hname, -⟩ | ⟨hname, -⟩
      · exact hextra (List.self_eq_append_right.mp hname)
      · exact hextra (List.self_eq_append_right.mp hname)

theorem ObjectClash.cases {d e : ObjectData} {s t : Text} (h : ObjectClash d e s t) :
    (d = e ∧ s = t) ∨ ∃ extra ≠ [],
      (e.identity = d.identity ++ extra ∧ s = extra ++ t) ∨
        (d.identity = e.identity ++ extra ∧ t = extra ++ s) := by
  have hde : d.identity = e.identity → d = e := fun hident => by
    obtain ⟨hsize, halign, -⟩ := h
    cases d
    cases e
    simp_all
  rcases List.append_eq_append_iff.mp h.identity with ⟨extra, he, hs⟩ | ⟨extra, hd, ht⟩
  · by_cases hextra : extra = []
    · subst hextra
      exact .inl ⟨hde (by simpa using he.symm), by simpa using hs⟩
    · exact .inr ⟨extra, hextra, .inl ⟨he, hs⟩⟩
  · by_cases hextra : extra = []
    · subst hextra
      exact .inl ⟨hde (by simpa using hd), by simpa using ht.symm⟩
    · exact .inr ⟨extra, hextra, .inr ⟨hd, ht⟩⟩

/-- One more value in front: the tag is a parameter because a return value's differs from
an argument's. -/
theorem cons_text_eq_iff (tag : Char) {v w : ValueShape} {vs ws : List ValueShape}
    (hv : v.WellFormed) (hw : w.WellFormed)
    (hkind : v.description.isSome = w.description.isSome)
    (htail : argumentText vs = argumentText ws ↔ vs = ws ∨ Overrun vs ws) :
    v.identity tag ++ argumentText vs = w.identity tag ++ argumentText ws ↔
      v :: vs = w :: ws ∨ Overrun (v :: vs) (w :: ws) := by
  rw [ValueShape.identity_append_eq_iff hv hw hkind]
  constructor
  · rintro (⟨rfl, h⟩ | ⟨d, e, rfl, rfl, hclash⟩)
    · exact (htail.mp h).imp (fun h => by rw [h]) (fun h => .inl ⟨rfl, h⟩)
    · rcases hclash.cases with ⟨rfl, h⟩ | hextra
      · exact (htail.mp h).imp (fun h => by rw [h]) (fun h => .inl ⟨rfl, h⟩)
      · exact .inr (.inr ⟨d, e, rfl, rfl, hclash.byteSize, hclash.alignment, hextra⟩)
  · rintro (h | ⟨rfl, h⟩ | ⟨d, e, rfl, rfl, hsize, halign, extra, -, hname⟩)
    · obtain ⟨rfl, rfl⟩ := List.cons.inj h
      exact .inl ⟨rfl, rfl⟩
    · exact .inl ⟨rfl, htail.mpr (.inr h)⟩
    · refine .inr ⟨d, e, rfl, rfl, hsize, halign, ?_⟩
      rcases hname with ⟨hident, htext⟩ | ⟨hident, htext⟩
      · rw [hident, htext, List.append_assoc]
      · rw [hident, htext, List.append_assoc]

theorem argumentText_eq_iff : ∀ {vs ws : List ValueShape}, (∀ v ∈ vs, v.WellFormed) →
    (∀ w ∈ ws, w.WellFormed) →
    vs.map (·.description.isSome) = ws.map (·.description.isSome) →
    (argumentText vs = argumentText ws ↔ vs = ws ∨ Overrun vs ws) := by
  intro vs
  induction vs with
  | nil =>
    intro ws _ _ hkind
    cases ws with
    | nil => simp
    | cons w ws => simp at hkind
  | cons v vs ih =>
    intro ws hv hw hkind
    cases ws with
    | nil => simp at hkind
    | cons w ws =>
      simp only [List.map_cons, List.cons.injEq] at hkind
      have htail := ih (fun x hx => hv x (List.mem_cons_of_mem _ hx))
        (fun x hx => hw x (List.mem_cons_of_mem _ hx)) hkind.2
      simpa [argumentText] using
        cons_text_eq_iff 'A' (hv v (by simp)) (hw w (by simp)) hkind.1 htail

/-! ## Prototypes the service accepts -/

/-- What `CanonicalPrototype` guarantees of its result. -/
structure PrototypeData.WellFormed (p : PrototypeData) : Prop where
  convention : p.callingConvention = callNative
  shapes : ∀ v ∈ p.returnShape :: p.argumentShapes, v.WellFormed
  kinds : (p.returnShape :: p.argumentShapes).map (·.description.isSome) =
    (p.returnType :: p.arguments).map (· == valueAggregate)
  identity : p.aggregateIdentity =
    p.returnShape.identity 'R' ++ argumentText p.argumentShapes

section Accepted

variable {descriptors : Descriptors} {platform : Platform}

theorem canonicalObject_fits {pointer : Option Address} {data operations}
    (h : canonicalObject descriptors platform pointer = .ok (data, operations)) :
    data.byteSize ≤ maxAggregateSize := by
  unfold canonicalObject at h
  split at h
  · cases h
  dsimp only at h
  split at h
  · split at h
    · cases h
    rename_i hlimits
    split at h
    · cases h
    split at h
    · cases h
    simp only [Except.ok.injEq, Prod.mk.injEq] at h
    obtain ⟨rfl, -⟩ := h
    simp only [not_or] at hlimits
    show (descriptors.object _).byteSize ≤ _
    omega
  · cases h

theorem canonicalShape_ok {aggregate object : Option Address} {context context' shape operations}
    (hcontext : context.WellFormed)
    (h : canonicalShape descriptors platform aggregate object context
      = .ok (shape, operations, context')) :
    shape.WellFormed ∧ shape.description.isSome = (aggregate.isSome || object.isSome) ∧
      operations.isSome = shape.object.isSome ∧ context'.WellFormed := by
  unfold canonicalShape at h
  split at h
  · split at h
    · cases h
    rename_i hdata
    obtain ⟨hwf, hctx⟩ := canonicalAggregate_ok hcontext hdata
    simp only [Except.ok.injEq, Prod.mk.injEq] at h
    obtain ⟨rfl, rfl, rfl⟩ := h
    exact ⟨.aggregate hwf, by simp [ValueShape.description], rfl, hctx⟩
  · split at h
    · cases h
    rename_i hdata
    simp only [Except.ok.injEq, Prod.mk.injEq] at h
    obtain ⟨rfl, rfl, rfl⟩ := h
    exact ⟨.object _ (canonicalObject_fits hdata), by simp [ValueShape.description], rfl, hcontext⟩
  · simp only [Except.ok.injEq, Prod.mk.injEq] at h
    obtain ⟨rfl, rfl, rfl⟩ := h
    exact ⟨.plain, by simp [ValueShape.description], rfl, hcontext⟩

theorem canonicalArguments_ok : ∀ {arguments context shapes bindings},
    AggregateBuildContext.WellFormed context →
    canonicalArguments descriptors platform arguments context = .ok (shapes, bindings) →
    (∀ v ∈ shapes, v.WellFormed) ∧
      shapes.map (·.description.isSome) = arguments.map (·.1 == valueAggregate) ∧
      bindings.map Option.isSome = shapes.map (·.object.isSome) := by
  intro arguments
  induction arguments with
  | nil =>
    intro context shapes bindings _ h
    simp only [canonicalArguments, Except.ok.injEq, Prod.mk.injEq] at h
    obtain ⟨rfl, rfl⟩ := h
    simp
  | cons argument rest ih =>
    intro context shapes bindings hcontext h
    obtain ⟨type, aggregate, object⟩ := argument
    rw [canonicalArguments] at h
    split at h
    · cases h
    rename_i hcheck
    split at h
    · cases h
    rename_i hshape
    split at h
    · cases h
    rename_i hrest
    obtain ⟨hwf, hkind, hbinds, hctx⟩ := canonicalShape_ok hcontext hshape
    obtain ⟨hwfs, hkinds, hbindings⟩ := ih hctx hrest
    simp only [Except.ok.injEq, Prod.mk.injEq] at h
    obtain ⟨rfl, rfl⟩ := h
    refine ⟨fun v hv => ?_, ?_, by simp [hbinds, hbindings]⟩
    · rcases List.mem_cons.mp hv with rfl | hv
      · exact hwf
      · exact hwfs v hv
    · simp only [List.map_cons, hkinds, hkind]
      congr 1
      cases aggregate <;> cases object <;> by_cases htype : type = valueAggregate <;>
        simp_all

theorem KeelHookPrototype.map_describedArguments (input : KeelHookPrototype) :
    input.describedArguments.map (·.1 == valueAggregate) =
      input.readArgumentTypes.map (· == valueAggregate) := by
  unfold KeelHookPrototype.describedArguments
  rw [List.map_map]
  calc
    input.readArgumentTypes.zipIdx.map _
        = (input.readArgumentTypes.zipIdx.map Prod.fst).map (· == valueAggregate) := by
      rw [List.map_map]
      rfl
    _ = _ := by rw [List.zipIdx_map_fst]

theorem checkPrototype_ok {input : KeelHookPrototype} {method : Bool} {arguments}
    (h : checkPrototype input method arguments = .ok ()) :
    input.callingConvention = callNative ∧
      (input.returnType == valueAggregate) =
        (input.returnAggregate.isSome || input.returnObject.isSome) := by
  unfold checkPrototype at h
  split at h
  · cases h
  rename_i hheader
  repeat (split at h; · cases h)
  rename_i hreturn
  refine ⟨by tauto, ?_⟩
  cases hagg : input.returnAggregate <;> cases hobj : input.returnObject <;>
    by_cases htype : input.returnType = valueAggregate <;> simp_all

/-- **Every accepted prototype is well formed.** -/
theorem canonicalPrototype_wellFormed {input : KeelHookPrototype} {method : Bool} {p binding}
    (h : canonicalPrototype descriptors platform input method = .ok (p, binding)) :
    p.WellFormed := by
  unfold canonicalPrototype at h
  split at h
  · cases h
  rename_i hcheck
  split at h
  · cases h
  rename_i hreturn
  split at h
  · cases h
  rename_i harguments
  obtain ⟨hconvention, hreturnType⟩ := checkPrototype_ok hcheck
  obtain ⟨hwf, hkind, -, hctx⟩ :=
    canonicalShape_ok AggregateBuildContext.empty_wellFormed hreturn
  obtain ⟨hwfs, hkinds, -⟩ := canonicalArguments_ok hctx harguments
  simp only [Except.ok.injEq, Prod.mk.injEq] at h
  obtain ⟨rfl, -⟩ := h
  refine ⟨hconvention, fun v hv => ?_, ?_, rfl⟩
  · rcases List.mem_cons.mp hv with rfl | hv
    · exact hwf
    · exact hwfs v hv
  · simp [hkinds, hkind, hreturnType, KeelHookPrototype.map_describedArguments]

/-! ## The key of a target -/

/-- Two prototypes promise the same native interface: the calling convention and flags, the
value kinds in order, and position by position the same description. -/
structure SameInterface (p q : PrototypeData) : Prop where
  convention : p.callingConvention = q.callingConvention
  method : p.method = q.method
  vafmt : p.vafmt = q.vafmt
  returnType : p.returnType = q.returnType
  arguments : p.arguments = q.arguments
  descriptions : (p.returnShape :: p.argumentShapes).map ValueShape.description =
    (q.returnShape :: q.argumentShapes).map ValueShape.description

/-- The flags and the value kinds agree, and the first descriptors that differ overrun. -/
structure Overruns (p q : PrototypeData) : Prop where
  method : p.method = q.method
  vafmt : p.vafmt = q.vafmt
  returnType : p.returnType = q.returnType
  arguments : p.arguments = q.arguments
  shapes : Overrun (p.returnShape :: p.argumentShapes) (q.returnShape :: q.argumentShapes)

theorem map_description_eq_iff : ∀ {vs ws : List ValueShape}, (∀ v ∈ vs, v.WellFormed) →
    (∀ w ∈ ws, w.WellFormed) →
    (vs.map ValueShape.description = ws.map ValueShape.description ↔ vs = ws)
  | [], [], _, _ => by simp
  | [], _ :: _, _, _ => by simp
  | _ :: _, [], _, _ => by simp
  | v :: vs, w :: ws, hv, hw => by
    have ih := map_description_eq_iff (fun x hx => hv x (List.mem_cons_of_mem _ hx))
      (fun x hx => hw x (List.mem_cons_of_mem _ hx))
    simp [ih, ← (hv v (by simp)).eq_iff_description (hw w (by simp))]

theorem PrototypeData.beq_iff {p q : PrototypeData} :
    (p == q) = true ↔ p.callingConvention = q.callingConvention ∧
      p.returnType = q.returnType ∧ p.arguments = q.arguments ∧
      p.aggregateIdentity = q.aggregateIdentity ∧ p.method = q.method ∧ p.vafmt = q.vafmt := by
  show (_ && _ && _ && _ && _ && _) = true ↔ _
  simp only [Bool.and_eq_true, beq_iff_eq]
  tauto

/-- The flat identities of two prototypes of the same kinds agree exactly when the
descriptors do, or overrun. -/
theorem PrototypeData.WellFormed.identity_eq_iff {p q : PrototypeData} (hp : p.WellFormed)
    (hq : q.WellFormed) (hreturn : p.returnType = q.returnType)
    (harguments : p.arguments = q.arguments) :
    p.aggregateIdentity = q.aggregateIdentity ↔
      p.returnShape :: p.argumentShapes = q.returnShape :: q.argumentShapes ∨
        Overrun (p.returnShape :: p.argumentShapes) (q.returnShape :: q.argumentShapes) := by
  have hkinds : (p.returnShape :: p.argumentShapes).map (·.description.isSome) =
      (q.returnShape :: q.argumentShapes).map (·.description.isSome) := by
    rw [hp.kinds, hq.kinds, hreturn, harguments]
  simp only [List.map_cons, List.cons.injEq] at hkinds
  rw [hp.identity, hq.identity]
  exact cons_text_eq_iff 'R' (hp.shapes _ (by simp)) (hq.shapes _ (by simp)) hkinds.1
    (argumentText_eq_iff (fun v hv => hp.shapes v (List.mem_cons_of_mem _ hv))
      (fun w hw => hq.shapes w (List.mem_cons_of_mem _ hw)) hkinds.2)

/-- **`==` on two accepted prototypes means the same interface, unless a name overruns.** -/
theorem beq_iff_sameInterface_iff_not_overruns {input input' : KeelHookPrototype}
    {method method' : Bool} {p q binding binding'}
    {descriptors' : Descriptors} {platform' : Platform}
    (hp : canonicalPrototype descriptors platform input method = .ok (p, binding))
    (hq : canonicalPrototype descriptors' platform' input' method' = .ok (q, binding')) :
    ((p == q) = true ↔ SameInterface p q) ↔ ¬ Overruns p q := by
  have hwp := canonicalPrototype_wellFormed hp
  have hwq := canonicalPrototype_wellFormed hq
  have hsame := map_description_eq_iff hwp.shapes hwq.shapes
  rw [PrototypeData.beq_iff]
  constructor
  · rintro hiff ⟨hmethod, hvafmt, hreturn, harguments, hshapes⟩
    have hidentity := (hwp.identity_eq_iff hwq hreturn harguments).mpr (.inr hshapes)
    have hdescriptions := (hiff.mp ⟨hwp.convention.trans hwq.convention.symm, hreturn,
      harguments, hidentity, hmethod, hvafmt⟩).descriptions
    exact hshapes.ne (hsame.mp hdescriptions)
  · intro hno
    constructor
    · rintro ⟨hconvention, hreturn, harguments, hidentity, hmethod, hvafmt⟩
      rcases (hwp.identity_eq_iff hwq hreturn harguments).mp hidentity with h | h
      · exact ⟨hconvention, hmethod, hvafmt, hreturn, harguments, hsame.mpr h⟩
      · exact absurd ⟨hmethod, hvafmt, hreturn, harguments, h⟩ hno
    · rintro ⟨hconvention, hmethod, hvafmt, hreturn, harguments, hdescriptions⟩
      exact ⟨hconvention, hreturn, harguments,
        (hwp.identity_eq_iff hwq hreturn harguments).mpr (.inl (hsame.mp hdescriptions)),
        hmethod, hvafmt⟩

end Accepted

/-! ## Two prototypes that collide -/

/-- Four objects of eight bytes that differ in nothing but their names. -/
def namedObjects : Descriptors where
  aggregate _ := ⟨0, 0, 0, 0, none⟩
  object address :=
    let name := match address with
      | 1 => "x"
      | 2 => "yAO8:8:z"
      | 3 => "xAO8:8:y"
      | _ => "z"
    ⟨sizeofObject, 8, 8, 0, some name.toList, some 10, some 11, some 12, some 13⟩

def oneModule : Platform where
  findLoadedModuleForAddress _ := .found "plugin.so".toList
  isExecutableAddress _ := true
  acquirePin _ := .ok ()
  newAggregate _ _ := true

/-- A function that returns nothing and takes the two objects by value. -/
def takesObjects (first second : Address) : KeelHookPrototype where
  size := sizeofPrototype
  callingConvention := callNative
  returnType := valueVoid
  argumentCount := 2
  argumentTypes := some fun _ => valueAggregate
  returnAggregate := none
  argumentAggregates := none
  fixedArgumentCount := 2
  flags := 0
  returnObject := none
  argumentObjects := some fun index => some (if index = 0 then first else second)

/-- `("x", "yAO8:8:z")` and `("xAO8:8:y", "z")` are encoded alike. -/
theorem overrunning_names_compare_equal :
    ∃ p q binding binding',
      canonicalPrototype namedObjects oneModule (takesObjects 1 2) false = .ok (p, binding) ∧
      canonicalPrototype namedObjects oneModule (takesObjects 3 4) false = .ok (q, binding') ∧
      (p == q) = true ∧ ¬ SameInterface p q := by
  refine ⟨_, _, _, _, rfl, rfl, by decide, fun h => ?_⟩
  exact absurd h.descriptions (by decide)

theorem beq_iff_sameInterface_iff_not_overruns_named :
    ∃ p q binding binding',
      canonicalPrototype namedObjects oneModule (takesObjects 1 2) false = .ok (p, binding) ∧
      canonicalPrototype namedObjects oneModule (takesObjects 3 4) false = .ok (q, binding') ∧
      (((p == q) = true ↔ SameInterface p q) ↔ ¬ Overruns p q) := by
  obtain ⟨p, binding, hp⟩ : ∃ p binding,
      canonicalPrototype namedObjects oneModule (takesObjects 1 2) false = .ok (p, binding) :=
    ⟨_, _, rfl⟩
  obtain ⟨q, binding', hq⟩ : ∃ q binding',
      canonicalPrototype namedObjects oneModule (takesObjects 3 4) false = .ok (q, binding') :=
    ⟨_, _, rfl⟩
  exact ⟨p, q, binding, binding', hp, hq, beq_iff_sameInterface_iff_not_overruns hp hq⟩

end KeelS2.KeelHook
