import KeelS2.KeelHook.Prototype

/-!
# The identity of an aggregate

`CanonicalAggregate` writes the layout it reads into a text. That text is self-delimiting:
sizes are numerals closed by a brace, fields are closed by `;`, and the braces balance
(`FieldLayout.text_cancel`). So an aggregate can be read back off any text its identity
starts, whatever the graph of descriptors it was read from.
-/

namespace KeelS2.KeelHook

open Lib

/-! ## The encoding of a layout -/

/-- The text of a field list, read off the layout instead of the descriptors. -/
def FieldLayout.text : FieldLayout → Text
  | .nil => []
  | .scalar type offset arrayLength rest =>
    decimal type ++ ':' :: decimal offset ++ ':' :: decimal arrayLength ++ ':' :: ';' :: rest.text
  | .nested offset arrayLength byteSize inner rest =>
    decimal valueAggregate ++ ':' :: decimal offset ++ ':' :: decimal arrayLength ++ ':' ::
      decimal byteSize ++ '{' :: inner.text ++ '}' :: ';' :: rest.text

/-- Scalar fields have scalar types, so a reader can tell them from nested ones. -/
def FieldLayout.Scalars : FieldLayout → Prop
  | .nil => True
  | .scalar type _ _ rest => type ≠ valueAggregate ∧ rest.Scalars
  | .nested _ _ _ inner rest => inner.Scalars ∧ rest.Scalars

/-- The identity of an aggregate is the text of its layout, between its size and a closing
brace. -/
structure AggregateData.WellFormed (data : AggregateData) : Prop where
  identity : data.identity = decimal data.byteSize ++ '{' :: data.layout.text ++ ['}']
  scalars : data.layout.Scalars
  fits : data.byteSize ≤ maxAggregateSize

/-- **A layout can be read back off its text.** The induction is on the first layout; the
closing brace is what tells an empty field list from one that starts with a numeral. -/
theorem FieldLayout.text_cancel {l : FieldLayout} :
    ∀ {l' : FieldLayout} {s t : Text}, l.Scalars → l'.Scalars →
      l.text ++ '}' :: s = l'.text ++ '}' :: t → l = l' ∧ s = t := by
  induction l with
  | nil =>
    intro l' s t _ _ h
    cases l' with
    | nil => exact ⟨rfl, by simpa [FieldLayout.text] using h⟩
    | scalar type offset len rest =>
      simp only [FieldLayout.text, List.nil_append, List.append_assoc] at h
      exact absurd h.symm (decimal_append_ne_cons (by decide))
    | nested offset len size inner rest =>
      simp only [FieldLayout.text, List.nil_append, List.append_assoc] at h
      exact absurd h.symm (decimal_append_ne_cons (by decide))
  | scalar type offset len rest ih =>
    intro l' s t hl hl' h
    cases l' with
    | nil =>
      simp only [FieldLayout.text, List.nil_append, List.append_assoc] at h
      exact absurd h (decimal_append_ne_cons (by decide))
    | scalar type' offset' len' rest' =>
      simp only [FieldLayout.text, List.append_assoc, List.cons_append] at h
      obtain ⟨rfl, -, h⟩ := decimal_cons_cancel (by decide) (by decide) h
      obtain ⟨rfl, -, h⟩ := decimal_cons_cancel (by decide) (by decide) h
      obtain ⟨rfl, -, h⟩ := decimal_cons_cancel (by decide) (by decide) h
      simp only [List.cons.injEq, true_and] at h
      obtain ⟨rfl, hst⟩ := ih hl.2 hl'.2 h
      exact ⟨rfl, hst⟩
    | nested offset' len' size' inner' rest' =>
      simp only [FieldLayout.text, List.append_assoc, List.cons_append] at h
      obtain ⟨htype, -, -⟩ := decimal_cons_cancel (by decide) (by decide) h
      exact absurd htype hl.1
  | nested offset len size inner rest ihInner ihRest =>
    intro l' s t hl hl' h
    cases l' with
    | nil =>
      simp only [FieldLayout.text, List.nil_append, List.append_assoc] at h
      exact absurd h (decimal_append_ne_cons (by decide))
    | scalar type' offset' len' rest' =>
      simp only [FieldLayout.text, List.append_assoc, List.cons_append] at h
      obtain ⟨htype, -, -⟩ := decimal_cons_cancel (by decide) (by decide) h
      exact absurd htype.symm hl'.1
    | nested offset' len' size' inner' rest' =>
      simp only [FieldLayout.text, List.append_assoc, List.cons_append] at h
      obtain ⟨-, -, h⟩ := decimal_cons_cancel (by decide) (by decide) h
      obtain ⟨rfl, -, h⟩ := decimal_cons_cancel (by decide) (by decide) h
      obtain ⟨rfl, -, h⟩ := decimal_cons_cancel (by decide) (by decide) h
      obtain ⟨rfl, -, h⟩ := decimal_cons_cancel (by decide) (by decide) h
      obtain ⟨rfl, hrest⟩ := ihInner hl.1 hl'.1 h
      simp only [List.cons.injEq, true_and] at hrest
      obtain ⟨rfl, hst⟩ := ihRest hl.2 hl'.2 hrest
      exact ⟨rfl, hst⟩

theorem AggregateData.WellFormed.identity_cancel {d e : AggregateData} {s t : Text}
    (hd : d.WellFormed) (he : e.WellFormed) (h : d.identity ++ s = e.identity ++ t) :
    d = e ∧ s = t := by
  have hbody := h
  rw [hd.identity, he.identity] at hbody
  simp only [List.append_assoc, List.cons_append, List.nil_append] at hbody
  obtain ⟨hsize, -, hrest⟩ := decimal_cons_cancel (by decide) (by decide) hbody
  obtain ⟨hlayout, hst⟩ := FieldLayout.text_cancel hd.scalars he.scalars hrest
  subst hst
  have hident : d.identity = e.identity := List.append_cancel_right h
  cases d
  cases e
  simp_all

/-! ## What `CanonicalAggregate` returns -/

/-- Every aggregate a build context has completed is well formed. -/
def AggregateBuildContext.WellFormed (context : AggregateBuildContext) : Prop :=
  ∀ entry ∈ context.completed, entry.2.WellFormed

theorem AggregateBuildContext.empty_wellFormed : AggregateBuildContext.empty.WellFormed := by
  intro entry h
  simp [AggregateBuildContext.empty] at h

theorem AggregateBuildContext.WellFormed.of_lookup {context : AggregateBuildContext}
    (hcontext : context.WellFormed) {pointer : Address} {data : AggregateData}
    (h : context.completed.lookup pointer = some data) : data.WellFormed := by
  obtain ⟨before, after, hsplit, -⟩ := List.lookup_eq_some_iff.mp h
  exact hcontext (pointer, data) (by simp [hsplit])

section Aggregates

variable (descend : Option Address → AggregateBuildContext →
  Except Failure (AggregateData × AggregateBuildContext))

theorem canonicalFields_ok
    (hdescend : ∀ {pointer context data context'}, context.WellFormed →
      descend pointer context = .ok (data, context') → data.WellFormed ∧ context'.WellFormed)
    {byteSize : Nat} :
    ∀ {fields previous context identity identity' layout context'},
      context.WellFormed →
      canonicalFields descend byteSize fields previous context identity
        = .ok (identity', layout, context') →
      identity' = identity ++ layout.text ∧ layout.Scalars ∧ context'.WellFormed := by
  intro fields
  induction fields with
  | nil =>
    intro previous context identity identity' layout context' hcontext h
    simp only [canonicalFields, Except.ok.injEq, Prod.mk.injEq] at h
    obtain ⟨rfl, rfl, rfl⟩ := h
    exact ⟨by simp [FieldLayout.text], trivial, hcontext⟩
  | cons field rest ih =>
    intro previous context identity identity' layout context' hcontext h
    rw [canonicalFields] at h
    split at h
    · cases h
    split at h
    · -- a nested aggregate: the recursive call's context is handed on to the rest
      rename_i htype
      split at h
      · cases h
      rename_i nested inner hnested
      split at h
      · cases h
      split at h
      · cases h
      rename_i hrest
      obtain ⟨hdata, hinner⟩ := hdescend hcontext hnested
      obtain ⟨htext, hscalars, hctx⟩ := ih hinner hrest
      simp only [Except.ok.injEq, Prod.mk.injEq] at h
      obtain ⟨rfl, rfl, rfl⟩ := h
      refine ⟨?_, ⟨hdata.scalars, hscalars⟩, hctx⟩
      rw [htext, fieldIdentity, hdata.identity, htype]
      simp [FieldLayout.text]
    split at h
    · rename_i hne _
      split at h
      · cases h
      split at h
      · cases h
      rename_i hrest
      obtain ⟨htext, hscalars, hctx⟩ := ih hcontext hrest
      simp only [Except.ok.injEq, Prod.mk.injEq] at h
      obtain ⟨rfl, rfl, rfl⟩ := h
      refine ⟨?_, ⟨hne, hscalars⟩, hctx⟩
      rw [htext, fieldIdentity]
      simp [FieldLayout.text]
    · cases h

end Aggregates

theorem canonicalAggregate_ok {descriptors : Descriptors} {platform : Platform} {levels : Nat} :
    ∀ {pointer context data context'}, context.WellFormed →
      canonicalAggregate descriptors platform levels pointer context = .ok (data, context') →
      data.WellFormed ∧ context'.WellFormed := by
  induction levels with
  | zero => intro pointer context data context' _ h; simp [canonicalAggregate] at h
  | succ levels ih =>
    intro pointer context data context' hcontext h
    cases pointer with
    | none => simp [canonicalAggregate] at h
    | some pointer =>
      rw [canonicalAggregate] at h
      split at h
      · rename_i found hlookup
        simp only [Except.ok.injEq, Prod.mk.injEq] at h
        obtain ⟨rfl, rfl⟩ := h
        exact ⟨hcontext.of_lookup hlookup, hcontext⟩
      dsimp only at h
      split at h
      · cases h
      split at h
      · cases h
      rename_i hlimits
      split at h
      · cases h
      rename_i identity layout context'' hfields
      have hopen : AggregateBuildContext.WellFormed
          { context with active := pointer :: context.active, count := context.count + 1 } :=
        hcontext
      obtain ⟨htext, hscalars, hinner⟩ :=
        canonicalFields_ok (canonicalAggregate descriptors platform levels) ih hopen hfields
      split at h
      · simp only [Except.ok.injEq, Prod.mk.injEq] at h
        obtain ⟨rfl, rfl⟩ := h
        have hfits : (descriptors.aggregate pointer).byteSize ≤ maxAggregateSize := by
          simp only [not_or] at hlimits
          omega
        have hdata : AggregateData.WellFormed
            ⟨(descriptors.aggregate pointer).byteSize, identity ++ ['}'], layout⟩ :=
          ⟨by rw [htext]; simp, hscalars, hfits⟩
        refine ⟨hdata, fun entry hentry => ?_⟩
        rcases List.mem_cons.mp hentry with rfl | hold
        · exact hdata
        · exact hinner entry hold
      · cases h

end KeelS2.KeelHook
