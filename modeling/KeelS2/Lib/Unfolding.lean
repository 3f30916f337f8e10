import Mathlib.Data.Set.Card

/-!
# The unfolding of a graph

What a depth-first search without a memo visits: a node for each path, so that what is shared is
there as often as it can be reached, and a cycle goes on for ever. `preorder` lists the nodes above
a depth in the order of the search. Where the nodes of an unfolding have places, no node is listed
twice, so that a counter of visits counts the nodes of the unfolding (`encard_below`).
-/

namespace KeelS2.Lib.Unfolding

variable {Node : Type*} (children : Node → List Node)

/-- The unfolding below a node, which is in it. -/
abbrev Below : Node → Node → Prop :=
  Relation.ReflTransGen fun parent child => child ∈ children parent

/-- Nodes that many steps below a node. -/
inductive Steps : Nat → Node → Node → Prop
  | here {node : Node} : Steps 0 node node
  | down {steps : Nat} {node child below : Node} (hchild : child ∈ children node)
      (h : Steps steps child below) : Steps (steps + 1) node below

/-- The nodes less than `levels` steps below a node, each before what is below it. -/
def preorder : Nat → Node → List Node
  | 0, _ => []
  | levels + 1, node => node :: (children node).flatMap (preorder levels)

variable {children}

variable {node below : Node} {levels : Nat}

theorem below_iff_steps : Below children node below ↔ ∃ steps, Steps children steps node below := by
  constructor
  · intro h
    induction h using Relation.ReflTransGen.head_induction_on with
    | refl => exact ⟨0, Steps.here⟩
    | head hchild h ih =>
      obtain ⟨steps, ih⟩ := ih
      exact ⟨steps + 1, Steps.down hchild ih⟩
  · rintro ⟨steps, h⟩
    induction h with
    | here => exact Relation.ReflTransGen.refl
    | down hchild h ih => exact Relation.ReflTransGen.head hchild ih

theorem mem_preorder_iff :
    below ∈ preorder children levels node ↔
      ∃ steps < levels, Steps children steps node below := by
  induction levels generalizing node with
  | zero => simp [preorder]
  | succ levels ih =>
    simp only [preorder, List.mem_cons, List.mem_flatMap, ih]
    constructor
    · rintro (rfl | ⟨child, hchild, steps, hlt, h⟩)
      · exact ⟨0, Nat.succ_pos _, Steps.here⟩
      · exact ⟨steps + 1, Nat.succ_lt_succ hlt, Steps.down hchild h⟩
    · rintro ⟨steps, hlt, h⟩
      cases h with
      | here => exact Or.inl rfl
      | down hchild h => exact Or.inr ⟨_, hchild, _, Nat.lt_of_succ_lt_succ hlt, h⟩

theorem Steps.before {steps : Nat} (h : Steps children steps node below) {fewer : Nat}
    (hle : fewer ≤ steps) : ∃ middle, Steps children fewer node middle := by
  induction h generalizing fewer with
  | here =>
    obtain rfl := Nat.le_zero.1 hle
    exact ⟨_, Steps.here⟩
  | down hchild h ih =>
    cases fewer with
    | zero => exact ⟨_, Steps.here⟩
    | succ fewer =>
      obtain ⟨middle, hmiddle⟩ := ih (Nat.le_of_succ_le_succ hle)
      exact ⟨middle, Steps.down hchild hmiddle⟩

/-! ## Places -/

variable {Index : Type*}

/-- A place is the way to a node, last turn first, and the children of a node are at different
places. -/
structure Placed (children : Node → List Node) (place : Node → List Index) : Prop where
  turn : ∀ node, ∀ child ∈ children node, ∃ index, place child = index :: place node
  distinct : ∀ node, ((children node).map place).Nodup

variable {place : Node → List Index}

section

variable (hplaced : Placed children place)

include hplaced

theorem Placed.suffix (h : Below children node below) : place node <:+ place below := by
  induction h with
  | refl => exact List.suffix_refl _
  | tail h hchild ih =>
    obtain ⟨index, hplace⟩ := hplaced.turn _ _ hchild
    rw [hplace]
    exact ih.trans (List.suffix_cons _ _)

theorem Placed.length {steps : Nat} (h : Steps children steps node below) :
    (place below).length = (place node).length + steps := by
  induction h with
  | here => rfl
  | down hchild h ih =>
    obtain ⟨index, hplace⟩ := hplaced.turn _ _ hchild
    rw [ih, hplace, List.length_cons]
    omega

theorem Placed.disjoint {first second : Node} (hfirst : first ∈ children node)
    (hsecond : second ∈ children node) (hne : place first ≠ place second)
    (h : Below children first below) (h' : Below children second below) : False := by
  obtain ⟨one, hone⟩ := hplaced.turn _ _ hfirst
  obtain ⟨two, htwo⟩ := hplaced.turn _ _ hsecond
  have hlength : (place first).length = (place second).length := by
    rw [hone, htwo, List.length_cons, List.length_cons]
  have hsuffix := List.suffix_of_suffix_length_le (hplaced.suffix h) (hplaced.suffix h')
    hlength.le
  exact hne (hsuffix.eq_of_length hlength)

theorem Placed.nodup_preorder (levels : Nat) (node : Node) :
    (preorder children levels node).Nodup := by
  induction levels generalizing node with
  | zero => exact List.nodup_nil
  | succ levels ih =>
    have hbelow : ∀ {child below}, below ∈ preorder children levels child →
        Below children child below := by
      intro child below hmem
      obtain ⟨steps, -, h⟩ := mem_preorder_iff.1 hmem
      exact below_iff_steps.2 ⟨steps, h⟩
    refine List.nodup_cons.2 ⟨?_, ?_⟩
    · -- A node below a child is at a longer place.
      intro hmem
      obtain ⟨child, hchild, hmem⟩ := List.mem_flatMap.1 hmem
      obtain ⟨index, hplace⟩ := hplaced.turn _ _ hchild
      have hlength := (hplaced.suffix (hbelow hmem)).length_le
      rw [hplace, List.length_cons] at hlength
      omega
    · refine List.nodup_flatMap.2 ⟨fun child _ => ih child, ?_⟩
      have hdistinct := List.pairwise_map.1 (hplaced.distinct node)
      refine hdistinct.imp_of_mem fun hfirst hsecond hne => ?_
      intro below hmem hmem'
      exact hplaced.disjoint hfirst hsecond hne (hbelow hmem) (hbelow hmem')

end

theorem below_iff_mem_preorder
    (hdepth : ∀ steps below, Steps children steps node below → steps < levels) :
    Below children node below ↔ below ∈ preorder children levels node := by
  rw [below_iff_steps, mem_preorder_iff]
  constructor
  · rintro ⟨steps, h⟩
    exact ⟨steps, hdepth steps below h, h⟩
  · rintro ⟨steps, -, h⟩
    exact ⟨steps, h⟩

theorem Placed.encard_below (hplaced : Placed children place)
    (hdepth : ∀ steps below, Steps children steps node below → steps < levels) :
    {below | Below children node below}.encard = (preorder children levels node).length := by
  classical
  have hset : {below | Below children node below} =
      ((preorder children levels node).toFinset : Set Node) := by
    ext below
    rw [Set.mem_ofPred_eq, below_iff_mem_preorder hdepth]
    simp
  rw [hset, Set.encard_coe_eq_coe_finsetCard,
    List.toFinset_card_of_nodup (hplaced.nodup_preorder levels node)]

end KeelS2.Lib.Unfolding
