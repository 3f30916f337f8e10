import Mathlib.Data.Finset.Card

/-!
# A search with a memo and a bound on the depth

A depth-first search over vertices that list their children. It stops at a vertex that is still
open, at one that is not sound, at one too many and below the bound, and looks at a vertex only
once. So each vertex is met at the depth of the *first* path to it, in the order of the children,
and not at its deepest: `search_isSome_iff`.
-/

namespace KeelS2.Lib

variable {Vertex : Type*} (children : Vertex → List Vertex)

/-! ## Paths -/

def Child (parent child : Vertex) : Prop := child ∈ children parent

/-- What can be reached from a vertex, which it can itself. -/
abbrev Reach : Vertex → Vertex → Prop := Relation.ReflTransGen (Child children)

abbrev Below : Vertex → Vertex → Prop := Relation.TransGen (Child children)

/-- No path from the vertex has more vertices than the bound. -/
def DepthAtMost : Nat → Vertex → Prop
  | 0, _ => False
  | bound + 1, vertex => ∀ child ∈ children vertex, DepthAtMost bound child

instance decidableDepthAtMost : ∀ bound vertex, Decidable (DepthAtMost children bound vertex)
  | 0, _ => .isFalse id
  | bound + 1, vertex =>
    have := decidableDepthAtMost bound
    inferInstanceAs (Decidable (∀ child ∈ children vertex, DepthAtMost children bound child))

/-- The first path from a list of roots to a vertex, and how many steps it takes: it starts at the
first root that reaches the vertex, and goes on so. -/
inductive FirstPath : List Vertex → Vertex → Nat → Prop
  | here {vertex : Vertex} {rest : List Vertex} : FirstPath (vertex :: rest) vertex 0
  | down {first vertex : Vertex} {rest : List Vertex} {steps : Nat} (hne : first ≠ vertex)
      (h : FirstPath (children first) vertex steps) : FirstPath (first :: rest) vertex (steps + 1)
  | along {first vertex : Vertex} {rest : List Vertex} {steps : Nat}
      (hnot : ¬ Reach children first vertex) (h : FirstPath rest vertex steps) :
      FirstPath (first :: rest) vertex steps

variable {children}

variable {vertex : Vertex} {finished roots : List Vertex} {steps : Nat}

theorem reach_iff {first : Vertex} :
    Reach children first vertex ↔
      first = vertex ∨ ∃ child ∈ children first, Reach children child vertex :=
  Relation.ReflTransGen.cases_head_iff

section

variable (h : FirstPath children roots vertex steps)

include h

theorem FirstPath.reach : ∃ root ∈ roots, Reach children root vertex := by
  induction h with
  | here => exact ⟨_, List.mem_cons_self, Relation.ReflTransGen.refl⟩
  | down hne h ih => exact ⟨_, List.mem_cons_self, reach_iff.mpr (Or.inr ih)⟩
  | along hnot h ih =>
    obtain ⟨root, hmem, hreach⟩ := ih
    exact ⟨root, List.mem_cons_of_mem _ hmem, hreach⟩

theorem FirstPath.append (rest : List Vertex) :
    FirstPath children (roots ++ rest) vertex steps := by
  induction roots with
  | nil => cases h
  | cons first roots ih =>
    cases h with
    | here => exact FirstPath.here
    | down hne h => exact FirstPath.down hne h
    | along hnot h => exact FirstPath.along hnot (ih h)

theorem FirstPath.depth {bound : Nat}
    (hdepth : ∀ root ∈ roots, DepthAtMost children (steps + bound) root) :
    DepthAtMost children bound vertex := by
  induction h with
  | here =>
    have hroot := hdepth _ List.mem_cons_self
    rwa [Nat.zero_add] at hroot
  | @down first vertex rest steps hne h ih =>
    refine ih fun child hchild => ?_
    have hfirst := hdepth _ List.mem_cons_self
    rw [Nat.add_right_comm] at hfirst
    exact hfirst child hchild
  | along hnot h ih => exact ih fun root hroot => hdepth root (List.mem_cons_of_mem _ hroot)

end

theorem DepthAtMost.mono {bound : Nat} (h : DepthAtMost children bound vertex) {higher : Nat}
    (hle : bound ≤ higher) : DepthAtMost children higher vertex := by
  induction bound generalizing vertex higher with
  | zero => exact h.elim
  | succ bound ih =>
    obtain ⟨higher, rfl⟩ := Nat.exists_eq_add_of_le hle
    rw [Nat.add_right_comm]
    exact fun child hchild => ih (h child hchild) (Nat.le_add_right _ _)

/-! ## Lists that a search has finished -/

variable (children) in
/-- Every vertex comes before its children. -/
def Ordered : List Vertex → Prop
  | [] => True
  | vertex :: rest => vertex ∉ rest ∧ (∀ child ∈ children vertex, child ∈ rest) ∧ Ordered rest

section

variable (h : Ordered children finished)

include h

theorem Ordered.nodup : finished.Nodup := by
  induction finished with
  | nil => exact List.nodup_nil
  | cons vertex rest ih => exact List.nodup_cons.mpr ⟨h.1, ih h.2.2⟩

theorem Ordered.mem_of_child {child : Vertex} (hmem : vertex ∈ finished)
    (hchild : child ∈ children vertex) : child ∈ finished := by
  induction finished with
  | nil => exact absurd hmem List.not_mem_nil
  | cons first rest ih =>
    rcases List.mem_cons.mp hmem with rfl | hmem
    · exact List.mem_cons_of_mem _ (h.2.1 child hchild)
    · exact List.mem_cons_of_mem _ (ih h.2.2 hmem)

theorem Ordered.mem_of_reach {other : Vertex} (hmem : vertex ∈ finished)
    (hreach : Reach children vertex other) : other ∈ finished := by
  induction hreach with
  | refl => exact hmem
  | tail _ hchild ih => exact h.mem_of_child ih hchild

theorem Ordered.acyclic (hmem : vertex ∈ finished) : ¬ Below children vertex vertex := by
  induction finished with
  | nil => exact absurd hmem List.not_mem_nil
  | cons first rest ih =>
    rcases List.mem_cons.mp hmem with rfl | hmem
    · intro hbelow
      obtain ⟨child, hchild, hreach⟩ := Relation.TransGen.head'_iff.mp hbelow
      exact h.1 (h.2.2.mem_of_reach (h.2.1 child hchild) hreach)
    · exact ih h.2.2 hmem

end

/-! ## What visits of some roots do to the finished vertices -/

variable {sound : Vertex → Bool} {limit : Nat}

/-- `active` are the vertices that are open meanwhile. -/
structure Covers (children : Vertex → List Vertex) (sound : Vertex → Bool) (limit levels : Nat)
    (active roots finished after : List Vertex) : Prop where
  ordered : Ordered children after
  mem : ∀ vertex, vertex ∈ after ↔
    vertex ∈ finished ∨ ∃ root ∈ roots, Reach children root vertex
  fresh : ∀ vertex ∈ after, vertex ∉ finished → sound vertex = true ∧ vertex ∉ active
  size : active.length + finished.length ≤ limit → active.length + after.length ≤ limit
  positive : roots ≠ [] → 1 ≤ levels
  shallow : ∀ vertex steps, vertex ∈ after → vertex ∉ finished → children vertex ≠ [] →
    FirstPath children roots vertex steps → steps + 2 ≤ levels

namespace Covers

variable {levels : Nat} {active finished after : List Vertex} {vertex : Vertex}

theorem nil (h : Ordered children finished) :
    Covers children sound limit levels active [] finished finished where
  ordered := h
  mem _ := by simp
  fresh _ hmem hnot := absurd hmem hnot
  size := id
  positive h := absurd rfl h
  shallow _ _ hmem hnot := absurd hmem hnot

/-- A vertex that was finished is not looked at again. -/
theorem again (h : Ordered children finished) (hmem : vertex ∈ finished) :
    Covers children sound limit (levels + 1) active [vertex] finished finished where
  ordered := h
  mem other := by
    refine ⟨Or.inl, fun hother => hother.elim id ?_⟩
    rintro ⟨root, hroot, hreach⟩
    obtain rfl := List.mem_singleton.mp hroot
    exact h.mem_of_reach hmem hreach
  fresh _ hmem hnot := absurd hmem hnot
  size := id
  positive _ := Nat.le_add_left 1 levels
  shallow _ _ hmem hnot := absurd hmem hnot

theorem cons {middle rest : List Vertex}
    (hfirst : Covers children sound limit levels active [vertex] finished middle)
    (hrest : Covers children sound limit levels active rest middle after) :
    Covers children sound limit levels active (vertex :: rest) finished after where
  ordered := hrest.ordered
  mem other := by
    rw [hrest.mem, hfirst.mem, or_assoc]
    simp
  fresh other hother hnot := by
    by_cases hmiddle : other ∈ middle
    · exact hfirst.fresh other hmiddle hnot
    · exact hrest.fresh other hother hmiddle
  size h := hrest.size (hfirst.size h)
  positive _ := hfirst.positive (List.cons_ne_nil _ _)
  shallow other steps hother hnot hchildren hpath := by
    by_cases hmiddle : other ∈ middle
    · -- the first root reaches it, so the first path starts there
      have hreach : Reach children vertex other := by
        rcases (hfirst.mem other).mp hmiddle with h | ⟨root, hroot, hreach⟩
        · exact absurd h hnot
        · obtain rfl := List.mem_singleton.mp hroot
          exact hreach
      have hsingle : FirstPath children [vertex] other steps := by
        cases hpath with
        | here => exact FirstPath.here
        | down hne h => exact FirstPath.down hne h
        | along hnone h => exact absurd hreach hnone
      exact hfirst.shallow other steps hmiddle hnot hchildren hsingle
    · have hnone : ¬ Reach children vertex other := fun hreach =>
        hmiddle ((hfirst.mem other).mpr (Or.inr ⟨vertex, List.mem_singleton_self _, hreach⟩))
      have hlater : FirstPath children rest other steps := by
        cases hpath with
        | here => exact absurd Relation.ReflTransGen.refl hnone
        | down hne h => exact absurd (reach_iff.mpr (Or.inr h.reach)) hnone
        | along hnone h => exact h
      exact hrest.shallow other steps hother hmiddle hchildren hlater

/-- A vertex that is met first, with its children. -/
theorem down (hnot : vertex ∉ finished) (hactive : vertex ∉ active) (hsound : sound vertex = true)
    (hlimit : active.length + finished.length < limit)
    (h : Covers children sound limit levels (vertex :: active) (children vertex) finished after) :
    Covers children sound limit (levels + 1) active [vertex] finished (vertex :: after) where
  ordered := by
    refine ⟨fun hmem => ?_, fun child hchild => ?_, h.ordered⟩
    · exact (h.fresh vertex hmem hnot).2 List.mem_cons_self
    · exact (h.mem child).mpr (Or.inr ⟨child, hchild, Relation.ReflTransGen.refl⟩)
  mem other := by
    rw [List.mem_cons, h.mem]
    simp only [List.mem_singleton, exists_eq_left]
    rw [reach_iff, eq_comm]
    tauto
  fresh other hother hfresh := by
    rcases List.mem_cons.mp hother with rfl | hafter
    · exact ⟨hsound, hactive⟩
    · obtain ⟨hother, hopen⟩ := h.fresh other hafter hfresh
      exact ⟨hother, fun hmem => hopen (List.mem_cons_of_mem _ hmem)⟩
  size _ := by
    have hsize := h.size
    simp only [List.length_cons] at hsize ⊢
    omega
  positive _ := Nat.le_add_left 1 levels
  shallow other steps hother hfresh hchildren hpath := by
    cases hpath with
    | here =>
      have hlevels := h.positive hchildren
      omega
    | @down _ _ _ steps hne hpath =>
      have hafter : other ∈ after := (List.mem_cons.mp hother).resolve_left (Ne.symm hne)
      have hshallow := h.shallow other steps hafter hfresh hchildren hpath
      omega
    | along hnone hpath => cases hpath

end Covers

/-! ## Visiting a list of roots -/

/-- The roots one after the other, each with what was finished before it. -/
def searchAll (visit : Vertex → List Vertex → Option (List Vertex)) :
    List Vertex → List Vertex → Option (List Vertex)
  | [], finished => some finished
  | vertex :: rest, finished => (visit vertex finished).bind (searchAll visit rest)

theorem searchAll_covers {levels : Nat} {active : List Vertex}
    {visit : Vertex → List Vertex → Option (List Vertex)}
    (hvisit : ∀ {vertex finished after}, visit vertex finished = some after → Ordered children
      finished → Covers children sound limit levels active [vertex] finished after)
    {after : List Vertex} (h : searchAll visit roots finished = some after)
    (hordered : Ordered children finished) :
    Covers children sound limit levels active roots finished after := by
  induction roots generalizing finished with
  | nil =>
    cases h
    exact Covers.nil hordered
  | cons vertex rest ih =>
    obtain ⟨middle, hmiddle, hrest⟩ := Option.bind_eq_some_iff.mp h
    have hfirst := hvisit hmiddle hordered
    exact hfirst.cons (ih hrest hfirst.ordered)

/-- A finite part of the graph that the search may walk. -/
structure Walkable (children : Vertex → List Vertex) (sound : Vertex → Bool) (limit : Nat)
    (part : Finset Vertex) : Prop where
  closed : ∀ vertex ∈ part, ∀ child ∈ children vertex, child ∈ part
  sound : ∀ vertex ∈ part, sound vertex = true
  acyclic : ∀ vertex ∈ part, ¬ Below children vertex vertex
  size : part.card ≤ limit

theorem Walkable.mem_of_reach {part : Finset Vertex} (h : Walkable children sound limit part)
    {other : Vertex} (hmem : vertex ∈ part) (hreach : Reach children vertex other) :
    other ∈ part := by
  induction hreach with
  | refl => exact hmem
  | tail _ hchild ih => exact h.closed _ ih _ hchild

/-- What is open and what is finished, while the search is inside the part. -/
structure Within (children : Vertex → List Vertex) (part : Finset Vertex)
    (active finished : List Vertex) : Prop where
  ordered : Ordered children finished
  unfinished : active.Nodup
  apart : ∀ vertex ∈ active, vertex ∉ finished
  subset : ∀ vertex ∈ active ++ finished, vertex ∈ part

/-- The vertices below the last level. `finished` need not be looked at. -/
def Shallow (children : Vertex → List Vertex) (levels : Nat)
    (roots finished : List Vertex) : Prop :=
  ∀ vertex steps, vertex ∉ finished → children vertex ≠ [] →
    FirstPath children roots vertex steps → steps + 2 ≤ levels

namespace Within

variable {part : Finset Vertex} {active finished after : List Vertex} {vertex : Vertex}

theorem covers (hpart : Walkable children sound limit part)
    (h : Within children part active finished) {levels : Nat} {roots : List Vertex}
    (hcovers : Covers children sound limit levels active roots finished after)
    (hroots : ∀ root ∈ roots, root ∈ part) : Within children part active after where
  ordered := hcovers.ordered
  unfinished := h.unfinished
  apart other hopen hafter := (hcovers.fresh other hafter (h.apart other hopen)).2 hopen
  subset other hin := by
    rcases List.mem_append.mp hin with hopen | hafter
    · exact h.subset other (List.mem_append_left _ hopen)
    · rcases (hcovers.mem other).mp hafter with hbefore | ⟨root, hroot, hreach⟩
      · exact h.subset other (List.mem_append_right _ hbefore)
      · exact hpart.mem_of_reach (hroots root hroot) hreach

theorem enter (h : Within children part active finished) (hmem : vertex ∈ part)
    (hactive : vertex ∉ active) (hfinished : vertex ∉ finished) :
    Within children part (vertex :: active) finished where
  ordered := h.ordered
  unfinished := List.nodup_cons.mpr ⟨hactive, h.unfinished⟩
  apart other hopen := by
    rcases List.mem_cons.mp hopen with rfl | hopen
    · exact hfinished
    · exact h.apart other hopen
  subset other hin := by
    rcases List.mem_cons.mp hin with rfl | hin
    · exact hmem
    · exact h.subset other hin

end Within

theorem searchAll_isSome {part : Finset Vertex} (hpart : Walkable children sound limit part)
    {levels : Nat} {active : List Vertex} {visit : Vertex → List Vertex → Option (List Vertex)}
    (hcovers : ∀ {vertex finished after}, visit vertex finished = some after → Ordered children
      finished → Covers children sound limit levels active [vertex] finished after)
    (hvisit : ∀ vertex ∈ roots, ∀ finished, Within children part active finished → Shallow children
      levels [vertex] finished → ∃ after, visit vertex finished = some after)
    (hroots : ∀ root ∈ roots, root ∈ part) (h : Within children part active finished)
    (hshallow : Shallow children levels roots finished) :
    ∃ after, searchAll visit roots finished = some after := by
  induction roots generalizing finished with
  | nil => exact ⟨finished, rfl⟩
  | cons vertex rest ih =>
    obtain ⟨hfirst, hlater⟩ := List.forall_mem_cons.mp hvisit
    obtain ⟨hvertex, hrest⟩ := List.forall_mem_cons.mp hroots
    obtain ⟨middle, hmiddle⟩ := hfirst finished h fun other steps hnot hchildren hpath =>
      hshallow other steps hnot hchildren (hpath.append rest)
    have hcover := hcovers hmiddle h.ordered
    have hwithin := h.covers hpart hcover fun root hroot => List.mem_singleton.mp hroot ▸ hvertex
    -- what the first root reaches is finished now, so it does not come before the rest
    obtain ⟨after, hafter⟩ := ih hlater hrest hwithin fun other steps hnot hchildren hpath => by
      rw [hcover.mem, not_or] at hnot
      exact hshallow other steps hnot.1 hchildren (FirstPath.along
        (fun hreach => hnot.2 ⟨vertex, List.mem_singleton_self _, hreach⟩) hpath)
    exact ⟨after, Option.bind_eq_some_iff.mpr ⟨middle, hmiddle, hafter⟩⟩

/-! ## The search -/

section Search

variable [DecidableEq Vertex] (children) (sound) (limit)

/-- What is finished after the visit of a vertex, if the visit does not fail. -/
def search : Nat → List Vertex → Vertex → List Vertex → Option (List Vertex)
  | 0, _, _, _ => none
  | levels + 1, active, vertex, finished =>
    if vertex ∈ finished then some finished
    else if vertex ∈ active ∨ limit ≤ active.length + finished.length ∨ sound vertex = false then
      none
    else
      (searchAll (search levels (vertex :: active)) (children vertex) finished).map (vertex :: ·)

variable {children} {sound} {limit}

variable {levels : Nat} {active finished : List Vertex} {vertex : Vertex}

theorem search_covers {after : List Vertex}
    (h : search children sound limit levels active vertex finished = some after)
    (hordered : Ordered children finished) :
    Covers children sound limit levels active [vertex] finished after := by
  induction levels generalizing active vertex finished after with
  | zero => cases h
  | succ levels ih =>
    rw [search] at h
    split at h
    · rename_i hmem
      cases h
      exact Covers.again hordered hmem
    · rename_i hnot
      split at h
      · cases h
      · rename_i hopen
        simp only [not_or, not_le, Bool.not_eq_false] at hopen
        obtain ⟨middle, hmiddle, rfl⟩ := Option.map_eq_some_iff.mp h
        exact Covers.down hnot hopen.1 hopen.2.2 hopen.2.1
          (searchAll_covers (fun h hordered => ih h hordered) hmiddle hordered)

theorem Within.length_lt {part : Finset Vertex} (hpart : Walkable children sound limit part)
    (h : Within children part active finished) (hmem : vertex ∈ part) (hactive : vertex ∉ active)
    (hfinished : vertex ∉ finished) : active.length + finished.length < limit := by
  have hdistinct : (vertex :: (active ++ finished)).Nodup := by
    refine List.nodup_cons.mpr ⟨fun hin => (List.mem_append.mp hin).elim hactive hfinished, ?_⟩
    refine List.nodup_append'.mpr ⟨h.unfinished, h.ordered.nodup, ?_⟩
    exact fun other hopen hdone => h.apart other hopen hdone
  have hsubset : (vertex :: (active ++ finished)).toFinset ⊆ part := by
    intro other hother
    rcases List.mem_cons.mp (List.mem_toFinset.mp hother) with rfl | hin
    · exact hmem
    · exact h.subset other hin
  have hcard := (Finset.card_le_card hsubset).trans hpart.size
  rw [List.toFinset_card_of_nodup hdistinct, List.length_cons, List.length_append] at hcard
  omega

theorem search_isSome {part : Finset Vertex} (hpart : Walkable children sound limit part)
    (hmem : vertex ∈ part) (h : Within children part active finished)
    (hbelow : ∀ parent ∈ active, Below children parent vertex) (hlevels : 1 ≤ levels)
    (hshallow : Shallow children levels [vertex] finished) :
    ∃ after, search children sound limit levels active vertex finished = some after := by
  induction levels generalizing active finished vertex with
  | zero => exact absurd hlevels (Nat.not_succ_le_zero 0)
  | succ levels ih =>
    rw [search]
    split
    · exact ⟨finished, rfl⟩
    · rename_i hfinished
      have hactive : vertex ∉ active := fun hin => hpart.acyclic vertex hmem (hbelow vertex hin)
      have hlt := h.length_lt hpart hmem hactive hfinished
      rw [if_neg (by simp [hactive, hlt, hpart.sound vertex hmem])]
      have hinside := h.enter hmem hactive hfinished
      have hnext : ∀ child ∈ children vertex, ∀ parent ∈ vertex :: active,
          Below children parent child := by
        intro child hchild parent hparent
        rcases List.mem_cons.mp hparent with rfl | hparent
        · exact Relation.TransGen.single hchild
        · exact (hbelow parent hparent).tail hchild
      obtain ⟨after, hafter⟩ := searchAll_isSome hpart search_covers
        (fun child hchild finished hwithin hshallowChild =>
          ih (hpart.closed vertex hmem child hchild) hwithin (hnext child hchild)
            (by
              have hroot := hshallow vertex 0 hfinished (List.ne_nil_of_mem hchild) FirstPath.here
              omega)
            hshallowChild)
        (fun child hchild => hpart.closed vertex hmem child hchild) hinside
        (fun other steps hnot hchildren hpath => by
          have hne : vertex ≠ other := by
            rintro rfl
            obtain ⟨child, hchild, hreach⟩ := hpath.reach
            exact hpart.acyclic vertex hmem (Relation.TransGen.head' hchild hreach)
          have hdeep := hshallow other (steps + 1) hnot hchildren (FirstPath.down hne hpath)
          omega)
      exact ⟨vertex :: after, Option.map_eq_some_iff.mpr ⟨after, hafter, rfl⟩⟩

/-- The search succeeds where all that can be reached is sound, acyclic and not too much, and the
first path to each vertex that has children ends above the last level. -/
theorem search_isSome_iff {root : Vertex} :
    (∃ after, search children sound limit levels [] root [] = some after) ↔
      1 ≤ levels ∧
        (∀ vertex, Reach children root vertex →
          sound vertex = true ∧ ¬ Below children vertex vertex) ∧
        (∃ part : Finset Vertex, (∀ vertex, vertex ∈ part ↔ Reach children root vertex) ∧
          part.card ≤ limit) ∧
        ∀ vertex steps, children vertex ≠ [] → FirstPath children [root] vertex steps →
          steps + 2 ≤ levels := by
  constructor
  · rintro ⟨after, hafter⟩
    have hcovers := search_covers hafter trivial
    have hmem : ∀ vertex, vertex ∈ after ↔ Reach children root vertex := by
      intro vertex
      rw [hcovers.mem]
      simp
    refine ⟨hcovers.positive (List.cons_ne_nil _ _), ?_, ⟨after.toFinset, ?_, ?_⟩, ?_⟩
    · intro vertex hreach
      have hvertex := (hmem vertex).mpr hreach
      exact ⟨(hcovers.fresh vertex hvertex List.not_mem_nil).1, hcovers.ordered.acyclic hvertex⟩
    · intro vertex
      rw [List.mem_toFinset, hmem]
    · rw [List.toFinset_card_of_nodup hcovers.ordered.nodup]
      have hsize := hcovers.size (Nat.zero_le _)
      rwa [List.length_nil, Nat.zero_add] at hsize
    · intro vertex steps hchildren hpath
      obtain ⟨start, hstart, hreach⟩ := hpath.reach
      obtain rfl := List.mem_singleton.mp hstart
      exact hcovers.shallow vertex steps ((hmem vertex).mpr hreach) List.not_mem_nil hchildren hpath
  · rintro ⟨hlevels, hreach, ⟨part, hpart, hcard⟩, hshallow⟩
    have hwalk : Walkable children sound limit part := by
      refine ⟨fun vertex hvertex child hchild => ?_, fun vertex hvertex => ?_,
        fun vertex hvertex => ?_, hcard⟩
      · exact (hpart child).mpr (((hpart vertex).mp hvertex).tail hchild)
      · exact (hreach vertex ((hpart vertex).mp hvertex)).1
      · exact (hreach vertex ((hpart vertex).mp hvertex)).2
    have hempty : Within children part [] [] := by
      refine ⟨trivial, List.nodup_nil, ?_, ?_⟩
      · exact fun _ hin => absurd hin List.not_mem_nil
      · exact fun _ hin => absurd hin List.not_mem_nil
    refine search_isSome hwalk ((hpart root).mpr Relation.ReflTransGen.refl) hempty ?_ hlevels ?_
    · exact fun _ hin => absurd hin List.not_mem_nil
    · exact fun vertex steps _ hchildren hpath => hshallow vertex steps hchildren hpath

end Search

end KeelS2.Lib
