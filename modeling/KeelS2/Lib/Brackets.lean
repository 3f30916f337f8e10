import KeelS2.Lib.Histories
import Mathlib.Data.List.Nodup

/-!
# Nested brackets

A bracket is opened with a token, marked, and closed. `bracketLaw` says of a history that tokens
increase, and that only the innermost open bracket is marked, once, and closed after that. What is
said of a token in such a history is then one of four things (`Traced`).
-/

namespace KeelS2.Lib

inductive BracketEvent (Token Mark : Type*)
  | opened (token : Token)
  | marked (token : Token) (mark : Mark)
  | closed (token : Token)
  deriving DecidableEq, Repr

variable {Token Mark : Type*}

namespace BracketEvent

def token : BracketEvent Token Mark → Token
  | opened token | marked token _ | closed token => token

end BracketEvent

/-- The brackets that are open, the innermost first, each with its mark. -/
def openBrackets : List (BracketEvent Token Mark) → List (Token × Option Mark)
  | [] => []
  | .opened token :: earlier => (token, none) :: openBrackets earlier
  | .marked _ mark :: earlier =>
    (openBrackets earlier).modifyHead fun bracket => (bracket.1, some mark)
  | .closed _ :: earlier => (openBrackets earlier).tail

variable {token : Token} {earlier : List (BracketEvent Token Mark)}

@[simp] theorem openBrackets_opened :
    openBrackets (.opened token :: earlier) = (token, none) :: openBrackets earlier := rfl

@[simp] theorem openBrackets_marked {mark : Mark} :
    openBrackets (.marked token mark :: earlier) =
      (openBrackets earlier).modifyHead fun bracket => (bracket.1, some mark) := rfl

@[simp] theorem openBrackets_closed :
    openBrackets (.closed token :: earlier) = (openBrackets earlier).tail := rfl

def bracketLaw [LT Token] :
    BracketEvent Token Mark → List (BracketEvent Token Mark) → Prop
  | .opened token, earlier => ∀ other, .opened other ∈ earlier → other < token
  | .marked token _, earlier => (openBrackets earlier).head? = some (token, none)
  | .closed token, earlier => ∃ mark, (openBrackets earlier).head? = some (token, some mark)

section Trace

variable [DecidableEq Token]

/-- What is said of a token. -/
def about (token : Token) (history : List (BracketEvent Token Mark)) :
    List (BracketEvent Token Mark) :=
  history.filter fun event => event.token = token

theorem about_cons_self {event : BracketEvent Token Mark}
    {earlier : List (BracketEvent Token Mark)} :
    about event.token (event :: earlier) = event :: about event.token earlier := by
  simp [about]

theorem about_cons_of_ne {token : Token} {event : BracketEvent Token Mark}
    {earlier : List (BracketEvent Token Mark)} (hne : event.token ≠ token) :
    about token (event :: earlier) = about token earlier := by
  simp [about, hne]

/-- What is said of a token tells where its bracket is. -/
structure Traced (history : List (BracketEvent Token Mark)) : Prop where
  opened : ∀ bracket ∈ openBrackets history, .opened bracket.1 ∈ history
  nodup : ((openBrackets history).map Prod.fst).Nodup
  never : ∀ token, .opened token ∉ history → about token history = []
  unmarked : ∀ token, (token, none) ∈ openBrackets history →
    about token history = [.opened token]
  marked : ∀ token mark, (token, some mark) ∈ openBrackets history →
    about token history = [.marked token mark, .opened token]
  closed : ∀ token, .opened token ∈ history → token ∉ (openBrackets history).map Prod.fst →
    ∃ mark, about token history = [.closed token, .marked token mark, .opened token]

variable {earlier : List (BracketEvent Token Mark)} {token : Token}

theorem Traced.open (htraced : Traced earlier) (hnew : .opened token ∉ earlier) :
    Traced (.opened token :: earlier) where
  opened := fun bracket hmem => by
    rcases List.mem_cons.1 hmem with rfl | hmem
    · exact List.mem_cons_self
    · exact List.mem_cons_of_mem _ (htraced.opened bracket hmem)
  nodup := by
    refine List.nodup_cons.2 ⟨fun hmem => ?_, htraced.nodup⟩
    obtain ⟨bracket, hbracket, rfl⟩ := List.mem_map.1 hmem
    exact hnew (htraced.opened bracket hbracket)
  never := fun other hother => by
    have hne : token ≠ other := fun h => hother (h ▸ List.mem_cons_self)
    refine Eq.trans (about_cons_of_ne hne) ?_
    exact htraced.never other fun hmem => hother (List.mem_cons_of_mem _ hmem)
  unmarked := fun other hmem => by
    rcases List.mem_cons.1 hmem with heq | hmem
    · cases heq
      exact about_cons_self.trans (congrArg _ (htraced.never _ hnew))
    · have hne : token ≠ other := fun h => hnew (h ▸ htraced.opened _ hmem)
      refine Eq.trans (about_cons_of_ne hne) ?_
      exact htraced.unmarked other hmem
  marked := fun other mark hmem => by
    have hmem := (List.mem_cons.1 hmem).resolve_left fun heq => by cases heq
    have hne : token ≠ other := fun h => hnew (h ▸ htraced.opened _ hmem)
    refine Eq.trans (about_cons_of_ne hne) ?_
    exact htraced.marked other mark hmem
  closed := fun other hopened hout => by
    have hne : token ≠ other := fun h => hout (h ▸ List.mem_cons_self)
    have hopened := (List.mem_cons.1 hopened).resolve_left fun heq => hne (by cases heq; rfl)
    have hsame : about other (.opened token :: earlier) = about other earlier :=
      about_cons_of_ne hne
    rw [hsame]
    exact htraced.closed other hopened fun hmem => hout (List.mem_cons_of_mem _ hmem)

variable {outer : List (Token × Option Mark)}

theorem Traced.innermost {bracket : Token × Option Mark} (htraced : Traced earlier)
    (hhead : openBrackets earlier = bracket :: outer) :
    .opened bracket.1 ∈ earlier ∧ (outer.map Prod.fst).Nodup
      ∧ ∀ {other}, other ∈ outer → bracket.1 ≠ other.1 := by
  have hnodup := htraced.nodup
  rw [hhead, List.map_cons, List.nodup_cons] at hnodup
  exact ⟨htraced.opened bracket (hhead ▸ List.mem_cons_self), hnodup.2, fun hmem hsame =>
    hnodup.1 (List.mem_map.2 ⟨_, hmem, hsame.symm⟩)⟩

theorem Traced.mark {mark : Mark} (htraced : Traced earlier)
    (hhead : openBrackets earlier = (token, none) :: outer) :
    Traced (.marked token mark :: earlier) := by
  have hopen : openBrackets (.marked token mark :: earlier) = (token, some mark) :: outer := by
    rw [openBrackets_marked, hhead, List.modifyHead_cons]
  obtain ⟨hfirst, hnodup, houter⟩ := htraced.innermost hhead
  have hstay : ∀ {bracket}, bracket ∈ outer → bracket ∈ openBrackets earlier := fun hmem =>
    hhead ▸ List.mem_cons_of_mem _ hmem
  refine ⟨fun bracket hmem => ?_, ?_, fun other hother => ?_, fun other hmem => ?_,
    fun other mark' hmem => ?_, fun other hopened hout => ?_⟩
  · rw [hopen] at hmem
    rcases List.mem_cons.1 hmem with rfl | hmem
    · exact List.mem_cons_of_mem _ hfirst
    · exact List.mem_cons_of_mem _ (htraced.opened bracket (hstay hmem))
  · rw [hopen]
    refine List.nodup_cons.2 ⟨fun hmem => ?_, hnodup⟩
    obtain ⟨bracket, hbracket, hsame⟩ := List.mem_map.1 hmem
    exact houter hbracket hsame.symm
  · have hmissing : .opened other ∉ earlier := fun hmem => hother (List.mem_cons_of_mem _ hmem)
    have hne : token ≠ other := fun h => hmissing (h ▸ hfirst)
    refine Eq.trans (about_cons_of_ne hne) ?_
    exact htraced.never other hmissing
  · rw [hopen] at hmem
    have hmem := (List.mem_cons.1 hmem).resolve_left fun heq => by cases heq
    refine Eq.trans (about_cons_of_ne (houter hmem)) ?_
    exact htraced.unmarked other (hstay hmem)
  · rw [hopen] at hmem
    rcases List.mem_cons.1 hmem with heq | hmem
    · cases heq
      exact about_cons_self.trans
        (congrArg _ (htraced.unmarked _ (hhead ▸ List.mem_cons_self)))
    · refine Eq.trans (about_cons_of_ne (houter hmem)) ?_
      exact htraced.marked other mark' (hstay hmem)
  · rw [hopen, List.map_cons] at hout
    have hne : token ≠ other := fun h => hout (h ▸ List.mem_cons_self)
    have hopened := (List.mem_cons.1 hopened).resolve_left fun heq => by cases heq
    have hsame : about other (.marked token mark :: earlier) = about other earlier :=
      about_cons_of_ne hne
    rw [hsame]
    refine htraced.closed other hopened ?_
    rw [hhead]
    exact hout

theorem Traced.close {mark : Mark} (htraced : Traced earlier)
    (hhead : openBrackets earlier = (token, some mark) :: outer) :
    Traced (.closed token :: earlier) := by
  have hopen : openBrackets (.closed token :: earlier) = outer := by
    rw [openBrackets_closed, hhead, List.tail_cons]
  obtain ⟨hfirst, hnodup, houter⟩ := htraced.innermost hhead
  have hstay : ∀ {bracket}, bracket ∈ outer → bracket ∈ openBrackets earlier := fun hmem =>
    hhead ▸ List.mem_cons_of_mem _ hmem
  refine ⟨fun bracket hmem => ?_, ?_, fun other hother => ?_, fun other hmem => ?_,
    fun other mark' hmem => ?_, fun other hopened hout => ?_⟩
  · rw [hopen] at hmem
    exact List.mem_cons_of_mem _ (htraced.opened bracket (hstay hmem))
  · rw [hopen]
    exact hnodup
  · have hmissing : .opened other ∉ earlier := fun hmem => hother (List.mem_cons_of_mem _ hmem)
    have hne : token ≠ other := fun h => hmissing (h ▸ hfirst)
    refine Eq.trans (about_cons_of_ne hne) ?_
    exact htraced.never other hmissing
  · rw [hopen] at hmem
    refine Eq.trans (about_cons_of_ne (houter hmem)) ?_
    exact htraced.unmarked other (hstay hmem)
  · rw [hopen] at hmem
    refine Eq.trans (about_cons_of_ne (houter hmem)) ?_
    exact htraced.marked other mark' (hstay hmem)
  · have hopened := (List.mem_cons.1 hopened).resolve_left fun heq => by cases heq
    by_cases hother : token = other
    · subst hother
      exact ⟨mark, about_cons_self.trans
        (congrArg _ (htraced.marked _ mark (hhead ▸ List.mem_cons_self)))⟩
    · have hsame : about other (.closed token :: earlier) = about other earlier :=
        about_cons_of_ne hother
      rw [hsame]
      refine htraced.closed other hopened ?_
      rw [hhead, List.map_cons, ← hopen]
      exact fun hmem => (List.mem_cons.1 hmem).elim (fun h => hother h.symm) hout

theorem traced_of_lawful [LT Token] (hirrefl : ∀ token : Token, ¬ token < token)
    {history : List (BracketEvent Token Mark)} (hlawful : Lawful bracketLaw history) :
    Traced history := by
  induction history with
  | nil =>
    exact {
      opened := fun bracket hmem => by cases hmem
      nodup := List.nodup_nil
      never := fun token _ => rfl
      unmarked := fun token hmem => by cases hmem
      marked := fun token mark hmem => by cases hmem
      closed := fun token hmem => by cases hmem }
  | cons event earlier ih =>
    have htraced := ih hlawful.2
    cases event with
    | opened token => exact htraced.open fun hmem => hirrefl token (hlawful.1 token hmem)
    | marked token mark =>
      obtain ⟨outer, hhead⟩ := List.head?_eq_some_iff.1 hlawful.1
      exact htraced.mark hhead
    | closed token =>
      obtain ⟨mark, hmark⟩ := hlawful.1
      obtain ⟨outer, hhead⟩ := List.head?_eq_some_iff.1 hmark
      exact htraced.close hhead

end Trace

end KeelS2.Lib
