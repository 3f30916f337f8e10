import KeelS2.Platform.ItaniumLayout

/-!
# The primary virtual table

In a layout the candidates of the search are the primary tables of the class that it sees, and the
places behind misleading references to the class's record: the search takes the word before a
reference for an offset to top, also where the reference is one of a record. So it does what it is
for where no record misleads it.
-/

namespace KeelS2.Platform

open Lib Lib.ByteMemory LoadedModule

/-! ## Words of records -/

theorem flatMap_pair_even (bases : List (Nat × Nat)) (index : Nat) :
    (bases.flatMap fun base => [base.1, base.2])[2 * index]? = bases[index]?.map Prod.fst := by
  induction bases generalizing index with
  | nil => simp
  | cons base rest ih =>
    cases index with
    | zero => rfl
    | succ index => exact ih index

theorem flatMap_pair_odd (bases : List (Nat × Nat)) (index : Nat) :
    (bases.flatMap fun base => [base.1, base.2])[2 * index + 1]? =
      bases[index]?.map Prod.snd := by
  induction bases generalizing index with
  | nil => simp
  | cons base rest ih =>
    cases index with
    | zero => rfl
    | succ index => exact ih index

namespace TypeInfo

variable {record : TypeInfo} {index target : Nat}

/-- A reference is a word of the record, and not one of the first two. -/
theorem refers_words (h : record.kind.Refers index target) :
    2 ≤ index ∧ record.words[index]? = some target := by
  obtain ⟨address, vtable, name, mangled, kind⟩ := record
  unfold words
  cases h with
  | singleBase base => exact ⟨Nat.le_refl _, rfl⟩
  | @base flags index target offset bases h =>
    refine ⟨by omega, ?_⟩
    have hindex : 3 + 2 * index = 2 * index + 1 + 1 + 1 := by omega
    rw [hindex]
    change (bases.flatMap fun base => [base.1, base.2])[2 * index]? = _
    rw [flatMap_pair_even, h]
    rfl
  | pointee => exact ⟨by omega, rfl⟩
  | context => exact ⟨by omega, rfl⟩

theorem refers_of_misleads (h : record.kind.Misleads index target) :
    record.kind.Refers index target := by
  obtain ⟨address, vtable, name, mangled, kind⟩ := record
  cases h with
  | pointer => exact .pointee 0 0 target _
  | base hbefore h => exact .base h

theorem misleads_iff (hname : record.name ≠ 0)
    (htargets : ∀ index target, record.kind.Refers index target → target ≠ 0) :
    record.kind.Misleads index target ↔
      record.kind.Refers index target ∧ record.words[index - 1]? = some 0 := by
  obtain ⟨address, vtable, name, mangled, kind⟩ := record
  unfold words
  constructor
  · intro h
    refine ⟨@refers_of_misleads ⟨address, vtable, name, mangled, kind⟩ _ _ h, ?_⟩
    cases h with
    | pointer pointee context => rfl
    | @base flags index before target offset bases hbefore h =>
      have hindex : 3 + 2 * (index + 1) - 1 = 2 * index + 1 + 1 + 1 + 1 := by omega
      rw [hindex]
      change (bases.flatMap fun base => [base.1, base.2])[2 * index + 1]? = _
      rw [flatMap_pair_odd, hbefore]
      rfl
  · rintro ⟨h, hzero⟩
    cases h with
    | singleBase base => exact absurd (Option.some.inj hzero) hname
    | @base flags index target offset bases h =>
      cases index with
      | zero =>
        -- there is a base, so the word of the flags is not zero
        have hpos : 0 < bases.length := (List.getElem?_eq_some_iff.mp h).1
        have hflags : flags + 2 ^ 32 * bases.length = 0 := Option.some.inj hzero
        omega
      | succ index =>
        have hindex : 3 + 2 * (index + 1) - 1 = 2 * index + 1 + 1 + 1 + 1 := by omega
        rw [hindex] at hzero
        change (bases.flatMap fun base => [base.1, base.2])[2 * index + 1]? = _ at hzero
        rw [flatMap_pair_odd] at hzero
        obtain ⟨⟨before, behind⟩, hbefore, rfl⟩ := Option.map_eq_some_iff.mp hzero
        exact .base hbefore h
    | pointee flags padding pointee context =>
      have hflags : flags + 2 ^ 32 * padding = 0 := Option.some.inj hzero
      obtain rfl : flags = 0 := by omega
      obtain rfl : padding = 0 := by omega
      exact .pointer target context
    | context flags padding pointee context =>
      exact absurd (Option.some.inj hzero) (htargets 3 pointee (.pointee flags padding pointee _))

end TypeInfo

/-! ## Names -/

variable {memory : Memory} {place : Nat}

theorem readBytes_getElem {size : Nat} {bytes : List UInt8}
    (h : readBytes memory place size = bytes) {index : Nat} (hindex : index < size) :
    bytes[index]? = some (memory (place + index)) := by
  subst h
  simp [readBytes, hindex]

theorem terminated_le {first second : List UInt8}
    (hfirst : readBytes memory place (first.length + 1) = first ++ [0])
    (hsecond : readBytes memory place (second.length + 1) = second ++ [0])
    (hterminated : 0 ∉ second) : second.length ≤ first.length := by
  by_contra hlt
  rw [Nat.not_le] at hlt
  have hnul := readBytes_getElem hfirst (Nat.lt_succ_self first.length)
  have hbyte := readBytes_getElem hsecond (Nat.lt_succ_of_lt hlt)
  rw [List.getElem?_append_right (Nat.le_refl _), Nat.sub_self] at hnul
  rw [List.getElem?_append_left hlt, ← hnul] at hbyte
  exact hterminated (List.mem_of_getElem? hbyte)

theorem terminated_unique {first second : List UInt8}
    (hfirst : readBytes memory place (first.length + 1) = first ++ [0])
    (hsecond : readBytes memory place (second.length + 1) = second ++ [0]) (hone : 0 ∉ first)
    (hother : 0 ∉ second) : first = second := by
  have hlength : first.length = second.length :=
    Nat.le_antisymm (terminated_le hsecond hfirst hone) (terminated_le hfirst hsecond hother)
  rw [hlength, hsecond] at hfirst
  exact (List.append_cancel_right hfirst).symm

theorem toUInt8_ne_zero {character : Char}
    (h : character.isAlphanum = true ∨ character = '_') : character.toNat.toUInt8 ≠ 0 := by
  have hbounds : 0 < character.toNat ∧ character.toNat < 256 := by
    rcases h with h | rfl
    · change ((decide (65 ≤ character.val ∧ character.val ≤ 90) ||
        (decide (97 ≤ character.val) && decide (character.val ≤ 122))) ||
          (decide (48 ≤ character.val) && decide (character.val ≤ 57))) = true at h
      simp only [Bool.or_eq_true, Bool.and_eq_true, decide_eq_true_eq,
        UInt32.le_iff_toNat_le] at h
      change ((65 ≤ character.toNat ∧ character.toNat ≤ 90) ∨
        (97 ≤ character.toNat ∧ character.toNat ≤ 122)) ∨
          48 ≤ character.toNat ∧ character.toNat ≤ 57 at h
      omega
    · decide
  intro hzero
  have hmod := congrArg UInt8.toNat hzero
  simp at hmod
  omega

theorem exists_decorated {name : Text} (hname : validClassName name = true) :
    ∃ body, decorated name = body ++ [0] ∧ 0 ∉ body := by
  refine ⟨_, rfl, fun hmem => ?_⟩
  obtain ⟨character, hcharacter, hzero⟩ := List.mem_map.mp hmem
  refine toUInt8_ne_zero ?_ hzero
  rcases List.mem_append.mp hcharacter with hdigit | hcharacter
  · have hdigit := Nat.isDigit_of_mem_toDigits (by decide) (by decide) hdigit
    exact .inl (Bool.or_eq_true_iff.2 (.inr hdigit))
  · unfold validClassName at hname
    rw [Bool.and_eq_true, List.all_eq_true] at hname
    simpa using hname.2 character hcharacter

/-! ## The candidates in a layout -/

theorem Placed.word_eq {module : LoadedModule} {address : Nat} {words : List Nat}
    (hplaced : Placed module memory address words) (index : Nat) {value : Nat}
    (hvalue : words[index]? = some value) :
    wordSize ∣ address + index * wordSize ∧
      module.Readable (address + index * wordSize) wordSize ∧
        word memory (address + index * wordSize) = value := by
  have hlt : index < words.length := (List.getElem?_eq_some_iff.mp hvalue).1
  refine ⟨Nat.dvd_add hplaced.aligned ⟨index, Nat.mul_comm _ _⟩,
    hplaced.readable.part (Nat.le_add_right _ _) ?_, hplaced.holds index value hvalue⟩
  unfold wordSize
  omega

namespace Layout

variable {layout : Layout} {module : LoadedModule} {memory : Memory} {name : Text}
variable {entryCount place : Nat}

theorem Describes.records_iff (hlayout : layout.Describes module memory)
    (hname : validClassName name = true) (typeInfo : Nat) :
    module.Records memory name typeInfo ↔
      ∃ record ∈ layout.typeInfos, record.IsOf name ∧ record.Seen module ∧
        typeInfo = record.address := by
  obtain ⟨body, hbody, hterminated⟩ := exists_decorated hname
  constructor
  · intro hrecords
    have hplace : wordSize ∣ typeInfo + wordSize :=
      Nat.dvd_add hrecords.aligned (Nat.dvd_refl _)
    obtain ⟨record, hrecord, haddress⟩ := hlayout.names _ hplace hrecords.reference.readable
      ⟨name, hname, hrecords.searchable.readable, hrecords.named⟩
    obtain rfl : typeInfo = record.address := by omega
    have hstands := hlayout.typeInfos record hrecord
    have hnamed : word memory (record.address + wordSize) = record.name := by
      have hword := hstands.placed.holds 1 record.name rfl
      rwa [Nat.one_mul] at hword
    have hat := hrecords.named
    have hsearchable := hrecords.searchable
    rw [hnamed] at hat hsearchable
    rw [hbody, List.length_append] at hat
    have hmangled : record.mangled = body :=
      terminated_unique hstands.named hat hstands.terminated hterminated
    refine ⟨record, hrecord, ?_, ⟨?_, hrecords.reference⟩, rfl⟩
    · unfold TypeInfo.IsOf
      rw [hmangled, hbody]
    · rw [hmangled]
      rwa [hbody, List.length_append] at hsearchable
  · rintro ⟨record, hrecord, hof, hseen, rfl⟩
    have hstands := hlayout.typeInfos record hrecord
    obtain ⟨haligned, hreadable, hvtable⟩ := hstands.placed.word_eq 0 rfl
    obtain ⟨-, -, hnamed⟩ := hstands.placed.word_eq 1 rfl
    rw [Nat.zero_mul, Nat.add_zero] at haligned hreadable hvtable
    rw [Nat.one_mul] at hnamed
    have hlength : (decorated name).length = record.mangled.length + 1 := by
      rw [← hof, List.length_append]
      rfl
    refine ⟨haligned, hreadable, ?_, hseen.reference, ?_, ?_⟩
    · rw [hvtable]
      exact hstands.vtable
    · rw [hnamed, hlength]
      exact hseen.name
    · rw [hnamed, hlength, hstands.named]
      exact hof

/-- What the search takes for a reference from a table is one from a primary table, or a misleading
one. -/
theorem Describes.references_iff (hlayout : layout.Describes module memory) {record : TypeInfo}
    (hrecord : record ∈ layout.typeInfos) (reference : Nat) :
    module.References memory record.address reference ↔
      module.Searchable reference wordSize ∧
        ((∃ table ∈ layout.vtables, table.typeInfo = record.address ∧ table.offsetToTop = 0 ∧
          reference = table.address + wordSize) ∨
        ∃ other ∈ layout.typeInfos, ∃ index, other.kind.Misleads index record.address ∧
          reference = other.address + index * wordSize) := by
  constructor
  · intro h
    refine ⟨h.searchable, ?_⟩
    have hzero := h.offsetToTop
    rcases hlayout.references reference h.aligned h.searchable.readable record hrecord h.refers
      with ⟨table, htable, rfl⟩ | ⟨other, hother, index, hrefers, rfl⟩
    · left
      obtain ⟨-, -, hoffset⟩ := (hlayout.vtables table htable).word_eq 0 rfl
      obtain ⟨-, -, hrefers⟩ := (hlayout.vtables table htable).word_eq 1 rfl
      rw [Nat.zero_mul, Nat.add_zero] at hoffset
      rw [Nat.one_mul] at hrefers
      rw [Nat.add_sub_cancel, hoffset] at hzero
      exact ⟨table, htable, hrefers.symm.trans h.refers, hzero, rfl⟩
    · right
      have hstands := hlayout.typeInfos other hother
      obtain ⟨hindex, htarget⟩ := TypeInfo.refers_words hrefers
      have hlt : index < other.words.length := (List.getElem?_eq_some_iff.mp htarget).1
      have hbefore : other.words[index - 1]? = some 0 := by
        have hvalue := List.getElem?_eq_getElem (l := other.words) (i := index - 1) (by omega)
        obtain ⟨-, -, hword⟩ := hstands.placed.word_eq (index - 1) hvalue
        have hplace : other.address + index * wordSize - wordSize =
            other.address + (index - 1) * wordSize := by
          unfold wordSize
          omega
        rw [hplace, hword] at hzero
        rw [hvalue, hzero]
      exact ⟨other, hother, index,
        (TypeInfo.misleads_iff hstands.name hstands.targets).mpr ⟨hrefers, hbefore⟩, rfl⟩
  · rintro ⟨hsearchable, ⟨table, htable, hrefers, hoffset, rfl⟩ |
      ⟨other, hother, index, hmisleads, rfl⟩⟩
    · have hplaced := hlayout.vtables table htable
      obtain ⟨-, hreadable, hzero⟩ := hplaced.word_eq 0 rfl
      obtain ⟨haligned, -, hword⟩ := hplaced.word_eq 1 rfl
      rw [Nat.zero_mul, Nat.add_zero] at hreadable hzero
      rw [Nat.one_mul] at haligned hword
      refine ⟨haligned, hsearchable, hword.trans hrefers, Nat.le_add_left _ _, ?_, ?_⟩
      · rwa [Nat.add_sub_cancel]
      · rw [Nat.add_sub_cancel]
        exact hzero.trans hoffset
    · have hstands := hlayout.typeInfos other hother
      obtain ⟨hrefers, hbefore⟩ :=
        (TypeInfo.misleads_iff hstands.name hstands.targets).mp hmisleads
      obtain ⟨hindex, htarget⟩ := TypeInfo.refers_words hrefers
      obtain ⟨haligned, -, hword⟩ := hstands.placed.word_eq index htarget
      obtain ⟨-, hreadable, hzero⟩ := hstands.placed.word_eq (index - 1) hbefore
      have hplace : other.address + index * wordSize - wordSize =
          other.address + (index - 1) * wordSize := by
        unfold wordSize
        omega
      refine ⟨haligned, hsearchable, hword, ?_, ?_, ?_⟩
      · unfold wordSize
        omega
      · rwa [hplace]
      · rwa [hplace]

theorem Describes.candidate_iff (hlayout : layout.Describes module memory)
    (hname : validClassName name = true) :
    module.Candidate memory name entryCount place ↔
      layout.Seen module name entryCount place ∨ layout.Misled module name entryCount place := by
  unfold Candidate
  constructor
  · rintro ⟨⟨typeInfo, reference, hrecords, hreferences, rfl⟩, hreadable⟩
    obtain ⟨record, hrecord, hof, hseen, rfl⟩ := (hlayout.records_iff hname typeInfo).mp hrecords
    obtain ⟨hsearchable, hwhere⟩ := (hlayout.references_iff hrecord reference).mp hreferences
    rcases hwhere with ⟨table, htable, hrefers, hoffset, rfl⟩ |
      ⟨other, hother, index, hmisleads, rfl⟩
    · left
      exact ⟨table, htable, record, hrecord, hof, hrefers, hoffset, by
        unfold Vtable.addressPoint
        omega, hreadable, hseen, hsearchable⟩
    · right
      exact ⟨record, hrecord, hof, hseen, other, hother, index, hmisleads, hsearchable, rfl,
        hreadable⟩
  · rintro (⟨table, htable, record, hrecord, hof, hrefers, hoffset, rfl, hreadable, hseen,
      hsearchable⟩ | ⟨record, hrecord, hof, hseen, other, hother, index, hmisleads,
        hsearchable, rfl,
      hreadable⟩)
    · refine ⟨⟨record.address, table.address + wordSize,
        (hlayout.records_iff hname _).mpr ⟨record, hrecord, hof, hseen, rfl⟩,
        (hlayout.references_iff hrecord _).mpr
          ⟨hsearchable, .inl ⟨table, htable, hrefers, hoffset, rfl⟩⟩, ?_⟩, hreadable⟩
      unfold Vtable.addressPoint
      omega
    · exact ⟨⟨record.address, other.address + index * wordSize,
        (hlayout.records_iff hname _).mpr ⟨record, hrecord, hof, hseen, rfl⟩,
        (hlayout.references_iff hrecord _).mpr
          ⟨hsearchable, .inr ⟨other, hother, index, hmisleads, rfl⟩⟩, rfl⟩, hreadable⟩

/-! ## The law -/

theorem Primary.not_stray (hlayout : layout.Describes module memory)
    (hprimary : layout.Primary module name entryCount place) : ¬ layout.Stray place := by
  obtain ⟨table, htable, -, -, -, -, hoffset, rfl, -⟩ := hprimary
  have hlength : 3 ≤ table.words.length := by
    have hpos : 0 < table.functions.length := List.length_pos_iff.mpr table.nonempty
    change 3 ≤ table.functions.length + 2
    omega
  unfold Vtable.addressPoint
  rintro (⟨record, hrecord, hfirst, hlast⟩ | ⟨other, hother, hsecondary, hfirst, hlast⟩)
  · have hapart := hlayout.apart record hrecord table htable
    unfold Apart wordSize at *
    omega
  · have hne : other ≠ table := by
      rintro rfl
      exact hsecondary hoffset
    have hapart := hlayout.tablesApart other hother table htable hne
    unfold Apart wordSize at *
    omega

theorem Misled.not_primary (hlayout : layout.Describes module memory)
    (hmisled : layout.Misled module name entryCount place) :
    ¬ layout.Primary module name entryCount place := by
  obtain ⟨record, -, -, -, other, hother, index, hmisleads, -, rfl, -⟩ := hmisled
  rintro ⟨table, htable, -, -, -, -, -, hplace, -⟩
  obtain ⟨-, htarget⟩ := TypeInfo.refers_words (TypeInfo.refers_of_misleads hmisleads)
  have hlt : index < other.words.length := (List.getElem?_eq_some_iff.mp htarget).1
  have hapart := hlayout.apart other hother table htable
  have hlength : 2 ≤ table.words.length := by
    change 2 ≤ table.functions.length + 2
    omega
  unfold Vtable.addressPoint at hplace
  unfold Apart wordSize at *
  omega

end Layout

/-- At most one place. -/
def AtMostOne (places : Nat → Prop) : Prop :=
  ∀ place other, places place → places other → place = other

/-- What is asked of an answer: the one primary table with the entries is found, where there is none
it is not found, and no place in a record or in a secondary table is ever given back. -/
structure VtableAnswer.Lawful (answer : VtableAnswer) (layout : Layout) (module : LoadedModule)
    (name : Text) (entryCount : Nat) : Prop where
  found : ∀ place, layout.Primary module name entryCount place →
    (∀ other, layout.Primary module name entryCount other → other = place) →
      answer.lookup = .found ∧ answer.table = some place
  notFound : (∀ place, ¬ layout.Primary module name entryCount place) → answer.lookup = .notFound
  never : ∀ place, answer.lookup = .found → answer.table = some place → ¬ layout.Stray place

/-- Where there is one primary table at most, the request is valid, the search sees the table and no
record misleads it. Where there are several and it sees none of them, it is not misled to one
single place in a record or in a secondary table. -/
structure Layout.Clear (layout : Layout) (module : LoadedModule) (name : Text)
    (entryCount : Nat) : Prop where
  one : AtMostOne (layout.Primary module name entryCount) →
    module.ValidRequest name entryCount ∧
      (∀ place, layout.Primary module name entryCount place →
        layout.Seen module name entryCount place) ∧
      ∀ place, ¬ layout.Misled module name entryCount place
  several : ¬ AtMostOne (layout.Primary module name entryCount) →
    module.ValidRequest name entryCount →
      (∀ place, ¬ layout.Seen module name entryCount place) →
        ∀ place, layout.Misled module name entryCount place →
          (∀ other, layout.Misled module name entryCount other → other = place) →
            ¬ layout.Stray place

section Law

variable {layout : Layout} {module : LoadedModule} {memory : Memory} {name : Text}
variable {entryCount : Nat} {answer : VtableAnswer}

theorem lawful_of_clear (hlayout : layout.Describes module memory)
    (hfollows : module.ValidRequest name entryCount →
      answer.Follows (module.Candidate memory name entryCount))
    (hfailed : ¬ module.ValidRequest name entryCount → answer.lookup = .failed)
    (hclear : layout.Clear module name entryCount) :
    answer.Lawful layout module name entryCount where
  found place hprimary hunique := by
    have hone : AtMostOne (layout.Primary module name entryCount) := fun p q hp hq =>
      (hunique p hp).trans (hunique q hq).symm
    obtain ⟨hvalid, hseen, hmisled⟩ := hclear.one hone
    refine ((hfollows hvalid).found place).mpr ⟨?_, fun other hother => ?_⟩
    · exact (hlayout.candidate_iff hvalid.name).mpr (.inl (hseen place hprimary))
    · rcases (hlayout.candidate_iff hvalid.name).mp hother with hsees | hmisleads
      · exact hunique other hsees.primary
      · exact absurd hmisleads (hmisled other)
  notFound hnone := by
    have hone : AtMostOne (layout.Primary module name entryCount) := fun p _ hp _ =>
      absurd hp (hnone p)
    obtain ⟨hvalid, -, hmisled⟩ := hclear.one hone
    refine (hfollows hvalid).notFound.mpr fun place hplace => ?_
    rcases (hlayout.candidate_iff hvalid.name).mp hplace with hsees | hmisleads
    · exact hnone place hsees.primary
    · exact hmisled place hmisleads
  never place hlookup htable := by
    have hvalid : module.ValidRequest name entryCount := by
      by_contra hinvalid
      rw [hfailed hinvalid] at hlookup
      cases hlookup
    obtain ⟨hplace, hunique⟩ := ((hfollows hvalid).found place).mp ⟨hlookup, htable⟩
    rcases (hlayout.candidate_iff hvalid.name).mp hplace with hsees | hmisleads
    · exact hsees.primary.not_stray hlayout
    · by_cases hone : AtMostOne (layout.Primary module name entryCount)
      · exact absurd hmisleads ((hclear.one hone).2.2 place)
      · refine hclear.several hone hvalid (fun other hsees => ?_) place hmisleads
          (fun other hother => hunique other
            ((hlayout.candidate_iff hvalid.name).mpr (.inr hother)))
        have heq := hunique other ((hlayout.candidate_iff hvalid.name).mpr (.inl hsees))
        exact hmisleads.not_primary hlayout (heq ▸ hsees.primary)

/-- And only an answer of a clear layout is. -/
theorem clear_of_lawful (hlayout : layout.Describes module memory)
    (hfollows : module.ValidRequest name entryCount →
      answer.Follows (module.Candidate memory name entryCount))
    (hfailed : ¬ module.ValidRequest name entryCount → answer.lookup = .failed)
    (hlawful : answer.Lawful layout module name entryCount) :
    layout.Clear module name entryCount where
  one hone := by
    have hvalid : module.ValidRequest name entryCount := by
      by_contra hinvalid
      have hlookup := hfailed hinvalid
      by_cases hnone : ∀ place, ¬ layout.Primary module name entryCount place
      · rw [hlawful.notFound hnone] at hlookup
        cases hlookup
      · rw [not_forall_not] at hnone
        obtain ⟨place, hplace⟩ := hnone
        rw [(hlawful.found place hplace fun other hother => hone _ _ hother hplace).1] at hlookup
        cases hlookup
    refine ⟨hvalid, fun place hplace => ?_, fun place hmisleads => ?_⟩
    · have hfound := hlawful.found place hplace fun other hother => hone _ _ hother hplace
      obtain ⟨hcandidate, -⟩ := ((hfollows hvalid).found place).mp hfound
      rcases (hlayout.candidate_iff hvalid.name).mp hcandidate with hsees | hmisleads
      · exact hsees
      · exact absurd hplace (hmisleads.not_primary hlayout)
    · have hcandidate := (hlayout.candidate_iff hvalid.name).mpr (.inr hmisleads)
      by_cases hnone : ∀ place, ¬ layout.Primary module name entryCount place
      · exact (hfollows hvalid).notFound.mp (hlawful.notFound hnone) place hcandidate
      · rw [not_forall_not] at hnone
        obtain ⟨other, hother⟩ := hnone
        have hfound := hlawful.found other hother fun third hthird => hone _ _ hthird hother
        obtain ⟨-, hunique⟩ := ((hfollows hvalid).found other).mp hfound
        exact hmisleads.not_primary hlayout (hunique place hcandidate ▸ hother)
  several _ hvalid hunseen place hmisleads hunique := by
    have hfound : answer.lookup = .found ∧ answer.table = some place := by
      refine ((hfollows hvalid).found place).mpr ⟨?_, fun other hother => ?_⟩
      · exact (hlayout.candidate_iff hvalid.name).mpr (.inr hmisleads)
      · rcases (hlayout.candidate_iff hvalid.name).mp hother with hsees | hother
        · exact absurd hsees (hunseen other)
        · exact hunique other hother
    exact hlawful.never place hfound.1 hfound.2

end Law

/-- Whatever the memory, the search comes to an end and reads no byte outside the readable ranges;
where the memory is a layout, its answer is lawful if and only if the layout is clear. -/
theorem findPrimaryVtable_lawful_iff (module : LoadedModule) (memory : Memory) (name : Text)
    (entryCount : Nat) :
    ∃ answer, module.findPrimaryVtable memory name entryCount = some answer ∧
      ∀ layout : Layout, layout.Describes module memory →
        (answer.Lawful layout module name entryCount ↔ layout.Clear module name entryCount) := by
  obtain ⟨answer, hanswer, hfollows, hfailed⟩ :=
    findPrimaryVtable_spec module memory name entryCount
  exact ⟨answer, hanswer, fun layout hlayout =>
    ⟨clear_of_lawful hlayout hfollows hfailed, lawful_of_clear hlayout hfollows hfailed⟩⟩

/-! ### A pointer to the class -/

theorem placed_holds {address : Nat} {words : List Nat}
    (h : (List.range words.length).map (fun index => word memory (address + index * wordSize)) =
      words)
    (index value : Nat) (hvalue : words[index]? = some value) :
    word memory (address + index * wordSize) = value := by
  rw [← h] at hvalue
  obtain ⟨other, hother, hword⟩ := List.mem_map.mp (List.mem_of_getElem? hvalue)
  have hlt : index < words.length := by
    have hbound := (List.getElem?_eq_some_iff.mp hvalue).1
    simpa using hbound
  rw [List.getElem?_map, List.getElem?_range hlt] at hvalue
  exact Option.some.inj hvalue

theorem ClassNameAt.digit {module : LoadedModule} (h : ClassNameAt module memory place) :
    48 ≤ memory place ∧ memory place ≤ 57 := by
  obtain ⟨name, -, -, hname⟩ := h
  cases hdigits : Nat.toDigits 10 name.length with
  | nil => exact absurd hdigits Nat.toDigits_ne_nil
  | cons digit rest =>
    have hdigit : digit.isDigit = true :=
      Nat.isDigit_of_mem_toDigits (by decide) (by decide) (hdigits ▸ List.mem_cons_self)
    have hbounds : 48 ≤ digit.toNat ∧ digit.toNat ≤ 57 := by
      simpa [Char.isDigit, UInt32.le_iff_toNat_le] using hdigit
    have hpos : 0 < (decorated name).length := List.length_pos_iff.mpr (decorated_ne_nil name)
    have hfirst := readBytes_getElem hname hpos
    unfold decorated at hfirst
    rw [hdigits] at hfirst
    have hbyte : digit.toNat.toUInt8 = memory place := Option.some.inj hfirst
    rw [← hbyte, UInt8.le_iff_toNat_le, UInt8.le_iff_toNat_le]
    have hsmall : digit.toNat.toUInt8.toNat = digit.toNat := by
      simp
      omega
    rw [hsmall]
    exact hbounds

/-- One range, which is searched. -/
def pointedModule : LoadedModule := ⟨[⟨64, 88, true, false, by decide⟩]⟩

/-- The names of `C` and of a pointer to it, their two records and the table of `C`. The pointer is
one to a `const C` where it is qualified. -/
def pointedMemory (qualified : Bool) : Memory := fun place =>
  if place < 64 then 0
  else
    [49, 67, 0, 0, 0, 0, 0, 0, 80, 49, 67, 0, 0, 0, 0, 0,
      1, 0, 0, 0, 0, 0, 0, 0, 64, 0, 0, 0, 0, 0, 0, 0,
      1, 0, 0, 0, 0, 0, 0, 0, 72, 0, 0, 0, 0, 0, 0, 0,
      if qualified then 1 else 0, 0, 0, 0, 0, 0, 0, 0, 80, 0, 0, 0, 0, 0, 0, 0,
      0, 0, 0, 0, 0, 0, 0, 0, 80, 0, 0, 0, 0, 0, 0, 0,
      1, 0, 0, 0, 0, 0, 0, 0].getD (place - 64) 0

def classRecord : TypeInfo := ⟨80, 1, 64, [49, 67], .classType⟩

def pointerRecord (qualified : Bool) : TypeInfo :=
  ⟨96, 1, 72, [80, 49, 67], .pointer qualified.toNat 0 80 none⟩

def classTable : Vtable := ⟨128, 0, 80, [1], by decide⟩

def pointedLayout (qualified : Bool) : Layout :=
  ⟨[classRecord, pointerRecord qualified], [classTable]⟩

theorem pointed_readable {size : Nat} (hfirst : 64 ≤ place) (hlast : place + size ≤ 152) :
    pointedModule.Readable place size :=
  ⟨_, List.mem_singleton_self _, rfl, hfirst, hlast⟩

theorem pointed_word (haligned : wordSize ∣ place)
    (hreadable : pointedModule.Readable place wordSize) : ∃ index < 11, place = 64 + index * 8 := by
  obtain ⟨range, hrange, -, hfirst, hlast⟩ := hreadable
  obtain rfl := List.mem_singleton.mp hrange
  have hfirst : 64 ≤ place := hfirst
  have hlast : place + 8 ≤ 152 := hlast
  unfold wordSize at haligned
  exact ⟨(place - 64) / 8, by omega, by omega⟩

theorem classRecord_stands (qualified : Bool) :
    classRecord.Stands pointedModule (pointedMemory qualified) where
  placed := ⟨by decide, pointed_readable (by decide) (by decide),
    placed_holds (by cases qualified <;> decide)⟩
  vtable := by decide
  name := by decide
  targets := by rintro index target ⟨⟩
  terminated := by decide
  readable := pointed_readable (by decide) (by decide)
  named := by cases qualified <;> decide

theorem pointerRecord_stands (qualified : Bool) :
    (pointerRecord qualified).Stands pointedModule (pointedMemory qualified) where
  placed := ⟨by decide +revert, pointed_readable (by decide +revert) (by decide +revert),
    placed_holds (by cases qualified <;> decide)⟩
  vtable := by decide +revert
  name := by decide +revert
  targets := by
    rintro index target ⟨⟩
    decide
  terminated := by decide +revert
  readable := pointed_readable (by decide +revert) (by decide +revert)
  named := by cases qualified <;> decide

theorem pointed_describes (qualified : Bool) :
    (pointedLayout qualified).Describes pointedModule (pointedMemory qualified) where
  typeInfos record hrecord := by
    rcases List.mem_cons.mp hrecord with rfl | hrecord
    · exact classRecord_stands qualified
    · obtain rfl := List.mem_singleton.mp hrecord
      exact pointerRecord_stands qualified
  vtables table htable := by
    obtain rfl := List.mem_singleton.mp htable
    exact ⟨by decide, pointed_readable (by decide) (by decide),
      placed_holds (by cases qualified <;> decide)⟩
  apart record hrecord table htable := by
    obtain rfl := List.mem_singleton.mp htable
    unfold Apart
    rcases List.mem_cons.mp hrecord with rfl | hrecord
    · decide
    · obtain rfl := List.mem_singleton.mp hrecord
      cases qualified <;> decide
  tablesApart table htable other hother hne := by
    rw [List.mem_singleton.mp htable, List.mem_singleton.mp hother] at hne
    exact absurd rfl hne
  names place haligned hreadable hname := by
    obtain ⟨index, hindex, rfl⟩ := pointed_word haligned hreadable
    have hnames : ∀ index < 11,
        48 ≤ pointedMemory qualified (word (pointedMemory qualified) (64 + index * 8)) ∧
          pointedMemory qualified (word (pointedMemory qualified) (64 + index * 8)) ≤ 57 →
            index = 3 := by
      cases qualified <;> decide
    obtain rfl := hnames index hindex hname.digit
    exact ⟨classRecord, List.mem_cons_self, rfl⟩
  references place haligned hreadable record hrecord hword := by
    obtain ⟨index, hindex, rfl⟩ := pointed_word haligned hreadable
    have hreferences : ∀ index < 11,
        (word (pointedMemory qualified) (64 + index * 8) = 80 → index = 7 ∨ index = 9) ∧
          word (pointedMemory qualified) (64 + index * 8) ≠ 96 := by
      cases qualified <;> decide
    rcases List.mem_cons.mp hrecord with rfl | hrecord
    · rcases (hreferences index hindex).1 hword with rfl | rfl
      · exact .inr ⟨pointerRecord qualified, List.mem_cons_of_mem _ (List.mem_singleton_self _), 3,
          .pointee _ _ _ _, rfl⟩
      · exact .inl ⟨classTable, List.mem_singleton_self _, rfl⟩
    · obtain rfl := List.mem_singleton.mp hrecord
      exact absurd hword (hreferences index hindex).2

theorem pointed_primary (qualified : Bool) (place : Nat) :
    (pointedLayout qualified).Primary pointedModule ['C'] 1 place ↔ place = 144 := by
  constructor
  · rintro ⟨table, htable, -, -, -, -, -, rfl, -⟩
    obtain rfl := List.mem_singleton.mp htable
    rfl
  · rintro rfl
    exact ⟨classTable, List.mem_singleton_self _, classRecord, List.mem_cons_self, by
      unfold TypeInfo.IsOf
      decide, rfl, rfl, rfl, pointed_readable (by decide) (by decide)⟩

/-- With a record of a plain pointer to the class in the module its one table is not found. -/
theorem findPrimaryVtable_misled :
    (pointedLayout false).Describes pointedModule (pointedMemory false) ∧
      (pointedModule.findPrimaryVtable (pointedMemory false) ['C'] 1).map VtableAnswer.lookup =
        some .ambiguous ∧
      ∀ answer, pointedModule.findPrimaryVtable (pointedMemory false) ['C'] 1 = some answer →
        ¬ answer.Lawful (pointedLayout false) pointedModule ['C'] 1 := by
  have hlookup : (pointedModule.findPrimaryVtable (pointedMemory false) ['C'] 1).map
      VtableAnswer.lookup = some .ambiguous := by
    decide +kernel
  refine ⟨pointed_describes false, hlookup, fun answer hanswer hlawful => ?_⟩
  have hfound := (hlawful.found 144 ((pointed_primary false 144).mpr rfl) fun other hother =>
    (pointed_primary false other).mp hother).1
  rw [hanswer, Option.map_some, hfound] at hlookup
  cases hlookup

/-- With a pointer to a constant there is nothing that misleads. -/
theorem findPrimaryVtable_lawful_qualified :
    ∃ answer, pointedModule.findPrimaryVtable (pointedMemory true) ['C'] 1 = some answer ∧
      answer.Lawful (pointedLayout true) pointedModule ['C'] 1 := by
  obtain ⟨answer, hanswer, hiff⟩ :=
    findPrimaryVtable_lawful_iff pointedModule (pointedMemory true) ['C'] 1
  refine ⟨answer, hanswer, (hiff (pointedLayout true) (pointed_describes true)).mpr ?_⟩
  have hsearchable : ∀ place size, 64 ≤ place → place + size ≤ 152 →
      pointedModule.Searchable place size := fun place size hfirst hlast =>
    ⟨_, List.mem_singleton_self _, rfl, rfl, hfirst, hlast⟩
  have hone : AtMostOne ((pointedLayout true).Primary pointedModule ['C'] 1) := fun p q hp hq =>
    ((pointed_primary true p).mp hp).trans ((pointed_primary true q).mp hq).symm
  refine ⟨fun _ => ⟨⟨by decide, by decide, List.cons_ne_nil _ _⟩, ?_, ?_⟩,
    fun hseveral => absurd hone hseveral⟩
  · rintro place ⟨table, htable, record, hrecord, hof, hrefers, hoffset, hplace, hreadable⟩
    obtain rfl := List.mem_singleton.mp htable
    refine ⟨classTable, htable, record, hrecord, hof, hrefers, hoffset, hplace, hreadable, ?_,
      hsearchable _ _ (by decide) (by decide)⟩
    rcases List.mem_cons.mp hrecord with rfl | hrecord
    · exact ⟨hsearchable _ _ (by decide) (by decide), hsearchable _ _ (by decide) (by decide)⟩
    · obtain rfl := List.mem_singleton.mp hrecord
      cases hrefers
  · rintro place ⟨record, -, -, -, other, hother, index, hmisleads, -⟩
    rcases List.mem_cons.mp hother with rfl | hother
    · cases hmisleads
    · obtain rfl := List.mem_singleton.mp hother
      cases hmisleads

end KeelS2.Platform
