import KeelS2.Plugins.StartOrder

/-!
# The order in which plugins are discovered

`LoadPlugins` and `RefreshPlugins` discover a list of files one after the other and then start
what they have found. A file is what becomes of it, what its plugin says of itself and what the
plugin's calls answer. As long as no two of the plugins go by one name, `fileStep` says which of
them are loaded without a look at their order.
-/

namespace KeelS2.Plugins

structure PluginFile where
  filename : Text
  image : Image
  query : Query
  answers : Call → Answer

namespace PluginFile

/-- The plugin was opened, and has said what it is. -/
def described (file : PluginFile) : Bool :=
  file.image = .opened && file.query.succeeded && file.query.manifestSucceeded &&
    file.query.compatible

def dependsOnItself (file : PluginFile) : Bool :=
  file.query.dependencies.any fun dependency =>
    equalInsensitive dependency.name file.query.name

end PluginFile

/-- No two of the plugins go by one name. -/
def NamedApart (files : List PluginFile) : Prop :=
  files.Pairwise fun first second => first.described = true → second.described = true →
    equalInsensitive first.query.name second.query.name = false

namespace Host

/-- `DiscoverPlugin` with nothing in between, and what it appends to the list of those found. -/
def discover (state : Host × List KeelPluginHandle) (file : PluginFile) :
    Host × List KeelPluginHandle :=
  match state.1.beginDiscover file.filename file.image with
  | (host, none) => (host, state.2)
  | (host, some handle) =>
    (if file.image = .opened then host.finishDiscover handle file.query else host,
      state.2 ++ [handle])

/-- The loop of `LoadPlugins`. -/
def discoverAll (host : Host) (files : List PluginFile) : Host × List KeelPluginHandle :=
  files.foldl discover (host, [])

/-- What the plugins' calls answer, their handles being given out from `first` on. -/
def answersOf (first : KeelPluginHandle) (files : List PluginFile) (handle : KeelPluginHandle) :
    Call → Answer :=
  match files[handle - first]? with
  | some file => file.answers
  | none => fun _ => ⟨.ok, false, true, false⟩

/-- `LoadPlugins`: what is found is started. -/
def loadFiles (gameThread : Bool) (fuel : Nat) (host : Host) (files : List PluginFile) :
    Option (Host × List KeelPluginHandle) :=
  startDiscoveredPlugins (answersOf host.nextPlugin files) gameThread (host.discoverAll files).2
    fuel (host.discoverAll files).1 []

/-- Those of the files whose plugins are loaded. -/
def loadedFiles (host : Host) (first : KeelPluginHandle) (files : List PluginFile) :
    Set PluginFile :=
  {file | ∃ handle, (file, handle) ∈ files.zipIdx first ∧ host.stateOf handle = some .loaded}

/-- The record that a file gets. -/
def recordOf (host : Host) (handle : KeelPluginHandle) (file : PluginFile) : PluginRecord :=
  if file.image = .opened then
    host.describe handle file.query (discovered handle file.filename file.image)
  else discovered handle file.filename file.image

/-- A file's plugin loads: it goes by a name that was not taken, its load callback agrees, and
each dependency is a plugin that ran before, or is among `loaded`. -/
def FileLoads (base : Host) (files : List PluginFile) (loaded : Set PluginFile)
    (file : PluginFile) : Prop :=
  file ∈ files ∧ file.described = true ∧ file.dependsOnItself = false ∧
    dependencyTarget base.plugins file.query.name = none ∧
    (file.answers .load).agreed = true ∧
    ∀ dependency ∈ file.query.dependencies,
      match dependencyTarget base.plugins dependency.name with
      | some target =>
        dependencyVersionMatches target.version dependency = true ∧ target.state = .loaded
      | none => ∃ other ∈ loaded, equalInsensitive other.query.name dependency.name = true ∧
        dependencyVersionMatches other.query.version dependency = true

def fileStep (base : Host) (files : List PluginFile) : Set PluginFile →o Set PluginFile where
  toFun loaded := {file | FileLoads base files loaded file}
  monotone' := by
    intro loaded more hsub file ⟨hmem, hdescribed, hitself, hname, hagreed, htargets⟩
    refine ⟨hmem, hdescribed, hitself, hname, hagreed, fun dependency hdependency => ?_⟩
    have htarget := htargets dependency hdependency
    cases hbase : dependencyTarget base.plugins dependency.name with
    | some target => simpa [hbase] using htarget
    | none =>
      simp only [hbase] at htarget ⊢
      obtain ⟨other, hother, hmeets⟩ := htarget
      exact ⟨other, hsub hother, hmeets⟩

variable {base host after : Host} {handle other : KeelPluginHandle} {file : PluginFile}
variable {files : List PluginFile} {found : List KeelPluginHandle} {plugin : PluginRecord}

/-! ## One file -/

theorem describe_congr {query : Query}
    (hduplicate : query.succeeded = true → query.manifestSucceeded = true →
      query.compatible = true →
        after.duplicate handle query.name = host.duplicate handle query.name)
    (plugin : PluginRecord) :
    after.describe handle query plugin = host.describe handle query plugin := by
  unfold describe
  by_cases hgood : (!query.succeeded || !query.manifestSucceeded || !query.compatible) = true
  · rw [if_pos hgood, if_pos hgood]
  · rw [if_neg hgood, if_neg hgood]
    simp only [Bool.or_eq_true, Bool.not_eq_true', not_or, Bool.not_eq_false] at hgood
    rw [hduplicate hgood.1.1 hgood.1.2 hgood.2]

theorem recordOf_handle (host : Host) (handle : KeelPluginHandle) (file : PluginFile) :
    (host.recordOf handle file).handle = handle := by
  have hrecord : ∀ image, (discovered handle file.filename image).handle = handle := by
    intro image
    cases image <;> rfl
  unfold recordOf
  split
  · rw [(describe_same host file.query _).1]
    exact hrecord file.image
  · exact hrecord file.image

theorem recordOf_described (host : Host) (handle : KeelPluginHandle)
    (hdescribed : file.described = true) :
    (host.recordOf handle file).name = file.query.name ∧
      (host.recordOf handle file).version = file.query.version ∧
      (host.recordOf handle file).dependencies = file.query.dependencies ∧
      ((host.recordOf handle file).state = .loading ↔
        file.dependsOnItself = false ∧ host.duplicate handle file.query.name = none) ∧
      ((host.recordOf handle file).selectable = true ↔
        file.dependsOnItself = true ∨ host.duplicate handle file.query.name = none) := by
  simp only [PluginFile.described, Bool.and_eq_true, decide_eq_true_eq] at hdescribed
  obtain ⟨⟨⟨himage, hsucceeded⟩, hmanifest⟩, hcompatible⟩ := hdescribed
  have hgood : (!file.query.succeeded || !file.query.manifestSucceeded ||
      !file.query.compatible) = false := by simp [hsucceeded, hmanifest, hcompatible]
  rw [recordOf, if_pos himage, describe, if_neg (by simp [hgood]), himage,
    ← PluginFile.dependsOnItself]
  cases hitself : file.dependsOnItself with
  | true => simp [closePluginImage]
  | false =>
    cases hduplicate : host.duplicate handle file.query.name with
    | none => simp
    | some taken => simp [closePluginImage, discovered, PluginRecord.new]

theorem recordOf_undescribed (hdescribed : file.described = false) :
    (host.recordOf handle file).state ≠ .loading ∧
      (host.recordOf handle file).selectable = false := by
  unfold recordOf
  split
  · next himage =>
    have hbad : (!file.query.succeeded || !file.query.manifestSucceeded ||
        !file.query.compatible) = true := by
      simp only [PluginFile.described, himage, decide_true, Bool.true_and] at hdescribed
      rw [← Bool.not_and, ← Bool.not_and, hdescribed]
      rfl
    rw [describe, if_pos hbad]
    simp [closePluginImage, discovered, himage, PluginRecord.new]
  · next himage =>
    cases hcase : file.image <;>
      first
        | exact absurd hcase himage
        | simp [discovered, closePluginImage, PluginRecord.new]

theorem recordOf_ready (host : Host) (handle : KeelPluginHandle) (file : PluginFile) :
    (host.recordOf handle file).transitioning = false ∧
      (host.recordOf handle file).state ≠ .loaded ∧
      ((host.recordOf handle file).state = .loading →
        (host.recordOf handle file).load = true) := by
  have hfresh : ∀ image, (discovered handle file.filename image).transitioning = false ∧
      (discovered handle file.filename image).state ≠ .loaded ∧
      (discovered handle file.filename image).state ≠ .loading := by
    intro image
    cases image <;> simp [discovered, closePluginImage, PluginRecord.new]
  obtain ⟨hidle, hstate, hwaits⟩ := hfresh file.image
  unfold recordOf
  split
  · unfold describe
    split
    · simp [closePluginImage, hidle]
    · split
      · simp [closePluginImage, hidle]
      · split <;> simp [closePluginImage, hidle]
  · exact ⟨hidle, hstate, fun hloading => absurd hloading hwaits⟩

theorem duplicate_append {fresh : PluginRecord} (hfresh : fresh.handle = handle)
    (hafter : after.plugins = host.plugins ++ [fresh]) (name : Text) :
    after.duplicate handle name = host.duplicate handle name := by
  unfold duplicate
  rw [hafter, List.find?_append]
  simp [hfresh]

theorem discover_eq (hfresh : ∀ plugin ∈ host.plugins, plugin.handle ≠ host.nextPlugin)
    (hleft : host.nextPlugin ≠ 0) (file : PluginFile) :
    discover (host, found) file =
      ({ host with
          plugins := host.plugins ++ [host.recordOf host.nextPlugin file]
          nextPlugin := (host.nextPlugin + 1) % 2 ^ 64 }, found ++ [host.nextPlugin]) := by
  simp only [discover, beginDiscover, if_neg hleft, recordOf]
  by_cases himage : file.image = .opened
  · rw [if_pos himage, if_pos himage, finishDiscover, modify]
    have hown : (discovered host.nextPlugin file.filename file.image).handle =
        host.nextPlugin := by rw [himage]; rfl
    have hold : ∀ write : PluginRecord → PluginRecord,
        (host.plugins.map fun plugin =>
          if plugin.handle = host.nextPlugin then write plugin else plugin) = host.plugins := by
      intro write
      refine (List.map_congr_left fun plugin hmem => ?_).trans (List.map_id _)
      exact if_neg (hfresh plugin hmem)
    simp only [List.map_append, List.map_cons, List.map_nil, if_pos hown, hold]
    have hdescribe : ∀ after : Host, after.plugins =
        host.plugins ++ [discovered host.nextPlugin file.filename file.image] →
        ∀ plugin, after.describe host.nextPlugin file.query plugin =
          host.describe host.nextPlugin file.query plugin := by
      intro after hafter plugin
      exact describe_congr (fun _ _ _ => duplicate_append hown hafter _) plugin
    rw [hdescribe _ rfl]
  · rw [if_neg himage, if_neg himage]

/-! ## All the files -/

theorem Numbered.handle_lt (hnumbered : Numbered host) (hleft : host.nextPlugin ≠ 0)
    (hmem : plugin ∈ host.plugins) : plugin.handle < host.nextPlugin :=
  (hnumbered.allotted plugin hmem).2.resolve_left hleft

theorem discover_table (htable : Table host) (hnumbered : Numbered host) (file : PluginFile) :
    Table (discover (host, found) file).1 ∧ Numbered (discover (host, found) file).1 := by
  by_cases hleft : host.nextPlugin = 0
  · have hsame : discover (host, found) file = (host, found) := by
      simp [discover, beginDiscover, hleft]
    rw [hsame]
    exact ⟨htable, hnumbered⟩
  have hbelow : ∀ plugin ∈ host.plugins, plugin.handle < host.nextPlugin :=
    fun plugin hmem => hnumbered.handle_lt hleft hmem
  have hbound := hnumbered.bound
  rw [discover_eq (fun plugin hmem => (hbelow plugin hmem).ne) hleft]
  have hunique : ((host.plugins ++ [host.recordOf host.nextPlugin file]).map (·.handle)).Nodup := by
    rw [List.map_append, List.map_cons, recordOf_handle, List.map_nil, ← List.concat_eq_append,
      List.nodup_concat]
    refine ⟨fun hmem => ?_, hnumbered.unique⟩
    obtain ⟨plugin, hplugin, hhandle⟩ := List.mem_map.1 hmem
    exact (hbelow plugin hplugin).ne hhandle
  obtain ⟨hidle, hstate, hload⟩ := recordOf_ready host host.nextPlugin file
  refine ⟨⟨hunique, fun plugin hmem => ?_, fun plugin hmem hloading => ?_⟩,
    ⟨hunique, fun plugin hmem => ?_, Nat.mod_lt _ (by decide), hnumbered.disabled⟩⟩
  · rcases List.mem_append.1 hmem with hold | hnew
    · exact htable.idle plugin hold
    · rw [List.mem_singleton.1 hnew]
      exact hidle
  · rcases List.mem_append.1 hmem with hold | hnew
    · exact htable.loads plugin hold hloading
    · rw [List.mem_singleton.1 hnew] at hloading ⊢
      exact hload hloading
  · have hhandle : plugin.handle ≠ 0 ∧ plugin.handle ≤ host.nextPlugin := by
      rcases List.mem_append.1 hmem with hold | hnew
      · exact ⟨(hnumbered.allotted plugin hold).1, (hbelow plugin hold).le⟩
      · rw [List.mem_singleton.1 hnew, recordOf_handle]
        exact ⟨hleft, Nat.le_refl _⟩
    refine ⟨hhandle.1, ?_⟩
    by_cases hlast : host.nextPlugin + 1 = 2 ^ 64
    · exact .inl (by rw [hlast, Nat.mod_self])
    · refine .inr ?_
      rw [Nat.mod_eq_of_lt (by omega)]
      exact Nat.lt_succ_of_le hhandle.2

theorem discoverAll_table (htable : Table base) (hnumbered : Numbered base)
    (files : List PluginFile) :
    Table (base.discoverAll files).1 ∧ Numbered (base.discoverAll files).1 := by
  have hstep : ∀ (state : Host × List KeelPluginHandle) (file : PluginFile),
      Table state.1 ∧ Numbered state.1 →
        Table (discover state file).1 ∧ Numbered (discover state file).1 := by
    intro state file ⟨htable, hnumbered⟩
    exact discover_table htable hnumbered file
  exact Lib.run_invariant hstep ⟨htable, hnumbered⟩ files

/-! ## Files that are named apart -/

theorem duplicate_eq (hfresh : ∀ plugin ∈ host.plugins, plugin.handle ≠ handle) (name : Text) :
    host.duplicate handle name = dependencyTarget host.plugins name := by
  unfold duplicate dependencyTarget
  generalize host.plugins = plugins at hfresh
  induction plugins with
  | nil => rfl
  | cons first rest ih =>
    have hfirst : first.handle ≠ handle := hfresh first List.mem_cons_self
    have hrest := ih fun plugin hmem => hfresh plugin (List.mem_cons_of_mem first hmem)
    rw [List.find?_cons, List.find?_cons, hrest]
    simp [hfirst]

theorem recordOf_congr {slots : List (PluginFile × KeelPluginHandle)}
    (hafter : after.plugins =
      base.plugins ++ slots.map fun slot => base.recordOf slot.2 slot.1)
    (hapart : ∀ slot ∈ slots, slot.1.described = true → file.described = true →
      equalInsensitive slot.1.query.name file.query.name = false) :
    after.recordOf handle file = base.recordOf handle file := by
  unfold recordOf
  by_cases himage : file.image = .opened
  · rw [if_pos himage, if_pos himage]
    refine describe_congr (fun hsucceeded hmanifest hcompatible => ?_) _
    have hdescribed : file.described = true := by
      simp [PluginFile.described, himage, hsucceeded, hmanifest, hcompatible]
    unfold duplicate
    have hnone : ((slots.map fun slot => base.recordOf slot.2 slot.1).find? fun candidate =>
        candidate.handle ≠ handle && candidate.selectable &&
          equalInsensitive candidate.name file.query.name) = none := by
      rw [List.find?_eq_none]
      intro plugin hmem
      obtain ⟨slot, hslot, rfl⟩ := List.mem_map.1 hmem
      cases hslotted : slot.1.described with
      | false => simp [(recordOf_undescribed hslotted).2]
      | true =>
        rw [(recordOf_described _ _ hslotted).1, hapart slot hslot hslotted hdescribed]
        simp
    rw [hafter, List.find?_append, hnone, Option.or_none]
  · rw [if_neg himage, if_neg himage]

theorem discoverAll_eq (hnumbered : Numbered base) (hleft : base.nextPlugin ≠ 0)
    (hroom : base.nextPlugin + files.length ≤ 2 ^ 64) (hapart : NamedApart files) :
    base.discoverAll files =
      ({ base with
          plugins := base.plugins ++ (files.zipIdx base.nextPlugin).map fun slot =>
            base.recordOf slot.2 slot.1
          nextPlugin := (base.nextPlugin + files.length) % 2 ^ 64 },
        (files.zipIdx base.nextPlugin).map (·.2)) := by
  have hbound := hnumbered.bound
  induction files using List.reverseRecOn with
  | nil =>
    simp only [discoverAll, List.foldl_nil, List.zipIdx_nil, List.map_nil, List.append_nil,
      List.length_nil, Nat.add_zero, Nat.mod_eq_of_lt hbound]
  | append_singleton files file ih =>
    obtain ⟨hearlier, _, hlater⟩ := List.pairwise_append.1 hapart
    rw [List.length_append, List.length_singleton] at hroom
    have hhost := ih (by omega) hearlier
    rw [Nat.mod_eq_of_lt (by omega)] at hhost
    rw [discoverAll, List.foldl_append, List.foldl_cons, List.foldl_nil, ← discoverAll, hhost]
    have hfresh : ∀ plugin ∈ base.plugins ++ (files.zipIdx base.nextPlugin).map fun slot =>
        base.recordOf slot.2 slot.1, plugin.handle ≠ base.nextPlugin + files.length := by
      intro plugin hmem
      rcases List.mem_append.1 hmem with hold | hnew
      · have hbelow := hnumbered.handle_lt hleft hold
        exact (Nat.lt_of_lt_of_le hbelow (Nat.le_add_right _ _)).ne
      · obtain ⟨slot, hslot, rfl⟩ := List.mem_map.1 hnew
        rw [recordOf_handle]
        exact (List.snd_lt_add_of_mem_zipIdx hslot).ne
    have hleft' : base.nextPlugin + files.length ≠ 0 := by omega
    rw [discover_eq hfresh hleft' file, recordOf_congr rfl]
    · simp only [List.zipIdx_append, List.map_append, List.zipIdx_singleton, List.map_cons,
        List.map_nil, List.length_append, List.length_singleton, List.append_assoc, Nat.add_assoc]
    · intro slot hslot
      exact hlater slot.1 (List.fst_mem_of_mem_zipIdx hslot) file (List.mem_singleton_self file)

/-- Every file gets a handle, and nobody takes another's name. -/
structure Discoverable (base : Host) (files : List PluginFile) : Prop where
  table : Table base
  numbered : Numbered base
  left : base.nextPlugin ≠ 0
  room : base.nextPlugin + files.length ≤ 2 ^ 64
  apart : NamedApart files

variable {dependency : PluginDependencyRecord} {target : PluginRecord} {name : Text}

theorem Discoverable.named (hfiles : Discoverable base files) {second : PluginFile}
    (hfirst : (file, handle) ∈ files.zipIdx base.nextPlugin)
    (hsecond : (second, other) ∈ files.zipIdx base.nextPlugin)
    (hdescribed : file.described = true) (hdescribed' : second.described = true)
    (hnames : equalInsensitive file.query.name second.query.name = true) : handle = other := by
  obtain ⟨hle, hat⟩ := List.mk_mem_zipIdx_iff_le_and_getElem?_sub.1 hfirst
  obtain ⟨hle', hat'⟩ := List.mk_mem_zipIdx_iff_le_and_getElem?_sub.1 hsecond
  obtain ⟨hlt, rfl⟩ := List.getElem?_eq_some_iff.1 hat
  obtain ⟨hlt', rfl⟩ := List.getElem?_eq_some_iff.1 hat'
  have happart := List.pairwise_iff_getElem.1 hfiles.apart
  rcases Nat.lt_trichotomy (handle - base.nextPlugin) (other - base.nextPlugin) with
    hless | hsame | hless
  · have hne := happart _ _ hlt hlt' hless hdescribed hdescribed'
    rw [hnames] at hne
    cases hne
  · calc handle = handle - base.nextPlugin + base.nextPlugin := (Nat.sub_add_cancel hle).symm
      _ = other - base.nextPlugin + base.nextPlugin := by rw [hsame]
      _ = other := Nat.sub_add_cancel hle'
  · have hne := happart _ _ hlt' hlt hless hdescribed' hdescribed
    rw [equalInsensitive_symm hnames] at hne
    cases hne

theorem Discoverable.plugins (hfiles : Discoverable base files) :
    (base.discoverAll files).1.plugins = base.plugins ++
      (files.zipIdx base.nextPlugin).map fun slot => base.recordOf slot.2 slot.1 := by
  rw [discoverAll_eq hfiles.numbered hfiles.left hfiles.room hfiles.apart]

theorem Discoverable.mem_found (hfiles : Discoverable base files) :
    handle ∈ (base.discoverAll files).2 ↔
      ∃ file, (file, handle) ∈ files.zipIdx base.nextPlugin := by
  rw [discoverAll_eq hfiles.numbered hfiles.left hfiles.room hfiles.apart, List.mem_map]
  constructor
  · rintro ⟨slot, hslot, rfl⟩
    exact ⟨slot.1, hslot⟩
  · rintro ⟨file, hslot⟩
    exact ⟨(file, handle), hslot, rfl⟩

theorem answersOf_slot (hslot : (file, handle) ∈ files.zipIdx base.nextPlugin) :
    answersOf base.nextPlugin files handle = file.answers := by
  obtain ⟨_, hat⟩ := List.mk_mem_zipIdx_iff_le_and_getElem?_sub.1 hslot
  unfold answersOf
  rw [hat]

theorem slot_unique {second : PluginFile} (hslot : (file, handle) ∈ files.zipIdx base.nextPlugin)
    (hslot' : (second, handle) ∈ files.zipIdx base.nextPlugin) : file = second := by
  have hat := (List.mk_mem_zipIdx_iff_le_and_getElem?_sub.1 hslot).2
  rw [(List.mk_mem_zipIdx_iff_le_and_getElem?_sub.1 hslot').2] at hat
  exact (Option.some.inj hat).symm

theorem slot_of_mem (base : Host) (hmem : file ∈ files) :
    ∃ handle, (file, handle) ∈ files.zipIdx base.nextPlugin := by
  obtain ⟨position, hlt, hat⟩ := List.getElem_of_mem hmem
  refine ⟨base.nextPlugin + position, ?_⟩
  rw [List.mk_mem_zipIdx_iff_le_and_getElem?_sub, Nat.add_sub_cancel_left,
    List.getElem?_eq_getElem hlt, hat]
  exact ⟨Nat.le_add_right _ _, rfl⟩

section

variable (hfiles : Discoverable base files)

include hfiles

theorem Discoverable.found_file (hslot : (file, handle) ∈ files.zipIdx base.nextPlugin) :
    (base.discoverAll files).1.pluginByHandle handle = some (base.recordOf handle file) := by
  have hunique := (discoverAll_table hfiles.table hfiles.numbered files).1.unique
  have hmem : base.recordOf handle file ∈ (base.discoverAll files).1.plugins := by
    rw [hfiles.plugins]
    exact List.mem_append_right _ (List.mem_map.2 ⟨_, hslot, rfl⟩)
  have hfound := find_mem_of_unique hunique hmem
  rwa [recordOf_handle] at hfound

theorem Discoverable.found_base (hmem : plugin ∈ base.plugins) :
    (base.discoverAll files).1.pluginByHandle plugin.handle = some plugin := by
  refine find_mem_of_unique (discoverAll_table hfiles.table hfiles.numbered files).1.unique ?_
  rw [hfiles.plugins]
  exact List.mem_append_left _ hmem

theorem Discoverable.fresh (hslot : (file, handle) ∈ files.zipIdx base.nextPlugin)
    (hmem : plugin ∈ base.plugins) : plugin.handle ≠ handle := by
  have hbelow := hfiles.numbered.handle_lt hfiles.left hmem
  exact (Nat.lt_of_lt_of_le hbelow (List.le_snd_of_mem_zipIdx hslot)).ne

theorem Discoverable.found_cases
    (hplugin : (base.discoverAll files).1.pluginByHandle handle = some plugin) :
    plugin ∈ base.plugins ∨
      ∃ file, (file, handle) ∈ files.zipIdx base.nextPlugin ∧
        plugin = base.recordOf handle file := by
  have hmem := mem_of_pluginByHandle hplugin
  rw [hfiles.plugins, List.mem_append] at hmem
  refine hmem.imp id fun hnew => ?_
  obtain ⟨slot, hslot, rfl⟩ := List.mem_map.1 hnew
  have hhandle := pluginByHandle_handle hplugin
  rw [recordOf_handle] at hhandle
  subst hhandle
  exact ⟨slot.1, hslot, rfl⟩

theorem Discoverable.target_base (hbase : dependencyTarget base.plugins name = some target) :
    dependencyTarget (base.discoverAll files).1.plugins name = some target := by
  unfold dependencyTarget at hbase ⊢
  rw [hfiles.plugins, List.find?_append, hbase]
  rfl

end

theorem dependencyTarget_congr {plugins : List PluginRecord} {name again : Text}
    (hsame : equalInsensitive name again = true) :
    dependencyTarget plugins name = dependencyTarget plugins again := by
  unfold dependencyTarget
  congr 1
  funext candidate
  rw [equalInsensitive_iff] at hsame
  have hequal : equalInsensitive candidate.name name = equalInsensitive candidate.name again := by
    rw [Bool.eq_iff_iff, equalInsensitive_iff, equalInsensitive_iff, hsame]
  rw [hequal]

theorem Discoverable.target_cases (hfiles : Discoverable base files)
    (hbase : dependencyTarget base.plugins name = none)
    (htarget : dependencyTarget (base.discoverAll files).1.plugins name = some target) :
    ∃ file handle, (file, handle) ∈ files.zipIdx base.nextPlugin ∧ file.described = true ∧
      equalInsensitive file.query.name name = true ∧ target = base.recordOf handle file := by
  obtain ⟨hmem, hselectable, hname⟩ := dependencyTarget_some htarget
  rw [hfiles.plugins, List.mem_append] at hmem
  rcases hmem with hold | hnew
  · have hnot := List.find?_eq_none.1 hbase target hold
    rw [hselectable, hname] at hnot
    exact absurd rfl hnot
  · obtain ⟨slot, hslot, rfl⟩ := List.mem_map.1 hnew
    cases hdescribed : slot.1.described with
    | false =>
      rw [(recordOf_undescribed hdescribed).2] at hselectable
      cases hselectable
    | true =>
      rw [(recordOf_described _ _ hdescribed).1] at hname
      exact ⟨slot.1, slot.2, hslot, hdescribed, hname, rfl⟩

/-- A name that was not taken stands for the one file whose plugin goes by it. -/
theorem Discoverable.target_file (hfiles : Discoverable base files)
    (hbase : dependencyTarget base.plugins name = none)
    (hslot : (file, handle) ∈ files.zipIdx base.nextPlugin)
    (hdescribed : file.described = true)
    (hname : equalInsensitive file.query.name name = true) :
    dependencyTarget (base.discoverAll files).1.plugins name =
      some (base.recordOf handle file) := by
  cases htarget : dependencyTarget (base.discoverAll files).1.plugins name with
  | none =>
    have hmem : base.recordOf handle file ∈ (base.discoverAll files).1.plugins :=
      mem_of_pluginByHandle (hfiles.found_file hslot)
    have hnot := List.find?_eq_none.1 htarget _ hmem
    obtain ⟨hnamed, _, _, _, hselectable⟩ :=
      recordOf_described base handle hdescribed
    have hfree : base.duplicate handle file.query.name = none := by
      rw [duplicate_eq fun plugin hold => hfiles.fresh hslot hold, dependencyTarget_congr hname]
      exact hbase
    rw [hselectable.2 (.inr hfree), hnamed, hname] at hnot
    exact absurd rfl hnot
  | some target =>
    obtain ⟨second, other, hother, hdescribed', hname', rfl⟩ := hfiles.target_cases hbase htarget
    have hnames := equalInsensitive_trans hname (equalInsensitive_symm hname')
    have hsame := hfiles.named hslot hother hdescribed hdescribed' hnames
    subst hsame
    rw [slot_unique hslot hother]

/-! ## Which files load -/

/-- The handles that get loaded stand for plugins that ran before and for files that load. -/
theorem Discoverable.lfp_le (hfiles : Discoverable base files) :
    (loadStep (answersOf base.nextPlugin files) (base.discoverAll files).2
        (base.discoverAll files).1).lfp ≤
      {handle | (∃ plugin ∈ base.plugins, plugin.handle = handle ∧ plugin.state = .loaded) ∨
        ∃ file ∈ (fileStep base files).lfp, (file, handle) ∈ files.zipIdx base.nextPlugin} := by
  refine OrderHom.lfp_le _ fun handle hloads => ?_
  obtain ⟨plugin, hplugin, hruns⟩ := hloads
  have hhandle := pluginByHandle_handle hplugin
  rcases hfiles.found_cases hplugin with hold | ⟨file, hslot, rfl⟩
  · rcases hruns with hloaded | ⟨_, hfound, _⟩
    · exact .inl ⟨plugin, hold, hhandle, hloaded⟩
    · -- who was there before has none of the new handles
      obtain ⟨file, hslot⟩ := hfiles.mem_found.1 hfound
      exact absurd hhandle (hfiles.fresh hslot hold)
  rcases hruns with hloaded | ⟨hloading, _, hagreed, htargets⟩
  · exact absurd hloaded (recordOf_ready base handle file).2.1
  rw [answersOf_slot hslot] at hagreed
  cases hdescribed : file.described with
  | false => exact absurd hloading (recordOf_undescribed hdescribed).1
  | true =>
    obtain ⟨_, _, hdependencies, hstate, _⟩ :=
      recordOf_described base handle hdescribed
    obtain ⟨hitself, hfree⟩ := hstate.1 hloading
    rw [duplicate_eq fun plugin hold => hfiles.fresh hslot hold] at hfree
    refine .inr ⟨file, ?_, hslot⟩
    rw [← OrderHom.map_lfp]
    refine ⟨List.fst_mem_of_mem_zipIdx hslot, hdescribed, hitself, hfree, hagreed, ?_⟩
    intro dependency hdependency
    rw [← hdependencies] at hdependency
    obtain ⟨target, htarget, _, hversion, hin⟩ := htargets dependency hdependency
    cases hbase : dependencyTarget base.plugins dependency.name with
    | some first =>
      rw [hfiles.target_base hbase] at htarget
      cases htarget
      have hmem := (dependencyTarget_some hbase).1
      refine ⟨hversion, ?_⟩
      rcases hin with ⟨second, hsecond, hsame, hloaded⟩ | ⟨other, _, hother⟩
      · have hfirst := hfiles.numbered.find_mem hmem
        rw [← hsame, hfiles.numbered.find_mem hsecond] at hfirst
        cases hfirst
        exact hloaded
      · exact absurd rfl (hfiles.fresh hother hmem)
    | none =>
      obtain ⟨second, other, hother, hdescribed', hname, rfl⟩ :=
        hfiles.target_cases hbase htarget
      rw [recordOf_handle] at hin
      rw [(recordOf_described _ _ hdescribed').2.1] at hversion
      refine ⟨second, ?_, hname, hversion⟩
      rcases hin with ⟨plugin, hold, hsame, _⟩ | ⟨third, hthird, hslot'⟩
      · exact absurd hsame (hfiles.fresh hother hold)
      · rw [slot_unique hother hslot']
        exact hthird

theorem Discoverable.le_lfp (hfiles : Discoverable base files) :
    (fileStep base files).lfp ≤
      {file | file ∈ files ∧ file.described = true ∧
        ∀ handle, (file, handle) ∈ files.zipIdx base.nextPlugin →
          handle ∈ (loadStep (answersOf base.nextPlugin files) (base.discoverAll files).2
            (base.discoverAll files).1).lfp} := by
  refine OrderHom.lfp_le _ fun file hloads => ?_
  obtain ⟨hmem, hdescribed, hitself, hname, hagreed, htargets⟩ := hloads
  refine ⟨hmem, hdescribed, fun handle hslot => ?_⟩
  obtain ⟨_, _, hdependencies, hstate, _⟩ :=
    recordOf_described base handle hdescribed
  have hfree : base.duplicate handle file.query.name = none := by
    rw [duplicate_eq fun plugin hold => hfiles.fresh hslot hold]
    exact hname
  rw [← OrderHom.map_lfp]
  refine ⟨_, hfiles.found_file hslot, .inr ⟨hstate.2 ⟨hitself, hfree⟩, ?_, ?_, ?_⟩⟩
  · exact hfiles.mem_found.2 ⟨file, hslot⟩
  · rw [answersOf_slot hslot]
    exact hagreed
  intro dependency hdependency
  rw [hdependencies] at hdependency
  have htarget := htargets dependency hdependency
  cases hbase : dependencyTarget base.plugins dependency.name with
  | some target =>
    simp only [hbase] at htarget
    have htargetmem := (dependencyTarget_some hbase).1
    refine ⟨target, hfiles.target_base hbase, hfiles.fresh hslot htargetmem, htarget.1, ?_⟩
    rw [← OrderHom.map_lfp]
    exact ⟨target, hfiles.found_base htargetmem, .inl htarget.2⟩
  | none =>
    simp only [hbase] at htarget
    obtain ⟨other, ⟨hothermem, hdescribed', hothers⟩, hothername, hversion⟩ := htarget
    obtain ⟨position, hother⟩ := slot_of_mem base hothermem
    have hne : position ≠ handle := by
      rintro rfl
      -- a plugin that asks for its own name is not started
      rw [slot_unique hother hslot] at hothername
      have hany : file.dependsOnItself = true :=
        List.any_eq_true.2 ⟨dependency, hdependency, equalInsensitive_symm hothername⟩
      rw [hitself] at hany
      cases hany
    refine ⟨_, hfiles.target_file hbase hother hdescribed' hothername, ?_, ?_, ?_⟩
    · rw [recordOf_handle]
      exact hne
    · rw [(recordOf_described _ _ hdescribed').2.1]
      exact hversion
    · rw [recordOf_handle]
      exact hothers _ hother

theorem Discoverable.loadedFiles (hfiles : Discoverable base files)
    {result : Host × List KeelPluginHandle}
    (hstarted : Started (answersOf base.nextPlugin files) (base.discoverAll files).2
      (base.discoverAll files).1 result) :
    loadedFiles result.1 base.nextPlugin files = (fileStep base files).lfp := by
  have hloaded : ∀ handle, result.1.stateOf handle = some .loaded ↔
      handle ∈ (loadStep (answersOf base.nextPlugin files) (base.discoverAll files).2
        (base.discoverAll files).1).lfp := by
    intro handle
    rw [← hstarted.loaded]
    exact Iff.rfl
  ext file
  constructor
  · rintro ⟨handle, hslot, hruns⟩
    rcases hfiles.lfp_le ((hloaded handle).1 hruns) with
      ⟨plugin, hold, hsame, _⟩ | ⟨other, hother, hslot'⟩
    · exact absurd hsame (hfiles.fresh hslot hold)
    · rw [slot_unique hslot hslot']
      exact hother
  · intro hloads
    obtain ⟨hmem, _, hhandles⟩ := hfiles.le_lfp hloads
    obtain ⟨handle, hslot⟩ := slot_of_mem base hmem
    exact ⟨handle, hslot, (hloaded _).2 (hhandles _ hslot)⟩

theorem fileStep_perm {reordered : List PluginFile} (hperm : reordered.Perm files) :
    fileStep base reordered = fileStep base files := by
  ext loaded file
  exact and_congr_left fun _ => hperm.mem_iff

theorem namedApart_perm {reordered : List PluginFile} (hperm : reordered.Perm files)
    (hapart : NamedApart files) : NamedApart reordered := by
  refine (hperm.pairwise_iff ?_).2 hapart
  intro first second hnames hsecond hfirst
  have hne := hnames hfirst hsecond
  rw [Bool.eq_false_iff] at hne ⊢
  exact fun hsame => hne (equalInsensitive_symm hsame)

/-- `StartDiscoveredPlugins` terminates, whatever the discovered plugins depend on and whatever
their callbacks answer. Those that are loaded then are the least fixed point of `loadStep`; no
load callback was called twice, and none before those of all its dependencies had succeeded.
When no two of the plugins go by one name and there is a handle for each, the files whose plugins
are loaded are the same in whatever order they are discovered. -/
theorem loadFiles_least_fixed_point (htable : Table base) (hnumbered : Numbered base)
    (gameThread : Bool) (files : List PluginFile) :
    ∃ result,
      (∀ fuel, (base.discoverAll files).1.plugins.length < fuel →
        loadFiles gameThread fuel base files = some result) ∧
      Started (answersOf base.nextPlugin files) (base.discoverAll files).2
        (base.discoverAll files).1 result ∧
      (base.nextPlugin ≠ 0 → base.nextPlugin + files.length ≤ 2 ^ 64 → NamedApart files →
        loadedFiles result.1 base.nextPlugin files = (fileStep base files).lfp ∧
        ∀ reordered : List PluginFile, reordered.Perm files → ∃ result',
          (∀ fuel, (base.discoverAll reordered).1.plugins.length < fuel →
            loadFiles gameThread fuel base reordered = some result') ∧
          loadedFiles result'.1 base.nextPlugin reordered =
            loadedFiles result.1 base.nextPlugin files) := by
  have hstarts : ∀ files, ∃ result, Started (answersOf base.nextPlugin files)
      (base.discoverAll files).2 (base.discoverAll files).1 result ∧
        ∀ fuel, (base.discoverAll files).1.plugins.length < fuel →
          loadFiles gameThread fuel base files = some result :=
    fun files => startDiscoveredPlugins_started (discoverAll_table htable hnumbered files).1
  obtain ⟨result, hstarted, hresult⟩ := hstarts files
  refine ⟨result, hresult, hstarted, fun hleft hroom hapart => ?_⟩
  have hfiles : Discoverable base files := ⟨htable, hnumbered, hleft, hroom, hapart⟩
  refine ⟨hfiles.loadedFiles hstarted, fun reordered hperm => ?_⟩
  obtain ⟨result', hstarted', hresult'⟩ := hstarts reordered
  have hreordered : Discoverable base reordered :=
    ⟨htable, hnumbered, hleft, hperm.length_eq ▸ hroom, namedApart_perm hperm hapart⟩
  refine ⟨result', hresult', ?_⟩
  rw [hreordered.loadedFiles hstarted', hfiles.loadedFiles hstarted, fileStep_perm hperm]

/-- A plugin that says what it is, and agrees to be loaded or not. -/
def plainFile (filename name : Text) (dependencies : List PluginDependencyRecord)
    (ready : Bool) : PluginFile where
  filename := filename
  image := .opened
  query := ⟨true, true, true, name, ['1', '.', '0', '.', '0'], dependencies⟩
  answers := fun _ => ⟨.ok, false, ready, false⟩

/-- Two plugins of which the first needs the second. -/
theorem loadFiles_least_fixed_point_two :
    let files := [plainFile ['a'] ['A'] [⟨['B'], ['1', '.', '0', '.', '0'], 1⟩] true,
      plainFile ['b'] ['B'] [] true]
    ∃ result, (∀ fuel, (Host.initial.discoverAll files).1.plugins.length < fuel →
        loadFiles true fuel .initial files = some result) ∧
      loadedFiles result.1 1 files = (fileStep .initial files).lfp := by
  intro files
  have htable : Table .initial :=
    ⟨List.nodup_nil, by simp [Host.initial], by simp [Host.initial]⟩
  have hnumbered : Numbered .initial :=
    ⟨List.nodup_nil, by simp [Host.initial], by decide, by simp [Host.initial]⟩
  obtain ⟨result, hresult, _, horder⟩ := loadFiles_least_fixed_point htable hnumbered true files
  have hapart : NamedApart files := by simp [NamedApart, files, plainFile, equalInsensitive]
  exact ⟨result, hresult, (horder (by decide) (by decide) hapart).1⟩

/-- Of two plugins of one name the one that is discovered first is the one that is started. -/
theorem loadFiles_name_taken :
    ¬ ∀ files reordered result result', reordered.Perm files →
      loadFiles true 4 .initial files = some result →
        loadFiles true 4 .initial reordered = some result' →
          loadedFiles result'.1 1 reordered = loadedFiles result.1 1 files := by
  intro horder
  have hfirst : (loadFiles true 4 .initial
      [plainFile ['a'] ['X'] [] true, plainFile ['b'] ['x'] [] false]).bind
        (fun result => result.1.stateOf 1) = some .loaded := by decide
  have hsecond : (loadFiles true 4 .initial
      [plainFile ['b'] ['x'] [] false, plainFile ['a'] ['X'] [] true]).bind
        (fun result => result.1.stateOf 2) = some .error := by decide
  obtain ⟨result, hresult, hloaded⟩ := Option.bind_eq_some_iff.1 hfirst
  obtain ⟨result', hresult', hrejected⟩ := Option.bind_eq_some_iff.1 hsecond
  have hsame := horder _ _ _ _ (List.Perm.swap _ _ _) hresult hresult'
  have hmem : plainFile ['a'] ['X'] [] true ∈ loadedFiles result.1 1
      [plainFile ['a'] ['X'] [] true, plainFile ['b'] ['x'] [] false] := ⟨1, by simp, hloaded⟩
  rw [← hsame] at hmem
  obtain ⟨handle, hslot, hruns⟩ := hmem
  simp only [List.zipIdx_cons, List.zipIdx_nil, List.mem_cons, Prod.mk.injEq, List.not_mem_nil,
    or_false] at hslot
  rcases hslot with ⟨hfile, _⟩ | ⟨_, rfl⟩
  · have hname := congrArg PluginFile.filename hfile
    simp [plainFile] at hname
  · rw [hruns] at hrejected
    cases hrejected

end Host
end KeelS2.Plugins
