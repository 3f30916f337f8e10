import KeelS2.Plugins.Manager

/-!
# Selecting a plugin

`SelectPlugin` takes a number, a name, a file name, or a part of a name that fits one plugin only.
The number that `PluginDisplayId` gives a plugin selects that plugin.
-/

namespace KeelS2.Plugins

def startsWithInsensitive (text start : Text) : Bool :=
  start.length ≤ text.length && equalInsensitive (text.take start.length) start

/-- `ContainsInsensitive`: a position of the source is a tail of the text. -/
def containsInsensitive (text part : Text) : Bool :=
  part.isEmpty || text.tails.any fun rest => startsWithInsensitive rest part

/-- What `SelectPlugin` writes. -/
inductive SelectionError
  | required
  | notFound
  | ambiguous
  deriving DecidableEq, Repr

def formatPluginIndex (index : Nat) : Text :=
  let result := Nat.toDigits 10 index
  if result.length < 2 then '0' :: result else result

namespace Host

/-- `SelectPlugin`. A number that `std::from_chars` has no room for is greater than the number of
plugins. -/
def selectPlugin (host : Host) (selector : Text) : Except SelectionError PluginRecord :=
  let known := host.knownPlugins
  if selector.isEmpty then .error .required
  else if selector.all Char.isDigit then
    let index := Nat.ofDigitChars 10 selector 0
    match if index ≠ 0 then known[index - 1]? else none with
    | some plugin => .ok plugin
    | none => .error .notFound
  else match known.find? fun plugin =>
      (plugin.selectable && equalInsensitive plugin.name selector) ||
        equalInsensitive plugin.filename selector with
    | some plugin => .ok plugin
    | none =>
      let starting := known.filter fun plugin =>
        plugin.selectable && startsWithInsensitive plugin.name selector
      let found := if starting.isEmpty then
          known.filter fun plugin => plugin.selectable && containsInsensitive plugin.name selector
        else starting
      match found with
      | [plugin] => .ok plugin
      | [] => .error .notFound
      | _ => .error .ambiguous

/-- `PluginDisplayIndex`; a record is its handle. -/
def pluginDisplayIndex (host : Host) (plugin : PluginRecord) : Nat :=
  match host.knownPlugins.findIdx? fun other => other.handle == plugin.handle with
  | none => 0
  | some index => index + 1

def pluginDisplayId (host : Host) (plugin : PluginRecord) : Text :=
  formatPluginIndex (host.pluginDisplayIndex plugin)

end Host

/-! ## Numbers and what they select -/

theorem formatPluginIndex_digits (index : Nat) :
    ∀ character ∈ formatPluginIndex index, character.isDigit = true := by
  intro character hmem
  have hdigits : ∀ character ∈ Nat.toDigits 10 index, character.isDigit = true :=
    fun _ hmem => Nat.isDigit_of_mem_toDigits (by decide) (by decide) hmem
  unfold formatPluginIndex at hmem
  dsimp only at hmem
  split at hmem
  · rcases List.mem_cons.1 hmem with rfl | hmem
    · rfl
    · exact hdigits character hmem
  · exact hdigits character hmem

theorem formatPluginIndex_value (index : Nat) :
    Nat.ofDigitChars 10 (formatPluginIndex index) 0 = index := by
  unfold formatPluginIndex
  dsimp only
  split
  · rw [Nat.ofDigitChars_cons]
    exact Nat.ofDigitChars_ten_toDigits
  · exact Nat.ofDigitChars_ten_toDigits

theorem formatPluginIndex_ne_nil (index : Nat) : formatPluginIndex index ≠ [] := by
  unfold formatPluginIndex
  dsimp only
  split
  · exact List.cons_ne_nil _ _
  · exact Nat.toDigits_ne_nil

namespace Host

variable {host : Host} {handle : KeelPluginHandle} {plugin : PluginRecord}

theorem selectPlugin_index {index : Nat} (hknown : host.knownPlugins[index]? = some plugin) :
    host.selectPlugin (formatPluginIndex (index + 1)) = .ok plugin := by
  have hall : (formatPluginIndex (index + 1)).all Char.isDigit = true :=
    List.all_eq_true.2 (formatPluginIndex_digits _)
  simp [selectPlugin, formatPluginIndex_ne_nil, hall, formatPluginIndex_value, hknown]

theorem selectPlugin_displayId (hplugin : host.pluginByHandle handle = some plugin) :
    host.selectPlugin (host.pluginDisplayId plugin) = .ok plugin := by
  have hhandle : plugin.handle = handle := pluginByHandle_handle hplugin
  have hknown : host.knownPlugins.find? (fun other => other.handle == handle) = some plugin := by
    unfold knownPlugins
    rw [List.find?_append]
    change (host.pluginByHandle handle).or _ = _
    rw [hplugin]
    rfl
  obtain ⟨index, hindex⟩ : ∃ index,
      host.knownPlugins.findIdx? (fun other => other.handle == handle) = some index := by
    rw [← Option.isSome_iff_exists, List.findIdx?_isSome]
    exact List.any_eq_true.2 ⟨plugin, List.mem_of_find?_eq_some hknown, by simpa using hhandle⟩
  have hget : host.knownPlugins[index]? = some plugin := by
    rw [List.find?_eq_bind_findIdx?_getElem?, hindex] at hknown
    exact hknown
  unfold pluginDisplayId pluginDisplayIndex
  rw [hhandle, hindex]
  dsimp only
  exact selectPlugin_index hget

end Host
end KeelS2.Plugins
