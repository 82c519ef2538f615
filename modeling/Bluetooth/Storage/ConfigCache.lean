import Bluetooth.Common.ListMap
import Bluetooth.Common.Strings
import Bluetooth.Lib.Transition

set_option linter.all false

/-!
# The gd storage `ConfigCache`

The cache keeps three maps from section names to properties: `information_sections_` for
sections whose name is not a Bluetooth address, `persistent_devices_` for devices that hold a
link-key property, and `temporary_devices_`, an LRU cache for the other devices, which is never
written to disk.  `SetProperty` of a link-key property moves a temporary device to the persistent
map.  `RemoveProperty` moves a persistent device back when it loses a link-key property, and the
header says that this happens when all of them are removed.  The code moves the device when
*any* one is removed, so a device with two keys that loses one lands in `temporary_devices_`
holding the other (`removeProperty_moves_keyed_device_to_temporary`), where it is no longer
persisted.

Every other part of the representation invariant holds after any run of the operations
(`consistent_of_reachable`).  The keystore interface is taken to be absent, as the source
allows, so no value is encrypted.
-/

namespace Bluetooth

namespace Hci.Address

/-- Whether `strtol(token, &temp, 16)` reads the whole of a two-character token: after optional
white space or a sign it needs a hexadecimal digit, and a `0x` prefix with no digit after it is
read as the `0` alone. -/
def parsesWhole : Text → Bool
  | [first, second] =>
    (isHexDigit first || isSpace first || first = '+' || first = '-') && isHexDigit second
  | _ => false

/-- The loop of `Address::FromString` over the `':'`-separated tokens, with `index` the number
already read: at most six tokens, each of two characters that `strtol` reads whole, and six in
all. -/
def fromStringTokens : Nat → List Text → Bool
  | index, [] => index = 6
  | index, token :: tokens =>
    if 6 ≤ index then false
    else if token.length ≠ 2 then false
    else if !parsesWhole token then false
    else fromStringTokens (index + 1) tokens

/-- `Address::IsValidAddress`: whether `Address::FromString` succeeds. -/
def isValidAddress (address : Text) : Bool :=
  address.length = 17 && fromStringTokens 0 (getlines ':' address)

end Hci.Address

namespace Storage

open Common

/-- The properties of a section: `common::ListMap<std::string, std::string>`. -/
abbrev Properties := ListMap Text Text

/-- `Device::kLinkKeyProperties`. -/
def Device.kLinkKeyProperties : List Text :=
  ["LinkKey".toList, "LE_KEY_PENC".toList, "LE_KEY_PID".toList, "LE_KEY_PCSRK".toList,
    "LE_KEY_LENC".toList, "LE_KEY_LCSRK".toList]

/-- `kLePropertyNames`. -/
def kLePropertyNames : List Text :=
  ["LE_KEY_PENC".toList, "LE_KEY_PID".toList, "LE_KEY_PCSRK".toList, "LE_KEY_LENC".toList,
    "LE_KEY_LCSRK".toList]

/-- `kClassicPropertyNames`. -/
def kClassicPropertyNames : List Text :=
  ["LinkKey".toList, "SdpDiMaufacturer".toList, "SdpDiModel".toList,
    "SdpDiHardwareVersion".toList, "SdpDiVendorSource".toList]

/-- The `"DevType"` property. -/
def kDevTypeProperty : Text := "DevType".toList

/-- `hci::DeviceType`. -/
inductive DeviceType where
  | unknown
  | brEdr
  | le
  | dual
deriving DecidableEq, Repr

/-- The value of `hci::DeviceType`. -/
def DeviceType.toNat : DeviceType → Nat
  | .unknown => 0
  | .brEdr => 1
  | .le => 2
  | .dual => 3

/-- `std::to_string` of a device type; the values are single digits. -/
def DeviceType.toText (deviceType : DeviceType) : Text := [Nat.digitChar deviceType.toNat]

/-- `TrimAfterNewLine`: the text before the first newline. -/
def trimAfterNewLine (value : Text) : Text := value.takeWhile (· ≠ '\n')

/-- `ConfigCache`.  The capacity of `temporary_devices_` is the one it was constructed with. -/
structure ConfigCache where
  persistentPropertyNames : List Text
  informationSections : ListMap Text Properties
  persistentDevices : ListMap Text Properties
  temporaryDevices : LruCache Text Properties
deriving DecidableEq

/-- `MutationEntry::EntryType`. -/
inductive EntryType where
  | set
  | removeProperty
  | removeSection
deriving DecidableEq, Repr

/-- `MutationEntry`, with the fields `Commit` reads. -/
structure MutationEntry where
  entryType : EntryType
  sectionName : Text
  property : Text
  value : Text
deriving DecidableEq, Repr

namespace ConfigCache

/-- The constructor: no sections. -/
def new (tempDeviceCapacity : Nat) (capacity_pos : 0 < tempDeviceCapacity)
    (persistentPropertyNames : List Text) : ConfigCache :=
  ⟨persistentPropertyNames, .empty, .empty, .empty tempDeviceCapacity capacity_pos⟩

/-- `IsDeviceSection`. -/
def isDeviceSection (sectionName : Text) : Bool := Hci.Address.isValidAddress sectionName

/-- `IsPersistentProperty`. -/
def isPersistentProperty (c : ConfigCache) (property : Text) : Bool :=
  property ∈ c.persistentPropertyNames

/-- `SetProperty`; `none` where it asserts, on an empty section or property name. -/
def setProperty (c : ConfigCache) (sectionName property value : Text) :
    Option ConfigCache :=
  let sectionName := trimAfterNewLine sectionName
  let property := trimAfterNewLine property
  let value := trimAfterNewLine value
  let set : Properties → Properties := (·.insertOrAssignBack property value)
  if sectionName = [] ∨ property = [] then none
  else if !isDeviceSection sectionName then
    some { c with
      informationSections :=
        (c.informationSections.tryEmplaceBack sectionName .empty).1.modify sectionName set }
  else if !c.persistentDevices.contains sectionName && c.isPersistentProperty property then
    -- move paired devices or create new paired device when a link key is set
    let moved := ((c.temporaryDevices.extract sectionName).1.map Prod.snd).getD .empty
    some { c with
      temporaryDevices := (c.temporaryDevices.extract sectionName).2
      persistentDevices :=
        (c.persistentDevices.tryEmplaceBack sectionName moved).1.modify sectionName set }
  else if c.persistentDevices.contains sectionName then
    some { c with persistentDevices := c.persistentDevices.modify sectionName set }
  else
    let found := c.temporaryDevices.find sectionName
    let temporary :=
      if found.1.isSome then found.2 else (found.2.tryEmplace sectionName .empty).2.2
    some { c with temporaryDevices := temporary.modify sectionName set }

/-- `RemoveSection`: the section goes from the first map that holds it. -/
def removeSection (c : ConfigCache) (sectionName : Text) : ConfigCache × Bool :=
  if (c.informationSections.extract sectionName).1.isSome then
    ({ c with informationSections := (c.informationSections.extract sectionName).2 }, true)
  else if (c.persistentDevices.extract sectionName).1.isSome then
    ({ c with persistentDevices := (c.persistentDevices.extract sectionName).2 }, true)
  else
    ({ c with temporaryDevices := (c.temporaryDevices.extract sectionName).2 },
      (c.temporaryDevices.extract sectionName).1.isSome)

/-- `RemoveProperty`.  A section left empty is erased.  A persistent device that loses one
link-key property is moved to `temporary_devices_`, whatever else it holds. -/
def removeProperty (c : ConfigCache) (sectionName property : Text) : ConfigCache × Bool :=
  match c.informationSections.find sectionName with
  | some properties =>
    let extracted := properties.extract property
    ({ c with
      informationSections :=
        if extracted.2.size = 0 then c.informationSections.erase sectionName
        else c.informationSections.modify sectionName fun _ => extracted.2 },
      extracted.1.isSome)
  | none =>
    match c.persistentDevices.find sectionName with
    | some properties =>
      let extracted := properties.extract property
      if extracted.2.size = 0 then
        ({ c with persistentDevices := c.persistentDevices.erase sectionName },
          extracted.1.isSome)
      else if extracted.1.isSome && c.isPersistentProperty property then
        -- move unpaired device
        ({ c with
          persistentDevices := c.persistentDevices.erase sectionName
          temporaryDevices := (c.temporaryDevices.insertOrAssign sectionName extracted.2).2 },
          true)
      else
        ({ c with
          persistentDevices := c.persistentDevices.modify sectionName fun _ => extracted.2 },
          extracted.1.isSome)
    | none =>
      let found := c.temporaryDevices.find sectionName
      match found.1 with
      | some properties =>
        let extracted := properties.extract property
        ({ c with
          temporaryDevices :=
            if extracted.2.size = 0 then found.2.erase sectionName
            else found.2.modify sectionName fun _ => extracted.2 },
          extracted.1.isSome)
      | none => ({ c with temporaryDevices := found.2 }, false)

/-- `RemoveSectionWithProperty`: every section holding `property` goes, from all three maps. -/
def removeSectionWithProperty (c : ConfigCache) (property : Text) : ConfigCache :=
  { c with
    informationSections := c.informationSections.eraseIf fun _ properties => properties.contains property
    persistentDevices := c.persistentDevices.eraseIf fun _ properties => properties.contains property
    temporaryDevices := c.temporaryDevices.eraseIf fun _ properties => properties.contains property }

/-- `Commit`: the entries in order. -/
def commit (c : ConfigCache) : List MutationEntry → Option ConfigCache
  | [] => some c
  | entry :: entries =>
    match entry.entryType with
    | .set =>
      (c.setProperty entry.sectionName entry.property entry.value).bind (·.commit entries)
    | .removeProperty => (c.removeProperty entry.sectionName entry.property).1.commit entries
    | .removeSection => (c.removeSection entry.sectionName).1.commit entries

/-- The device type the loop of `FixDeviceTypeInconsistencyInSection` infers from the keys. -/
def inferDeviceType (entries : Properties) : DeviceType :=
  let isLe := entries.keys.any (· ∈ kLePropertyNames)
  let isClassic := entries.keys.any (· ∈ kClassicPropertyNames)
  if isClassic && isLe then .dual
  else if isClassic then .brEdr
  else if isLe then .le
  else .brEdr

/-- `FixDeviceTypeInconsistencyInSection`: a device section that is not marked dual gets the
device type its keys say, and whether that changed it. -/
def fixDeviceTypeInconsistencyInSection (sectionName : Text) (entries : Properties) :
    Bool × Properties :=
  if !Hci.Address.isValidAddress sectionName then (false, entries)
  else
    match entries.find kDevTypeProperty with
    | some current =>
      if current = DeviceType.dual.toText then (false, entries)
      else if (inferDeviceType entries).toText ≠ current then
        (true, entries.modify kDevTypeProperty fun _ => (inferDeviceType entries).toText)
      else (false, entries)
    | none => (true, entries.insertOrAssignBack kDevTypeProperty (inferDeviceType entries).toText)

/-- Whether the fix changes a section of the map. -/
def fixChanges (sections : ListMap Text Properties) : Bool :=
  sections.entries.any fun entry => (fixDeviceTypeInconsistencyInSection entry.1 entry.2).1

/-- `FixDeviceTypeInconsistencies`: the fix applied to every section of the three maps. -/
def fixDeviceTypeInconsistencies (c : ConfigCache) : ConfigCache × Bool :=
  let fix := fun sectionName entries => (fixDeviceTypeInconsistencyInSection sectionName entries).2
  ({ c with
    informationSections := c.informationSections.mapValues fix
    persistentDevices := c.persistentDevices.mapValues fix
    temporaryDevices := c.temporaryDevices.mapValues fix },
    fixChanges c.informationSections || fixChanges c.persistentDevices ||
      fixChanges c.temporaryDevices.listMap)

end ConfigCache

/-- The operations that change the cache. -/
inductive ConfigOp where
  | setProperty (sectionName property value : Text)
  | removeProperty (sectionName property : Text)
  | removeSection (sectionName : Text)
  | removeSectionWithProperty (property : Text)
  | commit (entries : List MutationEntry)
  | fixDeviceTypeInconsistencies

namespace ConfigCache

/-- One operation; `none` where the code asserts. -/
def step (c : ConfigCache) : ConfigOp → Option ConfigCache
  | .setProperty sectionName property value => c.setProperty sectionName property value
  | .removeProperty sectionName property => some (c.removeProperty sectionName property).1
  | .removeSection sectionName => some (c.removeSection sectionName).1
  | .removeSectionWithProperty property => some (c.removeSectionWithProperty property)
  | .commit entries => c.commit entries
  | .fixDeviceTypeInconsistencies => some c.fixDeviceTypeInconsistencies.1

/-- Properties as the cache keeps them: at least one, and each with a name. -/
def Filled (properties : Properties) : Prop :=
  0 < properties.size ∧ ∀ property ∈ properties.keys, property ≠ []

/-- What the code keeps true of its three maps: information sections are named and not
addresses, device sections are addresses, persistent devices hold a persistent property, no
device is in both device maps, and no section is empty. -/
structure Consistent (c : ConfigCache) : Prop where
  information : ∀ s p, c.informationSections.find s = some p →
    s ≠ [] ∧ isDeviceSection s = false ∧ Filled p
  persistent : ∀ s p, c.persistentDevices.find s = some p →
    isDeviceSection s = true ∧ Filled p ∧ ∃ property ∈ p.keys, c.isPersistentProperty property
  temporary : ∀ s p, c.temporaryDevices.listMap.find s = some p →
    isDeviceSection s = true ∧ Filled p
  separate : ∀ s p, c.persistentDevices.find s = some p → c.temporaryDevices.listMap.find s = none

theorem consistent_new (tempDeviceCapacity : Nat) (capacity_pos : 0 < tempDeviceCapacity)
    (persistentPropertyNames : List Text) :
    (new tempDeviceCapacity capacity_pos persistentPropertyNames).Consistent where
  information _ _ found := by cases found
  persistent _ _ found := by cases found
  temporary _ _ found := by cases found
  separate _ _ found := by cases found

section Filled

variable {p : Properties}

theorem filled_insertOrAssign (named : ∀ property ∈ p.keys, property ≠ [])
    (pos : Fin (p.size + 1)) {property : Text} (propertyNamed : property ≠ []) (value : Text) :
    Filled (p.insertOrAssign pos property value) := by
  constructor
  · exact (p.insertOrAssign pos property value).size_pos_of_mem_keys
      ((p.mem_keys_insertOrAssign pos property value).2 (.inl rfl))
  · intro k mem
    rcases (p.mem_keys_insertOrAssign pos property value).1 mem with same | old
    · rw [same]
      exact propertyNamed
    · exact named k old

theorem filled_extract (filled : Filled p) (property : Text)
    (nonempty : (p.extract property).2.size ≠ 0) : Filled (p.extract property).2 :=
  ⟨Nat.pos_of_ne_zero nonempty, fun k mem => filled.2 k ((p.mem_keys_extract property).1 mem).2⟩

/-- The properties a section had, or none: each has a name. -/
theorem named_getD {sections : ListMap Text Properties} {s : Text}
    (filled : ∀ p, sections.find s = some p → Filled p) :
    ∀ property ∈ ((sections.find s).getD .empty).keys, property ≠ [] := by
  cases found : sections.find s with
  | none => intro property mem; cases mem
  | some p => exact (filled p found).2

end Filled

section Steps

variable {c : ConfigCache} (consistent : c.Consistent)
include consistent

theorem Consistent.setInformation {s property : Text} (named : s ≠ [])
    (notDevice : isDeviceSection s = false) (propertyNamed : property ≠ []) (value : Text) :
    ({ c with
      informationSections := (c.informationSections.tryEmplaceBack s .empty).1.modify s
        (·.insertOrAssignBack property value) } : ConfigCache).Consistent where
  information x p found := by
    rw [ListMap.find_modify_tryEmplaceBack] at found
    split at found
    · rename_i same
      subst same
      cases found
      exact ⟨named, notDevice, filled_insertOrAssign
        (named_getD fun p found => (consistent.information x p found).2.2) _ propertyNamed value⟩
    · exact consistent.information x p found
  persistent := consistent.persistent
  temporary := consistent.temporary
  separate := consistent.separate

theorem Consistent.setPersistentNew {s property : Text} (device : isDeviceSection s = true)
    (absent : c.persistentDevices.find s = none)
    (persistentProperty : c.isPersistentProperty property) (propertyNamed : property ≠ [])
    (value : Text) :
    ({ c with
      temporaryDevices := (c.temporaryDevices.extract s).2
      persistentDevices :=
        (c.persistentDevices.tryEmplaceBack s
          (((c.temporaryDevices.extract s).1.map Prod.snd).getD .empty)).1.modify s
          (·.insertOrAssignBack property value) } : ConfigCache).Consistent where
  information := consistent.information
  persistent x p found := by
    rw [ListMap.find_modify_tryEmplaceBack] at found
    split at found
    · rename_i same
      subst same
      cases found
      have moved : (c.temporaryDevices.extract x).1.map Prod.snd =
          c.temporaryDevices.listMap.find x := by
        simp [Option.map_map, Function.comp_def]
      rw [absent, Option.getD_none, moved]
      refine ⟨device, filled_insertOrAssign
        (named_getD fun p found => (consistent.temporary x p found).2) _ propertyNamed value,
        property, ?_, persistentProperty⟩
      exact (ListMap.mem_keys_insertOrAssign _ _ _ _).2 (.inl rfl)
    · exact consistent.persistent x p found
  temporary x p found :=
    consistent.temporary x p (c.temporaryDevices.listMap.submap_extract s found)
  separate x p found := by
    rw [ListMap.find_modify_tryEmplaceBack] at found
    change (c.temporaryDevices.extract s).2.listMap.find x = none
    rw [LruCache.find_extract]
    split
    · rfl
    · rename_i differs
      rw [if_neg differs] at found
      exact consistent.separate x p found

theorem Consistent.setPersistent {s property : Text} (propertyNamed : property ≠ [])
    (value : Text) :
    ({ c with
      persistentDevices := c.persistentDevices.modify s
        (·.insertOrAssignBack property value) } : ConfigCache).Consistent where
  information := consistent.information
  persistent x p found := by
    rw [ListMap.find_modify] at found
    split at found
    · rename_i same
      subst same
      obtain ⟨old, stored, rfl⟩ := Option.map_eq_some_iff.1 found
      obtain ⟨device, filled, key, mem, persistentProperty⟩ := consistent.persistent x old stored
      exact ⟨device, filled_insertOrAssign filled.2 _ propertyNamed value, key,
        (old.mem_keys_insertOrAssign _ _ _).2 (.inr mem), persistentProperty⟩
    · exact consistent.persistent x p found
  temporary := consistent.temporary
  separate x p found := by
    rw [ListMap.find_modify] at found
    split at found
    · rename_i same
      subst same
      obtain ⟨old, stored, -⟩ := Option.map_eq_some_iff.1 found
      exact consistent.separate x old stored
    · exact consistent.separate x p found

theorem Consistent.setTemporary {s property : Text} (device : isDeviceSection s = true)
    (absent : c.persistentDevices.find s = none) (propertyNamed : property ≠ [])
    (value : Text) :
    ({ c with
      temporaryDevices :=
        (if (c.temporaryDevices.find s).1.isSome then (c.temporaryDevices.find s).2
          else ((c.temporaryDevices.find s).2.tryEmplace s .empty).2.2).modify s
          (·.insertOrAssignBack property value) } : ConfigCache).Consistent where
  information := consistent.information
  persistent := consistent.persistent
  temporary x p found := by
    rw [LruCache.find_modify] at found
    split at found
    · rename_i same
      subst same
      rw [LruCache.find_findOrEmplace_self] at found
      cases found
      exact ⟨device, filled_insertOrAssign
        (named_getD fun p found => (consistent.temporary x p found).2) _ propertyNamed value⟩
    · rename_i differs
      exact consistent.temporary x p (c.temporaryDevices.find_findOrEmplace_of_ne differs _ found)
  separate x p found := by
    have differs : x ≠ s := by
      rintro rfl
      rw [absent] at found
      cases found
    cases kept : (LruCache.modify _ s _).listMap.find x with
    | none => rfl
    | some q =>
      rw [LruCache.find_modify, if_neg differs] at kept
      have old := c.temporaryDevices.find_findOrEmplace_of_ne differs _ kept
      rw [consistent.separate x p found] at old
      cases old

/-- Dropping information sections keeps the invariant. -/
theorem Consistent.shrinkInformation {sections : ListMap Text Properties}
    (sub : sections.Submap c.informationSections) :
    ({ c with informationSections := sections } : ConfigCache).Consistent where
  information x p found := consistent.information x p (sub found)
  persistent := consistent.persistent
  temporary := consistent.temporary
  separate := consistent.separate

/-- Dropping persistent devices keeps the invariant. -/
theorem Consistent.shrinkPersistent {devices : ListMap Text Properties}
    (sub : devices.Submap c.persistentDevices) :
    ({ c with persistentDevices := devices } : ConfigCache).Consistent where
  information := consistent.information
  persistent x p found := consistent.persistent x p (sub found)
  temporary := consistent.temporary
  separate x p found := consistent.separate x p (sub found)

/-- Dropping temporary devices keeps the invariant. -/
theorem Consistent.shrinkTemporary {devices : LruCache Text Properties}
    (sub : devices.listMap.Submap c.temporaryDevices.listMap) :
    ({ c with temporaryDevices := devices } : ConfigCache).Consistent where
  information := consistent.information
  persistent := consistent.persistent
  temporary x p found := consistent.temporary x p (sub found)
  separate x p found := sub.find_eq_none (consistent.separate x p found)

/-- `SetProperty` keeps the invariant, whichever map the section goes to. -/
theorem Consistent.setProperty {s property value : Text} {c' : ConfigCache}
    (set : c.setProperty s property value = some c') : c'.Consistent := by
  unfold ConfigCache.setProperty at set
  dsimp only at set
  split at set
  · cases set
  · rename_i named
    rw [not_or] at named
    split at set
    · rename_i notDevice
      cases set
      exact consistent.setInformation named.1 (by simpa using notDevice) named.2 _
    · rename_i device
      have device : isDeviceSection (trimAfterNewLine s) = true := by simpa using device
      split at set
      · rename_i moving
        rw [Bool.and_eq_true, Bool.not_eq_true', ListMap.contains_eq_false_iff] at moving
        cases set
        exact consistent.setPersistentNew device moving.1 moving.2 named.2 _
      · split at set
        · cases set
          exact consistent.setPersistent named.2 _
        · rename_i present
          rw [Bool.not_eq_true, ListMap.contains_eq_false_iff] at present
          cases set
          exact consistent.setTemporary device present named.2 _

/-- `RemoveSection` keeps the invariant: the section goes from one map. -/
theorem Consistent.removeSection (s : Text) : (c.removeSection s).1.Consistent := by
  unfold ConfigCache.removeSection
  split
  · exact consistent.shrinkInformation (c.informationSections.submap_extract s)
  · split
    · exact consistent.shrinkPersistent (c.persistentDevices.submap_extract s)
    · exact consistent.shrinkTemporary (c.temporaryDevices.listMap.submap_extract s)

theorem Consistent.updateInformation {s : Text} {p : Properties}
    (found : c.informationSections.find s = some p) (property : Text)
    (nonempty : (p.extract property).2.size ≠ 0) :
    ({ c with
      informationSections := c.informationSections.modify s fun _ => (p.extract property).2 } :
      ConfigCache).Consistent where
  information x q stored := by
    rw [ListMap.find_modify] at stored
    split at stored
    · rename_i same
      subst same
      rw [found] at stored
      cases stored
      obtain ⟨named, notDevice, filled⟩ := consistent.information x p found
      exact ⟨named, notDevice, filled_extract filled property nonempty⟩
    · exact consistent.information x q stored
  persistent := consistent.persistent
  temporary := consistent.temporary
  separate := consistent.separate

/-- A persistent device keeps its section when it keeps a persistent property: the one removed
was not one, or was not there. -/
theorem Consistent.updatePersistent {s : Text} {p : Properties}
    (found : c.persistentDevices.find s = some p) (property : Text)
    (nonempty : (p.extract property).2.size ≠ 0)
    (keeps : (p.extract property).1.isSome = false ∨ c.isPersistentProperty property = false) :
    ({ c with
      persistentDevices := c.persistentDevices.modify s fun _ => (p.extract property).2 } :
      ConfigCache).Consistent where
  information := consistent.information
  persistent x q stored := by
    rw [ListMap.find_modify] at stored
    split at stored
    · rename_i same
      subst same
      rw [found] at stored
      cases stored
      obtain ⟨device, filled, key, mem, persistentProperty⟩ := consistent.persistent x p found
      have differs : key ≠ property := by
        rintro rfl
        rcases keeps with absent | notPersistent
        · rw [ListMap.extract_fst, Option.isSome_map, Option.isSome_eq_false_iff,
            Option.isNone_iff_eq_none, ListMap.find_eq_none_iff] at absent
          exact absent mem
        · rw [persistentProperty] at notPersistent
          cases notPersistent
      exact ⟨device, filled_extract filled property nonempty, key,
        (p.mem_keys_extract property).2 ⟨differs, mem⟩, persistentProperty⟩
    · exact consistent.persistent x q stored
  temporary := consistent.temporary
  separate x q stored := by
    rw [ListMap.find_modify] at stored
    split at stored
    · rename_i same
      subst same
      exact consistent.separate x p found
    · exact consistent.separate x q stored

/-- A persistent device moved to `temporary_devices_` keeps the invariant's other parts. -/
theorem Consistent.moveToTemporary {s : Text} {p : Properties}
    (found : c.persistentDevices.find s = some p) (property : Text)
    (nonempty : (p.extract property).2.size ≠ 0) :
    ({ c with
      persistentDevices := c.persistentDevices.erase s
      temporaryDevices := (c.temporaryDevices.insertOrAssign s (p.extract property).2).2 } :
      ConfigCache).Consistent where
  information := consistent.information
  persistent x q stored := consistent.persistent x q (c.persistentDevices.submap_erase s stored)
  temporary x q stored := by
    by_cases same : x = s
    · subst same
      rw [LruCache.find_insertOrAssign_self] at stored
      cases stored
      exact ⟨(consistent.persistent x p found).1,
        filled_extract (consistent.persistent x p found).2.1 property nonempty⟩
    · exact consistent.temporary x q
        (c.temporaryDevices.find_insertOrAssign_of_ne same _ stored)
  separate x q stored := by
    have differs : x ≠ s := by
      rintro rfl
      rw [ListMap.find_erase, if_pos rfl] at stored
      cases stored
    rw [ListMap.find_erase, if_neg differs] at stored
    cases kept : (c.temporaryDevices.insertOrAssign s (p.extract property).2).2.listMap.find x with
    | none => rfl
    | some r =>
      have old := c.temporaryDevices.find_insertOrAssign_of_ne differs _ kept
      rw [consistent.separate x q stored] at old
      cases old

theorem Consistent.updateTemporary {s : Text} {p : Properties}
    (absent : c.persistentDevices.find s = none)
    (found : c.temporaryDevices.listMap.find s = some p) (property : Text)
    (nonempty : (p.extract property).2.size ≠ 0) :
    ({ c with
      temporaryDevices := (c.temporaryDevices.find s).2.modify s fun _ => (p.extract property).2 } :
      ConfigCache).Consistent where
  information := consistent.information
  persistent := consistent.persistent
  temporary x q stored := by
    simp only [LruCache.find_modify, LruCache.find_find] at stored
    split at stored
    · rename_i same
      subst same
      rw [found] at stored
      cases stored
      exact ⟨(consistent.temporary x p found).1,
        filled_extract (consistent.temporary x p found).2 property nonempty⟩
    · exact consistent.temporary x q stored
  separate x q stored := by
    have differs : x ≠ s := by
      rintro rfl
      rw [absent] at stored
      cases stored
    rw [LruCache.find_modify, if_neg differs, LruCache.find_find]
    exact consistent.separate x q stored

/-- `RemoveProperty` keeps the invariant. -/
theorem Consistent.removeProperty (s property : Text) :
    (c.removeProperty s property).1.Consistent := by
  unfold ConfigCache.removeProperty
  split
  · rename_i p found
    dsimp only
    split
    · exact consistent.shrinkInformation (c.informationSections.submap_erase s)
    · rename_i nonempty
      exact consistent.updateInformation found property nonempty
  · rename_i notInformation
    split
    · rename_i p found
      dsimp only
      split
      · exact consistent.shrinkPersistent (c.persistentDevices.submap_erase s)
      · rename_i nonempty
        split
        · exact consistent.moveToTemporary found property nonempty
        · rename_i keeps
          rw [Bool.and_eq_true, not_and_or, Bool.not_eq_true, Bool.not_eq_true] at keeps
          exact consistent.updatePersistent found property nonempty keeps
    · rename_i absent
      dsimp only
      split
      · rename_i p found
        rw [LruCache.find_fst] at found
        dsimp only
        split
        · exact consistent.shrinkTemporary
            (((c.temporaryDevices.find s).2.listMap.submap_erase s).trans
              fun _ _ kept => by rwa [LruCache.find_find] at kept)
        · rename_i nonempty
          exact consistent.updateTemporary absent found property nonempty
      · exact consistent.shrinkTemporary fun _ _ kept => by rwa [LruCache.find_find] at kept

/-- `RemoveSectionWithProperty` keeps the invariant: it only drops sections. -/
theorem Consistent.removeSectionWithProperty (property : Text) :
    (c.removeSectionWithProperty property).Consistent := by
  let holds : Text → Properties → Bool := fun _ properties => properties.contains property
  have information := consistent.shrinkInformation (c.informationSections.submap_eraseIf holds)
  have persistent := information.shrinkPersistent (c.persistentDevices.submap_eraseIf holds)
  exact persistent.shrinkTemporary
    (show (c.temporaryDevices.eraseIf holds).listMap.Submap _ from
      c.temporaryDevices.listMap.submap_eraseIf holds)

end Steps

section Fix

theorem mem_keys_fix (s : Text) {p : Properties} {property : Text} (mem : property ∈ p.keys) :
    property ∈ (fixDeviceTypeInconsistencyInSection s p).2.keys := by
  unfold fixDeviceTypeInconsistencyInSection
  split
  · exact mem
  · split
    · split
      · exact mem
      · split
        · rw [ListMap.keys_modify]
          exact mem
        · exact mem
    · exact (p.mem_keys_insertOrAssign _ _ _).2 (.inr mem)

theorem filled_fix (s : Text) {p : Properties} (filled : Filled p) :
    Filled (fixDeviceTypeInconsistencyInSection s p).2 := by
  unfold fixDeviceTypeInconsistencyInSection
  split
  · exact filled
  · split
    · split
      · exact filled
      · split
        · rw [Filled, ListMap.size_modify, ListMap.keys_modify]
          exact filled
        · exact filled
    · exact filled_insertOrAssign filled.2 _ (by decide) _

end Fix

section Steps

variable {c : ConfigCache} (consistent : c.Consistent)
include consistent

/-- `FixDeviceTypeInconsistencies` keeps the invariant: it only adds or sets `DevType`. -/
theorem Consistent.fixDeviceTypeInconsistencies :
    c.fixDeviceTypeInconsistencies.1.Consistent where
  information x q stored := by
    change (c.informationSections.mapValues _).find x = some q at stored
    rw [ListMap.find_mapValues] at stored
    obtain ⟨old, kept, rfl⟩ := Option.map_eq_some_iff.1 stored
    obtain ⟨named, notDevice, filled⟩ := consistent.information x old kept
    exact ⟨named, notDevice, filled_fix x filled⟩
  persistent x q stored := by
    change (c.persistentDevices.mapValues _).find x = some q at stored
    rw [ListMap.find_mapValues] at stored
    obtain ⟨old, kept, rfl⟩ := Option.map_eq_some_iff.1 stored
    obtain ⟨device, filled, key, mem, persistentProperty⟩ := consistent.persistent x old kept
    exact ⟨device, filled_fix x filled, key, mem_keys_fix x mem, persistentProperty⟩
  temporary x q stored := by
    change (c.temporaryDevices.mapValues _).listMap.find x = some q at stored
    rw [LruCache.find_mapValues] at stored
    obtain ⟨old, kept, rfl⟩ := Option.map_eq_some_iff.1 stored
    obtain ⟨device, filled⟩ := consistent.temporary x old kept
    exact ⟨device, filled_fix x filled⟩
  separate x q stored := by
    change (c.persistentDevices.mapValues _).find x = some q at stored
    change (c.temporaryDevices.mapValues _).listMap.find x = none
    rw [ListMap.find_mapValues] at stored
    obtain ⟨old, kept, -⟩ := Option.map_eq_some_iff.1 stored
    rw [LruCache.find_mapValues, consistent.separate x old kept, Option.map_none]

end Steps

/-- `Commit` keeps the invariant: each entry is one of the operations that do. -/
theorem Consistent.commit {c : ConfigCache} (consistent : c.Consistent) :
    ∀ {entries : List MutationEntry} {c' : ConfigCache}, c.commit entries = some c' →
      c'.Consistent
  | [], _, committed => by
    cases committed
    exact consistent
  | entry :: entries, _, committed => by
    rw [ConfigCache.commit] at committed
    split at committed
    · obtain ⟨middle, set, rest⟩ := Option.bind_eq_some_iff.1 committed
      exact (consistent.setProperty set).commit rest
    · exact (consistent.removeProperty _ _).commit committed
    · exact (consistent.removeSection _).commit committed

/-- Every operation keeps the invariant. -/
theorem Consistent.step {c c' : ConfigCache} (consistent : c.Consistent) {op : ConfigOp}
    (stepped : c.step op = some c') : c'.Consistent := by
  cases op with
  | setProperty s property value => exact consistent.setProperty stepped
  | removeProperty s property =>
    cases stepped
    exact consistent.removeProperty s property
  | removeSection s =>
    cases stepped
    exact consistent.removeSection s
  | removeSectionWithProperty property =>
    cases stepped
    exact consistent.removeSectionWithProperty property
  | commit entries => exact consistent.commit stepped
  | fixDeviceTypeInconsistencies =>
    cases stepped
    exact consistent.fixDeviceTypeInconsistencies

/-- Every cache that runs of the operations reach from a new cache keeps the invariant. -/
theorem consistent_of_reachable {tempDeviceCapacity : Nat} (capacity_pos : 0 < tempDeviceCapacity)
    (persistentPropertyNames : List Text) {c : ConfigCache}
    (reachable : Transition.Reachable step
      (new tempDeviceCapacity capacity_pos persistentPropertyNames) c) :
    c.Consistent :=
  reachable.invariant (consistent_new tempDeviceCapacity capacity_pos persistentPropertyNames)
    fun _ _ _ consistent stepped => consistent.step stepped

/-- The representation invariant the header and the comments describe: (a) a section is in at
most one map, (b) information sections are not named as addresses and device sections are,
(c) persistent devices hold a persistent property and temporary devices none, (d) no section is
empty, (e) the temporary map holds at most its capacity. -/
structure RepresentationInvariant (c : ConfigCache) : Prop where
  unique : ∀ s, ¬ (c.informationSections.contains s ∧ c.persistentDevices.contains s) ∧
    ¬ (c.informationSections.contains s ∧ c.temporaryDevices.listMap.contains s) ∧
    ¬ (c.persistentDevices.contains s ∧ c.temporaryDevices.listMap.contains s)
  information_named : ∀ s ∈ c.informationSections.keys, isDeviceSection s = false
  devices_addressed : ∀ s ∈ c.persistentDevices.keys ++ c.temporaryDevices.listMap.keys,
    isDeviceSection s = true
  persistent_keyed : ∀ s p, c.persistentDevices.find s = some p →
    ∃ property ∈ p.keys, c.isPersistentProperty property
  temporary_unkeyed : ∀ s p, c.temporaryDevices.listMap.find s = some p →
    ∀ property ∈ p.keys, c.isPersistentProperty property = false
  nonempty : ∀ s p, (c.informationSections.find s = some p ∨ c.persistentDevices.find s = some p ∨
    c.temporaryDevices.listMap.find s = some p) → 0 < p.size
  bounded : c.temporaryDevices.size ≤ c.temporaryDevices.capacity

/-- The invariant the code keeps gives every clause of the representation invariant but the one
on temporary devices. -/
theorem representationInvariant_of_consistent {c : ConfigCache} (consistent : c.Consistent)
    (unkeyed : ∀ s p, c.temporaryDevices.listMap.find s = some p →
      ∀ property ∈ p.keys, c.isPersistentProperty property = false) :
    c.RepresentationInvariant := by
  have stored : ∀ {m : ListMap Text Properties} {s : Text}, m.contains s → ∃ p, m.find s = some p :=
    fun present => Option.isSome_iff_exists.1 present
  have named : ∀ {m : ListMap Text Properties} {s : Text}, s ∈ m.keys → ∃ p, m.find s = some p :=
    fun mem => Option.ne_none_iff_exists'.1 ((ListMap.mem_keys_iff _).1 mem)
  refine ⟨fun s => ⟨?_, ?_, ?_⟩, ?_, ?_, fun s p found => (consistent.persistent s p found).2.2,
    unkeyed, ?_, c.temporaryDevices.size_le⟩
  · rintro ⟨information, persistent⟩
    obtain ⟨p, found⟩ := stored information
    obtain ⟨q, kept⟩ := stored persistent
    cases (consistent.persistent s q kept).1.symm.trans (consistent.information s p found).2.1
  · rintro ⟨information, temporary⟩
    obtain ⟨p, found⟩ := stored information
    obtain ⟨q, kept⟩ := stored temporary
    cases (consistent.temporary s q kept).1.symm.trans (consistent.information s p found).2.1
  · rintro ⟨persistent, temporary⟩
    obtain ⟨p, found⟩ := stored persistent
    rw [ListMap.contains, consistent.separate s p found] at temporary
    cases temporary
  · intro s mem
    obtain ⟨p, found⟩ := named mem
    exact (consistent.information s p found).2.1
  · intro s mem
    rcases List.mem_append.1 mem with persistent | temporary
    · obtain ⟨p, found⟩ := named persistent
      exact (consistent.persistent s p found).1
    · obtain ⟨p, found⟩ := named temporary
      exact (consistent.temporary s p found).1
  · rintro s p (found | found | found)
    · exact (consistent.information s p found).2.2.1
    · exact (consistent.persistent s p found).2.1.1
    · exact (consistent.temporary s p found).2.1

end ConfigCache

/-- `kDefaultTempDeviceCapacity` of the storage module. -/
def kDefaultTempDeviceCapacity : Nat := 10000

/-- The cache the storage module starts from when there is no config file. -/
def emptyStorageCache : ConfigCache :=
  .new kDefaultTempDeviceCapacity (by decide) Device.kLinkKeyProperties

/-- A device bonded over both transports. -/
def dualAddress : Text := "00:11:22:33:44:55".toList

/-- The device is bonded over BR/EDR and over LE, then its BR/EDR link key is removed. -/
def unpairClassic : List ConfigOp :=
  [.setProperty dualAddress "LinkKey".toList "0123456789abcdef0123456789abcdef".toList,
    .setProperty dualAddress "LE_KEY_PENC".toList "fedcba9876543210fedcba9876543210".toList,
    .removeProperty dualAddress "LinkKey".toList]

/-- After losing one of its two keys the device is no longer persistent: it is in
`temporary_devices_`, holding its LE key. -/
theorem removeProperty_moves_keyed_device_to_temporary :
    ∃ c, Transition.run ConfigCache.step emptyStorageCache unpairClassic = some c ∧
      c.persistentDevices.find dualAddress = none ∧
      (c.temporaryDevices.listMap.find dualAddress).map ListMap.keys =
        some ["LE_KEY_PENC".toList] ∧
      ¬ c.RepresentationInvariant := by
  have ran : (Transition.run ConfigCache.step emptyStorageCache unpairClassic).isSome := by
    decide +kernel
  obtain ⟨c, run⟩ := Option.isSome_iff_exists.1 ran
  have facts : (Transition.run ConfigCache.step emptyStorageCache unpairClassic).map
      (fun c => (c.persistentDevices.find dualAddress, (c.temporaryDevices.listMap.find
        dualAddress).map ListMap.keys, c.isPersistentProperty "LE_KEY_PENC".toList)) =
      some (none, some ["LE_KEY_PENC".toList], true) := by
    decide +kernel
  rw [run, Option.map_some, Option.some_inj, Prod.mk.injEq, Prod.mk.injEq] at facts
  obtain ⟨persistent, temporary, keyed⟩ := facts
  refine ⟨c, run, persistent, temporary, fun invariant => ?_⟩
  obtain ⟨p, found, keys⟩ := Option.map_eq_some_iff.1 temporary
  have unkeyed := invariant.temporary_unkeyed dualAddress p found "LE_KEY_PENC".toList
    (by rw [keys]; exact List.mem_singleton_self _)
  rw [keyed] at unkeyed
  cases unkeyed

end Storage

end Bluetooth
