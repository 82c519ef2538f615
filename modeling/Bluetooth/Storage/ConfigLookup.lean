import Mathlib
import Bluetooth.Storage.ConfigCache

set_option linter.all false

/-!
# Lookups in the gd storage `ConfigCache`, and what `SetProperty` changes

The lookups are `const`, but `temporary_devices_` is an `LruCache` whose `find` splices the
entry found to the front, so `GetProperty`, `HasProperty`, `HasSection` and
`HasAtLeastOneMatchingPropertiesInSection` of a temporary device warm it up.  `ConfigAccess`
adds them to the operations that change the cache; runs of both keep the invariant
(`consistent_of_accessible`).

On a consistent cache a section is held by at most one map, so `GetProperty` reads the
properties of that one (`Consistent.getProperty_fst`).  `SetProperty(s, p, v)` changes those of
`s` only, by `insert_or_assign(p, v)`, and removes the coldest temporary device exactly when
`s` is a new temporary device and the map is full
(`Consistent.sectionProperties_setProperty`).
-/

namespace Bluetooth

namespace Storage

open Common

namespace ConfigCache

/-- `GetProperty`: the value in the first map whose section holds the property.  The lookup in
`temporary_devices_` goes through `LruCache::find`, which warms the section up. -/
def getProperty (c : ConfigCache) (sectionName property : Text) : Option Text × ConfigCache :=
  match (c.informationSections.find sectionName).bind (·.find property) with
  | some value => (some value, c)
  | none =>
    match (c.persistentDevices.find sectionName).bind (·.find property) with
    | some value => (some value, c)
    | none =>
      let found := c.temporaryDevices.find sectionName
      (found.1.bind (·.find property), { c with temporaryDevices := found.2 })

/-- `HasProperty`: whether the first map that holds the section holds the property. -/
def hasProperty (c : ConfigCache) (sectionName property : Text) : Bool × ConfigCache :=
  match c.informationSections.find sectionName with
  | some properties => (properties.contains property, c)
  | none =>
    match c.persistentDevices.find sectionName with
    | some properties => (properties.contains property, c)
    | none =>
      let found := c.temporaryDevices.find sectionName
      ((found.1.map (·.contains property)).getD false, { c with temporaryDevices := found.2 })

/-- `HasSection`: `temporary_devices_.contains` is reached only when the other two maps do not
hold the section. -/
def hasSection (c : ConfigCache) (sectionName : Text) : Bool × ConfigCache :=
  if c.informationSections.contains sectionName || c.persistentDevices.contains sectionName then
    (true, c)
  else
    let found := c.temporaryDevices.contains sectionName
    (found.1, { c with temporaryDevices := found.2 })

/-- `HasAtLeastOneMatchingPropertiesInSection`: whether the section holds one of the names. -/
def hasAtLeastOneMatchingPropertiesInSection (c : ConfigCache) (sectionName : Text)
    (propertyNames : List Text) : Bool × ConfigCache :=
  let matching : Properties → Bool := fun properties => properties.keys.any propertyNames.contains
  if !isDeviceSection sectionName then
    (((c.informationSections.find sectionName).map matching).getD false, c)
  else
    match c.persistentDevices.find sectionName with
    | some properties => (matching properties, c)
    | none =>
      let found := c.temporaryDevices.find sectionName
      ((found.1.map matching).getD false, { c with temporaryDevices := found.2 })

end ConfigCache

/-- What a client does with the cache: one of the operations that change it, or a lookup. -/
inductive ConfigAccess where
  | change (op : ConfigOp)
  | getProperty (sectionName property : Text)
  | hasProperty (sectionName property : Text)
  | hasSection (sectionName : Text)
  | hasAtLeastOneMatchingPropertiesInSection (sectionName : Text) (propertyNames : List Text)

namespace ConfigCache

/-- One access; a lookup keeps the cache it leaves behind, warmed up. -/
def access (c : ConfigCache) : ConfigAccess → Option ConfigCache
  | .change op => c.step op
  | .getProperty sectionName property => some (c.getProperty sectionName property).2
  | .hasProperty sectionName property => some (c.hasProperty sectionName property).2
  | .hasSection sectionName => some (c.hasSection sectionName).2
  | .hasAtLeastOneMatchingPropertiesInSection sectionName propertyNames =>
    some (c.hasAtLeastOneMatchingPropertiesInSection sectionName propertyNames).2

/-- The cache after a lookup of `s` in `temporary_devices_`. -/
def warm (c : ConfigCache) (s : Text) : ConfigCache :=
  { c with temporaryDevices := (c.temporaryDevices.find s).2 }

/-- A lookup leaves the cache as it was, or warmed up at the section it looked for. -/
theorem lookup_cases (c : ConfigCache) (event : ConfigAccess) {c' : ConfigCache}
    (lookup : ∀ op, event ≠ .change op) (accessed : c.access event = some c') :
    ∃ s, c' = c ∨ c' = c.warm s := by
  cases event with
  | change op => exact absurd rfl (lookup op)
  | getProperty s p =>
    cases accessed
    refine ⟨s, ?_⟩
    unfold getProperty
    split
    · exact .inl rfl
    · split
      · exact .inl rfl
      · exact .inr rfl
  | hasProperty s p =>
    cases accessed
    refine ⟨s, ?_⟩
    unfold hasProperty
    split
    · exact .inl rfl
    · split
      · exact .inl rfl
      · exact .inr rfl
  | hasSection s =>
    cases accessed
    refine ⟨s, ?_⟩
    unfold hasSection
    split
    · exact .inl rfl
    · exact .inr rfl
  | hasAtLeastOneMatchingPropertiesInSection s names =>
    cases accessed
    refine ⟨s, ?_⟩
    unfold hasAtLeastOneMatchingPropertiesInSection
    dsimp only
    split
    · exact .inl rfl
    · split
      · exact .inl rfl
      · exact .inr rfl

theorem Consistent.warm {c : ConfigCache} (consistent : c.Consistent) (s : Text) :
    (c.warm s).Consistent :=
  consistent.shrinkTemporary fun k v found => by rwa [LruCache.find_find] at found

theorem Consistent.access {c c' : ConfigCache} (consistent : c.Consistent) {event : ConfigAccess}
    (accessed : c.access event = some c') : c'.Consistent := by
  by_cases change : ∃ op, event = .change op
  · obtain ⟨op, rfl⟩ := change
    exact consistent.step accessed
  · obtain ⟨s, rfl | rfl⟩ := lookup_cases c event (fun op same => change ⟨op, same⟩) accessed
    · exact consistent
    · exact consistent.warm s

/-- The invariant holds after any run of changes and lookups from a new cache. -/
theorem consistent_of_accessible {tempDeviceCapacity : Nat} (capacity_pos : 0 < tempDeviceCapacity)
    (persistentPropertyNames : List Text) {c : ConfigCache}
    (reachable : Transition.Reachable access
      (new tempDeviceCapacity capacity_pos persistentPropertyNames) c) :
    c.Consistent :=
  reachable.invariant (consistent_new tempDeviceCapacity capacity_pos persistentPropertyNames)
    fun _ _ _ consistent accessed => consistent.access accessed

/-- The properties of a section, from the first map that holds it. -/
def sectionProperties (c : ConfigCache) (s : Text) : Option Properties :=
  (c.informationSections.find s).or
    ((c.persistentDevices.find s).or (c.temporaryDevices.listMap.find s))

/-- Whether `SetProperty(s, p, v)` makes room in `temporary_devices_`: `s` names a device that
neither device map holds, `p` is not persistent, and the map is full. -/
def evictsFor (c : ConfigCache) (s p : Text) : Bool :=
  isDeviceSection s && !c.persistentDevices.contains s &&
    !c.temporaryDevices.listMap.contains s && !c.isPersistentProperty p &&
    c.temporaryDevices.listMap.size == c.temporaryDevices.capacity

theorem evictsFor_eq_true {c : ConfigCache} {s p : Text} :
    c.evictsFor s p = true ↔ isDeviceSection s = true ∧ c.persistentDevices.find s = none ∧
      c.temporaryDevices.listMap.find s = none ∧ c.isPersistentProperty p = false ∧
      c.temporaryDevices.listMap.size = c.temporaryDevices.capacity := by
  simp [evictsFor, ListMap.contains, and_assoc]

section Sections

variable {c : ConfigCache} (consistent : c.Consistent)
include consistent

theorem Consistent.devices_of_information {s : Text} {props : Properties}
    (found : c.informationSections.find s = some props) :
    c.persistentDevices.find s = none ∧ c.temporaryDevices.listMap.find s = none := by
  have notDevice := (consistent.information s props found).2.1
  constructor
  · cases persistent : c.persistentDevices.find s with
    | none => rfl
    | some q =>
      rw [(consistent.persistent s q persistent).1] at notDevice
      cases notDevice
  · cases temporary : c.temporaryDevices.listMap.find s with
    | none => rfl
    | some q =>
      rw [(consistent.temporary s q temporary).1] at notDevice
      cases notDevice

theorem Consistent.information_of_device {s : Text} (device : isDeviceSection s = true) :
    c.informationSections.find s = none := by
  cases information : c.informationSections.find s with
  | none => rfl
  | some props =>
    rw [(consistent.information s props information).2.1] at device
    cases device

theorem Consistent.others_of_temporary {s : Text} {props : Properties}
    (found : c.temporaryDevices.listMap.find s = some props) :
    c.informationSections.find s = none ∧ c.persistentDevices.find s = none := by
  refine ⟨consistent.information_of_device (consistent.temporary s props found).1, ?_⟩
  cases persistent : c.persistentDevices.find s with
  | none => rfl
  | some q =>
    rw [consistent.separate s q persistent] at found
    cases found

/-- On a consistent cache `GetProperty` reads the one section of that name. -/
theorem Consistent.getProperty_fst (s p : Text) :
    (c.getProperty s p).1 = (c.sectionProperties s).bind (·.find p) := by
  unfold getProperty sectionProperties
  cases information : c.informationSections.find s with
  | some props =>
    obtain ⟨persistent, temporary⟩ := consistent.devices_of_information information
    cases found : props.find p <;> simp [persistent, temporary, found]
  | none =>
    cases persistent : c.persistentDevices.find s with
    | some props =>
      have temporary := consistent.separate s props persistent
      cases found : props.find p <;> simp [temporary, found]
    | none => simp

/-- The section's properties in the device maps when it is a device. -/
theorem Consistent.sectionProperties_of_device {s : Text} (device : isDeviceSection s = true) :
    c.sectionProperties s = (c.persistentDevices.find s).or (c.temporaryDevices.listMap.find s) := by
  rw [sectionProperties, consistent.information_of_device device, Option.none_or]

omit consistent in
/-- On a consistent cache `HasSection` says whether some map holds the section. -/
theorem hasSection_fst (s : Text) :
    (c.hasSection s).1 = (c.sectionProperties s).isSome := by
  unfold hasSection sectionProperties
  cases information : c.informationSections.find s <;>
    cases persistent : c.persistentDevices.find s <;>
    simp [ListMap.contains, information, persistent]

theorem Consistent.sectionProperties_of_not_device {s : Text}
    (notDevice : isDeviceSection s = false) :
    c.sectionProperties s = c.informationSections.find s := by
  have persistent : c.persistentDevices.find s = none := by
    cases found : c.persistentDevices.find s with
    | none => rfl
    | some q =>
      rw [(consistent.persistent s q found).1] at notDevice
      cases notDevice
  have temporary : c.temporaryDevices.listMap.find s = none := by
    cases found : c.temporaryDevices.listMap.find s with
    | none => rfl
    | some q =>
      rw [(consistent.temporary s q found).1] at notDevice
      cases notDevice
  rw [sectionProperties, persistent, temporary]
  cases c.informationSections.find s <;> rfl

end Sections

theorem trimAfterNewLine_of_not_mem {value : Text} (line : '\n' ∉ value) :
    trimAfterNewLine value = value :=
  List.takeWhile_eq_self_iff.2 fun x mem => by
    simpa using ne_of_mem_of_not_mem mem line

section SetProperty

variable {c : ConfigCache} (consistent : c.Consistent) {s p v : Text}
  (sNamed : s ≠ []) (pNamed : p ≠ []) (sLine : '\n' ∉ s) (pLine : '\n' ∉ p) (vLine : '\n' ∉ v)
include sNamed pNamed sLine pLine

/-- `SetProperty` of names that are not empty and hold no newline does not assert. -/
theorem setProperty_isSome : (c.setProperty s p v).isSome := by
  unfold setProperty
  simp only [trimAfterNewLine_of_not_mem sLine, trimAfterNewLine_of_not_mem pLine]
  rw [if_neg (not_or.2 ⟨sNamed, pNamed⟩)]
  split
  · rfl
  · split
    · rfl
    · split <;> rfl

include consistent vLine

/-- What `SetProperty(s, p, v)` does to the sections: `s` gets `p` set to `v`, in the properties it
had or in new ones, the coldest temporary device goes when `s` makes room for itself, and every
other section stays as it was. -/
theorem Consistent.sectionProperties_setProperty {c' : ConfigCache}
    (set : c.setProperty s p v = some c') (s' : Text) :
    c'.sectionProperties s' =
      if s' = s then some (((c.sectionProperties s).getD .empty).insertOrAssignBack p v)
      else if c.evictsFor s p ∧ c.temporaryDevices.coldest = some s' then none
      else c.sectionProperties s' := by
  unfold ConfigCache.setProperty at set
  simp only [trimAfterNewLine_of_not_mem sLine, trimAfterNewLine_of_not_mem pLine,
    trimAfterNewLine_of_not_mem vLine] at set
  rw [if_neg (not_or.2 ⟨sNamed, pNamed⟩)] at set
  split at set
  · -- an information section
    rename_i notDevice
    have notDevice : isDeviceSection s = false := by simpa using notDevice
    cases set
    have evicts : c.evictsFor s p = false := by simp [evictsFor, notDevice]
    rw [consistent.sectionProperties_of_not_device notDevice, evicts]
    by_cases same : s' = s
    · subst same
      simp [sectionProperties, ListMap.find_modify_tryEmplaceBack]
    · simp [sectionProperties, ListMap.find_modify_tryEmplaceBack, same]
  rename_i device
  have device : isDeviceSection s = true := by simpa using device
  rw [consistent.sectionProperties_of_device device]
  split at set
  · -- a new persistent device, moved from the temporary ones if there
    rename_i moving
    rw [Bool.and_eq_true, Bool.not_eq_true', ListMap.contains_eq_false_iff] at moving
    cases set
    have evicts : c.evictsFor s p = false := by simp [evictsFor, moving.2]
    rw [evicts]
    by_cases same : s' = s
    · subst same
      simp [sectionProperties, ListMap.find_modify_tryEmplaceBack, moving.1, Function.comp_def,
        consistent.information_of_device device]
    · simp [sectionProperties, ListMap.find_modify_tryEmplaceBack, same]
  split at set
  · -- a persistent device
    rename_i present
    cases set
    have evicts : c.evictsFor s p = false := by simp [evictsFor, present]
    obtain ⟨props, found⟩ := Option.isSome_iff_exists.1 present
    rw [evicts]
    by_cases same : s' = s
    · subst same
      simp [sectionProperties, ListMap.find_modify, found, consistent.information_of_device device]
    · simp [sectionProperties, ListMap.find_modify, same]
  -- a temporary device, found or emplaced
  rename_i moving present
  rw [Bool.not_eq_true, ListMap.contains_eq_false_iff] at present
  have notPersistent : c.isPersistentProperty p = false := by
    simpa [ListMap.contains_eq_false_iff, present] using moving
  cases set
  have evicts : c.evictsFor s p = true ↔ c.temporaryDevices.listMap.find s = none ∧
      c.temporaryDevices.listMap.size = c.temporaryDevices.capacity := by
    simp [evictsFor_eq_true, device, present, notPersistent]
  by_cases same : s' = s
  · subst same
    simp only [sectionProperties, LruCache.find_modify, if_pos, LruCache.find_findOrEmplace_self]
    simp [present, consistent.information_of_device device]
  · rw [if_neg same]
    simp only [evicts, and_assoc]
    simp only [sectionProperties, LruCache.find_modify, if_neg same,
      c.temporaryDevices.find_findOrEmplace_eq same]
    split
    · rename_i evicted
      obtain ⟨information, persistent⟩ := consistent.others_of_temporary
        (Option.ne_none_iff_exists'.1 (c.temporaryDevices.find_of_coldest evicted.2.2)).choose_spec
      simp [information, persistent]
    · rfl

end SetProperty

/-- The section `SetProperty` evicts is not the one it sets. -/
theorem ne_of_evictsFor_coldest {c : ConfigCache} {s p s' : Text} (evicts : c.evictsFor s p)
    (cold : c.temporaryDevices.coldest = some s') : s' ≠ s := by
  rintro rfl
  exact c.temporaryDevices.find_of_coldest cold (evictsFor_eq_true.1 evicts).2.2.1

/-- `SetProperty(s, p, v)` on a cache reached by any run of changes and lookups: afterwards
`GetProperty(s, p)` is `v`, every other pair reads as before but for the coldest temporary
device, and that one is removed exactly when `s` is a new temporary device with a
non-persistent `p` and the temporary map is full. -/
theorem setProperty_exact_effect {tempDeviceCapacity : Nat} (capacity_pos : 0 < tempDeviceCapacity)
    (persistentPropertyNames : List Text) {c : ConfigCache}
    (reachable : Transition.Reachable access
      (new tempDeviceCapacity capacity_pos persistentPropertyNames) c)
    {s p v : Text} (sNamed : s ≠ []) (pNamed : p ≠ []) (sLine : '\n' ∉ s) (pLine : '\n' ∉ p)
    (vLine : '\n' ∉ v) :
    ∃ c', c.setProperty s p v = some c' ∧ (c'.getProperty s p).1 = some v ∧
      (∀ s' p', (s', p') ≠ (s, p) →
        (c'.getProperty s' p').1 =
          if c.evictsFor s p ∧ c.temporaryDevices.coldest = some s' then none
          else (c.getProperty s' p').1) ∧
      (c.evictsFor s p → ∃ s', c.temporaryDevices.coldest = some s' ∧
        (c.hasSection s').1 = true ∧ (c'.hasSection s').1 = false) := by
  have consistent := consistent_of_accessible capacity_pos persistentPropertyNames reachable
  obtain ⟨c', set⟩ := Option.isSome_iff_exists.1
    (setProperty_isSome (c := c) (v := v) sNamed pNamed sLine pLine)
  have consistent' := consistent.setProperty set
  have sections := consistent.sectionProperties_setProperty sNamed pNamed sLine pLine vLine set
  refine ⟨c', set, ?_, ?_, ?_⟩
  · rw [consistent'.getProperty_fst, sections, if_pos rfl, Option.bind_some]
    exact (ListMap.find_insertOrAssign _ _ _ _ p).trans (if_pos rfl)
  · intro s' p' differs
    rw [consistent'.getProperty_fst, consistent.getProperty_fst, sections]
    by_cases same : s' = s
    · subst same
      have other : p' ≠ p := fun equal => differs (by rw [equal])
      have kept : ¬ (c.evictsFor s' p ∧ c.temporaryDevices.coldest = some s') :=
        fun ⟨evicts, cold⟩ => ne_of_evictsFor_coldest evicts cold rfl
      rw [if_pos rfl, if_neg kept, Option.bind_some, ListMap.insertOrAssignBack,
        ListMap.find_insertOrAssign, if_neg other]
      cases c.sectionProperties s' <;> rfl
    · rw [if_neg same]
      by_cases evicted : c.evictsFor s p ∧ c.temporaryDevices.coldest = some s'
      · rw [if_pos evicted, if_pos evicted]
        rfl
      · rw [if_neg evicted, if_neg evicted]
  · intro evicts
    have full := (evictsFor_eq_true.1 evicts).2.2.2.2
    obtain ⟨s', cold⟩ := c.temporaryDevices.exists_coldest_of_full full
    have other := ne_of_evictsFor_coldest evicts cold
    obtain ⟨props, found⟩ := Option.ne_none_iff_exists'.1 (c.temporaryDevices.find_of_coldest cold)
    refine ⟨s', cold, ?_, ?_⟩
    · rw [hasSection_fst, consistent.sectionProperties_of_device (consistent.temporary s' props found).1,
        found]
      cases c.persistentDevices.find s' <;> rfl
    · rw [hasSection_fst, sections, if_neg other, if_pos ⟨evicts, cold⟩]
      rfl

theorem setProperty_exact_effect_on_empty_cache :
    Transition.Reachable access
        (new kDefaultTempDeviceCapacity (by decide) Device.kLinkKeyProperties) emptyStorageCache ∧
      dualAddress ≠ [] ∧ "Name".toList ≠ [] ∧ '\n' ∉ dualAddress ∧ '\n' ∉ "Name".toList ∧
      '\n' ∉ "phone".toList ∧
    ∃ c', emptyStorageCache.setProperty dualAddress "Name".toList "phone".toList = some c' ∧
      (c'.getProperty dualAddress "Name".toList).1 = some "phone".toList ∧
      (∀ s' p', (s', p') ≠ (dualAddress, "Name".toList) →
        (c'.getProperty s' p').1 =
          if emptyStorageCache.evictsFor dualAddress "Name".toList ∧
            emptyStorageCache.temporaryDevices.coldest = some s' then none
          else (emptyStorageCache.getProperty s' p').1) ∧
      (emptyStorageCache.evictsFor dualAddress "Name".toList → ∃ s',
        emptyStorageCache.temporaryDevices.coldest = some s' ∧
        (emptyStorageCache.hasSection s').1 = true ∧ (c'.hasSection s').1 = false) :=
  ⟨.refl, by decide, by decide, by decide, by decide, by decide,
    setProperty_exact_effect (by decide) Device.kLinkKeyProperties .refl (by decide) (by decide)
      (by decide) (by decide) (by decide)⟩

end ConfigCache

end Storage

end Bluetooth
