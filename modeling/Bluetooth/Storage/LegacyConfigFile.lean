import Bluetooth.Storage.ConfigCache

set_option linter.all false

/-!
# The legacy config file

`SerializeToLegacyFormat` writes the information sections and then the persistent devices.  Each
section becomes a `[name]` line, one `name = value` line per property, and an empty line.
`LegacyConfigFile::Read` reads such a text line by line into a new cache through `SetProperty`.
A paired device therefore waits in `temporary_devices_` until its link-key line moves it to
`persistent_devices_`.

`Read` skips a line when its first character is `'\0'` or `'#'`.  The `'\0'` test is meant to
find empty lines, since `front()` of an empty string reads its terminator.  It also skips a line
that begins with a NUL character.  A property whose name starts with NUL is written out but
never read back (`read_drops_nul_named_property`).
-/

namespace Bluetooth.Storage

open Common

namespace ConfigCache

/-- `kDefaultSectionName`. -/
def kDefaultSectionName : Text := "Global".toList

/-- The text `SerializeToLegacyFormat` writes for one section. -/
def serializeSection (entry : Text × Properties) : Text :=
  '[' :: entry.1 ++ "]\n".toList ++
    entry.2.entries.flatMap (fun property => property.1 ++ " = ".toList ++ property.2 ++ ['\n']) ++
    ['\n']

/-- `SerializeToLegacyFormat`: the information sections, then the persistent devices. -/
def serializeToLegacyFormat (c : ConfigCache) : Text :=
  (c.informationSections.entries ++ c.persistentDevices.entries).flatMap serializeSection

/-- A text with no newline and no white space at either end. -/
def plainText (text : Text) : Bool :=
  '\n' ∉ text && !(text.head?.any isSpace) && !(text.getLast?.any isSpace)

/-- A property name that is plain text, has no `'='` and starts neither with `'#'` nor `'['`. -/
def plainPropertyName (property : Text) : Bool :=
  plainText property && '=' ∉ property && property.head? ≠ some '#' && property.head? ≠ some '['

/-- Every section the file gets has a plain name, and plain property names and values. -/
def writable (c : ConfigCache) : Bool :=
  (c.informationSections.entries ++ c.persistentDevices.entries).all fun entry =>
    plainText entry.1 && entry.2.entries.all fun property =>
      plainPropertyName property.1 && plainText property.2

end ConfigCache

namespace LegacyConfigFile

/-- The loop of `Read` over the lines, with `sectionName` named by the last header.  `none`
where `Read` returns `std::nullopt`, or where `SetProperty` asserts. -/
def readLines (cache : ConfigCache) (sectionName : Text) : List Text → Option ConfigCache
  | [] => some cache
  | line :: lines =>
    let line := stringTrim line
    -- `front()` of an empty line reads the terminating `'\0'`
    let front := line.headD '\x00'
    if front = '\x00' ∨ front = '#' then readLines cache sectionName lines
    else if front = '[' then
      if line.getLastD '\x00' ≠ ']' then none
      else readLines cache ((line.drop 1).take (line.length - 2)) lines
    else
      match stringSplit line "=".toList (by decide) 2 with
      | [key, value] =>
        (cache.setProperty sectionName (stringTrim key) (stringTrim value)).bind
          fun cache => readLines cache sectionName lines
      | _ => none

/-- `Read` of a file holding `text`, into a cache whose persistent properties are the link
keys. -/
def read (tempDevicesCapacity : Nat) (capacity_pos : 0 < tempDevicesCapacity) (text : Text) :
    Option ConfigCache :=
  readLines (.new tempDevicesCapacity capacity_pos Device.kLinkKeyProperties)
    ConfigCache.kDefaultSectionName (getlines '\n' text)

end LegacyConfigFile

/-- An adapter section given a property whose name starts with a NUL character. -/
def nulNamedProperty : List ConfigOp :=
  [.setProperty "Adapter".toList "\x00Name".toList "phone".toList]

/-- The section is written with its property, and read back as no section at all: the
property's line is skipped as if it were empty, and a header alone makes no section. -/
theorem read_drops_nul_named_property :
    ∃ c, Transition.run ConfigCache.step emptyStorageCache nulNamedProperty = some c ∧
      c.writable = true ∧ c.informationSections.keys = ["Adapter".toList] ∧
      (LegacyConfigFile.read kDefaultTempDeviceCapacity (by decide)
        c.serializeToLegacyFormat).map (·.informationSections.keys) = some [] := by
  have ran : (Transition.run ConfigCache.step emptyStorageCache nulNamedProperty).isSome := by
    decide +kernel
  obtain ⟨c, run⟩ := Option.isSome_iff_exists.1 ran
  have facts : (Transition.run ConfigCache.step emptyStorageCache nulNamedProperty).map
      (fun c => (c.writable, c.informationSections.keys,
        (LegacyConfigFile.read kDefaultTempDeviceCapacity (by decide)
          c.serializeToLegacyFormat).map (·.informationSections.keys))) =
      some (true, ["Adapter".toList], some []) := by
    decide +kernel
  rw [run, Option.map_some, Option.some_inj, Prod.mk.injEq, Prod.mk.injEq] at facts
  exact ⟨c, run, facts.1, facts.2.1, facts.2.2⟩

end Bluetooth.Storage
