import Bluetooth.Types.Uuid
import Bluetooth.Lib.ByteStream
import Bluetooth.CryptoToolbox.AesCmac

set_option linter.all false

/-!
# The GATT client's database: its hash and its cache format

A `gatt::Database` is the client's copy of a server's services, each with its included services
and its characteristics, each characteristic with its descriptors.  `Database::Hash` serializes
it for the Database Hash of robust caching, in the layout the server hashes its own attributes
in; `Serialize` flattens it into `StoredAttribute`s for the cache file and `Deserialize` reads
them back.

A `StoredAttribute` has a handle, a type and a value.  The type of a service, an included
service or a characteristic is its declaration type; the type of a descriptor is the
descriptor's own UUID, which the remote device chose.  `Deserialize` tells the kinds apart by
the type alone.
-/

namespace Bluetooth.Gatt

open ByteStream

/-- `GATT_UUID_PRI_SERVICE`. -/
def gattUuidPriService : UInt16 := 0x2800

/-- `GATT_UUID_SEC_SERVICE`. -/
def gattUuidSecService : UInt16 := 0x2801

/-- `GATT_UUID_INCLUDE_SERVICE`. -/
def gattUuidIncludeService : UInt16 := 0x2802

/-- `GATT_UUID_CHAR_DECLARE`. -/
def gattUuidCharDeclare : UInt16 := 0x2803

/-- `GATT_UUID_CHAR_EXT_PROP`. -/
def gattUuidCharExtProp : UInt16 := 0x2900

/-- `GATT_UUID_CHAR_DESCRIPTION`, `GATT_UUID_CHAR_CLIENT_CONFIG`, `GATT_UUID_CHAR_SRVR_CONFIG`,
`GATT_UUID_CHAR_PRESENT_FORMAT` and `GATT_UUID_CHAR_AGG_FORMAT`: the descriptors the Database
Hash covers by handle and type only. -/
def hashedDescriptorTypes : List UInt16 := [0x2901, 0x2902, 0x2903, 0x2904, 0x2905]

/-- `gatt::IncludedService`. -/
structure IncludedService where
  handle : UInt16
  uuid : Uuid
  startHandle : UInt16
  endHandle : UInt16
deriving DecidableEq, Repr

/-- `gatt::Descriptor`; `characteristicExtendedProperties` is 0 unless it is set. -/
structure Descriptor where
  handle : UInt16
  uuid : Uuid
  characteristicExtendedProperties : UInt16
deriving DecidableEq, Repr

/-- `gatt::Characteristic`. -/
structure Characteristic where
  declarationHandle : UInt16
  uuid : Uuid
  valueHandle : UInt16
  properties : UInt8
  descriptors : List Descriptor
deriving DecidableEq, Repr

/-- `gatt::Service`. -/
structure Service where
  handle : UInt16
  uuid : Uuid
  isPrimary : Bool
  endHandle : UInt16
  includedServices : List IncludedService
  characteristics : List Characteristic
deriving DecidableEq, Repr

/-- `gatt::Database`. -/
structure Database where
  services : List Service
deriving DecidableEq, Repr

/-- `HandleInRange`. -/
def Service.handleInRange (service : Service) (handle : UInt16) : Bool :=
  service.handle ≤ handle && handle ≤ service.endHandle

/-- `FindService`: the first service whose range holds `handle`. -/
def findService (services : List Service) (handle : UInt16) : Option Service :=
  services.find? (·.handleInRange handle)

/-! ### `Database::Hash` -/

/-- `UuidSize`: a UUID with a 32-bit short form is hashed as 128 bits. -/
def uuidSize (uuid : Uuid) : Nat :=
  if uuid.getShortestRepresentationSize = Uuid.kNumBytes32 then Uuid.kNumBytes128
  else uuid.getShortestRepresentationSize

/-- A UUID as `Database::Hash` writes it: 16 bits, or 128 bits least significant octet first. -/
def hashUuid (uuid : Uuid) : List UInt8 :=
  if uuidSize uuid = Uuid.kNumBytes16 then le16 uuid.as16Bit else uuid.to128BitLE.toList

/-- What `Database::Hash` counts for a descriptor. -/
def Descriptor.hashSize (d : Descriptor) : Nat :=
  if uuidSize d.uuid ≠ Uuid.kNumBytes16 then 0
  else if d.uuid.as16Bit ∈ hashedDescriptorTypes then 2 + uuidSize d.uuid
  else if d.uuid.as16Bit = gattUuidCharExtProp then 4 + uuidSize d.uuid
  else 0

/-- What `Database::Hash` writes for a descriptor. -/
def Descriptor.hashInput (d : Descriptor) : List UInt8 :=
  if uuidSize d.uuid ≠ Uuid.kNumBytes16 then []
  else if d.uuid.as16Bit ∈ hashedDescriptorTypes then le16 d.handle ++ le16 d.uuid.as16Bit
  else if d.uuid.as16Bit = gattUuidCharExtProp then
    le16 d.handle ++ le16 d.uuid.as16Bit ++ le16 d.characteristicExtendedProperties
  else []

/-- What `Database::Hash` counts for a characteristic and its descriptors. -/
def Characteristic.hashSize (c : Characteristic) : Nat :=
  7 + uuidSize c.uuid + (c.descriptors.map Descriptor.hashSize).sum

/-- What `Database::Hash` writes for a characteristic and its descriptors. -/
def Characteristic.hashInput (c : Characteristic) : List UInt8 :=
  le16 c.declarationHandle ++ le16 gattUuidCharDeclare ++ [c.properties] ++ le16 c.valueHandle ++
    hashUuid c.uuid ++ c.descriptors.flatMap Descriptor.hashInput

/-- What `Database::Hash` counts for an included service. -/
def IncludedService.hashSize (is : IncludedService) : Nat := 8 + uuidSize is.uuid

/-- What `Database::Hash` writes for an included service. -/
def IncludedService.hashInput (is : IncludedService) : List UInt8 :=
  le16 is.handle ++ le16 gattUuidIncludeService ++ le16 is.startHandle ++ le16 is.endHandle ++
    hashUuid is.uuid

/-- What `Database::Hash` counts for a service. -/
def Service.hashSize (s : Service) : Nat :=
  4 + uuidSize s.uuid + (s.includedServices.map IncludedService.hashSize).sum +
    (s.characteristics.map Characteristic.hashSize).sum

/-- What `Database::Hash` writes for a service. -/
def Service.hashInput (s : Service) : List UInt8 :=
  le16 s.handle ++ le16 (if s.isPrimary then gattUuidPriService else gattUuidSecService) ++
    hashUuid s.uuid ++ s.includedServices.flatMap IncludedService.hashInput ++
    s.characteristics.flatMap Characteristic.hashInput

/-- The size `Database::Hash` gives its buffer. -/
def Database.hashSize (db : Database) : Nat := (db.services.map Service.hashSize).sum

/-- The octets `Database::Hash` writes into its buffer. -/
def Database.hashInput (db : Database) : List UInt8 := db.services.flatMap Service.hashInput

/-- A zeroed buffer of `size` octets with `written` written from its start. -/
def filledBuffer (size : Nat) (written : List UInt8) : List UInt8 :=
  List.ofFn fun i : Fin size => written.getD i 0

/-- `Database::Hash`: AES-CMAC under the zero key of the buffer, reversed. -/
def Database.hash (encrypt : CryptoToolbox.BlockCipher) (stack : Nat → UInt8) (db : Database) :
    Except CryptoToolbox.CmacFault CryptoToolbox.Octet16 :=
  CryptoToolbox.aesCmac encrypt stack CryptoToolbox.Octet16.zero
    (filledBuffer db.hashSize db.hashInput).reverse

theorem length_hashUuid (uuid : Uuid) : (hashUuid uuid).length = uuidSize uuid := by
  unfold hashUuid uuidSize
  rcases uuid.getShortestRepresentationSize_cases with short | short | short <;>
    simp [short, Uuid.kNumBytes16, Uuid.kNumBytes32, Uuid.kNumBytes128]

theorem Descriptor.length_hashInput (d : Descriptor) : d.hashInput.length = d.hashSize := by
  unfold hashInput hashSize
  split
  · rfl
  · split
    · simp_all [Uuid.kNumBytes16]
    · split <;> simp_all [Uuid.kNumBytes16]

theorem Characteristic.length_hashInput (c : Characteristic) :
    c.hashInput.length = c.hashSize := by
  simp only [hashInput, hashSize, List.length_append, length_le16, List.length_singleton,
    length_hashUuid, List.length_flatMap, Descriptor.length_hashInput]

theorem IncludedService.length_hashInput (is : IncludedService) :
    is.hashInput.length = is.hashSize := by
  simp only [hashInput, hashSize, List.length_append, length_le16, length_hashUuid]

theorem Service.length_hashInput (s : Service) : s.hashInput.length = s.hashSize := by
  simp only [hashInput, hashSize, List.length_append, length_le16, length_hashUuid,
    List.length_flatMap, IncludedService.length_hashInput, Characteristic.length_hashInput]

/-- The client counts exactly the octets it writes, so its buffer is what it wrote. -/
theorem Database.length_hashInput (db : Database) : db.hashInput.length = db.hashSize := by
  simp only [hashInput, hashSize, List.length_flatMap, Service.length_hashInput]

/-! ### The cache format -/

/-- `PRIMARY_SERVICE`. -/
def primaryServiceUuid : Uuid := Uuid.from16Bit gattUuidPriService

/-- `SECONDARY_SERVICE`. -/
def secondaryServiceUuid : Uuid := Uuid.from16Bit gattUuidSecService

/-- `INCLUDE`. -/
def includeUuid : Uuid := Uuid.from16Bit gattUuidIncludeService

/-- `CHARACTERISTIC`. -/
def characteristicUuid : Uuid := Uuid.from16Bit gattUuidCharDeclare

/-- `CHARACTERISTIC_EXTENDED_PROPERTIES`. -/
def characteristicExtendedPropertiesUuid : Uuid := Uuid.from16Bit gattUuidCharExtProp

/-- The union `StoredAttribute::value`.  `zero` is the value-initialized `{}` that a descriptor
other than Characteristic Extended Properties is stored with. -/
inductive StoredValue where
  | zero
  | service (uuid : Uuid) (endHandle : UInt16)
  | includedService (handle endHandle : UInt16) (uuid : Uuid)
  | characteristic (properties : UInt8) (valueHandle : UInt16) (uuid : Uuid)
  | characteristicExtendedProperties (value : UInt16)
deriving DecidableEq, Repr

namespace StoredValue

/-! A member of the union read from a value stored as another.  `Serialize` only ever stores
`zero` under a type that is read as another member, and `zero` reads as zero in every one. -/

/-- The member `service`. -/
def service? : StoredValue → Uuid × UInt16
  | service uuid endHandle => (uuid, endHandle)
  | _ => (Uuid.kEmpty, 0)

/-- The member `included_service`. -/
def includedService? : StoredValue → UInt16 × UInt16 × Uuid
  | includedService handle endHandle uuid => (handle, endHandle, uuid)
  | _ => (0, 0, Uuid.kEmpty)

/-- The member `characteristic`. -/
def characteristic? : StoredValue → UInt8 × UInt16 × Uuid
  | characteristic properties valueHandle uuid => (properties, valueHandle, uuid)
  | _ => (0, 0, Uuid.kEmpty)

/-- The member `characteristic_extended_properties`. -/
def characteristicExtendedProperties? : StoredValue → UInt16
  | characteristicExtendedProperties value => value
  | _ => 0

end StoredValue

/-- `gatt::StoredAttribute`. -/
structure StoredAttribute where
  handle : UInt16
  type : Uuid
  value : StoredValue
deriving DecidableEq, Repr

/-- A descriptor as `Serialize` stores it: its own UUID is the type. -/
def Descriptor.stored (d : Descriptor) : StoredAttribute :=
  if d.uuid = characteristicExtendedPropertiesUuid then
    ⟨d.handle, d.uuid, .characteristicExtendedProperties d.characteristicExtendedProperties⟩
  else ⟨d.handle, d.uuid, .zero⟩

/-- A characteristic and its descriptors as `Serialize` stores them. -/
def Characteristic.stored (c : Characteristic) : List StoredAttribute :=
  ⟨c.declarationHandle, characteristicUuid, .characteristic c.properties c.valueHandle c.uuid⟩ ::
    c.descriptors.map Descriptor.stored

/-- The included services, characteristics and descriptors of a service as `Serialize` stores
them. -/
def Service.storedAttributes (s : Service) : List StoredAttribute :=
  s.includedServices.map (fun is =>
      ⟨is.handle, includeUuid, .includedService is.startHandle is.endHandle is.uuid⟩) ++
    s.characteristics.flatMap Characteristic.stored

/-- `Database::Serialize`: every service declaration, then the attributes of each service. -/
def Database.serialize (db : Database) : List StoredAttribute :=
  if db.services.isEmpty then [] else
  db.services.map (fun s =>
      ⟨s.handle, if s.isPrimary then primaryServiceUuid else secondaryServiceUuid,
        .service s.uuid s.endHandle⟩) ++
    db.services.flatMap Service.storedAttributes

/-- The services of the result of `Deserialize` around `current_service_it`: those it has
passed, nearest first, and the current one with those after it. -/
structure Cursor where
  passed : List Service
  ahead : List Service

/-- All the services of a cursor, in order. -/
def Cursor.services (cursor : Cursor) : List Service := cursor.passed.reverse ++ cursor.ahead

/-- The `while` loop moving `current_service_it` past the services ending before `handle`;
attributes are stored in order, so it only moves forward. -/
def advanceCursor (handle : UInt16) (passed : List Service) : List Service → Cursor
  | [] => ⟨passed, []⟩
  | service :: ahead =>
    if service.endHandle < handle then advanceCursor handle (service :: passed) ahead
    else ⟨passed, service :: ahead⟩

/-- `characteristics.back().descriptors.emplace_back(descriptor)`; with no characteristic the
code has no `back()`, and the descriptor is not kept. -/
def addToLastCharacteristic (descriptor : Descriptor) : List Characteristic → List Characteristic
  | [] => []
  | [c] => [{ c with descriptors := c.descriptors ++ [descriptor] }]
  | c :: rest => c :: addToLastCharacteristic descriptor rest

/-- The second loop of `Deserialize`, which sorts each attribute into the current service by its
type.  The flag is `*success`. -/
def deserializeAttributes (cursor : Cursor) : List StoredAttribute → Database × Bool
  | [] => (⟨cursor.services⟩, true)
  | attr :: rest =>
    let cursor := advanceCursor attr.handle cursor.passed cursor.ahead
    match cursor.ahead with
    | [] => (⟨cursor.services⟩, false)
    | current :: ahead =>
      if ¬ current.handleInRange attr.handle then (⟨cursor.services⟩, false)
      else if attr.type = includeUuid then
        match findService cursor.services attr.value.includedService?.1 with
        | none => (⟨cursor.services⟩, false)
        | some _ =>
          deserializeAttributes ⟨cursor.passed,
            { current with
              includedServices := current.includedServices ++
                [⟨attr.handle, attr.value.includedService?.2.2, attr.value.includedService?.1,
                  attr.value.includedService?.2.1⟩] } :: ahead⟩ rest
      else if attr.type = characteristicUuid then
        deserializeAttributes ⟨cursor.passed,
          { current with
            characteristics := current.characteristics ++
              [⟨attr.handle, attr.value.characteristic?.2.2, attr.value.characteristic?.2.1,
                attr.value.characteristic?.1, []⟩] } :: ahead⟩ rest
      else
        let descriptor : Descriptor :=
          if attr.type = characteristicExtendedPropertiesUuid then
            ⟨attr.handle, attr.type, attr.value.characteristicExtendedProperties?⟩
          else ⟨attr.handle, attr.type, 0⟩
        deserializeAttributes ⟨cursor.passed,
          { current with
            characteristics := addToLastCharacteristic descriptor current.characteristics } ::
            ahead⟩ rest

/-- `Database::Deserialize`: the leading service declarations, then every other attribute.  The
flag is `*success`. -/
def Database.deserialize (nvAttr : List StoredAttribute) : Database × Bool :=
  let leading := nvAttr.takeWhile fun attr =>
    attr.type = primaryServiceUuid ∨ attr.type = secondaryServiceUuid
  deserializeAttributes
    ⟨[], leading.map fun attr =>
      ⟨attr.handle, attr.value.service?.1, attr.type = primaryServiceUuid, attr.value.service?.2, [],
        []⟩⟩
    (nvAttr.drop leading.length)

end Bluetooth.Gatt
