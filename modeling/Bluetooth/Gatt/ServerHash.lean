import Bluetooth.Gatt.Database

set_option linter.all false

/-!
# The GATT server's Database Hash

`gatts_calculate_database_hash` hashes the server's own attributes in the layout of
`Database::Hash`: `calculate_database_info_size` sizes a zeroed buffer and
`fill_database_info` writes into it, walking each service's attribute list and stepping over
the value attribute after each characteristic declaration.

The size pass counts a UUID by `gatt_build_uuid_to_stream_len`, which gives the all-zero UUID
sixteen octets, and the write pass by `gatt_build_uuid_to_stream`, which writes nothing for it.
Every empty UUID the server hashes leaves sixteen octets counted and not written
(`calculateDatabaseInfoSize_eq`): the octets after it move up, and zeros fill the end of the
buffer, where the client writes the sixteen zero octets of the UUID in its place.
-/

namespace Bluetooth.Gatt

open ByteStream

/-- The union `tGATT_ATTR_VALUE` behind `p_value`; `none` is a null `p_value`. -/
inductive AttrValue where
  | none
  | uuid (uuid : Uuid)
  | charDecl (property : UInt8) (charValHandle : UInt16)
  | inclHandle (sHandle eHandle : UInt16) (serviceType : Uuid)
  | charExtProp (value : UInt16)
deriving DecidableEq, Repr

namespace AttrValue

/-- The member `uuid` of a service declaration's value.  The server database stores that member
for every service declaration; the other cases read as the empty UUID. -/
def serviceUuid : AttrValue → Uuid
  | uuid value => value
  | _ => Uuid.kEmpty

/-- The member `incl_handle` of an included service declaration's value, zero when absent. -/
def inclHandle? : AttrValue → UInt16 × UInt16 × Uuid
  | inclHandle sHandle eHandle serviceType => (sHandle, eHandle, serviceType)
  | _ => (0, 0, Uuid.kEmpty)

/-- The member `char_decl` of a characteristic declaration's value, zero when absent. -/
def charDecl? : AttrValue → UInt8 × UInt16
  | charDecl property charValHandle => (property, charValHandle)
  | _ => (0, 0)

/-- `p_value ? p_value->char_ext_prop : 0x0000`. -/
def charExtPropOrZero : AttrValue → UInt16
  | charExtProp value => value
  | _ => 0

end AttrValue

/-- `tGATT_ATTR`: the attribute's type `uuid`, its handle and its value. -/
structure GattAttr where
  handle : UInt16
  uuid : Uuid
  pValue : AttrValue
deriving DecidableEq, Repr

/-- `tGATT_SRV_LIST_ELEM` with the attribute list of its `p_db`. -/
structure SrvListElem where
  isPrimary : Bool
  attrList : List GattAttr
deriving DecidableEq, Repr

/-- `gatt_build_uuid_to_stream_len`, the same count as `UuidSize`. -/
def gattBuildUuidToStreamLen (uuid : Uuid) : Nat := uuidSize uuid

/-- The octets `gatt_build_uuid_to_stream` writes; nothing for the empty UUID. -/
def gattBuildUuidToStream (uuid : Uuid) : List UInt8 :=
  if uuid.isEmpty then []
  else if uuid.getShortestRepresentationSize = Uuid.kNumBytes16 then le16 uuid.as16Bit
  else uuid.to128BitLE.toList

/-- The attribute types `calculate_database_info_size` and `fill_database_info` tell apart. -/
inductive HashedKind where
  | serviceDecl
  | includeDecl
  | charDecl
  | descriptor
  | extProp
  | other
deriving DecidableEq, Repr

/-- The branch the two passes take on an attribute type. -/
def hashedKind (type : Uuid) : HashedKind :=
  if type = Uuid.from16Bit gattUuidPriService ∨ type = Uuid.from16Bit gattUuidSecService then
    .serviceDecl
  else if type = Uuid.from16Bit gattUuidIncludeService then .includeDecl
  else if type = Uuid.from16Bit gattUuidCharDeclare then .charDecl
  else if type ∈ hashedDescriptorTypes.map Uuid.from16Bit then .descriptor
  else if type = Uuid.from16Bit gattUuidCharExtProp then .extProp
  else .other

/-- The loop of `calculate_database_info_size` over one service's attributes.  A declaration
last in the list has no value attribute to step to; the claim's databases never end so. -/
def attrsInfoSize : List GattAttr → Nat
  | [] => 0
  | attr :: rest =>
    match hashedKind attr.uuid, rest with
    | .serviceDecl, rest => 4 + gattBuildUuidToStreamLen attr.pValue.serviceUuid + attrsInfoSize rest
    | .includeDecl, rest =>
      8 + gattBuildUuidToStreamLen attr.pValue.inclHandle?.2.2 + attrsInfoSize rest
    | .charDecl, value :: rest => 7 + gattBuildUuidToStreamLen value.uuid + attrsInfoSize rest
    | .charDecl, [] => 7
    | .descriptor, rest => 4 + attrsInfoSize rest
    | .extProp, rest => 6 + attrsInfoSize rest
    | .other, rest => attrsInfoSize rest

/-- The loop of `fill_database_info` over one service's attributes. -/
def attrsInfo (isPrimary : Bool) : List GattAttr → List UInt8
  | [] => []
  | attr :: rest =>
    match hashedKind attr.uuid, rest with
    | .serviceDecl, rest =>
      le16 attr.handle ++ le16 (if isPrimary then gattUuidPriService else gattUuidSecService) ++
        gattBuildUuidToStream attr.pValue.serviceUuid ++ attrsInfo isPrimary rest
    | .includeDecl, rest =>
      le16 attr.handle ++ le16 gattUuidIncludeService ++ le16 attr.pValue.inclHandle?.1 ++
        le16 attr.pValue.inclHandle?.2.1 ++ gattBuildUuidToStream attr.pValue.inclHandle?.2.2 ++
        attrsInfo isPrimary rest
    | .charDecl, value :: rest =>
      le16 attr.handle ++ le16 gattUuidCharDeclare ++ [attr.pValue.charDecl?.1] ++
        le16 attr.pValue.charDecl?.2 ++ gattBuildUuidToStream value.uuid ++ attrsInfo isPrimary rest
    | .charDecl, [] =>
      le16 attr.handle ++ le16 gattUuidCharDeclare ++ [attr.pValue.charDecl?.1] ++
        le16 attr.pValue.charDecl?.2
    | .descriptor, rest => le16 attr.handle ++ le16 attr.uuid.as16Bit ++ attrsInfo isPrimary rest
    | .extProp, rest =>
      le16 attr.handle ++ le16 attr.uuid.as16Bit ++ le16 attr.pValue.charExtPropOrZero ++
        attrsInfo isPrimary rest
    | .other, rest => attrsInfo isPrimary rest

/-- The empty UUIDs the two passes come to in one service's attributes. -/
def emptyUuids : List GattAttr → Nat
  | [] => 0
  | attr :: rest =>
    match hashedKind attr.uuid, rest with
    | .serviceDecl, rest => (if attr.pValue.serviceUuid.isEmpty then 1 else 0) + emptyUuids rest
    | .includeDecl, rest =>
      (if attr.pValue.inclHandle?.2.2.isEmpty then 1 else 0) + emptyUuids rest
    | .charDecl, value :: rest => (if value.uuid.isEmpty then 1 else 0) + emptyUuids rest
    | .charDecl, [] => 0
    | .descriptor, rest => emptyUuids rest
    | .extProp, rest => emptyUuids rest
    | .other, rest => emptyUuids rest

/-- `calculate_database_info_size`. -/
def calculateDatabaseInfoSize (services : List SrvListElem) : Nat :=
  (services.map fun service => attrsInfoSize service.attrList).sum

/-- The octets `fill_database_info` writes. -/
def fillDatabaseInfo (services : List SrvListElem) : List UInt8 :=
  services.flatMap fun service => attrsInfo service.isPrimary service.attrList

/-- The empty UUIDs of all services. -/
def emptyUuidCount (services : List SrvListElem) : Nat :=
  (services.map fun service => emptyUuids service.attrList).sum

/-- The buffer `gatts_calculate_database_hash` hashes, before it reverses it. -/
def gattsDatabaseInfo (services : List SrvListElem) : List UInt8 :=
  filledBuffer (calculateDatabaseInfoSize services) (fillDatabaseInfo services)

/-- `gatts_calculate_database_hash`. -/
def gattsCalculateDatabaseHash (encrypt : CryptoToolbox.BlockCipher) (stack : Nat → UInt8)
    (services : List SrvListElem) : Except CryptoToolbox.CmacFault CryptoToolbox.Octet16 :=
  CryptoToolbox.aesCmac encrypt stack CryptoToolbox.Octet16.zero (gattsDatabaseInfo services).reverse

theorem gattBuildUuidToStreamLen_eq (uuid : Uuid) :
    gattBuildUuidToStreamLen uuid =
      (gattBuildUuidToStream uuid).length + if uuid.isEmpty then 16 else 0 := by
  unfold gattBuildUuidToStreamLen gattBuildUuidToStream uuidSize
  by_cases empty : uuid.isEmpty
  · have : uuid = Uuid.kEmpty := by simpa [Uuid.isEmpty] using empty
    subst this
    decide
  · rcases uuid.getShortestRepresentationSize_cases with short | short | short <;>
      simp [empty, short, Uuid.kNumBytes16, Uuid.kNumBytes32, Uuid.kNumBytes128]

theorem attrsInfoSize_eq (isPrimary : Bool) (attrs : List GattAttr) :
    attrsInfoSize attrs = (attrsInfo isPrimary attrs).length + 16 * emptyUuids attrs := by
  induction attrs using attrsInfoSize.induct with
  | case1 => rfl
  | case2 attr rest kind rest_ih =>
    simp only [attrsInfoSize, attrsInfo, emptyUuids, kind, List.length_append, length_le16,
      gattBuildUuidToStreamLen_eq, rest_ih]
    split <;> omega
  | case3 attr rest kind rest_ih =>
    simp only [attrsInfoSize, attrsInfo, emptyUuids, kind, List.length_append, length_le16,
      gattBuildUuidToStreamLen_eq, rest_ih]
    split <;> omega
  | case4 attr value rest kind rest_ih =>
    simp only [attrsInfoSize, attrsInfo, emptyUuids, kind, List.length_append, length_le16,
      List.length_singleton, gattBuildUuidToStreamLen_eq, rest_ih]
    split <;> omega
  | case5 attr kind => simp [attrsInfoSize, attrsInfo, emptyUuids, kind]
  | case6 attr rest kind rest_ih =>
    simp only [attrsInfoSize, attrsInfo, emptyUuids, kind, List.length_append, length_le16,
      rest_ih]
    omega
  | case7 attr rest kind rest_ih =>
    simp only [attrsInfoSize, attrsInfo, emptyUuids, kind, List.length_append, length_le16,
      rest_ih]
    omega
  | case8 attr rest kind rest_ih =>
    simp only [attrsInfoSize, attrsInfo, emptyUuids, kind, rest_ih]

/-- The size pass counts sixteen octets more than the write pass writes for every empty UUID. -/
theorem calculateDatabaseInfoSize_eq (services : List SrvListElem) :
    calculateDatabaseInfoSize services =
      (fillDatabaseInfo services).length + 16 * emptyUuidCount services := by
  induction services with
  | nil => rfl
  | cons service services induction =>
    simp only [calculateDatabaseInfoSize, fillDatabaseInfo, emptyUuidCount, List.map_cons,
      List.sum_cons, List.flatMap_cons, List.length_append] at induction ⊢
    rw [induction, attrsInfoSize_eq service.isPrimary]
    omega

/-- A server database with an empty UUID among those it hashes sizes its buffer beyond the
octets it writes. -/
theorem fillDatabaseInfo_short_of_empty_uuid (services : List SrvListElem)
    (empty : 0 < emptyUuidCount services) :
    (fillDatabaseInfo services).length < calculateDatabaseInfoSize services := by
  rw [calculateDatabaseInfoSize_eq]
  omega

/-- A primary service with the empty UUID and one characteristic, on the server. -/
def emptyUuidServer : List SrvListElem :=
  [⟨true, [⟨1, Uuid.from16Bit gattUuidPriService, .uuid Uuid.kEmpty⟩,
    ⟨2, Uuid.from16Bit gattUuidCharDeclare, .charDecl 0x02 3⟩,
    ⟨3, Uuid.from16Bit 0x2A00, .none⟩]⟩]

/-- The same service as the client holds it. -/
def emptyUuidClient : Database :=
  ⟨[⟨1, Uuid.kEmpty, true, 3, [], [⟨2, Uuid.from16Bit 0x2A00, 3, 0x02, []⟩]⟩]⟩

theorem fillDatabaseInfo_short_of_empty_uuid_service :
    0 < emptyUuidCount emptyUuidServer ∧
    (fillDatabaseInfo emptyUuidServer).length < calculateDatabaseInfoSize emptyUuidServer ∧
    gattsDatabaseInfo emptyUuidServer ≠
      filledBuffer emptyUuidClient.hashSize emptyUuidClient.hashInput :=
  ⟨by decide, fillDatabaseInfo_short_of_empty_uuid emptyUuidServer (by decide), by decide +kernel⟩

end Bluetooth.Gatt
