import Bluetooth.Gatt.Database

set_option linter.all false

/-!
# Building the client's database from discovery, and caching it

`DatabaseBuilder` assembles a `gatt::Database` from the results of service discovery: services
are kept in handle order, an included service that was not discovered as a primary service is
added as a secondary one, a characteristic goes to the service holding its handle, and a
descriptor to the last characteristic of that service declared before it.  The values of
Characteristic Extended Properties descriptors are read afterwards and set by
`SetValueOfDescriptors`.

The remote device chooses every UUID.  A descriptor whose UUID is the characteristic
declaration type is stored by `Serialize` under that type, and `Deserialize` reads it back as a
characteristic with a zero value: the cache returns another database and reports success
(`deserialize_serialize_reads_descriptor_as_characteristic`).
-/

namespace Bluetooth.Gatt

/-- `DatabaseBuilder`: the database so far and the handles of the Characteristic Extended
Properties descriptors whose values are still to be read. -/
structure DatabaseBuilder where
  database : Database
  descriptorHandlesToRead : List UInt16
deriving DecidableEq, Repr

/-- A result of discovery, given to the builder. -/
inductive DiscoveryResult where
  | addService (handle endHandle : UInt16) (uuid : Uuid) (isPrimary : Bool)
  | addIncludedService (handle : UInt16) (uuid : Uuid) (startHandle endHandle : UInt16)
  | addCharacteristic (handle valueHandle : UInt16) (uuid : Uuid) (properties : UInt8)
  | addDescriptor (handle : UInt16) (uuid : Uuid)
  | setValueOfDescriptors (values : List UInt16)
deriving DecidableEq, Repr

/-- The index `FindService` finds. -/
def findServiceIndex (services : List Service) (handle : UInt16) : Option Nat :=
  services.findIdx? (·.handleInRange handle)

/-- Where `AddService` puts a service starting at `handle`: at the end when the last service
ends before it, otherwise where `std::lower_bound` finds the first service that does not end
before it. -/
def serviceInsertionIndex (services : List Service) (handle : UInt16) : Nat :=
  if services.getLast?.all (·.endHandle < handle) then services.length
  else (services.findIdx? fun s => ¬ s.endHandle < handle).getD services.length

/-- The characteristic `AddDescriptor` gives a descriptor at `handle`: the last one before the
first declared after `handle`, and the first one when that is the first. -/
def descriptorOwnerIndex (characteristics : List Characteristic) (handle : UInt16) : Nat :=
  ((characteristics.findIdx? (·.declarationHandle > handle)).getD characteristics.length) - 1

namespace DatabaseBuilder

/-- The builder with the service at `index` changed by `change`. -/
def modifyService (builder : DatabaseBuilder) (index : Nat) (change : Service → Service) :
    DatabaseBuilder :=
  { builder with database := ⟨builder.database.services.modify index change⟩ }

/-- `AddService`. -/
def addService (builder : DatabaseBuilder) (handle endHandle : UInt16) (uuid : Uuid)
    (isPrimary : Bool) : DatabaseBuilder :=
  { builder with
    database := ⟨builder.database.services.insertIdx
      (serviceInsertionIndex builder.database.services handle)
      ⟨handle, uuid, isPrimary, endHandle, [], []⟩⟩ }

/-- `AddIncludedService`.  The service found first keeps its identity when the included service
is added as a secondary service, which moves it when it goes before it. -/
def addIncludedService (builder : DatabaseBuilder) (handle : UInt16) (uuid : Uuid)
    (startHandle endHandle : UInt16) : DatabaseBuilder :=
  match findServiceIndex builder.database.services handle with
  | none => builder
  | some index =>
    let added := (findService builder.database.services startHandle).isNone
    let position := serviceInsertionIndex builder.database.services startHandle
    let builder := if added then builder.addService startHandle endHandle uuid false else builder
    let index := if added ∧ position ≤ index then index + 1 else index
    builder.modifyService index fun service =>
      { service with
        includedServices := service.includedServices ++ [⟨handle, uuid, startHandle, endHandle⟩] }

/-- `AddCharacteristic`. -/
def addCharacteristic (builder : DatabaseBuilder) (handle valueHandle : UInt16) (uuid : Uuid)
    (properties : UInt8) : DatabaseBuilder :=
  match findServiceIndex builder.database.services handle with
  | none => builder
  | some index =>
    builder.modifyService index fun service =>
      { service with
        characteristics := service.characteristics ++ [⟨handle, uuid, valueHandle, properties, []⟩] }

/-- `AddDescriptor`. -/
def addDescriptor (builder : DatabaseBuilder) (handle : UInt16) (uuid : Uuid) :
    DatabaseBuilder :=
  match findServiceIndex builder.database.services handle with
  | none => builder
  | some index =>
    match builder.database.services[index]? with
    | none => builder
    | some service =>
      if service.characteristics.isEmpty then builder else
      let owner := descriptorOwnerIndex service.characteristics handle
      let builder := builder.modifyService index fun service =>
        { service with
          characteristics := service.characteristics.modify owner fun c =>
            { c with descriptors := c.descriptors ++ [⟨handle, uuid, 0⟩] } }
      if uuid = Uuid.from16Bit gattUuidCharExtProp then
        { builder with descriptorHandlesToRead := builder.descriptorHandlesToRead ++ [handle] }
      else builder

/-- `FindDescriptorByHandle`, as the service, characteristic and descriptor indices. -/
def findDescriptorByHandle (services : List Service) (handle : UInt16) :
    Option (Nat × Nat × Nat) := do
  let index ← findServiceIndex services handle
  let service ← services[index]?
  let owner := descriptorOwnerIndex service.characteristics handle
  let c ← service.characteristics[owner]?
  let d ← c.descriptors.findIdx? (·.handle = handle)
  pure (index, owner, d)

/-- The loop of `SetValueOfDescriptors` over the values and the handles they are read for. -/
def setValues (builder : DatabaseBuilder) : List (UInt16 × UInt16) → DatabaseBuilder × Bool
  | [] => (builder, true)
  | (handle, value) :: rest =>
    match findDescriptorByHandle builder.database.services handle with
    | none => ({ builder with descriptorHandlesToRead := [] }, false)
    | some (index, owner, d) =>
      setValues
        (builder.modifyService index fun service =>
          { service with
            characteristics := service.characteristics.modify owner fun c =>
              { c with
                descriptors := c.descriptors.modify d fun descriptor =>
                  { descriptor with characteristicExtendedProperties := value } } })
        rest

/-- `SetValueOfDescriptors`. -/
def setValueOfDescriptors (builder : DatabaseBuilder) (values : List UInt16) :
    DatabaseBuilder × Bool :=
  if builder.descriptorHandlesToRead.length < values.length then
    ({ builder with descriptorHandlesToRead := [] }, false)
  else
    match setValues builder (builder.descriptorHandlesToRead.zip values) with
    | (builder, false) => (builder, false)
    | (builder, true) =>
      ({ builder with
        descriptorHandlesToRead := builder.descriptorHandlesToRead.drop values.length }, true)

/-- One result of discovery given to the builder. -/
def step (builder : DatabaseBuilder) : DiscoveryResult → DatabaseBuilder
  | .addService handle endHandle uuid isPrimary => builder.addService handle endHandle uuid isPrimary
  | .addIncludedService handle uuid startHandle endHandle =>
    builder.addIncludedService handle uuid startHandle endHandle
  | .addCharacteristic handle valueHandle uuid properties =>
    builder.addCharacteristic handle valueHandle uuid properties
  | .addDescriptor handle uuid => builder.addDescriptor handle uuid
  | .setValueOfDescriptors values => (builder.setValueOfDescriptors values).1

end DatabaseBuilder

/-- `Build` after the discovery results, from a clear builder. -/
def buildDatabase (results : List DiscoveryResult) : Database :=
  (results.foldl DatabaseBuilder.step ⟨⟨[]⟩, []⟩).database

/-- A battery service at handles 1 to 5 with its level characteristic, and a descriptor at
handle 4 that the remote device reports with the characteristic declaration type. -/
def declarationTypedDescriptor : List DiscoveryResult :=
  [.addService 1 5 (Uuid.from16Bit 0x180F) true,
    .addCharacteristic 2 3 (Uuid.from16Bit 0x2A19) 0x12,
    .addDescriptor 4 (Uuid.from16Bit gattUuidCharDeclare)]

/-- The cache reads the descriptor back as a characteristic with a zero value, and reports
success. -/
theorem deserialize_serialize_reads_descriptor_as_characteristic :
    (Database.deserialize (buildDatabase declarationTypedDescriptor).serialize).1 ≠
      buildDatabase declarationTypedDescriptor ∧
    Database.deserialize (buildDatabase declarationTypedDescriptor).serialize =
      (⟨[⟨1, Uuid.from16Bit 0x180F, true, 5, [],
        [⟨2, Uuid.from16Bit 0x2A19, 3, 0x12, []⟩, ⟨4, Uuid.kEmpty, 0, 0, []⟩]⟩]⟩, true) ∧
    buildDatabase declarationTypedDescriptor =
      ⟨[⟨1, Uuid.from16Bit 0x180F, true, 5, [],
        [⟨2, Uuid.from16Bit 0x2A19, 3, 0x12, [⟨4, Uuid.from16Bit gattUuidCharDeclare, 0⟩]⟩]⟩]⟩ := by
  decide +kernel

end Bluetooth.Gatt
