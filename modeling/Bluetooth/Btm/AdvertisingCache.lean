import Mathlib

set_option linter.all false

/-!
# Reassembly of LE advertising reports

`btm_ble_process_adv_pkt_cont` (stack/btm/btm_ble_gap.cc) glues the advertising data of a device
together across reports: a legacy scannable report starts it (`AdvertisingCache::Set`), a scan
response or a further fragment of an extended chain is appended (`Append`), and once the data
status says the data is complete it is checked (`AdvertiseDataParser::IsValid`), handed to the
inquiry database and the scan callbacks, and the device's entry cleared.  The cache is a list of
at most `cache_max` devices, most recent first, from which the oldest is dropped.

The inquiry database, the discoverability test and the callbacks are not modelled: what the
function does with the data after it is found valid is the same on every path (it is reported,
or skipped when the device was already reported and needs no update, and cleared either way),
so `ScanEnv` only says which of the two happens.

The cache drops its oldest entry only once it holds more than `cache_max` entries, so it holds
`cache_max + 1` of them (`store_fresh`), and an advertiser whose chain started before eight
others did loses its first fragments: its chain is reported without them
(`evicted_chain_reported_without_head`).  Keys stay distinct (`Consistent.process`) and a device
whose report was reported or dropped has no entry left (`exist_process_of_final`).
-/

namespace Bluetooth.Btm

/-- A `RawAddress`, by its six octets read as a number. -/
abbrev RawAddress := Nat

/-- `AdvertisingCache::Item`. -/
structure CacheItem where
  addrType : UInt8
  addr : RawAddress
  data : List UInt8
  deriving DecidableEq, Repr

/-- `AdvertisingCache`: the devices waiting for a scan response or for more chained data,
most recently added first. -/
structure AdvertisingCache where
  items : List CacheItem
  deriving DecidableEq, Repr

/-- The item of the device `Find` looks for. -/
def CacheItem.isFor (addrType : UInt8) (addr : RawAddress) (item : CacheItem) : Bool :=
  item.addrType == addrType && item.addr == addr

/-- The device an item is for. -/
def CacheItem.key (item : CacheItem) : UInt8 × RawAddress := (item.addrType, item.addr)

theorem CacheItem.isFor_iff {addrType : UInt8} {addr : RawAddress} {item : CacheItem} :
    item.isFor addrType addr = true ↔ item.key = (addrType, addr) := by
  simp [isFor, key]

namespace AdvertisingCache

/-- `cache_max`: "we keep maximum 7 devices in the cache". -/
def cacheMax : Nat := 7

/-- The cache before any report. -/
def empty : AdvertisingCache := ⟨[]⟩

/-- `Exist`. -/
def exist (cache : AdvertisingCache) (addrType : UInt8) (addr : RawAddress) : Bool :=
  cache.items.any (CacheItem.isFor addrType addr)

/-- The first item of the device, its data combined with `data`, and that data. -/
def storeIn (combine : List UInt8 → List UInt8 → List UInt8) (addrType : UInt8)
    (addr : RawAddress) (data : List UInt8) : List CacheItem → Option (List CacheItem × List UInt8)
  | [] => none
  | item :: rest =>
    if item.isFor addrType addr then
      some ({ item with data := combine item.data data } :: rest, combine item.data data)
    else (storeIn combine addrType addr data rest).map fun (items, stored) => (item :: items, stored)

/-- What `Set` and `Append` share: the data of the device's item combined with `data`, or, for a
device with no item, a new item in front, the last item popped first when more than `cache_max`
are held.  The data stored for the device is returned with the cache. -/
def store (combine : List UInt8 → List UInt8 → List UInt8) (cache : AdvertisingCache)
    (addrType : UInt8) (addr : RawAddress) (data : List UInt8) : AdvertisingCache × List UInt8 :=
  match storeIn combine addrType addr data cache.items with
  | some (items, stored) => (⟨items⟩, stored)
  | none =>
    let kept := if cache.items.length > cacheMax then cache.items.dropLast else cache.items
    (⟨⟨addrType, addr, data⟩ :: kept⟩, data)

/-- `Set`: the device's data becomes `data`. -/
def set (cache : AdvertisingCache) (addrType : UInt8) (addr : RawAddress) (data : List UInt8) :
    AdvertisingCache × List UInt8 :=
  store (fun _ data => data) cache addrType addr data

/-- `Append`: `data` is appended to the device's data. -/
def append (cache : AdvertisingCache) (addrType : UInt8) (addr : RawAddress) (data : List UInt8) :
    AdvertisingCache × List UInt8 :=
  store (fun old data => old ++ data) cache addrType addr data

/-- `Clear`: the device's first item is erased. -/
def clear (cache : AdvertisingCache) (addrType : UInt8) (addr : RawAddress) : AdvertisingCache :=
  ⟨cache.items.eraseP (CacheItem.isFor addrType addr)⟩

/-! ### What the operations do to the devices held -/

theorem exist_eq_false_iff {cache : AdvertisingCache} {addrType : UInt8} {addr : RawAddress} :
    cache.exist addrType addr = false ↔ (addrType, addr) ∉ cache.items.map CacheItem.key := by
  simp [exist, List.any_eq_false, CacheItem.isFor_iff]

theorem storeIn_eq_none_iff {combine : List UInt8 → List UInt8 → List UInt8} {addrType : UInt8}
    {addr : RawAddress} {data : List UInt8} {items : List CacheItem} :
    storeIn combine addrType addr data items = none ↔ (addrType, addr) ∉ items.map CacheItem.key := by
  induction items with
  | nil => simp [storeIn]
  | cons item rest induction =>
      by_cases found : item.isFor addrType addr
      · simp [storeIn, found, ← CacheItem.isFor_iff.1 found]
      · have other : (addrType, addr) ≠ item.key := fun same => found (CacheItem.isFor_iff.2 same.symm)
        simp [storeIn, found, induction, other]

/-- Storing into an item keeps every item where it was, with its device. -/
theorem keys_of_storeIn {combine : List UInt8 → List UInt8 → List UInt8} {addrType : UInt8}
    {addr : RawAddress} {data : List UInt8} {items stored : List CacheItem} {result : List UInt8}
    (found : storeIn combine addrType addr data items = some (stored, result)) :
    stored.map CacheItem.key = items.map CacheItem.key := by
  induction items generalizing stored with
  | nil => cases found
  | cons item rest induction =>
      unfold storeIn at found
      split_ifs at found
      · cases found
        rfl
      · obtain ⟨⟨restStored, restResult⟩, restFound, same⟩ := Option.map_eq_some_iff.1 found
        cases same
        simp [induction restFound, CacheItem.key]

/-- A device with no item gets a new one in front, and only the `cache_max + 1` most recent items
are kept. -/
theorem store_fresh {combine : List UInt8 → List UInt8 → List UInt8} {cache : AdvertisingCache}
    {addrType : UInt8} {addr : RawAddress} (data : List UInt8)
    (absent : (addrType, addr) ∉ cache.items.map CacheItem.key)
    (bounded : cache.items.length ≤ cacheMax + 1) :
    store combine cache addrType addr data =
      (⟨(⟨addrType, addr, data⟩ :: cache.items).take (cacheMax + 1)⟩, data) := by
  unfold store
  rw [storeIn_eq_none_iff.2 absent]
  dsimp only
  split_ifs with full
  · -- the oldest item is popped: with `cache_max + 1` items that is keeping `cache_max` of them
    have popped : cache.items.dropLast = cache.items.take cacheMax := by
      rw [List.dropLast_eq_take]
      congr 1
      omega
    rw [popped, List.take_succ_cons]
  · rw [List.take_of_length_le (by simp; omega)]

theorem clear_sublist (cache : AdvertisingCache) (addrType : UInt8) (addr : RawAddress) :
    (cache.clear addrType addr).items.Sublist cache.items :=
  List.eraseP_sublist

/-- With one item per device, `Clear` leaves none for the device. -/
theorem exist_clear {cache : AdvertisingCache} (distinct : (cache.items.map CacheItem.key).Nodup)
    (addrType : UInt8) (addr : RawAddress) : (cache.clear addrType addr).exist addrType addr = false := by
  obtain ⟨items⟩ := cache
  rw [exist_eq_false_iff]
  induction items with
  | nil => simp [clear]
  | cons item rest induction =>
      rw [List.map_cons, List.nodup_cons] at distinct
      by_cases found : item.isFor addrType addr
      · -- the erased item was the device's only one
        have key := CacheItem.isFor_iff.1 found
        simpa [clear, List.eraseP_cons_of_pos found, ← key] using distinct.1
      · have later := induction distinct.2
        simp only [clear] at later ⊢
        rw [List.eraseP_cons_of_neg found]
        simp only [List.map_cons, List.mem_cons, not_or]
        refine ⟨fun same => found (CacheItem.isFor_iff.2 same.symm), later⟩

/-- The cache `AdvertisingCache` keeps: one item per device and at most `cache_max + 1` items. -/
structure Consistent (cache : AdvertisingCache) : Prop where
  distinct : (cache.items.map CacheItem.key).Nodup
  bounded : cache.items.length ≤ cacheMax + 1

theorem consistent_empty : empty.Consistent := ⟨List.nodup_nil, Nat.zero_le _⟩

theorem Consistent.store {cache : AdvertisingCache} (consistent : cache.Consistent)
    (combine : List UInt8 → List UInt8 → List UInt8) (addrType : UInt8) (addr : RawAddress)
    (data : List UInt8) : (AdvertisingCache.store combine cache addrType addr data).1.Consistent := by
  cases found : storeIn combine addrType addr data cache.items with
  | none =>
      have absent := storeIn_eq_none_iff.1 found
      rw [store_fresh data absent consistent.bounded]
      refine ⟨?_, by simp only [List.length_take, List.length_cons]; omega⟩
      have fresh : ((⟨addrType, addr, data⟩ :: cache.items).map CacheItem.key).Nodup :=
        List.nodup_cons.2 ⟨absent, consistent.distinct⟩
      exact fresh.sublist ((List.take_sublist _ _).map _)
  | some stored =>
      obtain ⟨items, result⟩ := stored
      have keys := keys_of_storeIn found
      simp only [AdvertisingCache.store, found]
      refine ⟨by rw [keys]; exact consistent.distinct, ?_⟩
      have lengths := congrArg List.length keys
      simp only [List.length_map] at lengths
      simpa [lengths] using consistent.bounded

theorem Consistent.clear {cache : AdvertisingCache} (consistent : cache.Consistent)
    (addrType : UInt8) (addr : RawAddress) : (cache.clear addrType addr).Consistent :=
  ⟨consistent.distinct.sublist ((clear_sublist cache addrType addr).map _),
    Nat.le_trans (clear_sublist cache addrType addr).length_le consistent.bounded⟩

end AdvertisingCache

/-! ## `AdvertiseDataParser` -/

/-- `trx_quirk`, the scan response data of a Traxxas device. -/
def trxQuirk : List UInt8 :=
  [0x14, 0x09, 0x54, 0xFF, 0xFF, 0x20, 0x42, 0x4C, 0x45, 0x05, 0x12, 0xFF,
    0x00, 0xE8, 0x03, 0x02, 0x0A, 0x00]

/-- `MalformedPacketQuirk`: the Traxxas data with its bad name length, compared but for the
octets at 3, 4 and 11. -/
def malformedPacketQuirk (ad : List UInt8) (position : Nat) : Bool :=
  ad.length - position ≥ 18 &&
    (ad.drop position).take 3 == trxQuirk.take 3 &&
    (ad.drop (position + 5)).take 6 == (trxQuirk.drop 5).take 6 &&
    (ad.drop (position + 12)).take 6 == trxQuirk.drop 12

/-- The loop of `RemoveTrailingZeros` from `position`: the data is cut at the first field of
length 0. -/
def removeTrailingZerosFrom (ad : List UInt8) (position : Nat) : List UInt8 :=
  if position = ad.length then ad
  else
    let len := (ad.getD position 0).toNat
    if len = 0 then ad.take position
    else if position + len ≥ ad.length then ad
    else removeTrailingZerosFrom ad (position + len + 1)
termination_by ad.length - position

/-- `RemoveTrailingZeros`. -/
def removeTrailingZeros (ad : List UInt8) : List UInt8 := removeTrailingZerosFrom ad 0

/-- The loop of `IsValid` from `position`. -/
def isValidFrom (ad : List UInt8) (position : Nat) : Bool :=
  if position = ad.length then true
  else
    let len := (ad.getD position 0).toNat
    -- zero padding after the last field is accepted
    if len = 0 then (ad.drop (position + 1)).all (· = 0)
    else if position + len ≥ ad.length then malformedPacketQuirk ad position
    else isValidFrom ad (position + len + 1)
termination_by ad.length - position

/-- `IsValid`: the data is a sequence of length-prefixed fields. -/
def isValid (ad : List UInt8) : Bool := isValidFrom ad 0

/-! ## `btm_ble_process_adv_pkt_cont` -/

/-- `BLE_EVT_SCANNABLE_BIT`. -/
def bleEvtScannableBit : UInt16 := 1

/-- `BLE_EVT_SCAN_RESPONSE_BIT`. -/
def bleEvtScanResponseBit : UInt16 := 3

/-- `BLE_EVT_LEGACY_BIT`. -/
def bleEvtLegacyBit : UInt16 := 4

/-- `ble_evt_type_is_scannable`. -/
def bleEvtTypeIsScannable (evtType : UInt16) : Bool := evtType &&& (1 <<< bleEvtScannableBit) ≠ 0

/-- `ble_evt_type_is_scan_resp`. -/
def bleEvtTypeIsScanResp (evtType : UInt16) : Bool :=
  evtType &&& (1 <<< bleEvtScanResponseBit) ≠ 0

/-- `ble_evt_type_is_legacy`. -/
def bleEvtTypeIsLegacy (evtType : UInt16) : Bool := evtType &&& (1 <<< bleEvtLegacyBit) ≠ 0

/-- `ble_evt_type_data_status`: 0 complete, 1 more to come, 2 truncated. -/
def bleEvtTypeDataStatus (evtType : UInt16) : UInt16 := (evtType >>> 5) &&& 3

/-- The arguments of `btm_ble_process_adv_pkt_cont` that the reassembly reads. -/
structure AdvReport where
  evtType : UInt16
  addrType : UInt8
  bda : RawAddress
  data : List UInt8
  deriving DecidableEq, Repr

/-- What the scan state outside the cache decides. -/
structure ScanEnv where
  /-- `scan_type == BTM_BLE_SCAN_MODE_ACTI`. -/
  isActiveScan : Bool
  /-- The device was already reported in this inquiry, needs no update and no observer is
  active: the report is skipped. -/
  skips : RawAddress → Bool

/-- How a report ends. -/
inductive AdvOutcome where
  /-- A legacy scan response from a device with no entry. -/
  | ignored
  /-- The data is not complete, or a scan response is awaited. -/
  | waiting
  /-- The data is not valid advertising data and is dropped. -/
  | invalid
  /-- The device was already reported. -/
  | skipped
  /-- The data is handed to the inquiry database and the scan callbacks. -/
  | reported (data : List UInt8)
  deriving DecidableEq, Repr

/-- The data of a report stored in the cache: a legacy scannable report that is not a scan
response starts the device's data, any other report is appended to it; legacy data is cut at
its zero padding first. -/
def storeReport (cache : AdvertisingCache) (report : AdvReport) : AdvertisingCache × List UInt8 :=
  let isScannable := bleEvtTypeIsScannable report.evtType
  let isScanResp := bleEvtTypeIsScanResp report.evtType
  let isLegacy := bleEvtTypeIsLegacy report.evtType
  let isStart := isLegacy && isScannable && !isScanResp
  let tmp := if isLegacy then removeTrailingZeros report.data else report.data
  if isStart then cache.set report.addrType report.bda tmp
  else cache.append report.addrType report.bda tmp

/-- `btm_ble_process_adv_pkt_cont`, up to the callbacks. -/
def processAdvPktCont (env : ScanEnv) (cache : AdvertisingCache) (report : AdvReport) :
    AdvertisingCache × AdvOutcome :=
  let isScannable := bleEvtTypeIsScannable report.evtType
  let isScanResp := bleEvtTypeIsScanResp report.evtType
  let isLegacy := bleEvtTypeIsLegacy report.evtType
  if isLegacy && isScanResp && !cache.exist report.addrType report.bda then (cache, .ignored)
  else
    let stored := storeReport cache report
    let cache := stored.1
    let advData := stored.2
    let dataComplete := bleEvtTypeDataStatus report.evtType ≠ 1
    if !dataComplete then (cache, .waiting)
    else if env.isActiveScan && isScannable && !isScanResp then (cache, .waiting)
    else if !isValid advData then (cache.clear report.addrType report.bda, .invalid)
    else if env.skips report.bda then (cache.clear report.addrType report.bda, .skipped)
    else (cache.clear report.addrType report.bda, .reported advData)

/-- Reports processed one after the other, with the outcome of each. -/
def processReports (env : ScanEnv) : AdvertisingCache → List AdvReport →
    AdvertisingCache × List AdvOutcome
  | cache, [] => (cache, [])
  | cache, report :: rest =>
    let (cache, outcome) := processAdvPktCont env cache report
    let (final, outcomes) := processReports env cache rest
    (final, outcome :: outcomes)

theorem storeReport_eq_store (cache : AdvertisingCache) (report : AdvReport) :
    ∃ combine data, storeReport cache report =
      cache.store combine report.addrType report.bda data := by
  dsimp only [storeReport]
  split_ifs <;> exact ⟨_, _, rfl⟩

/-- A report is ignored, leaving the cache as it was with no item for the device, or its data is
stored, and then it waits or ends with the device's item cleared. -/
theorem processAdvPktCont_cases (env : ScanEnv) (cache : AdvertisingCache) (report : AdvReport) :
    (processAdvPktCont env cache report = (cache, .ignored) ∧
      cache.exist report.addrType report.bda = false) ∨
    processAdvPktCont env cache report = ((storeReport cache report).1, .waiting) ∨
    (processAdvPktCont env cache report).1 =
        (storeReport cache report).1.clear report.addrType report.bda ∧
      (processAdvPktCont env cache report).2 ≠ .waiting := by
  dsimp only [processAdvPktCont]
  split_ifs with ignored
  · simp only [Bool.and_eq_true, Bool.not_eq_true'] at ignored
    exact .inl ⟨rfl, ignored.2⟩
  all_goals simp

/-- Every report keeps the cache consistent. -/
theorem AdvertisingCache.Consistent.storeReport {cache : AdvertisingCache} (consistent : cache.Consistent)
    (report : AdvReport) : (Btm.storeReport cache report).1.Consistent := by
  obtain ⟨combine, data, stored⟩ := storeReport_eq_store cache report
  rw [stored]
  exact consistent.store combine _ _ data

/-- Every report keeps the cache consistent. -/
theorem AdvertisingCache.Consistent.process {cache : AdvertisingCache} (consistent : cache.Consistent)
    (env : ScanEnv) (report : AdvReport) : (processAdvPktCont env cache report).1.Consistent := by
  rcases processAdvPktCont_cases env cache report with ⟨ignored, -⟩ | waiting | ⟨cleared, -⟩
  · rw [ignored]
    exact consistent
  · rw [waiting]
    exact consistent.storeReport report
  · rw [cleared]
    exact (consistent.storeReport report).clear _ _

/-- Once a report no longer waits, the device has no item left. -/
theorem exist_process_of_final {cache : AdvertisingCache} (consistent : cache.Consistent)
    {env : ScanEnv} {report : AdvReport}
    (final : (processAdvPktCont env cache report).2 ≠ .waiting) :
    (processAdvPktCont env cache report).1.exist report.addrType report.bda = false := by
  rcases processAdvPktCont_cases env cache report with ⟨ignored, absent⟩ | waiting | ⟨cleared, -⟩
  · rw [ignored]
    exact absent
  · rw [waiting] at final
    exact absurd rfl final
  · rw [cleared]
    exact AdvertisingCache.exist_clear (consistent.storeReport report).distinct _ _

theorem processReports_append (env : ScanEnv) (cache : AdvertisingCache)
    (first second : List AdvReport) :
    processReports env cache (first ++ second) =
      ((processReports env (processReports env cache first).1 second).1,
        (processReports env cache first).2 ++
          (processReports env (processReports env cache first).1 second).2) := by
  induction first generalizing cache with
  | nil => rfl
  | cons report rest induction => simp [processReports, induction]

/-! ## Chained advertisers beyond the cache -/

/-- A fragment of an extended advertising chain with more data to come: data status 1, not
legacy, not scannable. -/
def chainFragment (device : UInt8 × RawAddress) (data : List UInt8) : AdvReport :=
  ⟨0x20, device.1, device.2, data⟩

/-- The last fragment of an extended advertising chain: data status 0. -/
def chainEnd (device : UInt8 × RawAddress) (data : List UInt8) : AdvReport :=
  ⟨0x00, device.1, device.2, data⟩

open AdvertisingCache

/-- The first fragment of a device with no item waits in a new item in front. -/
theorem processAdvPktCont_chainFragment {cache : AdvertisingCache} (consistent : cache.Consistent)
    {device : UInt8 × RawAddress} (absent : device ∉ cache.items.map CacheItem.key) (env : ScanEnv)
    (data : List UInt8) :
    processAdvPktCont env cache (chainFragment device data) =
      (⟨(⟨device.1, device.2, data⟩ :: cache.items).take (cacheMax + 1)⟩, .waiting) := by
  have legacy : bleEvtTypeIsLegacy 0x20 = false := by decide
  have incomplete : bleEvtTypeDataStatus 0x20 = 1 := by decide
  have stored : storeReport cache (chainFragment device data) =
      (⟨(⟨device.1, device.2, data⟩ :: cache.items).take (cacheMax + 1)⟩, data) := by
    simp only [storeReport, chainFragment, legacy, Bool.false_and, Bool.false_eq_true, if_false,
      AdvertisingCache.append]
    exact store_fresh data absent consistent.bounded
  simp only [processAdvPktCont, stored]
  simp [chainFragment, legacy, incomplete]

/-- The last fragment of a device with no item is reported alone. -/
theorem processAdvPktCont_chainEnd {cache : AdvertisingCache} (consistent : cache.Consistent)
    {device : UInt8 × RawAddress} (absent : device ∉ cache.items.map CacheItem.key) {env : ScanEnv}
    {data : List UInt8} (valid : isValid data = true) (reporting : env.skips device.2 = false) :
    (processAdvPktCont env cache (chainEnd device data)).2 = .reported data := by
  have legacy : bleEvtTypeIsLegacy 0 = false := by decide
  have scannable : bleEvtTypeIsScannable 0 = false := by decide
  have complete : bleEvtTypeDataStatus 0 = 0 := by decide
  have stored : storeReport cache (chainEnd device data) =
      (⟨(⟨device.1, device.2, data⟩ :: cache.items).take (cacheMax + 1)⟩, data) := by
    simp only [storeReport, chainEnd, legacy, Bool.false_and, Bool.false_eq_true, if_false,
      AdvertisingCache.append]
    exact store_fresh data absent consistent.bounded
  simp only [processAdvPktCont, stored]
  simp [chainEnd, legacy, scannable, complete, valid, reporting]

/-- Keeping a prefix of the tail first changes nothing when at least as much is kept. -/
theorem take_append_take {α : Type} (front back : List α) {kept shown : Nat} (enough : shown ≤ kept) :
    (front ++ back.take kept).take shown = (front ++ back).take shown := by
  induction front generalizing shown with
  | nil => simp [List.take_take, Nat.min_eq_left enough]
  | cons item rest induction =>
      cases shown with
      | zero => rfl
      | succ shown => simp [induction (Nat.le_of_succ_le enough)]

/-- First fragments of distinct devices with no item: the cache keeps the `cache_max + 1` most
recent items. -/
theorem processReports_chainFragments (env : ScanEnv) (payload : UInt8 × RawAddress → List UInt8)
    {devices : List (UInt8 × RawAddress)} (distinct : devices.Nodup) :
    ∀ {cache : AdvertisingCache}, cache.Consistent →
      (∀ device ∈ devices, device ∉ cache.items.map CacheItem.key) →
      processReports env cache (devices.map fun device => chainFragment device (payload device)) =
        (⟨(devices.reverse.map (fun device => (⟨device.1, device.2, payload device⟩ : CacheItem)) ++
            cache.items).take (cacheMax + 1)⟩, devices.map fun _ => .waiting) := by
  induction devices with
  | nil =>
      intro cache consistent _
      simp [processReports, List.take_of_length_le consistent.bounded]
  | cons device rest induction =>
      intro cache consistent absent
      rw [List.nodup_cons] at distinct
      have first := processAdvPktCont_chainFragment consistent (absent device List.mem_cons_self) env
        (payload device)
      have next : (processAdvPktCont env cache (chainFragment device (payload device))).1.Consistent :=
        consistent.process env _
      rw [first] at next
      -- the later devices are neither the first one nor held before
      have stillAbsent : ∀ other ∈ rest, other ∉ ((⟨device.1, device.2, payload device⟩ :: cache.items).take
          (cacheMax + 1)).map CacheItem.key := by
        intro other mem held
        have held' := ((List.take_sublist _ _).map CacheItem.key).subset held
        simp only [List.map_cons, List.mem_cons] at held'
        rcases held' with same | old
        · rw [same] at mem
          exact distinct.1 (by simpa [CacheItem.key] using mem)
        · exact absent other (List.mem_cons_of_mem _ mem) old
      simp only [List.map_cons, processReports, first, induction distinct.2 next stillAbsent,
        List.reverse_cons, List.map_append, List.map_cons, List.map_nil, List.append_assoc,
        List.singleton_append]
      rw [take_append_take _ _ (Nat.le_refl _)]

/-- Eight advertisers whose chained data is not complete fill the cache with `cache_max + 1`
items, and a ninth drops the first one's item: the first device's last fragment is then reported
alone, without the fragments its chain started with. -/
theorem evicted_chain_reported_without_head (env : ScanEnv) (first : UInt8 × RawAddress)
    (others : List (UInt8 × RawAddress)) (distinct : (first :: others).Nodup)
    (eight : others.length = 8) (payload : UInt8 × RawAddress → List UInt8) (last : List UInt8)
    (valid : isValid last = true) (reporting : env.skips first.2 = false) :
    (processReports env empty
        ((first :: others.take 7).map fun device => chainFragment device (payload device))).1.items.length =
      cacheMax + 1 ∧
    (processReports env empty
        ((first :: others).map (fun device => chainFragment device (payload device)) ++
          [chainEnd first last])).2.getLast? = some (.reported last) := by
  have fresh : ∀ {devices : List (UInt8 × RawAddress)}, ∀ device ∈ devices,
      device ∉ empty.items.map CacheItem.key := by
    intro devices device _ held
    cases held
  constructor
  · have prefixDistinct : (first :: others.take 7).Nodup :=
      distinct.sublist ((List.take_sublist 7 others).cons_cons first)
    rw [processReports_chainFragments env payload prefixDistinct consistent_empty fresh]
    simp [empty, eight, cacheMax]
  · rw [processReports_append,
      processReports_chainFragments env payload distinct consistent_empty fresh]
    -- eight later items fill the cache: the first device's item is gone
    have kept : ((first :: others).reverse.map (fun device => (⟨device.1, device.2, payload device⟩ : CacheItem)) ++
        empty.items).take (cacheMax + 1) =
        others.reverse.map fun device => (⟨device.1, device.2, payload device⟩ : CacheItem) := by
      simp [empty, cacheMax, eight]
    have gone : first ∉ (others.reverse.map fun device =>
        (⟨device.1, device.2, payload device⟩ : CacheItem)).map CacheItem.key := by
      simpa [CacheItem.key] using (List.nodup_cons.1 distinct).1
    have keys : (others.reverse.map fun device =>
        (⟨device.1, device.2, payload device⟩ : CacheItem)).map CacheItem.key = others.reverse := by
      simp [CacheItem.key, Function.comp_def]
    have filled : (⟨others.reverse.map fun device =>
        (⟨device.1, device.2, payload device⟩ : CacheItem)⟩ : AdvertisingCache).Consistent :=
      ⟨by rw [keys]; exact (List.reverse_perm _).nodup_iff.2 (List.nodup_cons.1 distinct).2,
        by simp [eight, cacheMax]⟩
    simp only [kept, processReports, processAdvPktCont_chainEnd filled gone valid reporting]
    rw [List.map_cons]
    exact List.getLast?_concat

theorem evicted_chain_reported_without_head_at_nine :
    ((0, 0) :: (List.range 8).map fun n => ((0 : UInt8), n + 1)).Nodup ∧
      ((List.range 8).map fun n => ((0 : UInt8), n + 1)).length = 8 ∧
      isValid [2, 1, 6] = true ∧ ScanEnv.skips ⟨false, fun _ => false⟩ 0 = false ∧
      ((processReports ⟨false, fun _ => false⟩ empty
          (((0, 0) :: ((List.range 8).map fun n => ((0 : UInt8), n + 1)).take 7).map
            fun device => chainFragment device [1])).1.items.length = cacheMax + 1 ∧
        (processReports ⟨false, fun _ => false⟩ empty
          (((0, 0) :: (List.range 8).map fun n => ((0 : UInt8), n + 1)).map
            (fun device => chainFragment device [1]) ++ [chainEnd (0, 0) [2, 1, 6]])).2.getLast? =
          some (.reported [2, 1, 6])) :=
  have valid : isValid [2, 1, 6] = true := by simp [isValid, isValidFrom]
  ⟨by decide, rfl, valid, rfl,
    evicted_chain_reported_without_head ⟨false, fun _ => false⟩ (0, 0) _ (by decide) rfl
      (fun _ => [1]) [2, 1, 6] valid rfl⟩

end Bluetooth.Btm
