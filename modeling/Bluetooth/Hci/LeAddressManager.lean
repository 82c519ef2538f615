import Mathlib
import Bluetooth.Lib.SortedMap
import Bluetooth.Lib.Transition

set_option linter.all false

/-!
# The pause and resume handshake of `LeAddressManager`

`LeAddressManager` (gd/hci/le_address_manager.cc) changes controller state that its clients
(advertising, scanning, connecting) must not use meanwhile: the filter accept list, the
resolving list and the random address.  It queues each change in `cached_commands_` and asks
every registered client to pause; once all have acknowledged it sends the front command, and
after each Command Complete it sends the next one, resuming the clients when the queue is
empty.

The model is one record: the fields of the manager the handshake reads or writes, the HCI
commands handed to the HCI layer and not yet complete (`sentCommands`, completed oldest first),
and the notifications the clients have not yet answered (`pendingAcks`).  Each public entry
point and each Command Complete is one event, run to its end on the manager's handler; the
resolving-list calls, which push from the caller's thread, are one event each too.  An
`ASSERT` or `LOG_ALWAYS_FATAL` ends the run.  Random addresses are drawn from a source given as
a parameter; the rotation times only time the alarm, which is not modelled, and
`SetPrivacyPolicyForInitiatorAddressForTest` is left out.

What holds: a command is taken from the queue only when every registered client is PAUSED,
and the queue is first in, first out, with at most the front command taken per event
(`step_queue`).  What does not: a client that registers, or that acknowledges an earlier
resume, while a command is outstanding is RESUMED at once (`register_while_outstanding_resumes`,
`ackResume_resumes`), and without clients the resolving-list calls send a command while others
are outstanding (`addDeviceToResolvingList_sends_at_once`).
-/

namespace Bluetooth.Hci

/-- `hci::Address`, its six octets as one number. -/
abbrev Address := Nat

/-- `hci::AddressType`. -/
inductive AddressType where
  | publicDeviceAddress
  | randomDeviceAddress
  | publicIdentityAddress
  | randomIdentityAddress
  deriving DecidableEq, Repr

/-- `hci::AddressWithType`. -/
structure AddressWithType where
  address : Address
  addressType : AddressType
  deriving DecidableEq, Repr

/-- The HCI commands the manager builds, with their parameters; address types and keys are
their raw values. -/
inductive CommandBuilder where
  | leSetRandomAddress (address : Address)
  | leAddDeviceToFilterAcceptList (addressType : Nat) (address : Address)
  | leRemoveDeviceFromFilterAcceptList (addressType : Nat) (address : Address)
  | leClearFilterAcceptList
  | leSetAddressResolutionEnable (enable : Bool)
  | leAddDeviceToResolvingList (peerAddressType : Nat) (peerAddress : Address)
      (peerIrk localIrk : Nat)
  | leRemoveDeviceFromResolvingList (peerAddressType : Nat) (peerAddress : Address)
  | leClearResolvingList
  | leSetPrivacyMode (peerAddressType : Nat) (peerAddress : Address)
  deriving DecidableEq, Repr

namespace LeAddressManager

/-- A `LeAddressManagerCallback*`, by the pointer a client registers with. -/
abbrev Client := Nat

/-- `LeAddressManager::ClientState`. -/
inductive ClientState where
  | waitingForPause
  | paused
  | waitingForResume
  | resumed
  deriving DecidableEq, Repr

/-- `LeAddressManager::AddressPolicy`. -/
inductive AddressPolicy where
  | policyNotSet
  | usePublicAddress
  | useStaticAddress
  | useNonResolvableAddress
  | useResolvableAddress
  deriving DecidableEq, Repr

/-- A `Command` of `cached_commands_`, by its `contents`; its `command_type` is only logged. -/
inductive Command where
  | rotateRandomAddress
  | updateIrk (rotationIrk : Nat)
  | hciCommand (command : CommandBuilder)
  deriving DecidableEq, Repr

/-- The callbacks a client answers: `OnPause` with `AckPause`, `OnResume` with `AckResume`. -/
inductive Notification where
  | onPause
  | onResume
  deriving DecidableEq, Repr

/-- The state `pause_registered_clients` leaves a client in. -/
def ClientState.pausing : ClientState → ClientState
  | .paused => .paused
  | .waitingForPause => .waitingForPause
  | .waitingForResume => .waitingForPause
  | .resumed => .waitingForPause

/-- Whether `pause_registered_clients` calls the client's `OnPause`. -/
def ClientState.asked : ClientState → Bool
  | .waitingForResume => true
  | .resumed => true
  | _ => false

end LeAddressManager

open LeAddressManager

/-- The fields of `LeAddressManager` the handshake reads or writes, with the HCI commands sent
and not yet complete and the notifications its clients have not yet answered. -/
structure LeAddressManager where
  registeredClients : SortedMap Client ClientState
  addressPolicy : AddressPolicy
  leAddress : AddressWithType
  cachedAddress : AddressWithType
  publicAddress : Address
  /-- Whether `address_rotation_alarm_` is scheduled. -/
  rotationScheduled : Bool
  rotationIrk : Nat
  cachedCommands : List Command
  supportsBlePrivacy : Bool
  /-- How many random addresses have been drawn. -/
  draws : Nat
  /-- The commands handed to `enqueue_command_` and not yet complete, oldest first. -/
  sentCommands : List CommandBuilder
  /-- The `OnPause` and `OnResume` calls not yet answered. -/
  pendingAcks : List (Client × Notification)

namespace LeAddressManager

/-- The manager as constructed, before any policy is set. -/
def initial (publicAddress : Address) : LeAddressManager where
  registeredClients := .empty
  addressPolicy := .policyNotSet
  leAddress := ⟨0, .publicDeviceAddress⟩
  cachedAddress := ⟨0, .publicDeviceAddress⟩
  publicAddress := publicAddress
  rotationScheduled := false
  rotationIrk := 0
  cachedCommands := []
  supportsBlePrivacy := false
  draws := 0
  sentCommands := []
  pendingAcks := []

/-- Whether the policy rotates a private address. -/
def AddressPolicy.rotates (policy : AddressPolicy) : Bool :=
  policy = .useResolvableAddress || policy = .useNonResolvableAddress

/-- Every registered client is PAUSED. -/
def AllPaused (m : LeAddressManager) : Prop := m.registeredClients.AllValues (· = .paused)

instance (m : LeAddressManager) : Decidable m.AllPaused :=
  inferInstanceAs (Decidable (∀ entry ∈ m.registeredClients.entries, entry.2 = .paused))

/-- `pause_registered_clients`: each client resumed or resuming is asked to pause. -/
def pauseRegisteredClients (m : LeAddressManager) : LeAddressManager :=
  { m with
    registeredClients := m.registeredClients.mapValues fun _ state => state.pausing
    pendingAcks := m.pendingAcks ++ (m.registeredClients.entries.filter (·.2.asked)).map
      fun entry => (entry.1, .onPause) }

/-- `push_command`. -/
def pushCommand (m : LeAddressManager) (command : Command) : LeAddressManager :=
  { pauseRegisteredClients m with cachedCommands := m.cachedCommands ++ [command] }

/-- `schedule_rotate_random_address`. -/
def scheduleRotateRandomAddress (m : LeAddressManager) : LeAddressManager :=
  { m with rotationScheduled := true }

section Handler

variable (random : Nat → Address)

/-- `set_random_address`: a fresh address is sent and cached until its Command Complete. -/
def setRandomAddress (m : LeAddressManager) : Option LeAddressManager :=
  if m.addressPolicy.rotates then
    let address := random m.draws
    some { m with
      sentCommands := m.sentCommands ++ [.leSetRandomAddress address]
      cachedAddress := ⟨address, .randomDeviceAddress⟩
      draws := m.draws + 1 }
  else none

/-- `rotate_random_address`. -/
def rotateRandomAddress (m : LeAddressManager) : Option LeAddressManager :=
  if m.addressPolicy.rotates then setRandomAddress random (scheduleRotateRandomAddress m)
  else none

/-- `update_irk`; the clients' `NotifyOnIRKChange` wants no answer. -/
def updateIrk (m : LeAddressManager) (rotationIrk : Nat) : Option LeAddressManager :=
  setRandomAddress random { m with rotationIrk := rotationIrk }

/-- The visitor of `handle_next_command`. -/
def runCommand (m : LeAddressManager) : Command → Option LeAddressManager
  | .updateIrk rotationIrk => updateIrk random m rotationIrk
  | .rotateRandomAddress => rotateRandomAddress random m
  | .hciCommand command => some { m with sentCommands := m.sentCommands ++ [command] }

/-- `handle_next_command`: nothing while a client is not PAUSED, else the front command. -/
def handleNextCommand (m : LeAddressManager) : Option LeAddressManager :=
  if m.AllPaused then
    match m.cachedCommands with
    | [] => none
    | command :: rest => runCommand random { m with cachedCommands := rest } command
  else some m

/-- `resume_registered_clients`: the next command while any is queued, else every client is
asked to resume. -/
def resumeRegisteredClients (m : LeAddressManager) : Option LeAddressManager :=
  if m.cachedCommands ≠ [] then handleNextCommand random m
  else some { m with
    registeredClients := m.registeredClients.mapValues fun _ _ => .waitingForResume
    pendingAcks := m.pendingAcks ++ m.registeredClients.entries.map fun entry =>
      (entry.1, .onResume) }

/-- `check_cached_commands`. -/
def checkCachedCommands (m : LeAddressManager) : Option LeAddressManager :=
  if m.cachedCommands ≠ [] ∧ ¬m.AllPaused then some (pauseRegisteredClients m)
  else if m.cachedCommands = [] then resumeRegisteredClients random m
  else handleNextCommand random m

/-- `ack_pause`.  Its loop runs over copies of the entries: a client found resumed is asked to
pause, but its entry is left as it was. -/
def ackPause (m : LeAddressManager) (client : Client) : Option LeAddressManager :=
  match m.registeredClients.find client with
  | none => some m
  | some _ =>
    let m := { m with registeredClients := m.registeredClients.modify client fun _ => .paused }
    match m.registeredClients.entries.find? (·.2 != .paused) with
    | some (_, .waitingForPause) => some m
    | some (other, _) => some { m with pendingAcks := m.pendingAcks ++ [(other, .onPause)] }
    | none => if m.addressPolicy ≠ .policyNotSet then checkCachedCommands random m else some m

/-- `ack_resume`: the client is RESUMED, whatever its state. -/
def ackResume (m : LeAddressManager) (client : Client) : LeAddressManager :=
  match m.registeredClients.find client with
  | none => m
  | some _ => { m with registeredClients := m.registeredClients.modify client fun _ => .resumed }

/-- `register_client`: a new client starts RESUMED. -/
def registerClient (m : LeAddressManager) (client : Client) : LeAddressManager :=
  let m := { m with registeredClients := m.registeredClients.insert client .resumed }
  if m.addressPolicy = .policyNotSet then pauseRegisteredClients m
  else if m.addressPolicy.rotates ∧ m.registeredClients.entries.length = 1 then
    scheduleRotateRandomAddress m
  else m

/-- The part of `unregister_client` that finds the client: one waiting to pause or to resume is
acknowledged for, then it is erased. -/
def eraseClient (m : LeAddressManager) (client : Client) : Option LeAddressManager :=
  match m.registeredClients.find client with
  | none => some m
  | some state =>
    let acknowledged := match state with
      | .waitingForPause => ackPause random m client
      | .waitingForResume => some (ackResume m client)
      | _ => some m
    acknowledged.map fun m => { m with registeredClients := m.registeredClients.erase client }

/-- `unregister_client`: the alarm is cancelled once no client is left. -/
def unregisterClient (m : LeAddressManager) (client : Client) : Option LeAddressManager :=
  (eraseClient random m client).map fun m =>
    if m.registeredClients.entries = [] then { m with rotationScheduled := false } else m

/-- `prepare_to_rotate`, which the rotation alarm runs. -/
def prepareToRotate (m : LeAddressManager) : LeAddressManager :=
  pauseRegisteredClients
    { m with cachedCommands := m.cachedCommands ++ [.rotateRandomAddress] }

/-- `prepare_to_update_irk`. -/
def prepareToUpdateIrk (m : LeAddressManager) (rotationIrk : Nat) : Option LeAddressManager :=
  let m := { m with cachedCommands := m.cachedCommands ++ [.updateIrk rotationIrk] }
  if m.registeredClients.entries = [] then handleNextCommand random m
  else some (pauseRegisteredClients m)

/-- The commands of a resolving-list update: address resolution disabled around `update` and
the commands after it. -/
def resolvingListCommands (update : CommandBuilder) (after : List CommandBuilder) :
    List Command :=
  (([.leSetAddressResolutionEnable false, update] ++ after ++
    [.leSetAddressResolutionEnable true] : List CommandBuilder)).map .hciCommand

/-- The commands of `AddDeviceToResolvingList`: the privacy mode is set where supported. -/
def additionCommands (m : LeAddressManager) (peerAddressType : Nat) (peerAddress : Address)
    (peerIrk localIrk : Nat) : List Command :=
  resolvingListCommands (.leAddDeviceToResolvingList peerAddressType peerAddress peerIrk localIrk)
    (if m.supportsBlePrivacy then [.leSetPrivacyMode peerAddressType peerAddress] else [])

/-- The end of `AddDeviceToResolvingList` and `RemoveDeviceFromResolvingList`: the commands are
queued, then sent at once if no client is registered, else the clients are asked to pause. -/
def queueResolvingListUpdate (m : LeAddressManager) (commands : List Command) :
    Option LeAddressManager :=
  let m := { m with cachedCommands := m.cachedCommands ++ commands }
  if m.registeredClients.entries = [] then handleNextCommand random m
  else some (pauseRegisteredClients m)

/-- `AddDeviceToResolvingList`. -/
def addDeviceToResolvingList (m : LeAddressManager) (peerAddressType : Nat)
    (peerAddress : Address) (peerIrk localIrk : Nat) : Option LeAddressManager :=
  queueResolvingListUpdate random m (additionCommands m peerAddressType peerAddress peerIrk localIrk)

/-- `RemoveDeviceFromResolvingList`. -/
def removeDeviceFromResolvingList (m : LeAddressManager) (peerAddressType : Nat)
    (peerAddress : Address) : Option LeAddressManager :=
  queueResolvingListUpdate random m
    (resolvingListCommands (.leRemoveDeviceFromResolvingList peerAddressType peerAddress) [])

/-- `ClearResolvingList`, which asks the clients to pause even when none is registered. -/
def clearResolvingList (m : LeAddressManager) : LeAddressManager :=
  pauseRegisteredClients
    { m with cachedCommands := m.cachedCommands ++ resolvingListCommands .leClearResolvingList [] }

/-- The checks of a static address: its two top bits set, its other bits neither all zero nor
all one. -/
def staticAddressValid (address : Address) : Bool :=
  address / 2 ^ 40 % 256 &&& 0xC0 = 0xC0 && address ≠ 0xC0 * 2 ^ 40 && address ≠ 2 ^ 48 - 1

/-- `SetPrivacyPolicyForInitiatorAddress`: once a policy is set, a call only updates the IRK,
where the controller supports privacy. -/
def setPrivacyPolicyForInitiatorAddress (m : LeAddressManager) (addressPolicy : AddressPolicy)
    (fixedAddress : AddressWithType) (rotationIrk : Nat) (supportsBlePrivacy : Bool) :
    Option LeAddressManager :=
  if m.addressPolicy ≠ .policyNotSet then
    if supportsBlePrivacy then prepareToUpdateIrk random m rotationIrk else some m
  else if addressPolicy = .policyNotSet ∨ m.registeredClients.entries ≠ [] then none
  else
    let m := { m with addressPolicy := addressPolicy, supportsBlePrivacy := supportsBlePrivacy }
    match addressPolicy with
    | .usePublicAddress =>
      resumeRegisteredClients random { m with leAddress := ⟨m.publicAddress, .publicDeviceAddress⟩ }
    | .useStaticAddress =>
      if staticAddressValid fixedAddress.address then
        some { m with
          leAddress := fixedAddress
          sentCommands := m.sentCommands ++ [.leSetRandomAddress fixedAddress.address] }
      else none
    | .useNonResolvableAddress | .useResolvableAddress =>
      setRandomAddress random { m with leAddress := fixedAddress, rotationIrk := rotationIrk }
    | .policyNotSet => none

/-- `OnCommandComplete` for the oldest command sent, with whether the event is valid and, for
LE Set Random Address, whether it reports success. -/
def onCommandComplete (m : LeAddressManager) (valid success : Bool) : Option LeAddressManager :=
  match m.sentCommands with
  | [] => none
  | command :: rest =>
    let m := { m with sentCommands := rest }
    if !valid then some m
    else match command with
      | .leSetRandomAddress _ =>
        if m.addressPolicy = .useStaticAddress then some m
        else checkCachedCommands random (if success then { m with leAddress := m.cachedAddress } else m)
      | _ => checkCachedCommands random m

end Handler

/-- What may happen to the manager: a call of a public entry point, a client's answer (only to
a notification it has had), the rotation alarm, or a Command Complete. -/
inductive Event where
  | setPrivacyPolicyForInitiatorAddress (addressPolicy : AddressPolicy)
      (fixedAddress : AddressWithType) (rotationIrk : Nat) (supportsBlePrivacy : Bool)
  | register (client : Client)
  | unregister (client : Client)
  | ackPause (client : Client)
  | ackResume (client : Client)
  | addDeviceToFilterAcceptList (addressType : Nat) (address : Address)
  | removeDeviceFromFilterAcceptList (addressType : Nat) (address : Address)
  | clearFilterAcceptList
  | addDeviceToResolvingList (peerAddressType : Nat) (peerAddress : Address)
      (peerIrk localIrk : Nat)
  | removeDeviceFromResolvingList (peerAddressType : Nat) (peerAddress : Address)
  | clearResolvingList
  | rotationAlarm
  | commandComplete (valid success : Bool)
  deriving DecidableEq, Repr

variable (random : Nat → Address)

/-- One event, run on the manager's handler. -/
def step (m : LeAddressManager) : Event → Option LeAddressManager
  | .setPrivacyPolicyForInitiatorAddress addressPolicy fixedAddress rotationIrk supports =>
    setPrivacyPolicyForInitiatorAddress random m addressPolicy fixedAddress rotationIrk supports
  | .register client => some (registerClient m client)
  | .unregister client => unregisterClient random m client
  | .ackPause client =>
    if (client, .onPause) ∈ m.pendingAcks then
      ackPause random { m with pendingAcks := m.pendingAcks.erase (client, .onPause) } client
    else none
  | .ackResume client =>
    if (client, .onResume) ∈ m.pendingAcks then
      some (ackResume { m with pendingAcks := m.pendingAcks.erase (client, .onResume) } client)
    else none
  | .addDeviceToFilterAcceptList addressType address =>
    some (pushCommand m (.hciCommand (.leAddDeviceToFilterAcceptList addressType address)))
  | .removeDeviceFromFilterAcceptList addressType address =>
    some (pushCommand m (.hciCommand (.leRemoveDeviceFromFilterAcceptList addressType address)))
  | .clearFilterAcceptList => some (pushCommand m (.hciCommand .leClearFilterAcceptList))
  | .addDeviceToResolvingList peerAddressType peerAddress peerIrk localIrk =>
    addDeviceToResolvingList random m peerAddressType peerAddress peerIrk localIrk
  | .removeDeviceFromResolvingList peerAddressType peerAddress =>
    removeDeviceFromResolvingList random m peerAddressType peerAddress
  | .clearResolvingList => some (clearResolvingList m)
  | .rotationAlarm =>
    if m.rotationScheduled then some (prepareToRotate { m with rotationScheduled := false })
    else none
  | .commandComplete valid success => onCommandComplete random m valid success

/-- The commands an event puts in `cached_commands_`. -/
def pushes (m : LeAddressManager) : Event → List Command
  | .setPrivacyPolicyForInitiatorAddress _ _ rotationIrk supports =>
    if m.addressPolicy ≠ .policyNotSet ∧ supports then [.updateIrk rotationIrk] else []
  | .addDeviceToFilterAcceptList addressType address =>
    [.hciCommand (.leAddDeviceToFilterAcceptList addressType address)]
  | .removeDeviceFromFilterAcceptList addressType address =>
    [.hciCommand (.leRemoveDeviceFromFilterAcceptList addressType address)]
  | .clearFilterAcceptList => [.hciCommand .leClearFilterAcceptList]
  | .addDeviceToResolvingList peerAddressType peerAddress peerIrk localIrk =>
    additionCommands m peerAddressType peerAddress peerIrk localIrk
  | .removeDeviceFromResolvingList peerAddressType peerAddress =>
    resolvingListCommands (.leRemoveDeviceFromResolvingList peerAddressType peerAddress) []
  | .clearResolvingList => resolvingListCommands .leClearResolvingList []
  | .rotationAlarm => [.rotateRandomAddress]
  | _ => []

/-- The commands a replayed run pushes, event by event, up to the first event not enabled. -/
def pushedBy (m : LeAddressManager) : List Event → List Command
  | [] => []
  | event :: events =>
    pushes m event ++ match step random m event with
      | some next => pushedBy next events
      | none => []

section Queue

variable {random : Nat → Address}

/-- What a handler run does to the queue `queue` it starts from: it leaves it, or it takes its
front command while every registered client is PAUSED, as they still are after. -/
def QueueStep (queue : List Command) (next : LeAddressManager) : Prop :=
  next.cachedCommands = queue ∨
    (∃ command, queue = command :: next.cachedCommands) ∧ next.AllPaused

theorem QueueStep.congr {queue : List Command} {next later : LeAddressManager}
    (took : QueueStep queue next) (same : later.cachedCommands = next.cachedCommands)
    (paused : next.AllPaused → later.AllPaused) : QueueStep queue later := by
  rw [QueueStep, same]
  exact took.imp_right fun front => ⟨front.1, paused front.2⟩

theorem setRandomAddress_keeps {m next : LeAddressManager}
    (set : setRandomAddress random m = some next) :
    next.registeredClients = m.registeredClients ∧ next.cachedCommands = m.cachedCommands := by
  unfold setRandomAddress at set
  split at set
  · cases set
    exact ⟨rfl, rfl⟩
  · cases set

/-- Running a command sends it, and leaves the clients and the queue alone. -/
theorem runCommand_keeps {m next : LeAddressManager} {command : Command}
    (ran : runCommand random m command = some next) :
    next.registeredClients = m.registeredClients ∧ next.cachedCommands = m.cachedCommands := by
  cases command with
  | updateIrk rotationIrk =>
    dsimp only [runCommand, updateIrk] at ran
    have kept := setRandomAddress_keeps ran
    exact kept
  | rotateRandomAddress =>
    dsimp only [runCommand, rotateRandomAddress] at ran
    split_ifs at ran
    have kept := setRandomAddress_keeps ran
    exact kept
  | hciCommand command =>
    cases ran
    exact ⟨rfl, rfl⟩

/-- `handle_next_command` takes the front command only when every client is PAUSED. -/
theorem handleNextCommand_queue {m next : LeAddressManager}
    (handled : handleNextCommand random m = some next) : QueueStep m.cachedCommands next := by
  unfold handleNextCommand at handled
  split_ifs at handled with paused
  · cases queued : m.cachedCommands with
    | nil => simp [queued] at handled
    | cons command rest =>
      rw [queued] at handled
      obtain ⟨clients, queue⟩ := runCommand_keeps handled
      refine .inr ⟨⟨command, queue ▸ rfl⟩, ?_⟩
      rw [AllPaused, clients]
      exact paused
  · cases handled
    exact .inl rfl

theorem ackResume_cachedCommands (m : LeAddressManager) (client : Client) :
    (ackResume m client).cachedCommands = m.cachedCommands := by
  unfold ackResume
  split <;> rfl

theorem registerClient_cachedCommands (m : LeAddressManager) (client : Client) :
    (registerClient m client).cachedCommands = m.cachedCommands := by
  unfold registerClient
  dsimp only
  split_ifs <;> rfl

theorem resumeRegisteredClients_queue {m next : LeAddressManager}
    (resumed : resumeRegisteredClients random m = some next) : QueueStep m.cachedCommands next := by
  unfold resumeRegisteredClients at resumed
  split_ifs at resumed
  · exact handleNextCommand_queue resumed
  · cases resumed
    exact .inl rfl

theorem checkCachedCommands_queue {m next : LeAddressManager}
    (checked : checkCachedCommands random m = some next) : QueueStep m.cachedCommands next := by
  unfold checkCachedCommands at checked
  split_ifs at checked
  · cases checked
    exact .inl rfl
  · exact resumeRegisteredClients_queue checked
  · exact handleNextCommand_queue checked

theorem ackPause_queue {m next : LeAddressManager} {client : Client}
    (acked : ackPause random m client = some next) : QueueStep m.cachedCommands next := by
  unfold ackPause at acked
  split at acked
  · cases acked
    exact .inl rfl
  · dsimp only at acked
    split at acked
    · cases acked
      exact .inl rfl
    · cases acked
      exact .inl rfl
    · split_ifs at acked
      · have took := checkCachedCommands_queue acked
        exact took
      · cases acked
        exact .inl rfl

/-- Unregistering acknowledges for the client and erases it, which keeps every other client
PAUSED. -/
theorem eraseClient_queue {m next : LeAddressManager} {client : Client}
    (erased : eraseClient random m client = some next) : QueueStep m.cachedCommands next := by
  unfold eraseClient at erased
  split at erased
  · cases erased
    exact .inl rfl
  · obtain ⟨acked, ack, rfl⟩ := Option.map_eq_some_iff.1 erased
    have took : QueueStep m.cachedCommands acked := by
      split at ack
      · exact ackPause_queue ack
      · cases ack
        exact .inl (ackResume_cachedCommands m client)
      · cases ack
        exact .inl rfl
    exact took.congr rfl fun paused => SortedMap.AllValues.erase paused client

theorem unregisterClient_queue {m next : LeAddressManager} {client : Client}
    (unregistered : unregisterClient random m client = some next) :
    QueueStep m.cachedCommands next := by
  obtain ⟨erased, erase, rfl⟩ := Option.map_eq_some_iff.1 unregistered
  have took := eraseClient_queue erase
  split
  · exact took.congr rfl id
  · exact took

theorem queueResolvingListUpdate_queue {m next : LeAddressManager} {commands : List Command}
    (queued : queueResolvingListUpdate random m commands = some next) :
    QueueStep (m.cachedCommands ++ commands) next := by
  unfold queueResolvingListUpdate at queued
  dsimp only at queued
  split_ifs at queued
  · exact handleNextCommand_queue queued
  · cases queued
    exact .inl rfl

theorem setPrivacyPolicyForInitiatorAddress_queue {m next : LeAddressManager}
    {addressPolicy : AddressPolicy} {fixedAddress : AddressWithType} {rotationIrk : Nat}
    {supports : Bool}
    (set : setPrivacyPolicyForInitiatorAddress random m addressPolicy fixedAddress rotationIrk
      supports = some next) :
    QueueStep (m.cachedCommands ++
      if m.addressPolicy ≠ .policyNotSet ∧ supports then [.updateIrk rotationIrk] else []) next := by
  unfold setPrivacyPolicyForInitiatorAddress at set
  by_cases policySet : m.addressPolicy ≠ .policyNotSet
  · rw [if_pos policySet] at set
    by_cases supported : supports = true
    · rw [if_pos supported] at set
      rw [if_pos ⟨policySet, supported⟩]
      unfold prepareToUpdateIrk at set
      dsimp only at set
      split_ifs at set
      · exact handleNextCommand_queue set
      · cases set
        exact .inl rfl
    · rw [if_neg supported] at set
      rw [if_neg fun both => supported both.2, List.append_nil]
      cases set
      exact .inl rfl
  · rw [if_neg policySet] at set
    rw [if_neg fun both => policySet both.1, List.append_nil]
    split at set
    · cases set
    dsimp only at set
    split at set
    · have took := resumeRegisteredClients_queue set
      exact took
    · split at set
      · cases set
        exact .inl rfl
      · cases set
    · have kept := setRandomAddress_keeps set
      exact .inl kept.2
    · have kept := setRandomAddress_keeps set
      exact .inl kept.2
    · cases set

theorem onCommandComplete_queue {m next : LeAddressManager} {valid success : Bool}
    (completed : onCommandComplete random m valid success = some next) :
    QueueStep m.cachedCommands next := by
  unfold onCommandComplete at completed
  split at completed
  · cases completed
  dsimp only at completed
  split at completed
  · cases completed
    exact .inl rfl
  split at completed
  · split at completed
    · cases completed
      exact .inl rfl
    -- whether LE Set Random Address succeeded decides only the address
    split at completed
    all_goals
      have took := checkCachedCommands_queue completed
      exact took
  · have took := checkCachedCommands_queue completed
    exact took

/-- Every event appends what it pushes to the queue and takes at most the front command, only
while every registered client is PAUSED: the queue is first in, first out. -/
theorem step_queue {m next : LeAddressManager} {event : Event}
    (stepped : step random m event = some next) :
    QueueStep (m.cachedCommands ++ pushes m event) next := by
  cases event with
  | setPrivacyPolicyForInitiatorAddress addressPolicy fixedAddress rotationIrk supports =>
    exact setPrivacyPolicyForInitiatorAddress_queue stepped
  | register client =>
    cases stepped
    left
    simp [registerClient_cachedCommands, pushes]
  | unregister client => simpa [pushes] using unregisterClient_queue stepped
  | ackPause client =>
    dsimp only [step] at stepped
    split_ifs at stepped
    simpa [pushes] using ackPause_queue stepped
  | ackResume client =>
    dsimp only [step] at stepped
    split_ifs at stepped
    cases stepped
    left
    simp [ackResume_cachedCommands, pushes]
  | addDeviceToFilterAcceptList addressType address =>
    cases stepped
    exact .inl rfl
  | removeDeviceFromFilterAcceptList addressType address =>
    cases stepped
    exact .inl rfl
  | clearFilterAcceptList =>
    cases stepped
    exact .inl rfl
  | addDeviceToResolvingList peerAddressType peerAddress peerIrk localIrk =>
    exact queueResolvingListUpdate_queue stepped
  | removeDeviceFromResolvingList peerAddressType peerAddress =>
    exact queueResolvingListUpdate_queue stepped
  | clearResolvingList =>
    cases stepped
    exact .inl rfl
  | rotationAlarm =>
    dsimp only [step] at stepped
    split_ifs at stepped
    cases stepped
    exact .inl rfl
  | commandComplete valid success => simpa [pushes] using onCommandComplete_queue stepped

/-- Over a run, the commands queued before it and pushed during it are those taken, in order,
followed by those still queued: none is lost, duplicated or reordered, and at most one is taken
per event. -/
theorem run_queue {m final : LeAddressManager} {events : List Event}
    (replayed : Transition.run (step random) m events = some final) :
    ∃ taken, m.cachedCommands ++ pushedBy random m events = taken ++ final.cachedCommands ∧
      taken.length ≤ events.length := by
  induction events generalizing m with
  | nil =>
    cases replayed
    exact ⟨[], by simp [pushedBy]⟩
  | cons event events induction =>
    obtain ⟨next, stepped, rest⟩ := Option.bind_eq_some_iff.1 replayed
    obtain ⟨taken, queue, few⟩ := induction rest
    have pushed : pushedBy random m (event :: events) =
        pushes m event ++ pushedBy random next events := by
      simp [pushedBy, stepped]
    rw [pushed, ← List.append_assoc]
    rcases step_queue stepped with kept | ⟨⟨command, front⟩, -⟩
    · exact ⟨taken, by rw [← kept, queue], by simp only [List.length_cons]; omega⟩
    · refine ⟨command :: taken, ?_, by simp only [List.length_cons]; omega⟩
      rw [front, List.cons_append, queue, List.cons_append]

end Queue

section Exclusivity

/-- Registering leaves the commands sent alone; once a policy is set, the new client is only
inserted. -/
theorem registerClient_of_policySet {m : LeAddressManager} (client : Client)
    (policySet : m.addressPolicy ≠ .policyNotSet) :
    (registerClient m client).sentCommands = m.sentCommands ∧
      (registerClient m client).registeredClients = m.registeredClients.insert client .resumed := by
  unfold registerClient
  dsimp only
  rw [if_neg policySet]
  split_ifs <;> exact ⟨rfl, rfl⟩

/-- A client that registers once a policy is set is RESUMED at once, and every command sent is
still outstanding, whatever the other clients' states. -/
theorem register_while_outstanding_resumes (m : LeAddressManager) (client : Client)
    (policySet : m.addressPolicy ≠ .policyNotSet) (fresh : m.registeredClients.find client = none) :
    ∃ next, step random m (.register client) = some next ∧ next.sentCommands = m.sentCommands ∧
      next.registeredClients.find client = some .resumed := by
  obtain ⟨sent, clients⟩ := registerClient_of_policySet client policySet
  refine ⟨registerClient m client, rfl, sent, ?_⟩
  rw [clients]
  exact SortedMap.find_insert_self _ fresh

/-- A client registered under the public address policy, a filter accept list addition queued,
and the client's pause acknowledged: the addition has been sent and is outstanding. -/
def filterAdditionOutstanding : LeAddressManager :=
  (Transition.run (step id) (initial 0)
    [.setPrivacyPolicyForInitiatorAddress .usePublicAddress ⟨0, .publicDeviceAddress⟩ 0 false,
      .register 1, .addDeviceToFilterAcceptList 0 7, .ackPause 1]).getD (initial 0)

theorem register_while_outstanding_resumes_at_filter_addition :
    filterAdditionOutstanding.sentCommands = [.leAddDeviceToFilterAcceptList 0 7] ∧
      ∃ next, step id filterAdditionOutstanding (.register 2) = some next ∧
        next.sentCommands = filterAdditionOutstanding.sentCommands ∧
        next.registeredClients.find 2 = some .resumed :=
  ⟨by decide, register_while_outstanding_resumes id filterAdditionOutstanding 2 (by decide)
    (by decide)⟩

/-- A client's answer to an earlier `OnResume` makes it RESUMED whatever its state, also while it
has been asked to pause again, has acknowledged that, and the command it was paused for is
outstanding. -/
theorem ackResume_resumes {m : LeAddressManager} {client : Client} {state : ClientState}
    (asked : (client, .onResume) ∈ m.pendingAcks)
    (registered : m.registeredClients.find client = some state) :
    ∃ next, step random m (.ackResume client) = some next ∧ next.sentCommands = m.sentCommands ∧
      next.registeredClients.find client = some .resumed := by
  refine ⟨ackResume { m with pendingAcks := m.pendingAcks.erase (client, .onResume) } client,
    ?_, ?_, ?_⟩
  · dsimp only [step]
    rw [if_pos asked]
  · unfold ackResume
    split <;> rfl
  · simp only [ackResume, registered]
    exact SortedMap.find_modify_self _ registered

example :
    ((Transition.run (step id) (initial 0)
      [.setPrivacyPolicyForInitiatorAddress .usePublicAddress ⟨0, .publicDeviceAddress⟩ 0 false,
        .register 1, .addDeviceToFilterAcceptList 0 7, .ackPause 1, .commandComplete true true,
        .addDeviceToFilterAcceptList 0 8, .ackPause 1, .ackResume 1]).map fun m =>
      (m.sentCommands, m.registeredClients.find 1)) =
      some ([.leAddDeviceToFilterAcceptList 0 8], some .resumed) := by
  decide

/-- With no client registered, a resolving-list addition sends its first command at once,
whatever is outstanding. -/
theorem addDeviceToResolvingList_sends_at_once {m : LeAddressManager}
    (alone : m.registeredClients.entries = []) (idle : m.cachedCommands = [])
    (peerAddressType : Nat) (peerAddress : Address) (peerIrk localIrk : Nat) :
    ∃ next, step random m (.addDeviceToResolvingList peerAddressType peerAddress peerIrk localIrk) =
      some next ∧ next.sentCommands = m.sentCommands ++ [.leSetAddressResolutionEnable false] := by
  have paused : ∀ queue : List Command, AllPaused { m with cachedCommands := queue } := by
    intro queue entry mem
    simp [alone] at mem
  have sent : step random m (.addDeviceToResolvingList peerAddressType peerAddress peerIrk localIrk) =
      some { m with
        cachedCommands := (additionCommands m peerAddressType peerAddress peerIrk localIrk).tail
        sentCommands := m.sentCommands ++ [.leSetAddressResolutionEnable false] } := by
    simp only [step, addDeviceToResolvingList, queueResolvingListUpdate, alone, if_true,
      handleNextCommand, if_pos (paused _), idle, List.nil_append]
    rfl
  exact ⟨_, sent, rfl⟩

end Exclusivity

end LeAddressManager

end Bluetooth.Hci
