import Mathlib.Data.List.Basic
import Mathlib.Logic.Function.Basic
import UvcRtmpStream.Foundations.Runs

/-!
# The USB monitor

`USBMonitor` tells the service which cameras are plugged in, and opens them. Its callbacks are made
by the thread of its handler, which takes the messages posted to it one after the other, and once in
two seconds a check of the list of devices. The main thread registers and unregisters the monitor
and receives the broadcasts: that a device was detached, and what the user answered to a request for
permission. The cameras, on any thread, clone the control blocks they are given and close the
clones.

A step is what one thread does between two points at which another may come in between: one
operation on the map of control blocks, one write of `mDeviceCounts`, one callback. Devices are
known by their names, by which `UsbDevice.equals` compares them, and control blocks are numbered in
the order in which they are made. `callbacks` lists the callbacks that were made, and `fresh` the
devices for which no `onAttach` has been posted since they were plugged in; no code reads these two.
Devices are listed in the order in which they were plugged in, where a `HashMap` has its own.

The service sets no device filters, and does not call `destroy`.
-/

set_option autoImplicit false
set_option relaxedAutoImplicit false

namespace UvcRtmpStream.Camera

/-- `UsbControlBlock`: the device, whether `mConnection` is set, and whether the copy constructor
made it. -/
structure UsbControlBlock where
  device : ℕ
  connected : Bool
  cloned : Bool
  deriving DecidableEq

/-- A `Runnable` that was posted to `mAsyncHandler`. -/
inductive Posted
  | attach (device : ℕ)
  | dettach (device : ℕ)
  | connect (device : ℕ)
  | cancel (device : ℕ)
  deriving DecidableEq

/-- A call of the `OnDeviceConnectListener`. -/
inductive Callback
  | onAttach (device : ℕ)
  | onDettach (device : ℕ)
  | onConnect (device block : ℕ) (createNew : Bool)
  | onDisconnect (device block : ℕ)
  | onCancel (device : ℕ)
  deriving DecidableEq

/-- The thread of `mAsyncHandler`: in `mDeviceCheckRunnable` with the devices it has listed, with
what the comparison said, or with the devices it has yet to report; in `onAttach`; or in the
`Runnable` of `processConnect`. -/
inductive HandlerPhase
  | idle
  | listed (devices : List ℕ)
  | compared (devices : List ℕ) (report : Bool)
  | reporting (devices : List ℕ)
  | attaching (device : ℕ)
  | opening (device : ℕ)
  | putting (device block : ℕ)
  | connecting (device block : ℕ) (createNew : Bool)
  deriving DecidableEq

/-- The main thread, in `mUsbAttachDetachReceiver` for a device that was detached. -/
inductive ReceiverPhase
  | idle
  | closing (device block : ℕ)
  | unmapping (device : ℕ)
  | resetting (device : ℕ)
  | posting (device : ℕ)
  deriving DecidableEq

/-- The monitor, with what the `UsbManager` knows: the devices, the permissions, and the broadcasts
that are on their way. `checks` counts the delayed posts of `mDeviceCheckRunnable`, and `unmapping`
has the devices of the clones that are in `close` behind `onDisconnect`. -/
structure USBMonitor where
  devices : List ℕ
  permitted : List ℕ
  detached : List ℕ
  ctrlBlocks : ℕ → Option ℕ
  hasPermissions : List ℤ
  registered : Bool
  deviceCounts : ℕ
  queue : List Posted
  checks : ℕ
  handler : HandlerPhase
  receiver : ReceiverPhase
  blocks : List UsbControlBlock
  unmapping : List ℕ
  callbacks : List Callback
  fresh : List ℕ

/-- A step of the environment, of the main thread, of the handler's thread or of a camera. A step
that is not possible does nothing. -/
inductive UsbEvent
  | plug (device : ℕ)
  | unplug (device : ℕ)
  | allow (device : ℕ)
  | register
  | unregister
  | permissionResult (device : ℕ) (granted : Bool)
  | detach
  | receive
  | check
  | handle
  | turn (answer : Bool)
  | clone (block : ℕ) (opens : Bool)
  | closeClone (block : ℕ)
  | unmap (place : ℕ)
  deriving DecidableEq

namespace USBMonitor

/-- A new monitor, before any device is plugged in. -/
def constructed : USBMonitor where
  devices := []
  permitted := []
  detached := []
  ctrlBlocks := fun _ ↦ none
  hasPermissions := []
  registered := false
  deviceCounts := 0
  queue := []
  checks := 0
  handler := .idle
  receiver := .idle
  blocks := []
  unmapping := []
  callbacks := []
  fresh := []

/-- `mAsyncHandler.post`. -/
def post (s : USBMonitor) (message : Posted) : USBMonitor :=
  { s with queue := s.queue ++ [message] }

def call (s : USBMonitor) (callback : Callback) : USBMonitor :=
  { s with callbacks := s.callbacks ++ [callback] }

/-- `mCtrlBlocks.remove`. -/
def removeBlock (s : USBMonitor) (device : ℕ) : USBMonitor :=
  { s with ctrlBlocks := Function.update s.ctrlBlocks device none }

/-- The block is connected. -/
def IsConnected (s : USBMonitor) (block : ℕ) : Prop :=
  (s.blocks[block]?).any UsbControlBlock.connected

instance (s : USBMonitor) (block : ℕ) : Decidable (s.IsConnected block) :=
  inferInstanceAs (Decidable (_ = true))

/-- `close`, up to `onDisconnect`, of a block that is connected. -/
def disconnect (s : USBMonitor) (device block : ℕ) : USBMonitor :=
  { s with
    blocks := s.blocks.modify block fun ctrlBlock ↦ { ctrlBlock with connected := false } }.call
      (.onDisconnect device block)

section Permissions

variable (deviceKey : ℕ → ℤ)

/-- `updatePermission`, on the keys of `mHasPermissions`. -/
def updateKeys (keys : List ℤ) (device : ℕ) (hasPermission : Bool) : List ℤ :=
  if hasPermission then keys.insert (deviceKey device) else keys.erase (deviceKey device)

def updatePermission (s : USBMonitor) (device : ℕ) (hasPermission : Bool) : USBMonitor :=
  { s with hasPermissions := updateKeys deviceKey s.hasPermissions device hasPermission }

/-- `processConnect`, up to the post. -/
def processConnect (s : USBMonitor) (device : ℕ) : USBMonitor :=
  (s.updatePermission deviceKey device true).post (.connect device)

/-- `processCancel`. -/
def processCancel (s : USBMonitor) (device : ℕ) : USBMonitor :=
  (s.updatePermission deviceKey device false).post (.cancel device)

/-- `requestPermission`, of a device. The request of the `UsbManager` may throw. -/
def requestPermission (s : USBMonitor) (device : ℕ) (requested : Bool) : USBMonitor :=
  if s.registered then
    if device ∈ s.permitted then s.processConnect deviceKey device
    else if requested then s
    else s.processCancel deviceKey device
  else s.processCancel deviceKey device

/-- The part of `mDeviceCheckRunnable` that finds out which of the devices have permissions, and
whether the devices are to be reported. -/
def compare (s : USBMonitor) (devices : List ℕ) : USBMonitor :=
  let keys := devices.foldl
    (fun keys device ↦ updateKeys deviceKey keys device (device ∈ s.permitted)) []
  { s with
    hasPermissions := keys
    handler := .compared devices
      (s.deviceCounts < devices.length ∨ s.hasPermissions.length < keys.length) }

/-- `register`, which posts a check. -/
def register (s : USBMonitor) : USBMonitor :=
  if s.registered then s
  else { s with registered := true, deviceCounts := 0, checks := s.checks + 1 }

/-- `unregister`. The broadcasts that are on their way are not received any more. -/
def unregister (s : USBMonitor) : USBMonitor :=
  { s with registered := false, deviceCounts := 0, checks := 0, detached := [] }

/-- The receiver of `ACTION_USB_DEVICE_DETACHED`, up to `mCtrlBlocks.remove`. -/
def detach (s : USBMonitor) : USBMonitor :=
  match s.receiver, s.detached with
  | .idle, device :: detached =>
    { s.removeBlock device with
      detached := detached
      receiver :=
        match s.ctrlBlocks device with
        | some block => .closing device block
        | none => .resetting device }
  | _, _ => s

/-- The receiver, from there on. -/
def receive (s : USBMonitor) : USBMonitor :=
  match s.receiver with
  | .idle => s
  | .closing device block =>
    if s.IsConnected block then { s.disconnect device block with receiver := .unmapping device }
    else { s with receiver := .resetting device }
  | .unmapping device => { s.removeBlock device with receiver := .resetting device }
  | .resetting device => { s with deviceCounts := 0, receiver := .posting device }
  | .posting device => { s.post (.dettach device) with receiver := .idle }

/-- The handler's thread takes a delayed check, and lists the devices. -/
def check (s : USBMonitor) : USBMonitor :=
  if s.handler = .idle ∧ 0 < s.checks then
    { s with checks := s.checks - 1, handler := .listed s.devices }
  else s

/-- The handler's thread takes the first message. -/
def handle (s : USBMonitor) : USBMonitor :=
  match s.handler, s.queue with
  | .idle, message :: queue =>
    let s := { s with queue := queue }
    match message with
    | .attach device => { s.call (.onAttach device) with handler := .attaching device }
    | .dettach device => s.call (.onDettach device)
    | .cancel device => s.call (.onCancel device)
    | .connect device =>
      match s.ctrlBlocks device with
      | some block => { s with handler := .connecting device block false }
      | none => { s with handler := .opening device }
  | _, _ => s

/-- The handler's thread goes on. `answer` is whether the `UsbManager` takes a request for
permission, or opens the device. -/
def turn (s : USBMonitor) (answer : Bool) : USBMonitor :=
  match s.handler with
  | .idle => s
  | .listed devices => s.compare deviceKey devices
  | .compared _ false => { s with handler := .reporting [] }
  | .compared devices true =>
    { s with deviceCounts := devices.length, handler := .reporting devices }
  | .reporting (device :: devices) =>
    { s.post (.attach device) with
      fresh := s.fresh.filter (· ≠ device)
      handler := .reporting devices }
  | .reporting [] => { s with checks := s.checks + 1, handler := .idle }
  | .attaching device => { s.requestPermission deviceKey device answer with handler := .idle }
  | .opening device =>
    { s with
      blocks := s.blocks ++
        [⟨device, decide (answer ∧ device ∈ s.devices ∧ device ∈ s.permitted), false⟩]
      handler := .putting device s.blocks.length }
  | .putting device block =>
    { s with
      ctrlBlocks := Function.update s.ctrlBlocks device (some block)
      handler := .connecting device block true }
  | .connecting device block createNew =>
    { s.call (.onConnect device block createNew) with handler := .idle }

/-- `clone`, by a camera that has the block. It throws where the device cannot be opened. -/
def clone (s : USBMonitor) (block : ℕ) (opens : Bool) : USBMonitor :=
  match s.blocks[block]? with
  | some ctrlBlock =>
    if opens ∧ ctrlBlock.device ∈ s.devices ∧ ctrlBlock.device ∈ s.permitted then
      { s with blocks := s.blocks ++ [⟨ctrlBlock.device, true, true⟩] }
    else s
  | none => s

/-- `close` of a clone, up to `onDisconnect`. -/
def closeClone (s : USBMonitor) (block : ℕ) : USBMonitor :=
  match s.blocks[block]? with
  | some ctrlBlock =>
    if ctrlBlock.cloned ∧ ctrlBlock.connected then
      { s.disconnect ctrlBlock.device block with unmapping := s.unmapping ++ [ctrlBlock.device] }
    else s
  | none => s

/-- The end of `close` of a clone. -/
def unmap (s : USBMonitor) (place : ℕ) : USBMonitor :=
  match s.unmapping[place]? with
  | some device => { s.removeBlock device with unmapping := s.unmapping.eraseIdx place }
  | none => s

/-- A step. The main thread is free where it is not in the receiver. -/
def step (s : USBMonitor) : UsbEvent → USBMonitor
  | .plug device =>
    if device ∈ s.devices then s
    else { s with devices := s.devices ++ [device], fresh := s.fresh ++ [device] }
  | .unplug device =>
    if device ∈ s.devices then
      { s with
        devices := s.devices.erase device
        permitted := s.permitted.filter (· ≠ device)
        fresh := s.fresh.filter (· ≠ device)
        detached := if s.registered then s.detached ++ [device] else s.detached }
    else s
  | .allow device =>
    if device ∈ s.devices then { s with permitted := s.permitted.insert device } else s
  | .register => if s.receiver = .idle then s.register else s
  | .unregister => if s.receiver = .idle then s.unregister else s
  | .permissionResult device granted =>
    if s.receiver = .idle ∧ s.registered then
      if granted then s.processConnect deviceKey device else s.processCancel deviceKey device
    else s
  | .detach => s.detach
  | .receive => s.receive
  | .check => s.check
  | .handle => s.handle
  | .turn answer => s.turn deviceKey answer
  | .clone block opens => s.clone block opens
  | .closeClone block => s.closeClone block
  | .unmap place => s.unmap place

end Permissions

end USBMonitor

end UvcRtmpStream.Camera
