import Mathlib.Data.List.Nodup
import Mathlib.Data.List.Perm.Subperm
import UvcRtmpStream.Camera.UsbMonitor

/-!
# What the checks of the USB monitor announce

A check reports all devices where there are more of them than `mDeviceCounts`, the number it had
when it last reported. That a device was replaced by another is seen because the receiver of the
detached one sets `mDeviceCounts` to zero. It does so at any time, and a check that has listed the
detached device before may write the number behind it: then the device that is plugged in next is
not announced. `counts_announced_iff` says that this is the one way to go wrong.

The second part is about what is left when the monitor is unregistered. A check posts the next one,
and `unregister` cannot take back one that is running, nor the callbacks that are posted:
`after_unregister` counts them.
-/

set_option autoImplicit false
set_option relaxedAutoImplicit false

namespace UvcRtmpStream.Camera

open UvcRtmpStream.Foundations

/-- The devices that a check has listed and not yet counted. -/
def HandlerPhase.lists : HandlerPhase → Option (List ℕ)
  | .listed devices | .compared devices _ => some devices
  | .idle | .reporting _ | .attaching _ | .opening _ | .putting _ _ | .connecting _ _ _ => none

/-- The devices that a check has counted and not yet reported. -/
def HandlerPhase.reports : HandlerPhase → List ℕ
  | .reporting devices => devices
  | .idle | .listed _ | .compared _ _ | .attaching _ | .opening _ | .putting _ _
  | .connecting _ _ _ => []

/-- The receiver has not reset `mDeviceCounts` yet. -/
def ReceiverPhase.IsBusy : ReceiverPhase → Prop
  | .closing _ _ | .unmapping _ | .resetting _ => True
  | .idle | .posting _ => False

/-- What the checks are about. -/
structure CheckView where
  devices : List ℕ
  fresh : List ℕ
  registered : Bool
  outstanding : Prop
  deviceCounts : ℕ
  handler : HandlerPhase

namespace CheckView

/-- The devices that have been announced since they were plugged in, or are about to be. -/
def announced (v : CheckView) : List ℕ :=
  v.devices.filter fun device ↦ device ∉ v.fresh ∨ device ∈ v.handler.reports

/-- What one step can do. -/
inductive Move (v : CheckView) : CheckView → Prop
  | still : Move v v
  | receives {outstanding : Prop} (houtstanding : outstanding) :
      Move v { v with outstanding := outstanding }
  | handles {handler : HandlerPhase} (hlists : v.handler.lists = none)
      (hreports : v.handler.reports = []) (hlists' : handler.lists = none)
      (hreports' : handler.reports = []) : Move v { v with handler := handler }
  | plugs {device : ℕ} (hdevice : device ∉ v.devices) :
      Move v { v with devices := v.devices ++ [device], fresh := v.fresh ++ [device] }
  | unplugs {device : ℕ} {outstanding : Prop}
      (houtstanding : v.registered = true → outstanding) :
      Move v { v with
        devices := v.devices.erase device
        fresh := v.fresh.filter (· ≠ device)
        outstanding := outstanding }
  | resets {registered : Bool} {outstanding : Prop} :
      Move v { v with registered := registered, outstanding := outstanding, deviceCounts := 0 }
  | lists (hreports : v.handler.reports = []) : Move v { v with handler := .listed v.devices }
  | compares {devices : List ℕ} {report : Bool} (hlists : v.handler.lists = some devices)
      (hreports : v.handler.reports = []) : Move v { v with handler := .compared devices report }
  | skips {devices : List ℕ} (hhandler : v.handler = .compared devices false) :
      Move v { v with handler := .reporting [] }
  | counts {devices : List ℕ} (hhandler : v.handler = .compared devices true) :
      Move v { v with deviceCounts := devices.length, handler := .reporting devices }
  | reports {device : ℕ} {devices : List ℕ}
      (hhandler : v.handler = .reporting (device :: devices)) :
      Move v { v with fresh := v.fresh.filter (· ≠ device), handler := .reporting devices }
  | ends (hhandler : v.handler = .reporting []) : Move v { v with handler := .idle }

end CheckView

namespace USBMonitor

/-- A device was detached, and `mDeviceCounts` has not been reset yet. -/
def Outstanding (s : USBMonitor) : Prop := s.detached ≠ [] ∨ s.receiver.IsBusy

def checkView (s : USBMonitor) : CheckView where
  devices := s.devices
  fresh := s.fresh
  registered := s.registered
  outstanding := s.Outstanding
  deviceCounts := s.deviceCounts
  handler := s.handler

variable (deviceKey : ℕ → ℤ)

@[simp] theorem checkView_requestPermission (s : USBMonitor) (device : ℕ) (requested : Bool) :
    (s.requestPermission deviceKey device requested).checkView = s.checkView := by
  unfold requestPermission
  split_ifs <;> rfl

theorem move_detach (s : USBMonitor) : s.checkView.Move s.detach.checkView := by
  unfold detach
  split
  · rename_i device detached hreceiver hdetached
    refine .receives (Or.inr ?_)
    cases s.ctrlBlocks device <;> trivial
  · exact .still

theorem move_receive (s : USBMonitor) : s.checkView.Move s.receive.checkView := by
  unfold receive
  cases hreceiver : s.receiver with
  | idle => exact .still
  | closing device block =>
    simp only
    split_ifs
    · exact .receives (Or.inr trivial)
    · exact .receives (Or.inr trivial)
  | unmapping device => exact .receives (Or.inr trivial)
  | resetting device => exact .resets
  | posting device =>
    have hsame : ({ s.post (.dettach device) with receiver := .idle } : USBMonitor).checkView =
        s.checkView := by
      simp [checkView, Outstanding, ReceiverPhase.IsBusy, hreceiver, post]
    rw [hsame]
    exact .still

theorem move_handle (s : USBMonitor) : s.checkView.Move s.handle.checkView := by
  unfold handle
  split
  · rename_i message queue hhandler hqueue
    cases message with
    | attach device => exact .handles (congrArg _ hhandler) (congrArg _ hhandler) rfl rfl
    | dettach device => exact .still
    | cancel device => exact .still
    | connect device =>
      simp only
      split
      · exact .handles (congrArg _ hhandler) (congrArg _ hhandler) rfl rfl
      · exact .handles (congrArg _ hhandler) (congrArg _ hhandler) rfl rfl
  · exact .still

theorem move_turn (s : USBMonitor) (answer : Bool) :
    s.checkView.Move (s.turn deviceKey answer).checkView := by
  unfold turn
  split <;> rename_i hhandler
  · exact .still
  · exact .compares (congrArg _ hhandler) (congrArg _ hhandler)
  · exact .skips hhandler
  · exact .counts hhandler
  · exact .reports hhandler
  · exact .ends hhandler
  · rename_i device
    change s.checkView.Move
      { (s.requestPermission deviceKey device answer).checkView with handler := .idle }
    rw [checkView_requestPermission]
    exact .handles (congrArg _ hhandler) (congrArg _ hhandler) rfl rfl
  · exact .handles (congrArg _ hhandler) (congrArg _ hhandler) rfl rfl
  · exact .handles (congrArg _ hhandler) (congrArg _ hhandler) rfl rfl
  · exact .handles (congrArg _ hhandler) (congrArg _ hhandler) rfl rfl

/-- Every step is one of the moves. -/
theorem move_step (s : USBMonitor) (event : UsbEvent) :
    s.checkView.Move (s.step deviceKey event).checkView := by
  cases event with
  | plug device =>
    rw [step]
    split_ifs with hplugged
    · exact .still
    · exact .plugs hplugged
  | unplug device =>
    rw [step]
    split_ifs with hplugged hregistered
    · exact .unplugs fun _ ↦ Or.inl (by simp)
    · exact .unplugs fun h ↦ absurd h hregistered
    · exact .still
  | allow device =>
    rw [step]
    split_ifs <;> exact .still
  | register =>
    rw [step, register]
    split_ifs
    · exact .still
    · exact .resets
    · exact .still
  | unregister =>
    rw [step]
    split_ifs
    · exact .resets
    · exact .still
  | permissionResult device granted =>
    rw [step]
    split_ifs <;> exact .still
  | detach => exact s.move_detach
  | receive => exact s.move_receive
  | check =>
    rw [step, check]
    split_ifs with hidle
    · exact .lists (congrArg _ hidle.1)
    · exact .still
  | handle => exact s.move_handle
  | turn answer => exact s.move_turn deviceKey answer
  | clone block opens =>
    rw [step, clone]
    split
    · split_ifs <;> exact .still
    · exact .still
  | closeClone block =>
    rw [step, closeClone]
    split
    · split_ifs <;> exact .still
    · exact .still
  | unmap place =>
    rw [step, unmap]
    split <;> exact .still

end USBMonitor

namespace CheckView

/-- No device is listed twice, and a device that a check does not list was plugged in since. -/
structure Listing (v : CheckView) : Prop where
  devices : v.devices.Nodup
  listed : ∀ devices, v.handler.lists = some devices → devices.Nodup
  missed : ∀ devices, v.handler.lists = some devices →
    ∀ device ∈ v.devices, device ∉ devices → device ∈ v.fresh

/-- `mDeviceCounts` is no more than the number of devices that have been announced. -/
def Counted (v : CheckView) : Prop :=
  v.registered = true → ¬ v.outstanding → v.deviceCounts ≤ v.announced.length

/-- A check that is about to write `mDeviceCounts` has listed no device that was taken out. -/
def InTime (v : CheckView) : Prop :=
  ∀ devices, v.handler = .compared devices true → v.registered = true → ¬ v.outstanding →
    devices ⊆ v.devices

theorem Listing.of_lists_none {v : CheckView} (hdevices : v.devices.Nodup)
    (hlists : v.handler.lists = none) : v.Listing :=
  ⟨hdevices, fun devices h ↦ by simp [hlists] at h, fun devices h ↦ by simp [hlists] at h⟩

theorem Listing.move {v w : CheckView} (h : v.Listing) (hmove : v.Move w) : w.Listing := by
  cases hmove with
  | still => exact h
  | receives _ | resets => exact ⟨h.devices, h.listed, h.missed⟩
  | handles _ _ hlists' _ => exact .of_lists_none h.devices hlists'
  | skips _ | counts _ | reports _ | ends _ => exact .of_lists_none h.devices rfl
  | plugs hdevice =>
    refine ⟨?_, h.listed, fun devices hdevices other hother hmissed ↦ ?_⟩
    · exact List.nodup_append.mpr ⟨h.devices, List.nodup_singleton _, by grind⟩
    · rcases List.mem_append.mp hother with hold | hnew
      · exact List.mem_append_left _ (h.missed devices hdevices other hold hmissed)
      · exact List.mem_append_right _ hnew
  | unplugs houtstanding =>
    refine ⟨h.devices.erase _, h.listed, fun devices hdevices other hother hmissed ↦ ?_⟩
    obtain ⟨hdiffer, hold⟩ := (List.Nodup.mem_erase_iff h.devices).mp hother
    exact List.mem_filter.mpr ⟨h.missed devices hdevices other hold hmissed, by simpa using hdiffer⟩
  | lists hreports =>
    refine ⟨h.devices, fun devices hdevices ↦ ?_, fun devices hdevices other hother hmissed ↦ ?_⟩
    · obtain rfl := Option.some.inj hdevices
      exact h.devices
    · obtain rfl := Option.some.inj hdevices
      exact absurd hother hmissed
  | compares hlists hreports =>
    refine ⟨h.devices, fun devices hdevices ↦ ?_, fun devices hdevices ↦ ?_⟩
    · obtain rfl := Option.some.inj hdevices
      exact h.listed _ hlists
    · obtain rfl := Option.some.inj hdevices
      exact h.missed _ hlists

/-- More of the devices have been announced. -/
theorem length_announced_le {v w : CheckView} (hdevices : v.devices.Sublist w.devices)
    (hannounced : ∀ device ∈ v.devices, device ∉ v.fresh ∨ device ∈ v.handler.reports →
      device ∉ w.fresh ∨ device ∈ w.handler.reports) :
    v.announced.length ≤ w.announced.length := by
  have hfilter : v.announced.length ≤ (v.devices.filter fun device ↦
      device ∉ w.fresh ∨ device ∈ w.handler.reports).length := by
    rw [announced, ← List.countP_eq_length_filter, ← List.countP_eq_length_filter]
    refine List.countP_mono_left fun device hdevice hold ↦ ?_
    exact decide_eq_true (hannounced device hdevice (of_decide_eq_true hold))
  exact hfilter.trans (hdevices.filter _).length_le

/-- A move that changes neither the counter nor what it is for, and takes back nothing that was
announced. -/
theorem Counted.of_announced {v w : CheckView} (h : v.Counted)
    (hregistered : w.registered = v.registered) (houtstanding : w.outstanding = v.outstanding)
    (hcounts : w.deviceCounts = v.deviceCounts) (hdevices : v.devices.Sublist w.devices)
    (hannounced : ∀ device ∈ v.devices, device ∉ v.fresh ∨ device ∈ v.handler.reports →
      device ∉ w.fresh ∨ device ∈ w.handler.reports) : w.Counted := by
  intro hw hnone
  rw [hregistered] at hw
  rw [houtstanding] at hnone
  rw [hcounts]
  exact (h hw hnone).trans (length_announced_le hdevices hannounced)

theorem Counted.move {v w : CheckView} (hlisting : v.Listing) (h : v.Counted)
    (hintime : w.handler.lists = none → v.InTime) (hmove : v.Move w) : w.Counted := by
  have hnot {device : ℕ} (hreports : v.handler.reports = [])
      (hold : device ∉ v.fresh ∨ device ∈ v.handler.reports) : device ∉ v.fresh := by
    rw [hreports] at hold
    exact hold.resolve_right List.not_mem_nil
  cases hmove with
  | still => exact h
  | receives houtstanding => exact fun _ hnone ↦ absurd houtstanding hnone
  | resets => exact fun _ _ ↦ Nat.zero_le _
  | unplugs houtstanding => exact fun hregistered hnone ↦ absurd (houtstanding hregistered) hnone
  | handles _ hreports _ _ | lists hreports | compares _ hreports =>
    exact h.of_announced rfl rfl rfl (List.Sublist.refl _) fun _ _ hold ↦
      Or.inl (hnot hreports hold)
  | skips hhandler =>
    have hreports : v.handler.reports = [] := by rw [hhandler]; rfl
    exact h.of_announced rfl rfl rfl (List.Sublist.refl _) fun _ _ hold ↦
      Or.inl (hnot hreports hold)
  | plugs hdevice =>
    refine h.of_announced rfl rfl rfl (List.sublist_append_left _ _) fun device hold hannounced ↦ ?_
    refine hannounced.imp_left fun hfresh hmem ↦ ?_
    rcases List.mem_append.mp hmem with hmem | hmem
    · exact hfresh hmem
    · rw [List.mem_singleton] at hmem
      exact hdevice (hmem ▸ hold)
  | counts hhandler =>
    -- every device that was listed is about to be reported
    intro hregistered hnone
    have hsubset := hintime rfl _ hhandler hregistered hnone
    have hnodup := hlisting.listed _ (by rw [hhandler]; rfl)
    refine (List.subperm_of_subset hnodup fun device hdevice ↦ ?_).length_le
    exact List.mem_filter.mpr ⟨hsubset hdevice, decide_eq_true (Or.inr hdevice)⟩
  | @reports device devices hhandler =>
    refine h.of_announced rfl rfl rfl (List.Sublist.refl _) fun other _ hannounced ↦ ?_
    rw [hhandler] at hannounced
    rcases hannounced with hfresh | hreported
    · exact Or.inl fun hmem ↦ hfresh (List.mem_of_mem_filter hmem)
    · rcases List.mem_cons.mp hreported with rfl | hlater
      · exact Or.inl fun hmem ↦ by simp at hmem
      · exact Or.inr hlater
  | ends hhandler =>
    have hreports : v.handler.reports = [] := by rw [hhandler]; rfl
    exact h.of_announced rfl rfl rfl (List.Sublist.refl _) fun _ _ hold ↦
      Or.inl (hnot hreports hold)

end CheckView

namespace USBMonitor

variable (deviceKey : ℕ → ℤ)

/-- `mDeviceCounts` is no more than the number of the devices that have been announced since they
were plugged in, unless the monitor has yet to hear of a device that was taken out. -/
def Counted (s : USBMonitor) : Prop := s.checkView.Counted

/-- A check does not write `mDeviceCounts` after a device it has listed was taken out and the
receiver of that has reset it. -/
def CountsInTime (s : USBMonitor) (event : UsbEvent) : Prop :=
  ∀ answer, event = .turn answer → s.checkView.InTime

/-- Only its own turns take the handler's thread on. -/
theorem handler_step_of_busy {s : USBMonitor} (hbusy : s.handler ≠ .idle) {event : UsbEvent}
    (hevent : ∀ answer, event ≠ .turn answer) : (s.step deviceKey event).handler = s.handler := by
  cases event with
  | turn answer => exact absurd rfl (hevent answer)
  | plug device | unplug device | allow device =>
    rw [step]
    split_ifs <;> rfl
  | register =>
    rw [step, register]
    split_ifs <;> rfl
  | unregister =>
    rw [step]
    split_ifs <;> rfl
  | permissionResult device granted =>
    rw [step]
    split_ifs <;> rfl
  | detach =>
    rw [step, detach]
    split <;> rfl
  | receive =>
    rw [step, receive]
    split
    · rfl
    · split_ifs <;> rfl
    all_goals rfl
  | check => rw [step, check, if_neg fun h ↦ hbusy h.1]
  | handle =>
    rw [step, handle]
    split
    · exact absurd ‹_› hbusy
    · rfl
  | clone block opens =>
    rw [step, clone]
    split
    · split_ifs <;> rfl
    · rfl
  | closeClone block =>
    rw [step, closeClone]
    split
    · split_ifs <;> rfl
    · rfl
  | unmap place =>
    rw [step, unmap]
    split <;> rfl

theorem inTime_of_step {s : USBMonitor} {event : UsbEvent} (h : s.CountsInTime event)
    (hlists : (s.step deviceKey event).handler.lists = none) : s.checkView.InTime := by
  by_cases hturn : ∃ answer, event = .turn answer
  · obtain ⟨answer, rfl⟩ := hturn
    exact h answer rfl
  · intro devices hhandler
    have hbusy : s.handler ≠ .idle := by
      rw [show s.handler = .compared devices true from hhandler]
      simp
    rw [handler_step_of_busy deviceKey hbusy fun answer h ↦ hturn ⟨answer, h⟩,
      show s.handler = .compared devices true from hhandler] at hlists
    simp [HandlerPhase.lists] at hlists

/-- What carries the count through a run. -/
def CountInv (s : USBMonitor) : Prop := s.checkView.Listing ∧ s.Counted

theorem countInv_constructed : constructed.CountInv :=
  ⟨.of_lists_none List.nodup_nil rfl, fun _ _ ↦ Nat.zero_le _⟩

theorem countInv_step {s : USBMonitor} {event : UsbEvent} (h : s.CountInv)
    (hintime : s.CountsInTime event) : (s.step deviceKey event).CountInv :=
  have hmove := s.move_step deviceKey event
  ⟨h.1.move hmove, h.2.move h.1 (inTime_of_step deviceKey hintime) hmove⟩

theorem countInv_run {events : List UsbEvent}
    (h : Meets (step deviceKey) CountsInTime constructed events) :
    (run (step deviceKey) constructed events).CountInv := by
  refine inv_run (fun s event (hs : s.CountInv) hintime ↦ ?_) countInv_constructed h
  exact countInv_step deviceKey hs hintime

/-- None of the devices is without an `onAttach`. -/
def AllAnnounced (s : USBMonitor) : Prop := ∀ device ∈ s.devices, device ∉ s.fresh

theorem turns_of_idle {s : USBMonitor} (hidle : s.handler = .idle) (turns : ℕ) :
    run (step deviceKey) s (List.replicate turns (.turn true)) = s := by
  induction turns with
  | zero => rfl
  | succ turns ih =>
    have hturn : s.step deviceKey (.turn true) = s := by rw [step, turn, hidle]
    rw [List.replicate_succ, run_cons, hturn, ih]

/-- The end of a check reports the devices that it has yet to report. -/
theorem allAnnounced_of_reporting {s : USBMonitor} {devices : List ℕ} {turns : ℕ}
    (hhandler : s.handler = .reporting devices) (hturns : devices.length < turns)
    (hothers : ∀ device ∈ s.devices, device ∉ s.fresh ∨ device ∈ devices) :
    (run (step deviceKey) s (List.replicate turns (.turn true))).AllAnnounced := by
  induction devices generalizing s turns with
  | nil =>
    obtain ⟨turns, rfl⟩ : ∃ less, turns = less + 1 := ⟨turns - 1, by omega⟩
    have hturn : s.step deviceKey (.turn true) =
        { s with checks := s.checks + 1, handler := .idle } := by rw [step, turn, hhandler]
    rw [List.replicate_succ, run_cons, hturn, turns_of_idle deviceKey rfl]
    exact fun device hdevice ↦ (hothers device hdevice).resolve_right List.not_mem_nil
  | cons reported devices ih =>
    obtain ⟨turns, rfl⟩ : ∃ less, turns = less + 1 := ⟨turns - 1, by omega⟩
    have hturn : s.step deviceKey (.turn true) =
        { s.post (.attach reported) with
          fresh := s.fresh.filter (· ≠ reported)
          handler := .reporting devices } := by rw [step, turn, hhandler]
    rw [List.replicate_succ, run_cons, hturn]
    rw [List.length_cons] at hturns
    refine ih rfl (by omega) fun device hdevice ↦ ?_
    rcases hothers device hdevice with hfresh | hlisted
    · exact Or.inl fun hmem ↦ hfresh (List.mem_of_mem_filter hmem)
    · rcases List.mem_cons.mp hlisted with rfl | hlater
      · exact Or.inl fun hmem ↦ by simp at hmem
      · exact Or.inr hlater

/-- Where the number of the devices that have been announced is that of all devices, all have. -/
theorem allAnnounced_of_length {s : USBMonitor} (hreports : s.handler.reports = [])
    (hlength : s.devices.length ≤ s.checkView.announced.length) : s.AllAnnounced := by
  have hfilter : s.checkView.announced = s.devices :=
    List.Sublist.eq_of_length_le List.filter_sublist hlength
  intro device hdevice
  rw [← hfilter] at hdevice
  have hannounced := of_decide_eq_true (List.mem_filter.mp hdevice).2
  exact hannounced.resolve_right (by rw [show s.checkView.handler.reports = [] from hreports]; simp)

/-- The comparison of a check: where the devices are not reported, there are no more of them than
`mDeviceCounts`. -/
theorem step_of_listed {s : USBMonitor} {devices : List ℕ}
    (hhandler : s.handler = .listed devices) :
    ∃ keys report,
      s.step deviceKey (.turn true) =
          { s with hasPermissions := keys, handler := .compared devices report } ∧
        (report = false → devices.length ≤ s.deviceCounts) := by
  refine ⟨_, _, by rw [step, turn, hhandler]; rfl, fun hreport ↦ ?_⟩
  have hneither := of_decide_eq_false hreport
  rw [not_or] at hneither
  exact Nat.not_lt.mp hneither.1

/-- A check during which nothing else happens leaves no device without an `onAttach`. -/
theorem check_announces_of_counted {s : USBMonitor} (h : s.Counted) (hregistered : s.registered)
    (hnone : ¬ s.Outstanding) (hidle : s.handler = .idle) (hchecks : 0 < s.checks) {turns : ℕ}
    (hturns : s.devices.length + 3 ≤ turns) :
    (run (step deviceKey) s (.check :: List.replicate turns (.turn true))).AllAnnounced := by
  obtain ⟨turns, rfl⟩ : ∃ less, turns = less + 2 := ⟨turns - 2, by omega⟩
  have hcheck : s.step deviceKey .check =
      { s with checks := s.checks - 1, handler := .listed s.devices } := by
    rw [step, check, if_pos ⟨hidle, hchecks⟩]
  obtain ⟨keys, report, hcompare, hcounts⟩ := step_of_listed deviceKey
    (s := { s with checks := s.checks - 1, handler := .listed s.devices }) rfl
  rw [run_cons, hcheck, List.replicate_succ, run_cons, hcompare, List.replicate_succ, run_cons]
  cases report with
  | true =>
    rw [step, turn]
    exact allAnnounced_of_reporting deviceKey rfl (by omega) fun device hdevice ↦ Or.inr hdevice
  | false =>
    have hreports : s.handler.reports = [] := by rw [hidle]; rfl
    have hall := allAnnounced_of_length hreports ((hcounts rfl).trans (h hregistered hnone))
    rw [step, turn]
    exact allAnnounced_of_reporting deviceKey rfl (by simp; omega)
      fun device hdevice ↦ Or.inl (hall device hdevice)

/-- After a run in which every check writes `mDeviceCounts` in time, a check during which nothing
else happens leaves no device without an `onAttach`, provided that the monitor has heard of all
devices that were taken out. -/
theorem check_announces {events : List UsbEvent}
    (h : Meets (step deviceKey) CountsInTime constructed events) {s : USBMonitor}
    (hs : run (step deviceKey) constructed events = s) (hregistered : s.registered)
    (hnone : ¬ s.Outstanding) (hidle : s.handler = .idle) (hchecks : 0 < s.checks) {turns : ℕ}
    (hturns : s.devices.length + 3 ≤ turns) :
    (run (step deviceKey) constructed
      (events ++ .check :: List.replicate turns (.turn true))).AllAnnounced := by
  have hcounted : s.Counted := by
    rw [← hs]
    exact (countInv_run deviceKey h).2
  rw [run_append, hs]
  exact check_announces_of_counted deviceKey hcounted hregistered hnone hidle hchecks hturns

/-- What a check has listed is still there. -/
theorem countsInTime_of_subset {s : USBMonitor} {event : UsbEvent}
    (h : ∀ devices ∈ s.handler.lists, devices ⊆ s.devices) : s.CountsInTime event := by
  intro answer _ devices (hhandler : s.handler = .compared devices true) _ _
  exact h devices (by rw [hhandler]; rfl)

/-- A camera is plugged in and announced, and another one takes its place. -/
def replaced : List UsbEvent :=
  [.plug 1, .register] ++ .check :: List.replicate 4 (.turn true) ++
    [.unplug 1, .plug 2, .detach, .receive, .receive]

theorem check_announces_replaced :
    (run (step fun device ↦ device) constructed
      (replaced ++ .check :: List.replicate 4 (.turn true))).AllAnnounced := by
  have hlisted : Meets (step fun device ↦ device)
      (fun s _ ↦ ∀ devices ∈ s.handler.lists, devices ⊆ s.devices) constructed replaced := by
    decide
  have hcounting : Meets (step fun device ↦ device) CountsInTime constructed replaced :=
    hlisted.mono fun _ _ ↦ countsInTime_of_subset
  have hnone : ¬ (run (step fun device ↦ device) constructed replaced).Outstanding :=
    fun h ↦ h.elim (fun hdetached ↦ hdetached rfl) id
  exact check_announces _ hcounting rfl rfl hnone rfl (by decide) (by decide)

end USBMonitor

/-! ### What is left when the monitor is unregistered -/

/-- The handler's thread is in a check. -/
@[simp] def HandlerPhase.runningChecks : HandlerPhase → ℕ
  | .listed _ | .compared _ _ | .reporting _ => 1
  | .idle | .attaching _ | .opening _ | .putting _ _ | .connecting _ _ _ => 0

/-- The handler's thread is in the `Runnable` of `processConnect`. -/
@[simp] def HandlerPhase.runningConnects : HandlerPhase → ℕ
  | .opening _ | .putting _ _ | .connecting _ _ _ => 1
  | .idle | .listed _ | .compared _ _ | .reporting _ | .attaching _ => 0

@[simp] def Posted.isConnect : Posted → Bool
  | .connect _ => true
  | .attach _ | .dettach _ | .cancel _ => false

@[simp] def Callback.isConnect : Callback → Bool
  | .onConnect _ _ _ => true
  | .onAttach _ | .onDettach _ | .onDisconnect _ _ | .onCancel _ => false

namespace USBMonitor

/-- The checks that go on: those that are posted, and one that is running. -/
def remainingChecks (s : USBMonitor) : ℕ := s.checks + s.handler.runningChecks

/-- The calls of `onConnect`, and those that are to come. -/
def connects (s : USBMonitor) : ℕ :=
  s.callbacks.countP Callback.isConnect + s.queue.countP Posted.isConnect +
    s.handler.runningConnects

/-- What does not change while the monitor is not registered. -/
def Leftover (checks connects : ℕ) (s : USBMonitor) : Prop :=
  s.registered = false ∧ s.remainingChecks = checks ∧ s.connects = connects

variable (deviceKey : ℕ → ℤ)

theorem leftover_turn {s : USBMonitor} {checks connects : ℕ} (h : s.Leftover checks connects)
    (answer : Bool) : (s.turn deviceKey answer).Leftover checks connects := by
  obtain ⟨hregistered, rfl, rfl⟩ := h
  rw [turn]
  split <;> rename_i hhandler
  case h_7 =>
    -- permissions are not requested any more
    rw [requestPermission, if_neg (by simp [hregistered])]
    exact ⟨hregistered, by simp [remainingChecks, processCancel, updatePermission, post, hhandler],
      by simp [USBMonitor.connects, processCancel, updatePermission, post, hhandler]⟩
  case h_10 =>
    exact ⟨hregistered, by simp [remainingChecks, call, hhandler], by
      simp [USBMonitor.connects, call, hhandler]
      omega⟩
  all_goals
    exact ⟨hregistered, by simp [remainingChecks, compare, post, hhandler],
      by simp [USBMonitor.connects, compare, post, hhandler]⟩

theorem leftover_handle {s : USBMonitor} {checks connects : ℕ} (h : s.Leftover checks connects) :
    s.handle.Leftover checks connects := by
  obtain ⟨hregistered, rfl, rfl⟩ := h
  rw [handle]
  split
  · rename_i message queue hhandler hqueue
    cases message with
    | attach device | dettach device | cancel device =>
      exact ⟨hregistered, by simp [remainingChecks, call, hhandler],
        by simp [USBMonitor.connects, call, hhandler, hqueue]⟩
    | connect device =>
      simp only
      split
      all_goals
        exact ⟨hregistered, by simp [remainingChecks, hhandler], by
          simp [USBMonitor.connects, hhandler, hqueue, List.countP_cons]
          omega⟩
  · exact ⟨hregistered, rfl, rfl⟩

theorem leftover_receive {s : USBMonitor} {checks connects : ℕ} (h : s.Leftover checks connects) :
    s.receive.Leftover checks connects := by
  obtain ⟨hregistered, rfl, rfl⟩ := h
  rw [receive]
  split
  case h_2 =>
    split_ifs
    · exact ⟨hregistered, rfl, by simp [USBMonitor.connects, disconnect, call]⟩
    · exact ⟨hregistered, rfl, rfl⟩
  case h_5 => exact ⟨hregistered, rfl, by simp [USBMonitor.connects, post]⟩
  all_goals exact ⟨hregistered, rfl, rfl⟩

theorem leftover_step {s : USBMonitor} {checks connects : ℕ} (h : s.Leftover checks connects)
    {event : UsbEvent} (hregister : event ≠ .register) (hunregister : event ≠ .unregister) :
    (s.step deviceKey event).Leftover checks connects := by
  cases event with
  | register => exact absurd rfl hregister
  | unregister => exact absurd rfl hunregister
  | turn answer => exact leftover_turn deviceKey h answer
  | handle => exact leftover_handle h
  | receive => exact leftover_receive h
  | plug device | unplug device | allow device =>
    rw [step]
    split_ifs <;> exact h
  | permissionResult device granted =>
    rw [step, if_neg (by simp [h.1])]
    exact h
  | detach =>
    rw [step, detach]
    split <;> exact h
  | check =>
    rw [step, check]
    split_ifs with hidle
    · obtain ⟨hregistered, rfl, rfl⟩ := h
      exact ⟨hregistered, by simp [remainingChecks, hidle.1]; omega,
        by simp [USBMonitor.connects, hidle.1]⟩
    · exact h
  | clone block opens =>
    rw [step, clone]
    split
    · split_ifs <;> exact h
    · exact h
  | closeClone block =>
    rw [step, closeClone]
    split
    · split_ifs
      · obtain ⟨hregistered, rfl, rfl⟩ := h
        exact ⟨hregistered, rfl, by simp [USBMonitor.connects, disconnect, call]⟩
      · exact h
    · exact h
  | unmap place =>
    rw [step, unmap]
    split <;> exact h

/-- From the moment the monitor is unregistered, and until it is registered again: the checks go on,
one at a time, exactly where one was running, and the service gets exactly the calls of `onConnect`
that were to come. -/
theorem after_unregister (s : USBMonitor) (hreceiver : s.receiver = .idle) {events : List UsbEvent}
    (hregister : .register ∉ events) (hunregister : .unregister ∉ events) :
    (run (step deviceKey) s (.unregister :: events)).remainingChecks = s.handler.runningChecks ∧
      (run (step deviceKey) s (.unregister :: events)).connects = s.connects := by
  have hfirst : (s.step deviceKey .unregister).Leftover s.handler.runningChecks s.connects := by
    rw [step, if_pos hreceiver]
    exact ⟨rfl, Nat.zero_add _, rfl⟩
  have hmeets : Meets (step deviceKey)
      (fun _ event ↦ event ≠ .register ∧ event ≠ .unregister) (s.step deviceKey .unregister)
      events := meets_of_mem fun event hevent ↦
    ⟨fun h ↦ hregister (h ▸ hevent), fun h ↦ hunregister (h ▸ hevent)⟩
  have hrun : (run (step deviceKey) (s.step deviceKey .unregister) events).Leftover
      s.handler.runningChecks s.connects :=
    inv_run (fun t event ht hevent ↦ leftover_step deviceKey ht hevent.1 hevent.2) hfirst hmeets
  exact hrun.2

/-- The service is about to get a camera that was permitted, and the handler's thread is in a check.
-/
def permittedInCheck : List UsbEvent :=
  [.plug 1, .allow 1, .register, .permissionResult 1 true, .check]

theorem after_unregister_in_check :
    (run (step fun device ↦ device) constructed
        (permittedInCheck ++ .unregister :: List.replicate 8 (.turn true) ++
          .handle :: List.replicate 3 (.turn true))).remainingChecks = 1 ∧
      (run (step fun device ↦ device) constructed
        (permittedInCheck ++ .unregister :: List.replicate 8 (.turn true) ++
          .handle :: List.replicate 3 (.turn true))).connects = 1 := by
  have h := @after_unregister (fun device ↦ device)
    (run (step fun device ↦ device) constructed permittedInCheck) rfl
    (List.replicate 8 (.turn true) ++ .handle :: List.replicate 3 (.turn true))
    (by decide) (by decide)
  rw [List.append_assoc, List.cons_append, run_append]
  exact h

end USBMonitor

end UvcRtmpStream.Camera
