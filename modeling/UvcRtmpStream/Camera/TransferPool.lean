import Mathlib.Data.Fintype.Basic
import Mathlib.Algebra.Order.BigOperators.Group.Finset
import UvcRtmpStream.Foundations.Runs

/-!
# The transfers of a stream, and its end

A stream keeps ten transfers going. When one completes, `_uvc_stream_callback` submits it again or
deletes it, on the event thread; `uvc_stream_stop` clears `running`, cancels the transfers and waits
until all are deleted; `uvc_stream_close` stops a running stream and frees the handle. The callback
reads `running` before it acts, so that a stop may come in between: the two halves of a callback are
steps of their own. So are the two reads of `running` on the way into a close, one by
`uvc_stream_close` and one by the `uvc_stream_stop` it calls, which does nothing where `running` has
been cleared in between.

Buffers are freed once, in any order of the steps (`buffers_freed_once`). A resubmission that
fails is not looked at, and its transfer never completes again: a stop whose transfers have all come
back returns if and only if there was none (`stop_returns_iff`). A close waits only where both reads
find `running` set, which a callback clears when the device is gone: the handle is never freed under
a transfer if and only if neither read comes in between (`handle_kept_iff`).
-/

set_option autoImplicit false
set_option relaxedAutoImplicit false

namespace UvcRtmpStream.Camera

open UvcRtmpStream.Foundations

/-- `LIBUVC_NUM_TRANSFER_BUFS`. -/
def libuvcNumTransferBufs : ℕ := 10

/-- The ways a transfer completes. -/
inductive TransferStatus
  | completed
  | noDevice
  | cancelled
  | error
  | timedOut
  | stall
  | overflow
  deriving DecidableEq

/-- Whether a transfer with this status may be submitted again. -/
def TransferStatus.resubmit : TransferStatus → Bool
  | .noDevice | .cancelled | .error => false
  | .completed | .timedOut | .stall | .overflow => true

/-- Where a transfer is: submitted; in its callback, which has decided; in `strmh->transfers` and
not submitted; or deleted. -/
inductive Slot
  | flying
  | deciding (submits : Bool)
  | idle
  | null
  deriving DecidableEq

/-- The callback of the transfer is running or will run. -/
def Slot.Outstanding : Slot → Prop
  | .flying | .deciding _ => True
  | .idle | .null => False

instance (slot : Slot) : Decidable slot.Outstanding := by
  cases slot <;> unfold Slot.Outstanding <;> infer_instance

/-- What the application's thread is doing: nothing, in `uvc_stream_close` and about to enter
`uvc_stream_stop`, waiting in `uvc_stream_stop`, on its own or for `uvc_stream_close`, or done with
the stream. -/
inductive AppPhase
  | free
  | closing
  | stopping (closes : Bool)
  | closed
  deriving DecidableEq

/-- `freed` lists the transfers whose buffer was freed; no code reads it. -/
structure TransferPool where
  running : Bool
  slots : Fin libuvcNumTransferBufs → Slot
  freed : List (Fin libuvcNumTransferBufs)
  app : AppPhase

/-- What `uvc_stream_start_bandwidth` leaves when the first `submitted` transfers were accepted: the
first one that is refused ends the loop and the stream. -/
def TransferPool.started (submitted : ℕ) : TransferPool where
  running := libuvcNumTransferBufs ≤ submitted
  slots := fun place ↦ if place.val < submitted then .flying else .idle
  freed := []
  app := .free

inductive PoolEvent
  | callback (place : Fin libuvcNumTransferBufs) (status : TransferStatus)
  | finish (place : Fin libuvcNumTransferBufs) (accepted : Bool)
  | stop
  | close
  | enter
  | wake
  deriving DecidableEq

/-- The step is one of the application's thread. -/
def PoolEvent.OfApp : PoolEvent → Prop
  | .callback _ _ | .finish _ _ => False
  | .stop | .close | .enter | .wake => True

instance : DecidablePred PoolEvent.OfApp
  | .callback _ _ | .finish _ _ => .isFalse id
  | .stop | .close | .enter | .wake => .isTrue trivial

/-- No callback sees the device gone. -/
def PoolEvent.DeviceStays : PoolEvent → Prop
  | .callback _ status => status ≠ .noDevice
  | _ => True

namespace TransferPool

def put (s : TransferPool) (place : Fin libuvcNumTransferBufs) (slot : Slot) : TransferPool :=
  { s with slots := Function.update s.slots place slot }

/-- The first half of `_uvc_stream_callback`. -/
def uvcStreamCallback (s : TransferPool) (place : Fin libuvcNumTransferBufs)
    (status : TransferStatus) : TransferPool :=
  let s := if status = .noDevice then { s with running := false } else s
  s.put place (.deciding (s.running && status.resubmit))

/-- `_uvc_delete_transfer`. -/
def uvcDeleteTransfer (s : TransferPool) (place : Fin libuvcNumTransferBufs) : TransferPool :=
  { s.put place .null with freed := s.freed ++ [place] }

/-- The loop of `uvc_stream_stop` is left when every transfer is deleted. -/
def AllNull (s : TransferPool) : Prop := ∀ place, s.slots place = .null

instance (s : TransferPool) : Decidable s.AllNull := inferInstanceAs (Decidable (∀ _, _))

def NoneOutstanding (s : TransferPool) : Prop := ∀ place, ¬ (s.slots place).Outstanding

instance (s : TransferPool) : Decidable s.NoneOutstanding := inferInstanceAs (Decidable (∀ _, _))

/-- One step of the event thread or of the application. A step that is not possible changes
nothing; `.enter` is the `uvc_stream_stop` that `uvc_stream_close` calls. -/
def step (s : TransferPool) : PoolEvent → TransferPool
  | .callback place status =>
    if s.slots place = .flying then s.uvcStreamCallback place status else s
  | .finish place accepted =>
    match s.slots place with
    | .deciding true => s.put place (if accepted then .flying else .idle)
    | .deciding false => s.uvcDeleteTransfer place
    | _ => s
  | .stop =>
    if s.app = .free ∧ s.running = true then { s with running := false, app := .stopping false }
    else s
  | .close =>
    if s.app = .free then { s with app := if s.running then .closing else .closed } else s
  | .enter =>
    if s.app ≠ .closing then s
    else if s.running then { s with running := false, app := .stopping true }
    else { s with app := .closed }
  | .wake =>
    match s.app with
    | .stopping closes =>
      if s.AllNull then { s with app := if closes then .closed else .free } else s
    | _ => s

/-! ### What a step does to the transfers -/

@[simp] theorem slots_put (s : TransferPool) (place other : Fin libuvcNumTransferBufs)
    (slot : Slot) : (s.put place slot).slots other =
      if other = place then slot else s.slots other := by
  by_cases h : other = place
  · subst h
    simp [put]
  · simp [put, h]

/-- The steps of the application leave the transfers alone. -/
theorem slots_app (s : TransferPool) {event : PoolEvent} (h : event.OfApp) :
    (s.step event).slots = s.slots ∧ (s.step event).freed = s.freed := by
  cases event with
  | callback | finish => exact h.elim
  | stop | close | enter =>
    simp only [step]
    split_ifs <;> exact ⟨rfl, rfl⟩
  | wake =>
    simp only [step]
    split
    · split_ifs <;> exact ⟨rfl, rfl⟩
    · exact ⟨rfl, rfl⟩

/-- The steps of the event thread: nothing, a callback that decides, a resubmission, or a
deletion. -/
theorem step_transfer_cases (s : TransferPool) (event : PoolEvent) (h : ¬ event.OfApp) :
    s.step event = s ∨
      (∃ place status, event = .callback place status ∧ s.slots place = .flying ∧
        s.step event = s.uvcStreamCallback place status) ∨
      (∃ place accepted, event = .finish place accepted ∧ s.slots place = .deciding true ∧
        s.step event = s.put place (if accepted then .flying else .idle)) ∨
      ∃ place accepted, event = .finish place accepted ∧ s.slots place = .deciding false ∧
        s.step event = s.uvcDeleteTransfer place := by
  cases event with
  | callback place status =>
    by_cases hflying : s.slots place = .flying
    · exact Or.inr (Or.inl ⟨place, status, rfl, hflying, if_pos hflying⟩)
    · exact Or.inl (if_neg hflying)
  | finish place accepted =>
    cases hslot : s.slots place with
    | flying => exact Or.inl (by simp [step, hslot])
    | idle => exact Or.inl (by simp [step, hslot])
    | null => exact Or.inl (by simp [step, hslot])
    | deciding submits =>
      cases submits with
      | true =>
        exact Or.inr (Or.inr (Or.inl ⟨place, accepted, rfl, hslot, by simp [step, hslot]⟩))
      | false =>
        exact Or.inr (Or.inr (Or.inr ⟨place, accepted, rfl, hslot, by simp [step, hslot]⟩))
  | stop | close | enter | wake => exact absurd trivial h

@[simp] theorem slots_uvcStreamCallback (s : TransferPool) (place : Fin libuvcNumTransferBufs)
    (status : TransferStatus) (other : Fin libuvcNumTransferBufs) :
    (s.uvcStreamCallback place status).slots other =
      if other = place then .deciding (s.running && status.resubmit) else s.slots other := by
  unfold uvcStreamCallback
  by_cases hgone : status = .noDevice
  · simp [hgone, TransferStatus.resubmit]
  · simp [hgone]

@[simp] theorem freed_uvcStreamCallback (s : TransferPool) (place : Fin libuvcNumTransferBufs)
    (status : TransferStatus) : (s.uvcStreamCallback place status).freed = s.freed := by
  unfold uvcStreamCallback
  by_cases hgone : status = .noDevice <;> simp [hgone, put]

@[simp] theorem slots_uvcDeleteTransfer (s : TransferPool)
    (place other : Fin libuvcNumTransferBufs) :
    (s.uvcDeleteTransfer place).slots other = if other = place then .null else s.slots other := by
  simp [uvcDeleteTransfer]

/-! ### The buffers -/

/-- The deleted transfers are those whose buffer was freed, each once. -/
def Accounted (s : TransferPool) : Prop :=
  s.freed.Nodup ∧ ∀ place, place ∈ s.freed ↔ s.slots place = .null

theorem accounted_started (submitted : ℕ) : (started submitted).Accounted := by
  refine ⟨List.nodup_nil, fun place ↦ ?_⟩
  simp only [started, List.not_mem_nil, false_iff]
  split_ifs <;> simp

theorem accounted_step {s : TransferPool} (h : s.Accounted) (event : PoolEvent) :
    (s.step event).Accounted := by
  by_cases happ : event.OfApp
  · obtain ⟨hslots, hfreed⟩ := s.slots_app happ
    unfold Accounted
    rwa [hslots, hfreed]
  · rcases s.step_transfer_cases event happ with
      hsame | ⟨place, status, -, hslot, hstep⟩ | ⟨place, accepted, -, hslot, hstep⟩ |
        ⟨place, accepted, -, hslot, hstep⟩
    · rwa [hsame]
    · rw [hstep]
      refine ⟨by simpa using h.1, fun other ↦ ?_⟩
      by_cases hother : other = place
      · subst hother
        simp [h.2, hslot]
      · simp [hother, h.2]
    · rw [hstep]
      refine ⟨h.1, fun other ↦ ?_⟩
      by_cases hother : other = place
      · subst hother
        have hnull : other ∉ s.freed := fun hmem ↦ by simp [(h.2 other).mp hmem] at hslot
        cases accepted <;> simpa [put] using hnull
      · simpa [put, hother] using h.2 other
    · rw [hstep]
      have hfresh : place ∉ s.freed := fun hmem ↦ by simp [(h.2 place).mp hmem] at hslot
      refine ⟨?_, fun other ↦ ?_⟩
      · exact List.nodup_append.mpr ⟨h.1, List.nodup_singleton _, by
          rintro _ hold _ hnew rfl
          exact hfresh (List.mem_singleton.mp hnew ▸ hold)⟩
      · by_cases hother : other = place <;> simp [uvcDeleteTransfer, hother, h.2]

/-! ### The end of the wait -/

/-- The resubmission is accepted, if the step is one. -/
def Accepted (s : TransferPool) (event : PoolEvent) : Prop :=
  ∀ place, event = .finish place false → s.slots place ≠ .deciding true

instance (s : TransferPool) (event : PoolEvent) : Decidable (s.Accepted event) :=
  inferInstanceAs (Decidable (∀ _, _ → _))

/-- The step is one of the event thread, and possible. -/
def Effective (s : TransferPool) (event : PoolEvent) : Prop := (s.step event).slots ≠ s.slots

instance (s : TransferPool) (event : PoolEvent) : Decidable (s.Effective event) :=
  inferInstanceAs (Decidable (_ ≠ _))

/-- No transfer is left over by a resubmission that failed. -/
def NoneIdle (s : TransferPool) : Prop := ∀ place, s.slots place ≠ .idle

/-- A transfer is left over exactly by a resubmission that is refused. -/
theorem noneIdle_step_iff (s : TransferPool) (event : PoolEvent) :
    (s.step event).NoneIdle ↔ s.NoneIdle ∧ s.Accepted event := by
  by_cases happ : event.OfApp
  · have haccepted : s.Accepted event := by
      rintro place rfl
      exact happ.elim
    unfold NoneIdle
    rw [(s.slots_app happ).1]
    exact ⟨fun h ↦ ⟨h, haccepted⟩, fun h ↦ h.1⟩
  · rcases s.step_transfer_cases event happ with
      hsame | ⟨place, status, rfl, hslot, hstep⟩ | ⟨place, accepted, rfl, hslot, hstep⟩ |
        ⟨place, accepted, rfl, hslot, hstep⟩
    · rw [hsame]
      refine ⟨fun h ↦ ⟨h, ?_⟩, fun h ↦ h.1⟩
      rintro place rfl hslot
      have hidle := congrFun (congrArg slots hsame) place
      simp [step, hslot] at hidle
    · rw [hstep]
      refine ⟨fun h ↦ ⟨fun other hidle ↦ ?_, by simp [Accepted]⟩, fun h other ↦ ?_⟩
      · have hkept := h other
        rw [slots_uvcStreamCallback] at hkept
        by_cases hother : other = place
        · subst hother
          simp [hslot] at hidle
        · rw [if_neg hother] at hkept
          exact hkept hidle
      · rw [slots_uvcStreamCallback]
        split_ifs with hother
        · simp
        · exact h.1 other
    · rw [hstep]
      constructor
      · intro h
        refine ⟨fun other hidle ↦ ?_, ?_⟩
        · have hkept := h other
          rw [slots_put] at hkept
          by_cases hother : other = place
          · subst hother
            simp [hslot] at hidle
          · rw [if_neg hother] at hkept
            exact hkept hidle
        · intro other hevent
          obtain ⟨rfl, rfl⟩ := PoolEvent.finish.inj hevent
          exact absurd (h place) (by simp)
      · rintro ⟨h, haccepted⟩ other
        rw [slots_put]
        split_ifs with hother haccept
        · simp
        · exact absurd hslot (haccepted place (by simp [Bool.eq_false_iff.mpr haccept]))
        · exact h other
    · rw [hstep]
      constructor
      · intro h
        refine ⟨fun other hidle ↦ ?_, ?_⟩
        · have hkept := h other
          rw [slots_uvcDeleteTransfer] at hkept
          by_cases hother : other = place
          · subst hother
            simp [hslot] at hidle
          · rw [if_neg hother] at hkept
            exact hkept hidle
        · intro other hevent
          obtain ⟨rfl, -⟩ := PoolEvent.finish.inj hevent
          simp [hslot]
      · rintro ⟨h, -⟩ other
        rw [slots_uvcDeleteTransfer]
        split_ifs with hother
        · simp
        · exact h other

/-- How many steps the event thread still has to do for a transfer, once the stream is stopped. -/
def Slot.cost : Slot → ℕ
  | .deciding true => 3
  | .flying => 2
  | .deciding false => 1
  | .idle | .null => 0

/-- How many steps the event thread still has to do. -/
def cost (s : TransferPool) : ℕ := ∑ place, Slot.cost (s.slots place)

theorem cost_le (s : TransferPool) : s.cost ≤ 30 := by
  have hslot : ∀ place ∈ Finset.univ, Slot.cost (s.slots place) ≤ 3 := by
    intro place _
    cases s.slots place with
    | deciding submits => cases submits <;> simp [Slot.cost]
    | flying => simp [Slot.cost]
    | idle => simp [Slot.cost]
    | null => simp [Slot.cost]
  have hsum := Finset.sum_le_card_nsmul Finset.univ _ 3 hslot
  rw [Finset.card_univ, Fintype.card_fin] at hsum
  exact hsum

/-- One transfer that comes closer to its end. -/
theorem cost_lt {s t : TransferPool} (place : Fin libuvcNumTransferBufs)
    (hless : Slot.cost (t.slots place) < Slot.cost (s.slots place))
    (hothers : ∀ other, other ≠ place → t.slots other = s.slots other) : t.cost < s.cost := by
  refine Finset.sum_lt_sum (fun other _ ↦ ?_) ⟨place, Finset.mem_univ _, hless⟩
  by_cases hother : other = place
  · subst hother
    exact Nat.le_of_lt hless
  · rw [hothers other hother]

/-- Once the stream is stopped, every step of the event thread brings the end closer. -/
theorem cost_step_lt {s : TransferPool} (hstopped : s.running = false) {event : PoolEvent}
    (heffective : s.Effective event) :
    (s.step event).cost < s.cost ∧ (s.step event).running = false := by
  have happ : ¬ event.OfApp := fun happ ↦ heffective (s.slots_app happ).1
  rcases s.step_transfer_cases event happ with
    hsame | ⟨place, status, -, hslot, hstep⟩ | ⟨place, accepted, -, hslot, hstep⟩ |
      ⟨place, accepted, -, hslot, hstep⟩
  · exact absurd (congrArg slots hsame) heffective
  · rw [hstep]
    refine ⟨cost_lt place ?_ (fun other hother ↦ by simp [hother]), ?_⟩
    · simp [hslot, hstopped, Slot.cost]
    · unfold uvcStreamCallback
      split_ifs <;> simp [put, hstopped]
  · rw [hstep]
    refine ⟨cost_lt place ?_ (fun other hother ↦ by simp [hother]), hstopped⟩
    cases accepted <;> simp [hslot, Slot.cost]
  · rw [hstep]
    refine ⟨cost_lt place ?_ (fun other hother ↦ by simp [hother]), hstopped⟩
    simp [hslot, Slot.cost]

/-- The event thread does at most `cost` steps more. -/
theorem length_le_cost {s : TransferPool} (hstopped : s.running = false) {later : List PoolEvent}
    (h : Meets step Effective s later) : later.length ≤ s.cost := by
  induction later generalizing s with
  | nil => exact Nat.zero_le _
  | cons event later ih =>
    obtain ⟨hless, hrunning⟩ := cost_step_lt hstopped h.1
    have hrest := ih hrunning h.2
    rw [List.length_cons]
    omega

/-- No step sets `running` again. -/
theorem running_of_step {s : TransferPool} {event : PoolEvent}
    (h : (s.step event).running = true) : s.running = true := by
  cases hrunning : s.running with
  | true => rfl
  | false =>
    by_cases happ : event.OfApp
    · cases event with
      | callback | finish => exact happ.elim
      | stop => simp [step, hrunning] at h
      | close | enter =>
        simp only [step] at h
        split_ifs at h <;> exact absurd h (by simp [hrunning])
      | wake =>
        simp only [step] at h
        split at h
        · split_ifs at h <;> exact absurd h (by simp [hrunning])
        · exact absurd h (by simp [hrunning])
    · rcases s.step_transfer_cases event happ with
        hsame | ⟨place, status, -, -, hstep⟩ | ⟨place, accepted, -, -, hstep⟩ |
          ⟨place, accepted, -, -, hstep⟩
      · rw [hsame, hrunning] at h
        exact absurd h Bool.noConfusion
      · rw [hstep] at h
        unfold uvcStreamCallback at h
        split_ifs at h <;> exact absurd h (by simp [put, hrunning])
      · rw [hstep] at h
        exact absurd h (by simp [put, hrunning])
      · rw [hstep] at h
        exact absurd h (by simp [uvcDeleteTransfer, put, hrunning])

/-- The event thread leaves the application's thread where it is. -/
theorem app_step {s : TransferPool} {event : PoolEvent} (h : ¬ event.OfApp) :
    (s.step event).app = s.app := by
  rcases s.step_transfer_cases event h with
    hsame | ⟨place, status, -, -, hstep⟩ | ⟨place, accepted, -, -, hstep⟩ |
      ⟨place, accepted, -, -, hstep⟩
  · rw [hsame]
  · rw [hstep]
    unfold uvcStreamCallback
    split_ifs <;> rfl
  · rw [hstep]
    rfl
  · rw [hstep]
    rfl

/-- The wait of `uvc_stream_stop` ends when every transfer is deleted. -/
theorem step_wake_of_stopping {s : TransferPool} {closes : Bool} (h : s.app = .stopping closes) :
    s.step .wake =
      if s.AllNull then { s with app := if closes then .closed else .free } else s := by
  simp only [step, h]

theorem step_wake_of_not_stopping {s : TransferPool} (h : ∀ closes, s.app ≠ .stopping closes) :
    s.step .wake = s := by
  cases happ : s.app with
  | stopping closes => exact absurd happ (h closes)
  | free | closing | closed => simp [step, happ]

/-- A thread that waits has cleared `running`. -/
def WaitsStopped (s : TransferPool) : Prop := ∀ closes, s.app = .stopping closes → s.running = false

theorem waitsStopped_step {s : TransferPool} (h : s.WaitsStopped) (event : PoolEvent) :
    (s.step event).WaitsStopped := by
  intro closes hstopping
  by_cases happ : event.OfApp
  · cases event with
    | callback | finish => exact happ.elim
    | stop | enter =>
      simp only [step] at hstopping ⊢
      split_ifs at hstopping ⊢
      all_goals first | rfl | exact h closes hstopping
    | close =>
      simp only [step] at hstopping ⊢
      split_ifs at hstopping ⊢
      exact h closes hstopping
    | wake =>
      by_cases hwaits : ∃ closes, s.app = .stopping closes
      · obtain ⟨closing, hclosing⟩ := hwaits
        have hstopped := h closing hclosing
        exact Bool.eq_false_iff.mpr fun hrunning ↦
          Bool.false_ne_true (hstopped.symm.trans (running_of_step hrunning))
      · rw [step_wake_of_not_stopping fun closing hclosing ↦ hwaits ⟨closing, hclosing⟩]
          at hstopping
        exact absurd ⟨closes, hstopping⟩ hwaits
  · rw [app_step happ] at hstopping
    have hstopped := h closes hstopping
    exact Bool.eq_false_iff.mpr fun hrunning ↦
      Bool.false_ne_true (hstopped.symm.trans (running_of_step hrunning))

/-- A transfer that is not outstanding is deleted, or left over. -/
theorem allNull_iff {s : TransferPool} (h : s.NoneOutstanding) : s.AllNull ↔ s.NoneIdle := by
  refine ⟨fun hnull place hidle ↦ by simp [hnull place] at hidle, fun hidle place ↦ ?_⟩
  have hplace := h place
  cases hslot : s.slots place with
  | flying => simp [hslot, Slot.Outstanding] at hplace
  | deciding submits => simp [hslot, Slot.Outstanding] at hplace
  | idle => exact absurd hslot (hidle place)
  | null => rfl

/-- While a transfer is outstanding, the event thread has something to do. -/
theorem exists_effective {s : TransferPool} {place : Fin libuvcNumTransferBufs}
    (h : (s.slots place).Outstanding) : ∃ event, s.Effective event := by
  cases hslot : s.slots place with
  | flying =>
    refine ⟨.callback place .cancelled, fun hsame ↦ ?_⟩
    have hplace := congrFun hsame place
    simp [step, hslot] at hplace
  | deciding submits =>
    refine ⟨.finish place true, fun hsame ↦ ?_⟩
    have hplace := congrFun hsame place
    cases submits <;> simp [step, hslot] at hplace
  | idle => simp [hslot, Slot.Outstanding] at h
  | null => simp [hslot, Slot.Outstanding] at h

/-- A wait in `uvc_stream_stop`, at any point of any run: the event thread does at most 30 steps
more, and has one to do as long as a transfer is outstanding. When none is, the wait ends if and
only if every resubmission up to there was accepted. -/
theorem stop_returns_iff (events : List PoolEvent) {closes : Bool}
    (hstopping : (run step (started libuvcNumTransferBufs) events).app = .stopping closes) :
    let s := run step (started libuvcNumTransferBufs) events
    (∀ later, Meets step Effective s later → later.length ≤ 30) ∧
      (¬ s.NoneOutstanding → ∃ event, s.Effective event) ∧
        (s.NoneOutstanding →
          ((s.step .wake).app ≠ .stopping closes ↔
            Meets step Accepted (started libuvcNumTransferBufs) events)) := by
  intro s
  have hany : Meets step (fun _ _ ↦ True) (started libuvcNumTransferBufs) events :=
    meets_of_forall fun _ _ ↦ trivial
  have hwaits : s.WaitsStopped := by
    refine inv_run (fun _ event hinv _ ↦ waitsStopped_step hinv event) ?_ hany
    intro _ happ
    exact AppPhase.noConfusion happ
  have hidle : s.NoneIdle ↔ Meets step Accepted (started libuvcNumTransferBufs) events := by
    have hiff : s.NoneIdle ↔ (started libuvcNumTransferBufs).NoneIdle ∧
        Meets step Accepted (started libuvcNumTransferBufs) events :=
      property_run_iff (fun _ _ (_ : True) ↦ trivial)
        (fun s event _ ↦ noneIdle_step_iff s event) trivial
    refine hiff.trans (and_iff_right fun place ↦ ?_)
    simp [started]
  refine ⟨fun later hlater ↦ ?_, fun hout ↦ ?_, fun hnone ↦ ?_⟩
  · exact Nat.le_trans (length_le_cost (hwaits closes hstopping) hlater) (cost_le s)
  · obtain ⟨place, hplace⟩ := not_forall_not.mp hout
    exact exists_effective hplace
  · rw [← hidle, ← allNull_iff hnone, step_wake_of_stopping hstopping]
    by_cases hnull : s.AllNull
    · rw [if_pos hnull]
      cases closes <;> simp [hnull]
    · rw [if_neg hnull]
      simp [hnull, hstopping, s]

/-- In every order of the steps, a buffer is freed at most once, and only when its transfer is
deleted, so never while it is submitted. When a wait in `uvc_stream_stop` ends, every buffer has
been freed. -/
theorem buffers_freed_once (submitted : ℕ) (events : List PoolEvent) :
    let s := run step (started submitted) events
    s.freed.Nodup ∧ (∀ place, place ∈ s.freed ↔ s.slots place = .null) ∧
      ∀ closes, s.app = .stopping closes → (s.step .wake).app ≠ .stopping closes →
        s.freed.Perm (List.finRange libuvcNumTransferBufs) := by
  intro s
  have hany : Meets step (fun _ _ ↦ True) (started submitted) events :=
    meets_of_forall fun _ _ ↦ trivial
  have haccounted : s.Accounted :=
    inv_run (fun _ event hinv _ ↦ accounted_step hinv event) (accounted_started submitted) hany
  refine ⟨haccounted.1, haccounted.2, fun closes hstopping hended ↦ ?_⟩
  rw [step_wake_of_stopping hstopping] at hended
  have hnull : s.AllNull := by
    by_contra hnot
    rw [if_neg hnot] at hended
    exact hended hstopping
  refine (List.perm_ext_iff_of_nodup haccounted.1 (List.nodup_finRange _)).mpr fun place ↦ ?_
  exact iff_of_true ((haccounted.2 place).mpr (hnull place)) (List.mem_finRange place)

/-- A stop whose transfers all come back as cancelled. -/
theorem stop_returns_iff_cancelled :
    let events := .stop :: (List.finRange 10).flatMap fun place ↦
      [.callback place .cancelled, .finish place true]
    (run step (started libuvcNumTransferBufs) events).NoneOutstanding →
      (((run step (started libuvcNumTransferBufs) events).step .wake).app ≠ .stopping false ↔
        Meets step Accepted (started libuvcNumTransferBufs) events) :=
  (stop_returns_iff _ (by decide)).2.2

/-! ### The handle -/

/-- A freed handle has no transfer whose callback could still use it. -/
def HandleKept (s : TransferPool) : Prop := s.app = .closed → s.NoneOutstanding

/-- The step reads `running` on the way into a close. -/
def ReadsToClose (s : TransferPool) : PoolEvent → Prop
  | .close => s.app = .free
  | .enter => s.app = .closing
  | _ => False

instance (s : TransferPool) (event : PoolEvent) : Decidable (s.ReadsToClose event) := by
  cases event <;> unfold ReadsToClose <;> infer_instance

/-- Neither read of `running` on the way into a close comes between the end of the device and the
end of the transfers. -/
def ClosesSafely (s : TransferPool) (event : PoolEvent) : Prop :=
  s.ReadsToClose event → s.running = true ∨ s.NoneOutstanding

instance (s : TransferPool) (event : PoolEvent) : Decidable (s.ClosesSafely event) :=
  inferInstanceAs (Decidable (_ → _ ∨ _))

/-- A read that finds `running` cleared ends in a freed handle. -/
theorem app_step_of_readsToClose {s : TransferPool} {event : PoolEvent} (h : s.ReadsToClose event)
    (hrunning : s.running = false) : (s.step event).app = .closed ∧ event.OfApp := by
  cases event with
  | close =>
    have hfree : s.app = .free := h
    exact ⟨by simp [step, hfree, hrunning], trivial⟩
  | enter =>
    have hclosing : s.app = .closing := h
    exact ⟨by simp [step, hclosing, hrunning], trivial⟩
  | callback | finish | stop | wake => exact h.elim

/-- Where no transfer is outstanding, the event thread has nothing to do. -/
theorem step_of_noneOutstanding {s : TransferPool} (h : s.NoneOutstanding) {event : PoolEvent}
    (hevent : ¬ event.OfApp) : s.step event = s := by
  have hslot : ∀ place slot, s.slots place = slot → slot.Outstanding → False := by
    rintro place slot rfl hout
    exact h place hout
  rcases s.step_transfer_cases event hevent with
    hsame | ⟨place, status, -, hplace, -⟩ | ⟨place, accepted, -, hplace, -⟩ |
      ⟨place, accepted, -, hplace, -⟩
  · exact hsame
  · exact (hslot _ _ hplace trivial).elim
  · exact (hslot _ _ hplace trivial).elim
  · exact (hslot _ _ hplace trivial).elim

theorem noneOutstanding_of_allNull {s : TransferPool} (h : s.AllNull) : s.NoneOutstanding := by
  intro place
  rw [h place]
  exact not_false

theorem handleKept_step {s : TransferPool} (h : s.HandleKept) {event : PoolEvent}
    (hsafe : s.ClosesSafely event) : (s.step event).HandleKept := by
  intro hclosed
  by_cases happ : event.OfApp
  · unfold NoneOutstanding
    rw [(s.slots_app happ).1]
    cases event with
    | callback | finish => exact happ.elim
    | stop =>
      simp only [step] at hclosed
      split_ifs at hclosed
      exact h hclosed
    | close =>
      simp only [step] at hclosed
      split_ifs at hclosed with hfree hrunning
      · exact (hsafe hfree).resolve_left hrunning
      · exact h hclosed
    | enter =>
      simp only [step] at hclosed
      split_ifs at hclosed with hbusy hrunning
      · exact h hclosed
      · exact (hsafe (not_not.mp hbusy)).resolve_left hrunning
    | wake =>
      by_cases hwaits : ∃ closes, s.app = .stopping closes
      · obtain ⟨closes, hstopping⟩ := hwaits
        rw [step_wake_of_stopping hstopping] at hclosed
        split_ifs at hclosed with hnull
        · exact noneOutstanding_of_allNull hnull
        · exact h hclosed
      · rw [step_wake_of_not_stopping fun closes hstopping ↦ hwaits ⟨closes, hstopping⟩] at hclosed
        exact h hclosed
  · have hnone := h (by rwa [app_step happ] at hclosed)
    rwa [step_of_noneOutstanding hnone happ]

theorem not_handleKept_step {s : TransferPool} {event : PoolEvent} (h : ¬ s.ClosesSafely event) :
    ¬ (s.step event).HandleKept := by
  unfold ClosesSafely at h
  push Not at h
  obtain ⟨hreads, hrunning, hout⟩ := h
  obtain ⟨hclosed, happ⟩ := app_step_of_readsToClose hreads (Bool.eq_false_iff.mpr hrunning)
  intro hkept
  apply hout
  unfold NoneOutstanding
  rw [← (s.slots_app happ).1]
  exact hkept hclosed

/-- A thread that does not wait, after the stream ended without the device being gone, left nothing
behind. -/
def EndsClean (s : TransferPool) : Prop :=
  s.app = .free ∨ s.app = .closing → s.running = false → s.AllNull

theorem endsClean_step {s : TransferPool} (h : s.EndsClean) {event : PoolEvent}
    (hstays : event.DeviceStays) : (s.step event).EndsClean := by
  intro hfree hstopped
  by_cases happ : event.OfApp
  · unfold AllNull
    rw [(s.slots_app happ).1]
    cases event with
    | callback | finish => exact happ.elim
    | stop =>
      simp only [step] at hfree hstopped
      split_ifs at hfree hstopped
      · simp at hfree
      · exact h hfree hstopped
    | close =>
      simp only [step] at hfree hstopped
      split_ifs at hfree hstopped with hbefore hrunning
      · exact absurd hstopped (by simp [hrunning])
      · simp at hfree
      · exact h hfree hstopped
    | enter =>
      simp only [step] at hfree hstopped
      split_ifs at hfree hstopped
      · exact h hfree hstopped
      · simp at hfree
      · simp at hfree
    | wake =>
      by_cases hwaits : ∃ closes, s.app = .stopping closes
      · obtain ⟨closes, hstopping⟩ := hwaits
        rw [step_wake_of_stopping hstopping] at hfree
        split_ifs at hfree with hnull hcloses
        · exact hnull
        · exact hnull
        · exact absurd hfree (by simp [hstopping])
      · rw [step_wake_of_not_stopping fun closes hstopping ↦ hwaits ⟨closes, hstopping⟩]
          at hfree hstopped
        exact h hfree hstopped
  · have hfree' : s.app = .free ∨ s.app = .closing := by rwa [app_step happ] at hfree
    have hstopped' : s.running = false := by
      rcases s.step_transfer_cases event happ with
        hsame | ⟨place, status, rfl, -, hstep⟩ | ⟨place, accepted, rfl, -, hstep⟩ |
          ⟨place, accepted, rfl, -, hstep⟩
      · rwa [hsame] at hstopped
      · have hkeeps : status ≠ .noDevice := hstays
        rw [hstep] at hstopped
        simpa [uvcStreamCallback, hkeeps, put] using hstopped
      · rw [hstep] at hstopped
        exact hstopped
      · rw [hstep] at hstopped
        exact hstopped
    have hnull := h hfree' hstopped'
    rwa [step_of_noneOutstanding (noneOutstanding_of_allNull hnull) happ]

/-- The handle is never freed while a callback could still use it, if and only if neither read of
`running` on the way into a close comes between the end of `running` and the end of the transfers.
In a run whose transfers were all accepted, and in which no callback sees the device gone, neither
does. -/
theorem handle_kept_iff (submitted : ℕ) (events : List PoolEvent) :
    (Throughout step HandleKept (started submitted) events ↔
        Meets step ClosesSafely (started submitted) events) ∧
      (libuvcNumTransferBufs ≤ submitted → (∀ event ∈ events, event.DeviceStays) →
        Meets step ClosesSafely (started submitted) events) := by
  constructor
  · have hany : Meets step (fun _ _ ↦ True) (started submitted) events :=
      meets_of_forall fun _ _ ↦ trivial
    refine throughout_iff_meets (fun _ h ↦ h) (fun _ _ hkept _ hsafe ↦ handleKept_step hkept hsafe)
      (fun _ _ _ _ hunsafe ↦ not_handleKept_step hunsafe) ?_ hany
    exact fun hclosed ↦ AppPhase.noConfusion hclosed
  · intro hall hstays
    have hstart : (started submitted).EndsClean := by
      intro _ hstopped
      simp [started, hall] at hstopped
    have hstep : ∀ (s : TransferPool) (event : PoolEvent), s.EndsClean → event.DeviceStays →
        (s.step event).EndsClean := fun _ _ hclean hevent ↦ endsClean_step hclean hevent
    have hgives : ∀ (s : TransferPool) (event : PoolEvent), s.EndsClean → event.DeviceStays →
        s.ClosesSafely event := by
      intro s event hclean _ hreads
      cases hrunning : s.running with
      | true => exact Or.inl rfl
      | false =>
        have hfree : s.app = .free ∨ s.app = .closing := by
          cases event with
          | close => exact Or.inl hreads
          | enter => exact Or.inr hreads
          | callback | finish | stop | wake => exact hreads.elim
        exact Or.inr (noneOutstanding_of_allNull (hclean hfree hrunning))
    exact meets_of_inv hstep hgives hstart (meets_of_mem hstays)

end TransferPool

end UvcRtmpStream.Camera
