import UvcRtmpStream.Camera.UsbMonitor

/-!
# Who closes the connections of the USB monitor

The monitor opens a connection for each control block it makes, and keeps the block in
`mCtrlBlocks`, from where the receiver takes it to close it when the device is detached. A camera
does not use the block but a clone of it, with a connection of its own. The end of `close` removes
the device from the map, whatever block is there: also where a clone is closed, whose device is
still plugged in, and the block in the map is the one it was cloned from.

`connections_kept_iff` says that this is the one way in which the monitor loses a connection, and
`lost_connection_stays` that a connection that was lost is never closed.
-/

set_option autoImplicit false
set_option relaxedAutoImplicit false

namespace UvcRtmpStream.Camera

open UvcRtmpStream.Foundations

/-- The handler's thread has found no block of the device and is making one. -/
def HandlerPhase.makes : HandlerPhase → Option ℕ
  | .opening device | .putting device _ => some device
  | .idle | .listed _ | .compared _ _ | .reporting _ | .attaching _ | .connecting _ _ _ => none

/-- The device and the block that the handler's thread is about to put into the map. -/
def HandlerPhase.puts : HandlerPhase → Option (ℕ × ℕ)
  | .putting device block => some (device, block)
  | .idle | .listed _ | .compared _ _ | .reporting _ | .attaching _ | .opening _
  | .connecting _ _ _ => none

/-- The device and the block that the receiver is about to close. -/
def ReceiverPhase.closes : ReceiverPhase → Option (ℕ × ℕ)
  | .closing device block => some (device, block)
  | .idle | .unmapping _ | .resetting _ | .posting _ => none

theorem HandlerPhase.puts_of_makes {handler : HandlerPhase} (h : handler.makes = none) :
    handler.puts = none := by
  cases handler <;> first | rfl | exact absurd h (Option.some_ne_none _)

/-- What the connections are about. -/
structure ConnectionView where
  ctrlBlocks : ℕ → Option ℕ
  blocks : List UsbControlBlock
  handler : HandlerPhase
  receiver : ReceiverPhase

/-- The connection of a block is closed. -/
def disconnected (blocks : List UsbControlBlock) (block : ℕ) : List UsbControlBlock :=
  blocks.modify block fun ctrlBlock ↦ { ctrlBlock with connected := false }

namespace ConnectionView

/-- A block that the monitor made for the device. -/
def IsMade (v : ConnectionView) (device block : ℕ) : Prop :=
  ∃ connected, v.blocks[block]? = some ⟨device, connected, false⟩

/-- A block of the monitor with an open connection. -/
def IsOpen (v : ConnectionView) (block : ℕ) : Prop :=
  ∃ device, v.blocks[block]? = some ⟨device, true, false⟩

/-- The monitor has the block: in the map, or in the hands of a thread. -/
def Holds (v : ConnectionView) (block : ℕ) : Prop :=
  ∃ device, v.ctrlBlocks device = some block ∨ v.handler.puts = some (device, block) ∨
    v.receiver.closes = some (device, block)

/-- What one step can do, and the device that it takes out of the map without closing its block. -/
inductive Move (v : ConnectionView) : Option ℕ → ConnectionView → Prop
  | still : Move v none v
  | handles {handler : HandlerPhase} (hputs : v.handler.puts = none)
      (hmakes' : handler.makes = none) : Move v none { v with handler := handler }
  | finds {device : ℕ} (hputs : v.handler.puts = none) (hnone : v.ctrlBlocks device = none) :
      Move v none { v with handler := .opening device }
  | opens {device : ℕ} {connected : Bool} (hhandler : v.handler = .opening device) :
      Move v none { v with
        blocks := v.blocks ++ [⟨device, connected, false⟩]
        handler := .putting device v.blocks.length }
  | puts {device block : ℕ} (hhandler : v.handler = .putting device block) :
      Move v none { v with
        ctrlBlocks := Function.update v.ctrlBlocks device (some block)
        handler := .connecting device block true }
  | clones {device : ℕ} : Move v none { v with blocks := v.blocks ++ [⟨device, true, true⟩] }
  | closesClone {block : ℕ} (hcloned : ∀ ctrlBlock ∈ v.blocks[block]?, ctrlBlock.cloned = true) :
      Move v none { v with blocks := disconnected v.blocks block }
  | receives {receiver : ReceiverPhase} (hcloses : v.receiver.closes = none)
      (hcloses' : receiver.closes = none) : Move v none { v with receiver := receiver }
  | takes {device block : ℕ} (hcloses : v.receiver.closes = none)
      (hblock : v.ctrlBlocks device = some block) :
      Move v none { v with
        ctrlBlocks := Function.update v.ctrlBlocks device none
        receiver := .closing device block }
  | leaves {device block : ℕ} (hreceiver : v.receiver = .closing device block)
      (hclosed : ¬ v.IsOpen block) : Move v none { v with receiver := .resetting device }
  | closes {device block : ℕ} (hreceiver : v.receiver = .closing device block) :
      Move v none { v with
        blocks := disconnected v.blocks block
        receiver := .unmapping device }
  | removes {device : ℕ} {receiver : ReceiverPhase}
      (hcloses : receiver.closes = v.receiver.closes) :
      Move v (some device) { v with
        ctrlBlocks := Function.update v.ctrlBlocks device none
        receiver := receiver }

/-- Where the blocks of the monitor are. -/
structure Inv (v : ConnectionView) : Prop where
  mapped : ∀ device block, v.ctrlBlocks device = some block → v.IsMade device block
  making : ∀ device, v.handler.makes = some device → v.ctrlBlocks device = none
  putting : ∀ device block, v.handler.puts = some (device, block) → v.IsMade device block
  closing : ∀ device block, v.receiver.closes = some (device, block) → v.IsMade device block
  unput : ∀ device block other, v.ctrlBlocks device = some block →
    v.handler.puts ≠ some (other, block)
  unclosed : ∀ device block other, v.ctrlBlocks device = some block →
    v.receiver.closes ≠ some (other, block)
  apart : ∀ device block other, v.handler.puts = some (device, block) →
    v.receiver.closes ≠ some (other, block)

variable {v w : ConnectionView} {removed : Option ℕ} {device block : ℕ}

theorem IsMade.lt (h : v.IsMade device block) : block < v.blocks.length := by
  obtain ⟨_, hblock⟩ := h
  exact (List.getElem?_eq_some_iff.mp hblock).1

theorem IsMade.unique {other : ℕ} (h : v.IsMade device block) (hother : v.IsMade other block) :
    device = other := by
  obtain ⟨_, hblock⟩ := h
  obtain ⟨_, hblock'⟩ := hother
  rw [hblock] at hblock'
  simpa using congrArg (Option.map UsbControlBlock.device) hblock'

theorem IsMade.append (h : v.IsMade device block) {made : List UsbControlBlock}
    (hblocks : w.blocks = v.blocks ++ made) : w.IsMade device block := by
  have hlt := h.lt
  obtain ⟨connected, hblock⟩ := h
  exact ⟨connected, by rw [hblocks, List.getElem?_append_left hlt, hblock]⟩

theorem IsMade.disconnected (h : v.IsMade device block) {closed : ℕ}
    (hblocks : w.blocks = disconnected v.blocks closed) : w.IsMade device block := by
  obtain ⟨connected, hblock⟩ := h
  rw [IsMade, hblocks, Camera.disconnected, List.getElem?_modify, hblock]
  split_ifs
  · exact ⟨false, rfl⟩
  · exact ⟨connected, rfl⟩

/-- A block that is open behind a disconnection is another one, and was open before. -/
theorem IsOpen.of_disconnected (h : w.IsOpen block) {closed : ℕ}
    (hblocks : w.blocks = Camera.disconnected v.blocks closed) :
    block ≠ closed ∧ v.IsOpen block := by
  obtain ⟨device, hblock⟩ := h
  rw [hblocks, Camera.disconnected, List.getElem?_modify] at hblock
  split_ifs at hblock with hsame
  · cases hget : v.blocks[block]? <;> simp [hget] at hblock
  · exact ⟨fun heq ↦ hsame heq.symm, device, by simpa using hblock⟩

/-- An entry of the map was there before. -/
theorem of_update_none {ctrlBlocks : ℕ → Option ℕ} {gone : ℕ}
    (h : Function.update ctrlBlocks gone none device = some block) :
    device ≠ gone ∧ ctrlBlocks device = some block := by
  by_cases hsame : device = gone
  · subst hsame
    rw [Function.update_self] at h
    exact absurd h (Option.some_ne_none _).symm
  · rw [Function.update_of_ne hsame] at h
    exact ⟨hsame, h⟩

/-- An entry of the map is the new one, or was there before. -/
theorem of_update_some {ctrlBlocks : ℕ → Option ℕ} {put new : ℕ}
    (h : Function.update ctrlBlocks put (some new) device = some block) :
    device = put ∧ block = new ∨ ctrlBlocks device = some block := by
  by_cases hsame : device = put
  · subst hsame
    rw [Function.update_self] at h
    exact Or.inl ⟨rfl, (Option.some.inj h).symm⟩
  · rw [Function.update_of_ne hsame] at h
    exact Or.inr h

/-- Blocks that are only taken out of their places. -/
theorem Inv.mono (h : v.Inv)
    (hmap : ∀ device block, w.ctrlBlocks device = some block → v.ctrlBlocks device = some block)
    (hmade : ∀ device block, v.IsMade device block → w.IsMade device block)
    (hmakes : ∀ device, w.handler.makes = some device → v.handler.makes = some device)
    (hputs : ∀ place, w.handler.puts = some place → v.handler.puts = some place)
    (hcloses : ∀ place, w.receiver.closes = some place → v.receiver.closes = some place) :
    w.Inv where
  mapped := fun device block hblock ↦ hmade _ _ (h.mapped _ _ (hmap _ _ hblock))
  making := fun device hdevice ↦ by
    have hnone := h.making device (hmakes device hdevice)
    cases hblock : w.ctrlBlocks device with
    | none => rfl
    | some block => exact absurd (hmap device block hblock) (by simp [hnone])
  putting := fun device block hblock ↦ hmade _ _ (h.putting _ _ (hputs _ hblock))
  closing := fun device block hblock ↦ hmade _ _ (h.closing _ _ (hcloses _ hblock))
  unput := fun device block other hblock hput ↦
    h.unput device block other (hmap _ _ hblock) (hputs _ hput)
  unclosed := fun device block other hblock hclose ↦
    h.unclosed device block other (hmap _ _ hblock) (hcloses _ hclose)
  apart := fun device block other hput hclose ↦
    h.apart device block other (hputs _ hput) (hcloses _ hclose)

theorem Inv.move (h : v.Inv) (hmove : v.Move removed w) : w.Inv := by
  cases hmove with
  | still => exact h
  | handles hputs hmakes' =>
    refine h.mono (fun _ _ hblock ↦ hblock) (fun _ _ hmade ↦ hmade) (fun _ hmakes ↦ ?_)
      (fun _ hputs' ↦ ?_) fun _ hcloses ↦ hcloses
    · simp [hmakes'] at hmakes
    · simp [HandlerPhase.puts_of_makes hmakes'] at hputs'
  | @finds device hputs hnone =>
    refine { h with making := fun other hother ↦ ?_, putting := ?_, unput := ?_, apart := ?_ }
    · obtain rfl := Option.some.inj hother
      exact hnone
    · exact fun other block hput ↦ absurd hput (by simp [HandlerPhase.puts])
    · exact fun other block third _ hput ↦ absurd hput (by simp [HandlerPhase.puts])
    · exact fun other block third hput ↦ absurd hput (by simp [HandlerPhase.puts])
  | @opens device connected hhandler =>
    have hmade (other block : ℕ) (hmade : v.IsMade other block) : block ≠ v.blocks.length :=
      hmade.lt.ne
    refine {
      mapped := fun other block hblock ↦ (h.mapped other block hblock).append rfl
      making := fun other hother ↦ h.making other (by rw [hhandler]; exact hother)
      putting := fun other block hput ↦ ?_
      closing := fun other block hclose ↦ (h.closing other block hclose).append rfl
      unput := fun other block third hblock hput ↦ ?_
      unclosed := h.unclosed
      apart := fun other block third hput hclose ↦ ?_ }
    · obtain ⟨rfl, rfl⟩ := Prod.mk.inj (Option.some.inj hput)
      exact ⟨connected, by simp⟩
    · obtain ⟨-, rfl⟩ := Prod.mk.inj (Option.some.inj hput)
      exact hmade other _ (h.mapped other _ hblock) rfl
    · obtain ⟨-, rfl⟩ := Prod.mk.inj (Option.some.inj hput)
      exact hmade third _ (h.closing third _ hclose) rfl
  | @puts device block hhandler =>
    have hput : v.handler.puts = some (device, block) := by rw [hhandler]; rfl
    refine {
      mapped := fun other third hblock ↦ ?_
      making := fun other hother ↦ (Option.some_ne_none _ hother.symm).elim
      putting := fun other third hput ↦ (Option.some_ne_none _ hput.symm).elim
      closing := h.closing
      unput := fun other third fourth _ hput ↦ (Option.some_ne_none _ hput.symm).elim
      unclosed := fun other third fourth hblock hclose ↦ ?_
      apart := fun other third fourth hput ↦ (Option.some_ne_none _ hput.symm).elim }
    · rcases of_update_some hblock with ⟨rfl, rfl⟩ | hold
      · exact h.putting _ _ hput
      · exact h.mapped _ _ hold
    · rcases of_update_some hblock with ⟨rfl, rfl⟩ | hold
      · exact h.apart _ _ _ hput hclose
      · exact h.unclosed _ _ _ hold hclose
  | clones =>
    exact h.mono (fun _ _ hblock ↦ hblock) (fun _ _ hmade ↦ hmade.append rfl) (fun _ h ↦ h)
      (fun _ h ↦ h) fun _ h ↦ h
  | closesClone hcloned =>
    exact h.mono (fun _ _ hblock ↦ hblock) (fun _ _ hmade ↦ hmade.disconnected rfl) (fun _ h ↦ h)
      (fun _ h ↦ h) fun _ h ↦ h
  | receives hcloses hcloses' =>
    exact h.mono (fun _ _ hblock ↦ hblock) (fun _ _ hmade ↦ hmade) (fun _ h ↦ h) (fun _ h ↦ h)
      fun _ h ↦ absurd h (by simp [hcloses'])
  | @takes device block hcloses hblock =>
    refine {
      mapped := fun other third hthird ↦ h.mapped _ _ (of_update_none hthird).2
      making := fun other hother ↦ ?_
      putting := h.putting
      closing := fun other third hclose ↦ ?_
      unput := fun other third fourth hthird ↦ h.unput _ _ _ (of_update_none hthird).2
      unclosed := fun other third fourth hthird hclose ↦ ?_
      apart := fun other third fourth hput hclose ↦ ?_ }
    · have hnone := h.making other hother
      by_cases hsame : other = device
      · rw [hsame]
        exact Function.update_self ..
      · exact (Function.update_of_ne hsame ..).trans hnone
    · obtain ⟨rfl, rfl⟩ := Prod.mk.inj (Option.some.inj hclose)
      exact h.mapped _ _ hblock
    · obtain ⟨rfl, rfl⟩ := Prod.mk.inj (Option.some.inj hclose)
      obtain ⟨hdiffer, hthird⟩ := of_update_none hthird
      exact hdiffer ((h.mapped _ _ hthird).unique (h.mapped _ _ hblock))
    · obtain ⟨-, rfl⟩ := Prod.mk.inj (Option.some.inj hclose)
      exact h.unput _ _ _ hblock hput
  | leaves hreceiver hclosed =>
    exact h.mono (fun _ _ hblock ↦ hblock) (fun _ _ hmade ↦ hmade) (fun _ h ↦ h) (fun _ h ↦ h)
      fun _ h ↦ absurd h (by simp [ReceiverPhase.closes])
  | closes hreceiver =>
    exact h.mono (fun _ _ hblock ↦ hblock) (fun _ _ hmade ↦ hmade.disconnected rfl) (fun _ h ↦ h)
      (fun _ h ↦ h) fun _ h ↦ absurd h (by simp [ReceiverPhase.closes])
  | removes hcloses =>
    exact h.mono (fun _ _ hblock ↦ (of_update_none hblock).2) (fun _ _ hmade ↦ hmade)
      (fun _ h ↦ h) (fun _ h ↦ h) fun _ h ↦ hcloses ▸ h

/-! ### Connections that are kept, and connections that are lost -/

/-- The monitor has every block of its own that is open. -/
def Kept (v : ConnectionView) : Prop := ∀ block, v.IsOpen block → v.Holds block

/-- The device that is taken out of the map has no block there that is open. -/
def Spares (v : ConnectionView) (removed : Option ℕ) : Prop :=
  ∀ device, removed = some device → ∀ block, v.ctrlBlocks device = some block → ¬ v.IsOpen block

theorem IsOpen.isMade (h : v.IsOpen block) : ∃ device, v.IsMade device block :=
  h.imp fun _ hblock ↦ ⟨true, hblock⟩

/-- A block that is open behind an addition is the one that was added, or was open before. -/
theorem IsOpen.of_append (h : w.IsOpen block) {made : UsbControlBlock}
    (hblocks : w.blocks = v.blocks ++ [made]) :
    v.IsOpen block ∨ block = v.blocks.length ∧ made.cloned = false := by
  obtain ⟨device, hblock⟩ := h
  rw [hblocks] at hblock
  rcases lt_or_ge block v.blocks.length with hold | hnew
  · rw [List.getElem?_append_left hold] at hblock
    exact Or.inl ⟨device, hblock⟩
  · rw [List.getElem?_append_right hnew] at hblock
    have hlast : block - v.blocks.length = 0 := by
      have hlt := (List.getElem?_eq_some_iff.mp hblock).1
      rw [List.length_singleton] at hlt
      omega
    rw [hlast] at hblock
    obtain rfl := Option.some.inj hblock
    exact Or.inr ⟨by omega, rfl⟩

/-- Blocks whose places do not change. -/
theorem Kept.mono (h : v.Kept) (hopen : ∀ block, w.IsOpen block → v.IsOpen block)
    (hholds : ∀ block, w.IsOpen block → v.Holds block → w.Holds block) : w.Kept :=
  fun block hblock ↦ hholds block hblock (h block (hopen block hblock))

theorem Kept.move (hinv : v.Inv) (h : v.Kept) (hspares : v.Spares removed)
    (hmove : v.Move removed w) : w.Kept := by
  cases hmove with
  | still => exact h
  | handles hputs _ | finds hputs _ =>
    refine h.mono (fun _ hopen ↦ hopen) fun block _ ⟨device, hplace⟩ ↦ ⟨device, ?_⟩
    exact hplace.imp_right fun hplace ↦ hplace.imp_left fun hput ↦ by simp [hputs] at hput
  | @opens device connected hhandler =>
    intro block hblock
    rcases hblock.of_append rfl with hopen | ⟨rfl, -⟩
    · obtain ⟨other, hplace⟩ := h block hopen
      refine ⟨other, hplace.imp_right fun hplace ↦ hplace.imp_left fun hput ↦ ?_⟩
      simp [hhandler, HandlerPhase.puts] at hput
    · exact ⟨device, Or.inr (Or.inl rfl)⟩
  | @puts device block hhandler =>
    have hput : v.handler.puts = some (device, block) := by rw [hhandler]; rfl
    refine h.mono (fun _ hopen ↦ hopen) fun other _ ⟨third, hplace⟩ ↦ ?_
    rcases hplace with hmap | hput' | hclose
    · have hnone := hinv.making device (by rw [hhandler]; rfl)
      have hdiffer : third ≠ device := by
        rintro rfl
        simp [hnone] at hmap
      exact ⟨third, Or.inl ((Function.update_of_ne hdiffer ..).trans hmap)⟩
    · rw [hput] at hput'
      obtain ⟨rfl, rfl⟩ := Prod.mk.inj (Option.some.inj hput')
      exact ⟨device, Or.inl (Function.update_self ..)⟩
    · exact ⟨third, Or.inr (Or.inr hclose)⟩
  | clones =>
    refine h.mono (fun block hopen ↦ ?_) fun _ _ hplace ↦ hplace
    exact (hopen.of_append rfl).resolve_right fun hnew ↦ by simp at hnew
  | closesClone _ =>
    exact h.mono (fun block hopen ↦ (hopen.of_disconnected rfl).2) fun _ _ hplace ↦ hplace
  | receives hcloses hcloses' =>
    refine h.mono (fun _ hopen ↦ hopen) fun block _ ⟨device, hplace⟩ ↦ ⟨device, ?_⟩
    exact hplace.imp_right fun hplace ↦ hplace.imp_right fun hclose ↦ by simp [hcloses] at hclose
  | @takes device block hcloses hblock =>
    refine h.mono (fun _ hopen ↦ hopen) fun other _ ⟨third, hplace⟩ ↦ ?_
    rcases hplace with hmap | hput | hclose
    · by_cases hsame : third = device
      · rw [hsame, hblock] at hmap
        obtain rfl := Option.some.inj hmap
        exact ⟨device, Or.inr (Or.inr rfl)⟩
      · exact ⟨third, Or.inl ((Function.update_of_ne hsame ..).trans hmap)⟩
    · exact ⟨third, Or.inr (Or.inl hput)⟩
    · simp [hcloses] at hclose
  | @leaves device block hreceiver hclosed =>
    refine h.mono (fun _ hopen ↦ hopen) fun other hopen ⟨third, hplace⟩ ↦ ⟨third, ?_⟩
    refine hplace.imp_right fun hplace ↦ hplace.imp_right fun hclose ↦ ?_
    rw [hreceiver] at hclose
    obtain ⟨-, rfl⟩ := Prod.mk.inj (Option.some.inj hclose)
    exact absurd hopen hclosed
  | @closes device block hreceiver =>
    refine h.mono (fun other hopen ↦ (hopen.of_disconnected rfl).2) fun other hopen
      ⟨third, hplace⟩ ↦ ⟨third, ?_⟩
    refine hplace.imp_right fun hplace ↦ hplace.imp_right fun hclose ↦ ?_
    rw [hreceiver] at hclose
    obtain ⟨-, rfl⟩ := Prod.mk.inj (Option.some.inj hclose)
    exact absurd rfl (hopen.of_disconnected rfl).1
  | @removes device receiver hcloses =>
    refine h.mono (fun _ hopen ↦ hopen) fun block hopen ⟨other, hplace⟩ ↦ ⟨other, ?_⟩
    refine hplace.imp (fun hmap ↦ ?_) fun hplace ↦ hplace.imp_right fun hclose ↦ by
      rw [hcloses, hclose]
    have hdiffer : other ≠ device := by
      rintro rfl
      exact hspares _ rfl block hmap hopen
    exact (Function.update_of_ne hdiffer ..).trans hmap

/-- A connection that is taken out of the map is lost. -/
theorem not_kept_of_removes (hinv : v.Inv) {device : ℕ} (hblock : v.ctrlBlocks device = some block)
    (hopen : v.IsOpen block) (hmove : v.Move (some device) w) :
    w.IsOpen block ∧ ¬ w.Holds block := by
  cases hmove with
  | removes hcloses =>
    refine ⟨hopen, ?_⟩
    rintro ⟨other, hmap | hput | hclose⟩
    · obtain ⟨hdiffer, hmap⟩ := of_update_none hmap
      exact hdiffer ((hinv.mapped _ _ hmap).unique (hinv.mapped _ _ hblock))
    · exact hinv.unput _ _ _ hblock hput
    · exact hinv.unclosed _ _ _ hblock (hcloses ▸ hclose)

theorem IsOpen.append (h : v.IsOpen block) {made : List UsbControlBlock}
    (hblocks : w.blocks = v.blocks ++ made) : w.IsOpen block := by
  obtain ⟨device, hblock⟩ := h
  have hlt := (List.getElem?_eq_some_iff.mp hblock).1
  exact ⟨device, by rw [hblocks, List.getElem?_append_left hlt, hblock]⟩

theorem IsOpen.disconnected (h : v.IsOpen block) {closed : ℕ} (hother : block ≠ closed)
    (hblocks : w.blocks = Camera.disconnected v.blocks closed) : w.IsOpen block := by
  obtain ⟨device, hblock⟩ := h
  refine ⟨device, ?_⟩
  rw [hblocks, Camera.disconnected, List.getElem?_modify, hblock]
  simp [Ne.symm hother]

/-- A connection that is lost stays open, and lost. -/
theorem lost_of_move (hopen : v.IsOpen block) (hlost : ¬ v.Holds block)
    (hmove : v.Move removed w) : w.IsOpen block ∧ ¬ w.Holds block := by
  have hmap (device : ℕ) : v.ctrlBlocks device ≠ some block := fun h ↦ hlost ⟨device, Or.inl h⟩
  have hput (device : ℕ) : v.handler.puts ≠ some (device, block) :=
    fun h ↦ hlost ⟨device, Or.inr (Or.inl h)⟩
  have hclose (device : ℕ) : v.receiver.closes ≠ some (device, block) :=
    fun h ↦ hlost ⟨device, Or.inr (Or.inr h)⟩
  cases hmove with
  | still => exact ⟨hopen, hlost⟩
  | handles _ hmakes' =>
    refine ⟨hopen, ?_⟩
    rintro ⟨device, h | h | h⟩
    · exact hmap device h
    · simp [HandlerPhase.puts_of_makes hmakes'] at h
    · exact hclose device h
  | finds _ _ =>
    refine ⟨hopen, ?_⟩
    rintro ⟨device, h | h | h⟩
    · exact hmap device h
    · simp [HandlerPhase.puts] at h
    · exact hclose device h
  | opens _ =>
    refine ⟨hopen.append rfl, ?_⟩
    rintro ⟨device, h | h | h⟩
    · exact hmap device h
    · -- the block that was made is a new one
      obtain ⟨_, hmade⟩ := hopen.isMade
      exact hmade.lt.ne' (congrArg Prod.snd (Option.some.inj h))
    · exact hclose device h
  | @puts put _ hhandler =>
    refine ⟨hopen, ?_⟩
    rintro ⟨device, h | h | h⟩
    · rcases of_update_some h with ⟨-, rfl⟩ | hold
      · exact hput put (by rw [hhandler, HandlerPhase.puts])
      · exact hmap device hold
    · simp [HandlerPhase.puts] at h
    · exact hclose device h
  | clones => exact ⟨hopen.append rfl, hlost⟩
  | closesClone hcloned =>
    refine ⟨hopen.disconnected ?_ rfl, hlost⟩
    rintro rfl
    obtain ⟨device, hblock⟩ := hopen
    exact absurd (hcloned _ hblock) Bool.false_ne_true
  | receives _ hcloses' =>
    refine ⟨hopen, ?_⟩
    rintro ⟨device, h | h | h⟩
    · exact hmap device h
    · exact hput device h
    · simp [hcloses'] at h
  | @takes taken _ _ hblock =>
    refine ⟨hopen, ?_⟩
    rintro ⟨device, h | h | h⟩
    · exact hmap device (of_update_none h).2
    · exact hput device h
    · obtain ⟨-, rfl⟩ := Prod.mk.inj (Option.some.inj h)
      exact hmap taken hblock
  | leaves _ _ =>
    refine ⟨hopen, ?_⟩
    rintro ⟨device, h | h | h⟩
    · exact hmap device h
    · exact hput device h
    · simp [ReceiverPhase.closes] at h
  | @closes closed _ hreceiver =>
    refine ⟨hopen.disconnected ?_ rfl, ?_⟩
    · rintro rfl
      exact hclose closed (by rw [hreceiver, ReceiverPhase.closes])
    · rintro ⟨device, h | h | h⟩
      · exact hmap device h
      · exact hput device h
      · simp [ReceiverPhase.closes] at h
  | removes hcloses =>
    refine ⟨hopen, ?_⟩
    rintro ⟨device, h | h | h⟩
    · exact hmap device (of_update_none h).2
    · exact hput device h
    · exact hclose device (hcloses ▸ h)

end ConnectionView

/-! ### The monitor -/

/-- The receiver is about to take the device out of the map, behind `onDisconnect`. -/
def ReceiverPhase.unmaps : ReceiverPhase → Option ℕ
  | .unmapping device => some device
  | .idle | .closing _ _ | .resetting _ | .posting _ => none

namespace USBMonitor

def connectionView (s : USBMonitor) : ConnectionView where
  ctrlBlocks := s.ctrlBlocks
  blocks := s.blocks
  handler := s.handler
  receiver := s.receiver

/-- The device that a step takes out of the map at the end of a `close`. -/
def removes (s : USBMonitor) : UsbEvent → Option ℕ
  | .receive => s.receiver.unmaps
  | .unmap place => s.unmapping[place]?
  | .plug _ | .unplug _ | .allow _ | .register | .unregister | .permissionResult _ _ | .detach
  | .check | .handle | .turn _ | .clone _ _ | .closeClone _ => none

variable (deviceKey : ℕ → ℤ)

@[simp] theorem connectionView_requestPermission (s : USBMonitor) (device : ℕ) (requested : Bool) :
    (s.requestPermission deviceKey device requested).connectionView = s.connectionView := by
  rw [requestPermission]
  split_ifs <;> rfl

theorem isConnected_of_isOpen {s : USBMonitor} {block : ℕ} (h : s.connectionView.IsOpen block) :
    s.IsConnected block := by
  obtain ⟨device, hblock⟩ := h
  rw [IsConnected, show s.blocks[block]? = some ⟨device, true, false⟩ from hblock]
  rfl

theorem connectionMove_detach (s : USBMonitor) :
    s.connectionView.Move none s.detach.connectionView := by
  rw [detach]
  split
  · rename_i device detached hreceiver hdetached
    have hcloses : s.connectionView.receiver.closes = none := congrArg _ hreceiver
    cases hblock : s.ctrlBlocks device with
    | some block => exact .takes hcloses hblock
    | none =>
      -- there is nothing in the map to take
      have hsame : Function.update s.ctrlBlocks device none = s.ctrlBlocks := by
        rw [← hblock, Function.update_eq_self]
      change s.connectionView.Move none
        { s.connectionView with
          ctrlBlocks := Function.update s.ctrlBlocks device none
          receiver := .resetting device }
      rw [hsame]
      exact .receives hcloses rfl
  · exact .still

theorem connectionMove_receive (s : USBMonitor) :
    s.connectionView.Move s.receiver.unmaps s.receive.connectionView := by
  rw [receive]
  cases hreceiver : s.receiver with
  | idle => exact .still
  | closing device block =>
    simp only
    split_ifs with hconnected
    · exact .closes hreceiver
    · exact .leaves hreceiver fun hopen ↦ hconnected (isConnected_of_isOpen hopen)
  | unmapping device => exact .removes (congrArg ReceiverPhase.closes hreceiver).symm
  | resetting device => exact .receives (congrArg _ hreceiver) rfl
  | posting device => exact .receives (congrArg _ hreceiver) rfl

theorem connectionMove_handle (s : USBMonitor) :
    s.connectionView.Move none s.handle.connectionView := by
  rw [handle]
  split
  · rename_i message queue hhandler hqueue
    have hputs : s.connectionView.handler.puts = none := congrArg _ hhandler
    cases message with
    | attach device => exact .handles hputs rfl
    | dettach device => exact .still
    | cancel device => exact .still
    | connect device =>
      simp only
      cases hblock : s.ctrlBlocks device with
      | some block => exact .handles hputs rfl
      | none => exact .finds hputs hblock
  · exact .still

theorem connectionMove_turn (s : USBMonitor) (answer : Bool) :
    s.connectionView.Move none (s.turn deviceKey answer).connectionView := by
  rw [turn]
  split <;> rename_i hhandler
  case h_1 => exact .still
  case h_7 device =>
    change s.connectionView.Move none
      { (s.requestPermission deviceKey device answer).connectionView with handler := .idle }
    rw [connectionView_requestPermission]
    exact .handles (congrArg _ hhandler) rfl
  case h_8 => exact .opens hhandler
  case h_9 => exact .puts hhandler
  all_goals exact .handles (congrArg _ hhandler) rfl

/-- Every step is one of the moves. -/
theorem connectionMove_step (s : USBMonitor) (event : UsbEvent) :
    s.connectionView.Move (s.removes event) (s.step deviceKey event).connectionView := by
  cases event with
  | plug device | unplug device | allow device =>
    rw [step]
    split_ifs <;> exact .still
  | register =>
    rw [step, register]
    split_ifs <;> exact .still
  | unregister =>
    rw [step]
    split_ifs <;> exact .still
  | permissionResult device granted =>
    rw [step]
    split_ifs <;> exact .still
  | detach => exact s.connectionMove_detach
  | receive => exact s.connectionMove_receive
  | check =>
    rw [step, check]
    split_ifs with hidle
    · exact .handles (congrArg _ hidle.1) rfl
    · exact .still
  | handle => exact s.connectionMove_handle
  | turn answer => exact s.connectionMove_turn deviceKey answer
  | clone block opens =>
    rw [step, clone]
    split
    · split_ifs
      · exact .clones
      · exact .still
    · exact .still
  | closeClone block =>
    rw [step, closeClone]
    split
    · rename_i ctrlBlock hblock
      split_ifs with hcloned
      · refine .closesClone fun other hother ↦ ?_
        rw [show s.connectionView.blocks[block]? = some ctrlBlock from hblock] at hother
        obtain rfl := Option.some.inj hother
        exact hcloned.1
      · exact .still
    · exact .still
  | unmap place =>
    rw [step, unmap, removes]
    cases s.unmapping[place]? with
    | some device => exact .removes rfl
    | none => exact .still

/-- The monitor has every connection that it opened and that is open. -/
def ConnectionsKept (s : USBMonitor) : Prop := s.connectionView.Kept

/-- Where a `close` takes a device out of the map, no open block of the monitor is there. -/
def SparesConnections (s : USBMonitor) (event : UsbEvent) : Prop :=
  s.connectionView.Spares (s.removes event)

theorem connectionInv_constructed : constructed.connectionView.Inv where
  mapped := fun _ _ hblock ↦ (Option.some_ne_none _ hblock.symm).elim
  making := fun _ _ ↦ rfl
  putting := fun _ _ hput ↦ (Option.some_ne_none _ hput.symm).elim
  closing := fun _ _ hclose ↦ (Option.some_ne_none _ hclose.symm).elim
  unput := fun _ _ _ hblock ↦ (Option.some_ne_none _ hblock.symm).elim
  unclosed := fun _ _ _ hblock ↦ (Option.some_ne_none _ hblock.symm).elim
  apart := fun _ _ _ hput ↦ (Option.some_ne_none _ hput.symm).elim

theorem connectionsKept_constructed : constructed.ConnectionsKept := by
  rintro block ⟨device, hblock⟩
  exact (Option.some_ne_none _ hblock.symm).elim

/-- In a run, the monitor has every connection that it opened and that is open, exactly where no
`close` takes a device out of the map whose block there is open. -/
theorem connections_kept_iff (events : List UsbEvent) :
    Throughout (step deviceKey) ConnectionsKept constructed events ↔
      Meets (step deviceKey) SparesConnections constructed events := by
  have hany : Meets (step deviceKey) (fun _ _ ↦ True) constructed events :=
    meets_of_forall fun _ _ ↦ trivial
  refine throughout_iff_meets
    (fun s (h : s.connectionView.Inv ∧ s.ConnectionsKept) ↦ h.2)
    (fun s event h _ hspares ↦ ?_) (fun s event h _ hbroken hkept ↦ ?_)
    ⟨connectionInv_constructed, connectionsKept_constructed⟩ hany
  · have hmove := s.connectionMove_step deviceKey event
    exact ⟨h.1.move hmove, h.2.move h.1 hspares hmove⟩
  · simp only [SparesConnections, ConnectionView.Spares, not_forall, not_not] at hbroken
    obtain ⟨device, hremoves, block, hblock, hopen⟩ := hbroken
    have hmove := s.connectionMove_step deviceKey event
    rw [hremoves] at hmove
    obtain ⟨hopen', hlost⟩ := ConnectionView.not_kept_of_removes h.1 hblock hopen hmove
    exact hlost (hkept block hopen')

/-- A connection that the monitor opened is open, and the monitor does not have it. -/
def Lost (block : ℕ) (s : USBMonitor) : Prop :=
  s.connectionView.IsOpen block ∧ ¬ s.connectionView.Holds block

/-- A connection that the monitor has lost is never closed, and never comes back into its hands. -/
theorem lost_connection_stays {s : USBMonitor} {block : ℕ} (h : s.Lost block)
    (events : List UsbEvent) : (run (step deviceKey) s events).Lost block := by
  have hmeets : Meets (step deviceKey) (fun _ _ ↦ True) s events :=
    meets_of_forall fun _ _ ↦ trivial
  refine inv_run (fun t event (ht : t.Lost block) _ ↦ ?_) h hmeets
  exact ConnectionView.lost_of_move ht.1 ht.2 (t.connectionMove_step deviceKey event)

/-- A camera is opened with a clone of its block, and destroyed. -/
def destroyed : List UsbEvent :=
  [.plug 1, .allow 1, .register, .permissionResult 1 true, .handle, .turn true, .turn true,
    .turn true, .clone 0 true, .closeClone 1, .unmap 0]

theorem lost_connection_stays_destroyed :
    (run (step fun device ↦ device) constructed destroyed).Lost 0 ∧
      (run (step fun device ↦ device) (run (step fun device ↦ device) constructed destroyed)
        [.unplug 1, .detach, .receive, .receive]).Lost 0 := by
  have hlost : (run (step fun device ↦ device) constructed destroyed).Lost 0 := by
    refine ⟨⟨1, rfl⟩, ?_⟩
    rintro ⟨device, hmap | hput | hclose⟩
    · change Function.update (Function.update (fun _ ↦ none) 1 (some 0)) 1 none device = some 0
        at hmap
      simp at hmap
    · exact Option.some_ne_none _ hput.symm
    · exact Option.some_ne_none _ hclose.symm
  exact ⟨hlost, lost_connection_stays _ hlost _⟩

end USBMonitor

end UvcRtmpStream.Camera
