import UvcRtmpStream.Camera.Transmission
import UvcRtmpStream.Foundations.Runs

/-!
# Isochronous streams

`_uvc_process_payload_iso` treats the packets of a transfer on its own, in place of calling
`_uvc_process_payload` for each of them as the disabled version in front of it does. The two differ:
the first skips packets with the error flag, looks for SCR behind PTS only, copies under an
assertion, and publishes on EOF whatever was gathered before.

For packets that arrived, with a whole header and no error flag (`Legal`), the differences come down
to two conditions on the handle a packet meets: there is room for its data, and an EOF comes with
data or has nothing to close (`Agrees`). `iso_eq_bulk_iff` says that the two ways give the same
handle all along a stream if and only if every packet meets them.
-/

set_option autoImplicit false
set_option relaxedAutoImplicit false

namespace UvcRtmpStream.Camera

open UvcRtmpStream.Foundations

/-! ### The conditions -/

/-- A packet as a payload of its own. -/
def IsoPacket.payload (pkt : IsoPacket) : Payload :=
  ⟨pkt.pktbuf.getD fun _ ↦ 0, pkt.actualLength⟩

/-- The header is within the packet, has no error flag, and has SCR behind PTS only. -/
structure LegalHeader (payload : Payload) : Prop where
  two_le : 2 ≤ (payload.bytes 0).toNat
  le_length : (payload.bytes 0).toNat ≤ payload.length
  noErr : hasFlag (payload.bytes 1) uvcStreamErr = false
  scr : hasFlag (payload.bytes 1) uvcStreamScr = true →
    hasFlag (payload.bytes 1) uvcStreamPts = true ∨ (payload.bytes 0).toNat < 6

/-- A packet that arrived, empty or with a complete header. -/
structure Legal (pkt : IsoPacket) : Prop where
  status : pkt.status = 0
  pktbuf : pkt.pktbuf.isSome
  header : pkt.actualLength ≠ 0 → LegalHeader pkt.payload

/-- The data of a packet fits behind what was gathered of its frame, and an EOF comes with data or
has nothing to close. -/
def Agrees (strmh : StreamHandle) (pkt : IsoPacket) : Prop :=
  pkt.actualLength ≠ 0 →
    let dataLen := pkt.actualLength - (pkt.payload.bytes 0).toNat
    let gotBytes := (uvcTakeFid strmh (pkt.payload.bytes 1)).gotBytes
    (dataLen = 0 ∨ gotBytes + dataLen < strmh.sizeBuf) ∧
      (hasFlag (pkt.payload.bytes 1) uvcStreamEof = true → dataLen ≠ 0 ∨ gotBytes = 0)

instance (strmh : StreamHandle) (pkt : IsoPacket) : Decidable (Agrees strmh pkt) :=
  inferInstanceAs (Decidable (_ → _ ∧ _))

/-- The way of the disabled version: each packet is a payload. -/
def bulkStep (strmh : StreamHandle) (pkt : IsoPacket) : StreamHandle :=
  uvcProcessPayload strmh pkt.payload.bytes pkt.payload.length

/-! ### One packet -/

theorem length_published_uvcSwapBuffers (strmh : StreamHandle) :
    (uvcSwapBuffers strmh).published.length = strmh.published.length + 1 := by
  simp [uvcSwapBuffers]

theorem uvcTakeIsoHeader_eq (strmh : StreamHandle) {payload : Payload}
    (h : LegalHeader payload) :
    uvcTakeIsoHeader strmh payload.bytes (payload.bytes 0).toNat =
      uvcTakeHeader strmh payload.bytes (payload.bytes 0).toNat := by
  unfold uvcTakeIsoHeader uvcTakeHeader
  cases hscr : hasFlag (payload.bytes 1) uvcStreamScr with
  | false => simp [hscr]
  | true =>
    rcases h.scr hscr with hpts | hshort
    · by_cases hsix : 6 ≤ (payload.bytes 0).toNat
      · simp [hscr, hpts, hsix]
      · have hten : ¬ 10 ≤ (payload.bytes 0).toNat := by omega
        simp [hscr, hpts, hsix, hten]
    · have hten : ¬ 10 ≤ (payload.bytes 0).toNat := by omega
      have hsix : ¬ 6 ≤ (payload.bytes 0).toNat := by omega
      simp [hscr, hsix, hten]

theorem gotBytes_uvcTakeHeader (strmh : StreamHandle) (payload : Buffer) (headerLen : ℕ) :
    (uvcTakeHeader strmh payload headerLen).gotBytes =
      (uvcTakeFid strmh (payload 1)).gotBytes := by
  unfold uvcTakeHeader
  by_cases hpts : hasFlag (payload 1) uvcStreamPts = true <;>
    by_cases hscr : hasFlag (payload 1) uvcStreamScr = true <;> simp [hpts, hscr]

/-- The two ways to take the data of a packet give the same handle exactly when it fits and an EOF
has data or nothing to close. -/
theorem uvcTakeIsoData_eq_iff (strmh : StreamHandle) (payload : Buffer) {length headerLen : ℕ}
    (hle : headerLen ≤ length) :
    uvcTakeIsoData strmh payload length headerLen =
        some (uvcTakeData strmh payload headerLen (length - headerLen) (payload 1)) ↔
      (length - headerLen = 0 ∨ strmh.gotBytes + (length - headerLen) < strmh.sizeBuf) ∧
        (hasFlag (payload 1) uvcStreamEof = true →
          length - headerLen ≠ 0 ∨ strmh.gotBytes = 0) := by
  unfold uvcTakeIsoData uvcTakeData
  rw [if_neg (Nat.not_lt.mpr hle)]
  rcases Nat.eq_zero_or_pos (length - headerLen) with hzero | hpos
  · -- no data: the isochronous way publishes what is there
    simp only [hzero, Nat.lt_irrefl, if_false, Option.map_some, Option.some.injEq, true_or,
      true_and, ne_eq, not_true_eq_false, false_or]
    by_cases hswap : (hasFlag (payload 1) uvcStreamEof && strmh.gotBytes != 0) = true
    · rw [if_pos hswap]
      rw [Bool.and_eq_true, bne_iff_ne] at hswap
      constructor
      · intro heq
        have hlength := congrArg (fun s ↦ s.published.length) heq
        simp only [length_published_uvcSwapBuffers] at hlength
        omega
      · intro hclosed
        exact absurd (hclosed hswap.1) hswap.2
    · rw [if_neg hswap]
      rw [Bool.and_eq_true, bne_iff_ne, not_and, not_not] at hswap
      exact iff_of_true rfl hswap
  · have hne : length - headerLen ≠ 0 := hpos.ne'
    simp only [if_pos hpos, hne, false_or, ne_eq, not_false_eq_true, true_or, implies_true,
      and_true]
    unfold uvcCopyData
    by_cases hfits : strmh.gotBytes + (length - headerLen) < strmh.sizeBuf
    · rw [if_pos hfits]
      have hgot : (strmh.gotBytes + (length - headerLen) != 0) = true := by
        rw [bne_iff_ne]
        omega
      simp only [Option.map_some, hgot, Bool.and_true, Option.getD_some, hfits]
    · rw [if_neg hfits]
      simp [hfits]

/-- One packet: the two ways agree exactly when the conditions are met. -/
theorem uvcProcessPacket_eq_iff {strmh : StreamHandle} (hisight : strmh.isIsight = false)
    {pkt : IsoPacket} (h : Legal pkt) :
    uvcProcessPacket strmh pkt = some (bulkStep strmh pkt) ↔ Agrees strmh pkt := by
  obtain ⟨pktbuf, hpktbuf⟩ := Option.isSome_iff_exists.mp h.pktbuf
  have hbytes : pkt.payload.bytes = pktbuf := by simp [IsoPacket.payload, hpktbuf]
  unfold uvcProcessPacket bulkStep uvcProcessPayload Agrees
  rw [if_neg (by simp [h.status])]
  by_cases hempty : pkt.actualLength = 0
  · simp [hempty, IsoPacket.payload]
  · have hheader := h.header hempty
    have hlength : pkt.payload.length = pkt.actualLength := rfl
    have hle : (pktbuf 0).toNat ≤ pkt.actualLength := hbytes ▸ hheader.le_length
    obtain ⟨hisight', hsize⟩ := (settled_constants false strmh.sizeBuf).uvcTakeHeader
      ⟨hisight, rfl⟩ pktbuf (pktbuf 0).toNat
    have hsame := uvcTakeIsoHeader_eq strmh hheader
    rw [hbytes] at hsame
    have hshort : ¬ (pktbuf 0).toNat < 2 := by
      have htwo := hheader.two_le
      rw [hbytes] at htwo
      omega
    have hdata := uvcTakeIsoData_eq_iff (uvcTakeHeader strmh pktbuf (pktbuf 0).toNat) pktbuf hle
    rw [gotBytes_uvcTakeHeader, hsize] at hdata
    have hnoErr := hheader.noErr
    rw [hbytes] at hnoErr
    simp only [hempty, if_false, hpktbuf, hisight, Bool.false_and, Bool.not_false, if_true, hnoErr,
      Bool.false_eq_true, hsame, hisight', hlength, hbytes, Nat.not_lt.mpr hle, hshort, hdata,
      ne_eq, not_false_eq_true, true_implies]

/-! ### The stream -/

/-- For packets that arrived with a whole header and no error flag, on a camera that is no iSight,
the isochronous way gives the handle of the bulk way after every packet if and only if every packet
has room, and no EOF without data closes a frame. In particular no assertion fails. -/
theorem iso_eq_bulk_iff {strmh : StreamHandle} (hisight : strmh.isIsight = false)
    {packets : List IsoPacket} (hlegal : ∀ pkt ∈ packets, Legal pkt) :
    (∀ taken, taken <+: packets →
        uvcProcessPayloadIso strmh taken = some (run bulkStep strmh taken)) ↔
      Meets bulkStep Agrees strmh packets := by
  induction packets generalizing strmh with
  | nil =>
    refine iff_of_true (fun taken htaken ↦ ?_) trivial
    rw [List.prefix_nil.mp htaken]
    rfl
  | cons pkt packets ih =>
    have hnext : (bulkStep strmh pkt).isIsight = false :=
      ((settled_constants false strmh.sizeBuf).uvcProcessPayload ⟨hisight, rfl⟩ _ _).1
    have hrest := ih hnext fun other hother ↦ hlegal other (List.mem_cons_of_mem _ hother)
    have hfirst := uvcProcessPacket_eq_iff hisight (hlegal pkt List.mem_cons_self)
    rw [meets_cons, ← hrest, ← hfirst]
    constructor
    · intro hall
      have hpkt : uvcProcessPacket strmh pkt = some (bulkStep strmh pkt) := by
        have hone := hall [pkt] (List.prefix_append [pkt] packets)
        simpa [uvcProcessPayloadIso] using hone
      refine ⟨hpkt, fun taken htaken ↦ ?_⟩
      have hmore := hall (pkt :: taken) (List.cons_prefix_cons.mpr ⟨rfl, htaken⟩)
      simpa [uvcProcessPayloadIso, hpkt] using hmore
    · rintro ⟨hpkt, hlater⟩ taken htaken
      cases taken with
      | nil => rfl
      | cons other taken =>
        obtain ⟨rfl, hpart⟩ := List.cons_prefix_cons.mp htaken
        have hmore := hlater taken hpart
        simpa [uvcProcessPayloadIso, hpkt] using hmore

/-- A packet with data and EOF, then an empty EOF packet of the next frame. -/
theorem iso_eq_bulk_iff_two :
    let packets : List IsoPacket :=
      [⟨0, 3, some fun place ↦ ([2, 0x83, 9][place]?).getD 0⟩,
        ⟨0, 2, some fun place ↦ ([2, 0x82][place]?).getD 0⟩]
    (∀ taken, taken <+: packets →
        uvcProcessPayloadIso (.started false (fun _ ↦ 0) fun _ ↦ 0) taken =
          some (run bulkStep (.started false (fun _ ↦ 0) fun _ ↦ 0) taken)) ↔
      Meets bulkStep Agrees (.started false (fun _ ↦ 0) fun _ ↦ 0) packets := by
  refine iso_eq_bulk_iff rfl fun pkt hpkt ↦ ?_
  rcases List.mem_cons.mp hpkt with rfl | hsecond
  · exact ⟨rfl, rfl, fun _ ↦ ⟨by decide, by decide, by decide, by decide⟩⟩
  · obtain rfl := List.mem_singleton.mp hsecond
    exact ⟨rfl, rfl, fun _ ↦ ⟨by decide, by decide, by decide, by decide⟩⟩

end UvcRtmpStream.Camera
