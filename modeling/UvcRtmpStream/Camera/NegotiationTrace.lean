import UvcRtmpStream.Camera.DeviceRoundTrip
import UvcRtmpStream.Camera.Negotiation

/-!
# What is asked of a camera

A control block that is written with one request and read with another comes back as it was, but
for the last field of the last version and a size of zero, which `uvc_query_stream_ctrl` replaces
(`written_readBack_iff`). Whatever a camera answers, the search for a mode asks it for nothing but
one mode that it offers, and keeps hold of no interface but the one of that mode
(`negotiation_asks`). A camera that refuses nothing is asked for a mode wherever it offers one
(`negotiation_succeeds_iff`).
-/

set_option autoImplicit false
set_option relaxedAutoImplicit false

namespace UvcRtmpStream.Camera

open UvcRtmpStream.Foundations LittleEndian

/-- A mode: a frame and an interval, with the format and the interface that have it. -/
structure Mode where
  streamIf : StreamingInterface
  format : FormatDesc
  frame : FrameDesc
  interval : UInt32

/-- The mode is one that was looked for. -/
structure DeviceInfo.Offers (info : DeviceInfo) (cf : FrameFormat)
    (width height minFps maxFps : ℤ) (mode : Mode) : Prop where
  listed : (mode.streamIf, mode.format) ∈ info.formats
  named : uvcFrameFormatMatchesGuid cf mode.format.guidFormat = true
  framed : mode.frame ∈ mode.format.frameDescs
  sized : mode.frame.HasSize width height
  rated : mode.frame.Rate minFps maxFps mode.interval

/-- The control block is that of a mode. -/
structure Mode.Fills (mode : Mode) (ctrl : StreamCtrl) : Prop where
  number : ctrl.bInterfaceNumber = mode.streamIf.bInterfaceNumber
  hint : ctrl.bmHint = 1
  format : ctrl.bFormatIndex = mode.format.bFormatIndex
  frame : ctrl.bFrameIndex = mode.frame.bFrameIndex
  interval : ctrl.dwFrameInterval = mode.interval

/-- A request to take a mode. -/
def Request.IsSet : Request → Prop
  | .control _ _ .setCur _ => True
  | .control _ _ _ _ | .claim _ | .release _ => False

/-- The interfaces that were claimed and not released. -/
def outstanding (sent : List Request) : List UInt8 :=
  sent.foldl (fun held request ↦
    match request with
    | .claim number => held.insert number
    | .release number => held.erase number
    | .control _ _ _ _ => held) []

/-- Requests to read the control block of an interface. -/
def AllGets (number : UInt8) (more : List Request) : Prop :=
  ∀ request ∈ more, ∃ kind ≠ VsRequest.setCur, request = .control number true kind []

theorem AllGets.append {number : UInt8} {first second : List Request}
    (hfirst : AllGets number first) (hsecond : AllGets number second) :
    AllGets number (first ++ second) :=
  List.forall_mem_append.mpr ⟨hfirst, hsecond⟩

theorem AllGets.not_isSet {number : UInt8} {more : List Request} (h : AllGets number more) :
    ∀ request ∈ more, ¬ request.IsSet := by
  intro request hmem
  obtain ⟨kind, hkind, rfl⟩ := h request hmem
  cases kind with
  | setCur => exact absurd rfl hkind
  | getCur => exact id
  | getMin => exact id
  | getMax => exact id

/-- Reading the control block changes nothing of what is held. -/
theorem outstanding_append_gets {number : UInt8} {more : List Request} (h : AllGets number more)
    (sent : List Request) : outstanding (sent ++ more) = outstanding sent := by
  induction more generalizing sent with
  | nil => rw [List.append_nil]
  | cons request more ih =>
    obtain ⟨⟨kind, -, rfl⟩, hmore⟩ := List.forall_mem_cons.mp h
    have hrest := ih hmore (sent ++ [.control number true kind []])
    rw [List.append_assoc, List.singleton_append] at hrest
    rw [hrest, outstanding, List.foldl_append]
    rfl

theorem outstanding_claim {sent : List Request} (h : outstanding sent = []) (number : UInt8) :
    outstanding (sent ++ [.claim number]) = [number] := by
  rw [outstanding, List.foldl_append, ← outstanding, h]
  rfl

theorem outstanding_release {sent : List Request} {number : UInt8}
    (h : outstanding sent = [number]) : outstanding (sent ++ [.release number]) = [] := by
  rw [outstanding, List.foldl_append, ← outstanding, h]
  simp

/-! ### A block that is read back -/

theorem fixUp_bInterfaceNumber (info : DeviceInfo) (ctrl : StreamCtrl) :
    (fixUp info ctrl).bInterfaceNumber = ctrl.bInterfaceNumber := by
  rw [fixUp]
  split_ifs
  · cases uvcFindFrameDesc info ctrl.bFormatIndex ctrl.bFrameIndex <;> rfl
  · rfl

theorem decodeCtrl_bInterfaceNumber (bcdUVC : UInt16) (ctrl : StreamCtrl) (buf : List UInt8) :
    (decodeCtrl bcdUVC ctrl buf).bInterfaceNumber = ctrl.bInterfaceNumber := by
  rw [decodeCtrl]
  split_ifs <;> rfl

/-- Only one field of a block is fixed up. -/
theorem fixUp_eq (info : DeviceInfo) (ctrl : StreamCtrl) :
    fixUp info ctrl =
      { ctrl with dwMaxVideoFrameSize := (fixUp info ctrl).dwMaxVideoFrameSize } := by
  rw [fixUp]
  split_ifs
  · cases uvcFindFrameDesc info ctrl.bFormatIndex ctrl.bFrameIndex <;> rfl
  · rfl

/-- The block is not fixed up: it says a size, or no frame with a size has its indices. -/
def StreamCtrl.SizeStands (ctrl : StreamCtrl) (info : DeviceInfo) : Prop :=
  ctrl.dwMaxVideoFrameSize = 0 →
    ∀ frame ∈ uvcFindFrameDesc info ctrl.bFormatIndex ctrl.bFrameIndex,
      frame.dwMaxVideoFrameBufferSize = 0

instance (ctrl : StreamCtrl) (info : DeviceInfo) : Decidable (ctrl.SizeStands info) :=
  inferInstanceAs (Decidable (_ → ∀ _ ∈ _, _))

theorem fixUp_eq_self_iff (info : DeviceInfo) (ctrl : StreamCtrl) :
    fixUp info ctrl = ctrl ↔ ctrl.SizeStands info := by
  rw [fixUp, StreamCtrl.SizeStands]
  by_cases hsize : ctrl.dwMaxVideoFrameSize = 0
  · rw [if_pos hsize, forall_prop_of_true hsize]
    cases hfind : uvcFindFrameDesc info ctrl.bFormatIndex ctrl.bFrameIndex with
    | none => simp
    | some frame =>
      simp only [Option.mem_def, Option.some.injEq, forall_eq']
      constructor
      · intro h
        rw [← hsize]
        exact congrArg StreamCtrl.dwMaxVideoFrameSize h
      · intro h
        rw [h, ← hsize]
  · rw [if_neg hsize]
    exact iff_of_true rfl fun hzero ↦ absurd hzero hsize

theorem sizeStands_over (bcdUVC : UInt16) (ctrl prior : StreamCtrl) (info : DeviceInfo) :
    (ctrl.over bcdUVC prior).SizeStands info ↔ ctrl.SizeStands info := by
  obtain ⟨hsize, hformat, hframe⟩ := over_fields bcdUVC ctrl prior
  rw [StreamCtrl.SizeStands, hsize, hformat, hframe]
  rfl

/-- What a `SET_CUR` request sends, whatever comes of it. -/
theorem query_set (camera : Answering) (info : DeviceInfo) (sent : List Request)
    (ctrl : StreamCtrl) (probe : Bool) :
    (uvcQueryStreamCtrl camera info sent ctrl probe .setCur).1 =
        sent ++ [.control ctrl.bInterfaceNumber probe .setCur (encodeCtrl info.bcdUVC ctrl)] ∧
      (uvcQueryStreamCtrl camera info sent ctrl probe .setCur).2.1 = ctrl := by
  simp only [uvcQueryStreamCtrl, if_true]
  split_ifs <;> exact ⟨rfl, rfl⟩

/-- A block that a `SET_CUR` request wrote and the camera sends back is read, in the fields that the
version has, as it was written, exactly where its last field is one that `QW_TO_LONG` reads back,
and it says a size of its frames or there is none to put in its place. -/
theorem written_readBack_iff {camera : Answering} {info : DeviceInfo} {sent : List Request}
    {ctrl prior : StreamCtrl} {probe : Bool} {kind : VsRequest} {block : List UInt8}
    (hwrote : (uvcQueryStreamCtrl camera info sent ctrl probe .setCur).1 =
      sent ++ [.control ctrl.bInterfaceNumber probe .setCur block])
    (hget : kind ≠ .setCur) {later : List Request}
    (hwhole : blockLength info.bcdUVC ≤
      (camera (later ++ [.control prior.bInterfaceNumber probe kind []])).result)
    (hback : (camera (later ++ [.control prior.bInterfaceNumber probe kind []])).data = block) :
    (uvcQueryStreamCtrl camera info later prior probe kind).2 =
        (ctrl.over info.bcdUVC prior, 0) ↔
      (0x0150 ≤ info.bcdUVC → ReadsBack ctrl.bmLayoutPerStream) ∧ ctrl.SizeStands info := by
  obtain rfl : block = encodeCtrl info.bcdUVC ctrl := by
    have hsent := (query_set camera info sent ctrl probe).1
    rw [hwrote] at hsent
    simpa using hsent
  have hread : (uvcQueryStreamCtrl camera info later prior probe kind).2 =
      (fixUp info (decodeCtrl info.bcdUVC prior (encodeCtrl info.bcdUVC ctrl)), 0) := by
    have hpos := blockLength_pos info.bcdUVC
    simp only [uvcQueryStreamCtrl, if_neg hget]
    rw [if_neg (by omega), if_neg (by omega), hback]
  rw [hread, Prod.mk.injEq, and_iff_left rfl, ← decodeCtrl_encodeCtrl_iff info.bcdUVC prior ctrl]
  constructor
  · intro h
    have hsize := dwMaxVideoFrameSize_readBack info.bcdUVC prior ctrl
    have hsame : decodeCtrl info.bcdUVC prior (encodeCtrl info.bcdUVC ctrl) =
        ctrl.over info.bcdUVC prior := by
      generalize decodeCtrl info.bcdUVC prior (encodeCtrl info.bcdUVC ctrl) = read at h hsize ⊢
      calc read
          = { fixUp info read with dwMaxVideoFrameSize := read.dwMaxVideoFrameSize } := by
            rw [fixUp_eq]
        _ = { ctrl.over info.bcdUVC prior with
              dwMaxVideoFrameSize := ctrl.dwMaxVideoFrameSize } := by rw [h, hsize]
        _ = ctrl.over info.bcdUVC prior := by rw [← (over_fields info.bcdUVC ctrl prior).1]
    rw [hsame, fixUp_eq_self_iff, sizeStands_over] at h
    exact ⟨hsame, h⟩
  · rintro ⟨hsame, hstands⟩
    rw [hsame]
    exact (fixUp_eq_self_iff _ _).mpr ((sizeStands_over _ _ _ _).mpr hstands)

/-- The device information of a camera with one format, of one size. -/
def smallInfo : DeviceInfo := smallControl.deviceInfo (fun _ ↦ smallStream) smallConfig 0 0x83

/-- The probe of a mode without a size, which a camera of the last version sends back. -/
theorem written_readBack_iff_small :
    let ctrl : StreamCtrl := { StreamCtrl.zero with bFormatIndex := 1, bFrameIndex := 1 }
    let camera : Answering := fun _ ↦ ⟨48, encodeCtrl smallInfo.bcdUVC ctrl⟩
    (uvcQueryStreamCtrl camera smallInfo [] ctrl true .getCur).2 =
        (ctrl.over smallInfo.bcdUVC ctrl, 0) ↔
      (0x0150 ≤ smallInfo.bcdUVC → ReadsBack ctrl.bmLayoutPerStream) ∧
        ctrl.SizeStands smallInfo := by
  intro ctrl camera
  have hwrote := (query_set camera smallInfo [] ctrl true).1
  exact written_readBack_iff hwrote (by decide) (by decide) rfl

/-! ### One format -/

/-- What a request to read the control block sends. -/
theorem query_get (camera : Answering) (info : DeviceInfo) (sent : List Request)
    (ctrl : StreamCtrl) {kind : VsRequest} (hkind : kind ≠ .setCur) :
    (uvcQueryStreamCtrl camera info sent ctrl true kind).1 =
        sent ++ [.control ctrl.bInterfaceNumber true kind []] ∧
      (uvcQueryStreamCtrl camera info sent ctrl true kind).2.1.bInterfaceNumber =
        ctrl.bInterfaceNumber := by
  simp only [uvcQueryStreamCtrl, if_neg hkind]
  split_ifs
  · exact ⟨rfl, rfl⟩
  · exact ⟨rfl, rfl⟩
  · exact ⟨rfl, rfl⟩
  · exact ⟨rfl, (fixUp_bInterfaceNumber _ _).trans (decodeCtrl_bInterfaceNumber _ _ _)⟩

/-- What came of reading the control block: requests of one interface, which is still the one of the
block. -/
def Read (number : UInt8) (sent : List Request) (result : List Request × StreamCtrl × ℤ) : Prop :=
  ∃ gets, AllGets number gets ∧ result.1 = sent ++ gets ∧ result.2.1.bInterfaceNumber = number

theorem read_query (camera : Answering) (info : DeviceInfo) (sent : List Request)
    (ctrl : StreamCtrl) (kind : VsRequest) (hkind : kind ≠ .setCur) :
    Read ctrl.bInterfaceNumber sent (uvcQueryStreamCtrl camera info sent ctrl true kind) := by
  obtain ⟨hsent, hnumber⟩ := query_get camera info sent ctrl hkind
  refine ⟨_, ?_, hsent, hnumber⟩
  intro request hrequest
  exact ⟨kind, hkind, List.mem_singleton.mp hrequest⟩

theorem Read.trans {number : UInt8} {sent : List Request}
    {first second : List Request × StreamCtrl × ℤ} (hfirst : Read number sent first)
    (hsecond : Read first.2.1.bInterfaceNumber first.1 second) : Read number sent second := by
  obtain ⟨gets, hgets, hsent, hnumber⟩ := hfirst
  obtain ⟨more, hmore, hlater, hsame⟩ := hsecond
  rw [hnumber] at hmore hsame
  refine ⟨gets ++ more, hgets.append hmore, ?_, hsame⟩
  rw [hlater, hsent, List.append_assoc]

theorem read_prepare (camera : Answering) (info : DeviceInfo) (sent : List Request)
    (ctrl : StreamCtrl) :
    Read ctrl.bInterfaceNumber sent (prepareStreamCtrl camera info sent ctrl) := by
  have hcur := read_query camera info sent ctrl .getCur (by decide)
  rw [prepareStreamCtrl]
  generalize uvcQueryStreamCtrl camera info sent ctrl true .getCur = current at hcur ⊢
  obtain ⟨sent', ctrl', result⟩ := current
  simp only
  by_cases hresult : result ≠ 0
  · rw [if_pos hresult]
    exact hcur
  · have hmin := hcur.trans (read_query camera info sent' ctrl' .getMin (by decide))
    rw [if_neg hresult]
    generalize uvcQueryStreamCtrl camera info sent' ctrl' true .getMin = least at hmin ⊢
    obtain ⟨sent'', ctrl'', result'⟩ := least
    simp only
    by_cases hresult' : result' ≠ 0
    · rw [if_pos hresult']
      exact hmin
    · rw [if_neg hresult']
      exact hmin.trans (read_query camera info sent'' ctrl'' .getMax (by decide))

/-- What came of one format: it was let go of, or the search divided by zero, or a mode was put into
the block. -/
inductive Tried (width height minFps maxFps : ℤ) (streamIf : StreamingInterface)
    (format : FormatDesc) (sent : List Request) : List Request × StreamCtrl × Outcome → Prop
  | refused {gets : List Request} {ctrl : StreamCtrl} {result : ℤ}
      (hgets : AllGets streamIf.bInterfaceNumber gets) (hresult : result ≠ 0) :
      Tried width height minFps maxFps streamIf format sent
        (sent ++ [.claim streamIf.bInterfaceNumber] ++ gets ++
          [.release streamIf.bInterfaceNumber], ctrl, .returned result)
  | divided {gets : List Request} {ctrl : StreamCtrl}
      (hgets : AllGets streamIf.bInterfaceNumber gets)
      (hstepless : ∃ frame ∈ format.frameDescs, frame.HasSize width height ∧ frame.Stepless) :
      Tried width height minFps maxFps streamIf format sent
        (sent ++ [.claim streamIf.bInterfaceNumber] ++ gets, ctrl, .dividesByZero)
  | chosen {gets : List Request} {ctrl : StreamCtrl} {frame : FrameDesc} {interval : UInt32}
      (hgets : AllGets streamIf.bInterfaceNumber gets)
      (hframe : frame ∈ format.frameDescs) (hsize : frame.HasSize width height)
      (hrate : frame.Rate minFps maxFps interval)
      (hfills : Mode.Fills ⟨streamIf, format, frame, interval⟩ ctrl) :
      Tried width height minFps maxFps streamIf format sent
        (sent ++ [.claim streamIf.bInterfaceNumber] ++ gets, ctrl, .returned 0)

theorem tried_format (camera : Answering) (info : DeviceInfo)
    (width height minFps maxFps : ℤ) (streamIf : StreamingInterface) (format : FormatDesc)
    (sent : List Request) (ctrl : StreamCtrl) :
    Tried width height minFps maxFps streamIf format sent
      (uvcGetStreamCtrlFormat camera info width height minFps maxFps streamIf format sent
        ctrl) := by
  rw [uvcGetStreamCtrlFormat]
  simp only
  by_cases hclaim : (camera (sent ++ [.claim streamIf.bInterfaceNumber])).result ≠ 0
  · have hnone : AllGets streamIf.bInterfaceNumber [] := List.forall_mem_nil _
    have htried : Tried width height minFps maxFps streamIf format sent
        (sent ++ [.claim streamIf.bInterfaceNumber] ++ [] ++ [.release streamIf.bInterfaceNumber],
          { ctrl with bInterfaceNumber := streamIf.bInterfaceNumber },
          .returned (camera (sent ++ [.claim streamIf.bInterfaceNumber])).result) :=
      .refused hnone hclaim
    rw [List.append_nil] at htried
    rw [if_pos hclaim]
    exact htried
  · rw [if_neg hclaim]
    have hfirst := read_prepare camera info (sent ++ [.claim streamIf.bInterfaceNumber])
      { ctrl with bInterfaceNumber := streamIf.bInterfaceNumber }
    generalize prepareStreamCtrl camera info (sent ++ [.claim streamIf.bInterfaceNumber])
      { ctrl with bInterfaceNumber := streamIf.bInterfaceNumber } = first at hfirst ⊢
    obtain ⟨sent', ctrl', result⟩ := first
    have hsecond := hfirst.trans (read_prepare camera info sent' ctrl')
    simp only
    generalize prepareStreamCtrl camera info sent' ctrl' = second at hsecond ⊢
    obtain ⟨sent'', ctrl'', result'⟩ := second
    obtain ⟨gets, hgets, hsent, hnumber⟩ := hsecond
    simp only at hsent hnumber
    subst hsent
    simp only
    by_cases hresult : result' ≠ 0
    · rw [if_pos hresult]
      exact .refused hgets hresult
    · rw [if_neg hresult]
      have hspec := searchFrames_spec width height minFps maxFps format.frameDescs
      cases hsearch : searchFrames width height minFps maxFps format.frameDescs with
      | nothing => exact .refused hgets (by decide)
      | dividesByZero =>
        rw [hsearch] at hspec
        exact .divided hgets hspec
      | mode found =>
        rw [hsearch] at hspec
        exact .chosen hgets hspec.1 hspec.2.1 hspec.2.2 ⟨hnumber, rfl, rfl, rfl, rfl⟩

/-! ### The whole search -/

/-- Nothing is held, and the camera was not asked for a mode. -/
def Idle (sent : List Request) : Prop := outstanding sent = [] ∧ ∀ request ∈ sent, ¬ request.IsSet

/-- What is held after a claim and some reading. -/
theorem outstanding_claim_gets {sent gets : List Request} {number : UInt8}
    (hidle : Idle sent) (hgets : AllGets number gets) :
    outstanding (sent ++ [.claim number] ++ gets) = [number] := by
  rw [outstanding_append_gets hgets, outstanding_claim hidle.1]

theorem not_isSet_claim_gets {sent gets : List Request} {number : UInt8}
    (hidle : Idle sent) (hgets : AllGets number gets) :
    ∀ request ∈ sent ++ [.claim number] ++ gets, ¬ request.IsSet := by
  have hclaim : ∀ request ∈ [Request.claim number], ¬ request.IsSet :=
    List.forall_mem_singleton.mpr id
  exact List.forall_mem_append.mpr
    ⟨List.forall_mem_append.mpr ⟨hidle.2, hclaim⟩, hgets.not_isSet⟩

/-- A refused format leaves nothing behind. -/
theorem Idle.refused {sent gets : List Request} {number : UInt8} (hidle : Idle sent)
    (hgets : AllGets number gets) :
    Idle (sent ++ [.claim number] ++ gets ++ [.release number]) := by
  have hrelease : ∀ request ∈ [Request.release number], ¬ request.IsSet :=
    List.forall_mem_singleton.mpr id
  exact ⟨outstanding_release (outstanding_claim_gets hidle hgets),
    List.forall_mem_append.mpr ⟨not_isSet_claim_gets hidle hgets, hrelease⟩⟩

/-- The camera was asked for a mode, or for none. -/
def OnlyAsks (bcdUVC : UInt16) (mode : Mode) (sent : List Request) : Prop :=
  ∀ request ∈ sent, request.IsSet → ∃ ctrl, mode.Fills ctrl ∧
    request = .control mode.streamIf.bInterfaceNumber true .setCur (encodeCtrl bcdUVC ctrl)

/-- What is held after a probe. -/
theorem outstanding_probe {sent : List Request} {number : UInt8}
    (hheld : outstanding sent = [number]) :
    outstanding (sent ++ [.claim number]) = [number] := by
  rw [outstanding, List.foldl_append, ← outstanding, hheld]
  exact List.insert_of_mem (List.mem_singleton.mpr rfl)

/-- What a probe of a mode sends. -/
theorem probe_asks (camera : Answering) (info : DeviceInfo) {mode : Mode} {ctrl : StreamCtrl}
    (hfills : mode.Fills ctrl) {sent : List Request}
    (hheld : outstanding sent = [mode.streamIf.bInterfaceNumber])
    (hset : ∀ request ∈ sent, ¬ request.IsSet) :
    outstanding (uvcProbeStreamCtrl camera info sent ctrl).1 =
        [mode.streamIf.bInterfaceNumber] ∧
      OnlyAsks info.bcdUVC mode (uvcProbeStreamCtrl camera info sent ctrl).1 := by
  obtain ⟨hnumber, -, -, -, -⟩ := id hfills
  have hclaimed : outstanding (sent ++ [.claim ctrl.bInterfaceNumber]) =
      [mode.streamIf.bInterfaceNumber] := by
    rw [hnumber]
    exact outstanding_probe hheld
  have hasks : OnlyAsks info.bcdUVC mode (sent ++ [.claim ctrl.bInterfaceNumber]) := by
    intro request hrequest hisSet
    rcases List.mem_append.mp hrequest with hbefore | hclaim
    · exact absurd hisSet (hset request hbefore)
    · rw [List.mem_singleton.mp hclaim] at hisSet
      exact hisSet.elim
  rw [uvcProbeStreamCtrl]
  simp only
  by_cases hresult : (camera (sent ++ [.claim ctrl.bInterfaceNumber])).result ≠ 0
  · rw [if_pos hresult]
    exact ⟨hclaimed, hasks⟩
  · rw [if_neg hresult]
    obtain ⟨hsent, hctrl⟩ :=
      query_set camera info (sent ++ [.claim ctrl.bInterfaceNumber]) ctrl true
    have hheldSet : outstanding (sent ++ [.claim ctrl.bInterfaceNumber] ++
        [.control ctrl.bInterfaceNumber true .setCur (encodeCtrl info.bcdUVC ctrl)]) =
          [mode.streamIf.bInterfaceNumber] := by
      rw [outstanding, List.foldl_append, ← outstanding, hclaimed]
      rfl
    have hasksSet : OnlyAsks info.bcdUVC mode (sent ++ [.claim ctrl.bInterfaceNumber] ++
        [.control ctrl.bInterfaceNumber true .setCur (encodeCtrl info.bcdUVC ctrl)]) := by
      intro request hrequest hisSet
      rcases List.mem_append.mp hrequest with hbefore | hlast
      · exact hasks request hbefore hisSet
      · rw [List.mem_singleton.mp hlast, hnumber]
        exact ⟨ctrl, hfills, rfl⟩
    generalize uvcQueryStreamCtrl camera info (sent ++ [.claim ctrl.bInterfaceNumber]) ctrl true
      .setCur = asked at hsent hctrl ⊢
    obtain ⟨sent', ctrl', result⟩ := asked
    simp only at hsent hctrl
    subst hsent hctrl
    simp only
    by_cases herror : result ≠ 0
    · rw [if_pos herror]
      exact ⟨hheldSet, hasksSet⟩
    · rw [if_neg herror]
      obtain ⟨gets, hgets, hlater, -⟩ := read_query camera info (sent ++
        [.claim ctrl'.bInterfaceNumber] ++ [.control ctrl'.bInterfaceNumber true .setCur
          (encodeCtrl info.bcdUVC ctrl')]) ctrl' .getCur (by decide)
      rw [hlater, outstanding_append_gets hgets]
      refine ⟨hheldSet, fun request hrequest hisSet ↦ ?_⟩
      rcases List.mem_append.mp hrequest with hbefore | hget
      · exact hasksSet request hbefore hisSet
      · exact absurd hisSet (hgets.not_isSet request hget)

/-- How the search ends: with no mode and nothing held, or with a division by zero, or with one mode
that is asked for and its interface held. -/
inductive Negotiated (info : DeviceInfo) (cf : FrameFormat) (width height minFps maxFps : ℤ) :
    List Request × StreamCtrl × Outcome → Prop
  | noMode {sent : List Request} {ctrl : StreamCtrl} (hidle : Idle sent) :
      Negotiated info cf width height minFps maxFps
        (sent, ctrl, .returned uvcErrorInvalidMode)
  | divided {sent : List Request} {ctrl : StreamCtrl} {streamIf : StreamingInterface}
      {format : FormatDesc} {frame : FrameDesc} (hlisted : (streamIf, format) ∈ info.formats)
      (hframe : frame ∈ format.frameDescs) (hsize : frame.HasSize width height)
      (hstepless : frame.Stepless) (hset : ∀ request ∈ sent, ¬ request.IsSet)
      (hheld : outstanding sent = [streamIf.bInterfaceNumber]) :
      Negotiated info cf width height minFps maxFps (sent, ctrl, .dividesByZero)
  | asked {sent : List Request} {ctrl : StreamCtrl} {result : ℤ} {mode : Mode}
      (hoffers : info.Offers cf width height minFps maxFps mode)
      (hasks : OnlyAsks info.bcdUVC mode sent)
      (hheld : outstanding sent = [mode.streamIf.bInterfaceNumber]) :
      Negotiated info cf width height minFps maxFps (sent, ctrl, .returned result)

theorem negotiated_tryFormats (camera : Answering) (info : DeviceInfo) (cf : FrameFormat)
    (width height minFps maxFps : ℤ) (formats : List (StreamingInterface × FormatDesc))
    (hlisted : ∀ listed ∈ formats, listed ∈ info.formats) (sent : List Request)
    (ctrl : StreamCtrl) (hidle : Idle sent) :
    Negotiated info cf width height minFps maxFps
      (tryFormats camera info cf width height minFps maxFps formats sent ctrl) := by
  induction formats generalizing sent ctrl with
  | nil => exact .noMode hidle
  | cons listed formats ih =>
    obtain ⟨streamIf, format⟩ := listed
    have hmore : ∀ listed ∈ formats, listed ∈ info.formats := fun other hother ↦
      hlisted other (List.mem_cons_of_mem _ hother)
    rw [tryFormats]
    by_cases hnamed : uvcFrameFormatMatchesGuid cf format.guidFormat = true
    · rw [if_pos hnamed]
      have htried := tried_format camera info width height minFps maxFps streamIf format sent ctrl
      generalize uvcGetStreamCtrlFormat camera info width height minFps maxFps streamIf format sent
        ctrl = result at htried ⊢
      cases htried with
      | refused hgets hresult =>
        simp only [if_neg hresult]
        exact ih hmore _ _ (hidle.refused hgets)
      | divided hgets hstepless =>
        obtain ⟨frame, hframe, hsize, hstep⟩ := hstepless
        exact .divided (hlisted _ List.mem_cons_self) hframe hsize hstep
          (not_isSet_claim_gets hidle hgets) (outstanding_claim_gets hidle hgets)
      | @chosen gets ctrl' frame interval hgets hframe hsize hrate hfills =>
        have hprobe := probe_asks camera info hfills (outstanding_claim_gets hidle hgets)
          (not_isSet_claim_gets hidle hgets)
        simp only [if_true]
        exact .asked ⟨hlisted _ List.mem_cons_self, hnamed, hframe, hsize, hrate⟩ hprobe.2 hprobe.1
    · rw [if_neg hnamed]
      exact ih hmore sent ctrl hidle

/-- Whatever the camera answers, it is asked for nothing but one mode that it offers, and the search
holds at its end the interface of that mode, or none where there was no mode. -/
theorem negotiation_asks (camera : Answering) (info : DeviceInfo) (cf : FrameFormat)
    (width height minFps maxFps : ℤ) :
    Negotiated info cf width height minFps maxFps
      (uvcGetStreamCtrlFormatSizeFps camera info cf width height minFps maxFps) :=
  negotiated_tryFormats camera info cf width height minFps maxFps info.formats
    (fun _ hlisted ↦ hlisted) [] .zero ⟨rfl, List.forall_mem_nil _⟩

/-! ### A camera that refuses nothing -/

/-- Every claim succeeds, and every control block is transferred whole. -/
structure Obliging (camera : Answering) (bcdUVC : UInt16) : Prop where
  claims : ∀ sent number, (camera (sent ++ [.claim number])).result = 0
  transfers : ∀ sent number probe kind block,
    (blockLength bcdUVC : ℤ) ≤ (camera (sent ++ [.control number probe kind block])).result

section Obliging

variable {camera : Answering} {info : DeviceInfo} (h : Obliging camera info.bcdUVC)
include h

theorem obliging_query (sent : List Request) (ctrl : StreamCtrl) (probe : Bool)
    (kind : VsRequest) : (uvcQueryStreamCtrl camera info sent ctrl probe kind).2.2 = 0 := by
  have hpos := blockLength_pos info.bcdUVC
  have htransfers := h.transfers sent ctrl.bInterfaceNumber probe kind
    (if kind = .setCur then encodeCtrl info.bcdUVC ctrl else [])
  rw [uvcQueryStreamCtrl, if_neg (by omega), if_neg (by omega)]
  split_ifs <;> rfl

theorem obliging_prepare (sent : List Request) (ctrl : StreamCtrl) :
    (prepareStreamCtrl camera info sent ctrl).2.2 = 0 := by
  have hcur := obliging_query h sent ctrl true .getCur
  rw [prepareStreamCtrl]
  generalize uvcQueryStreamCtrl camera info sent ctrl true .getCur = current at hcur ⊢
  obtain ⟨sent', ctrl', result⟩ := current
  have hmin := obliging_query h sent' ctrl' true .getMin
  simp only at hcur
  simp only [hcur, ne_eq, not_true_eq_false, if_false]
  generalize uvcQueryStreamCtrl camera info sent' ctrl' true .getMin = least at hmin ⊢
  obtain ⟨sent'', ctrl'', result'⟩ := least
  simp only at hmin
  simp only [hmin, not_true_eq_false, if_false]
  exact obliging_query h sent'' ctrl'' true .getMax

theorem obliging_probe (sent : List Request) (ctrl : StreamCtrl) :
    (uvcProbeStreamCtrl camera info sent ctrl).2.2 = 0 := by
  have hset := obliging_query h (sent ++ [.claim ctrl.bInterfaceNumber]) ctrl true .setCur
  rw [uvcProbeStreamCtrl]
  simp only [h.claims, ne_eq, not_true_eq_false, if_false]
  generalize uvcQueryStreamCtrl camera info (sent ++ [.claim ctrl.bInterfaceNumber]) ctrl true
    .setCur = asked at hset ⊢
  obtain ⟨sent', ctrl', result⟩ := asked
  simp only at hset
  simp only [hset, not_true_eq_false, if_false]
  exact obliging_query h sent' ctrl' true .getCur

/-- What a format comes to, by its frames alone. -/
theorem obliging_format (width height minFps maxFps : ℤ) (streamIf : StreamingInterface)
    (format : FormatDesc) (sent : List Request) (ctrl : StreamCtrl) :
    (uvcGetStreamCtrlFormat camera info width height minFps maxFps streamIf format sent
        ctrl).2.2 =
      match searchFrames width height minFps maxFps format.frameDescs with
      | .mode _ => .returned 0
      | .nothing => .returned uvcErrorInvalidMode
      | .dividesByZero => .dividesByZero := by
  rw [uvcGetStreamCtrlFormat]
  simp only [h.claims, ne_eq, not_true_eq_false, if_false]
  generalize prepareStreamCtrl camera info (sent ++ [.claim streamIf.bInterfaceNumber])
    { ctrl with bInterfaceNumber := streamIf.bInterfaceNumber } = first
  obtain ⟨sent', ctrl', result⟩ := first
  have hprepared := obliging_prepare h sent' ctrl'
  simp only
  generalize prepareStreamCtrl camera info sent' ctrl' = second at hprepared ⊢
  obtain ⟨sent'', ctrl'', result'⟩ := second
  simp only at hprepared
  simp only [hprepared, not_true_eq_false, if_false]
  cases searchFrames width height minFps maxFps format.frameDescs <;> rfl

theorem obliging_tryFormats (cf : FrameFormat) (width height minFps maxFps : ℤ)
    (formats : List (StreamingInterface × FormatDesc))
    (hsteps : ∀ listed ∈ formats, ∀ frame ∈ listed.2.frameDescs, ¬ frame.Stepless)
    (sent : List Request) (ctrl : StreamCtrl) :
    (tryFormats camera info cf width height minFps maxFps formats sent ctrl).2.2 = .returned 0 ∧
        (∃ listed ∈ formats, uvcFrameFormatMatchesGuid cf listed.2.guidFormat = true ∧
          ∃ frame ∈ listed.2.frameDescs, frame.HasSize width height ∧
            ∃ interval, frame.Rate minFps maxFps interval) ∨
      (tryFormats camera info cf width height minFps maxFps formats sent ctrl).2.2 =
          .returned uvcErrorInvalidMode ∧
        ∀ listed ∈ formats, uvcFrameFormatMatchesGuid cf listed.2.guidFormat = true →
          ∀ frame ∈ listed.2.frameDescs, frame.HasSize width height →
            ∀ interval, ¬ frame.Rate minFps maxFps interval := by
  induction formats generalizing sent ctrl with
  | nil => exact Or.inr ⟨rfl, List.forall_mem_nil _⟩
  | cons listed formats ih =>
    obtain ⟨streamIf, format⟩ := listed
    obtain ⟨hhere, hmore⟩ := List.forall_mem_cons.mp hsteps
    rw [tryFormats]
    by_cases hnamed : uvcFrameFormatMatchesGuid cf format.guidFormat = true
    · rw [if_pos hnamed]
      have hformat := obliging_format h width height minFps maxFps streamIf format sent ctrl
      have hspec := searchFrames_spec width height minFps maxFps format.frameDescs
      generalize uvcGetStreamCtrlFormat camera info width height minFps maxFps streamIf format sent
        ctrl = result at hformat ⊢
      obtain ⟨sent', ctrl', outcome⟩ := result
      simp only at hformat
      cases hsearch : searchFrames width height minFps maxFps format.frameDescs with
      | dividesByZero =>
        rw [hsearch] at hspec
        obtain ⟨frame, hframe, -, hstepless⟩ := hspec
        exact absurd hstepless (hhere frame hframe)
      | mode found =>
        rw [hsearch] at hspec hformat
        rw [hformat]
        simp only [if_true]
        refine Or.inl ⟨?_, (streamIf, format), List.mem_cons_self, hnamed, found.1, hspec.1,
          hspec.2.1, found.2, hspec.2.2⟩
        exact congrArg Outcome.returned (obliging_probe h sent' ctrl')
      | nothing =>
        rw [hsearch] at hspec hformat
        have hother : uvcErrorInvalidMode ≠ 0 := by decide
        rw [hformat]
        simp only [if_neg hother]
        refine (ih hmore sent' ctrl').imp ?_ ?_
        · rintro ⟨hresult, other, hlisted, hoffered⟩
          exact ⟨hresult, other, List.mem_cons_of_mem _ hlisted, hoffered⟩
        · rintro ⟨hresult, hnone⟩
          exact ⟨hresult, List.forall_mem_cons.mpr ⟨fun _ ↦ hspec, hnone⟩⟩
    · rw [if_neg hnamed]
      refine (ih hmore sent ctrl).imp ?_ ?_
      · rintro ⟨hresult, other, hlisted, hoffered⟩
        exact ⟨hresult, other, List.mem_cons_of_mem _ hlisted, hoffered⟩
      · rintro ⟨hresult, hnone⟩
        exact ⟨hresult, List.forall_mem_cons.mpr ⟨fun hname ↦ absurd hname hnamed, hnone⟩⟩

/-- The two ends of a search. -/
theorem obliging_search (cf : FrameFormat) (width height minFps maxFps : ℤ)
    (hsteps : ∀ listed ∈ info.formats, ∀ frame ∈ listed.2.frameDescs, ¬ frame.Stepless) :
    (uvcGetStreamCtrlFormatSizeFps camera info cf width height minFps maxFps).2.2 = .returned 0 ∧
        (∃ mode, info.Offers cf width height minFps maxFps mode) ∨
      (uvcGetStreamCtrlFormatSizeFps camera info cf width height minFps maxFps).2.2 =
          .returned uvcErrorInvalidMode ∧
        ¬ ∃ mode, info.Offers cf width height minFps maxFps mode := by
  rcases obliging_tryFormats h cf width height minFps maxFps info.formats hsteps [] .zero with
    ⟨hresult, listed, hlisted, hnamed, frame, hframe, hsize, interval, hrate⟩ | ⟨hresult, hnone⟩
  · exact Or.inl ⟨hresult,
      ⟨listed.1, listed.2, frame, interval⟩, hlisted, hnamed, hframe, hsize, hrate⟩
  · refine Or.inr ⟨hresult, ?_⟩
    rintro ⟨mode, hoffers⟩
    exact hnone _ hoffers.listed hoffers.named mode.frame hoffers.framed hoffers.sized
      mode.interval hoffers.rated

/-- Of a camera that refuses nothing, all of whose ranges have steps, a mode is got exactly where it
offers one, and otherwise the search says that there is none. -/
theorem negotiation_succeeds_iff (cf : FrameFormat) (width height minFps maxFps : ℤ)
    (hsteps : ∀ listed ∈ info.formats, ∀ frame ∈ listed.2.frameDescs, ¬ frame.Stepless) :
    ((uvcGetStreamCtrlFormatSizeFps camera info cf width height minFps maxFps).2.2 =
        .returned 0 ↔ ∃ mode, info.Offers cf width height minFps maxFps mode) ∧
      ((uvcGetStreamCtrlFormatSizeFps camera info cf width height minFps maxFps).2.2 =
        .returned uvcErrorInvalidMode ↔
          ¬ ∃ mode, info.Offers cf width height minFps maxFps mode) := by
  have hdiffer : Outcome.returned 0 ≠ .returned uvcErrorInvalidMode := by decide
  rcases obliging_search h cf width height minFps maxFps hsteps with
    ⟨hresult, hoffers⟩ | ⟨hresult, hnone⟩
  · rw [hresult]
    exact ⟨iff_of_true rfl hoffers, iff_of_false hdiffer (not_not_intro hoffers)⟩
  · rw [hresult]
    exact ⟨iff_of_false hdiffer.symm hnone, iff_of_true rfl hnone⟩

end Obliging

/-- A camera that refuses nothing, and transfers bytes that are all zero. -/
def blankCamera : Answering := fun sent ↦
  match sent.getLast? with
  | some (.claim _) | some (.release _) | none => ⟨0, []⟩
  | some (.control _ _ _ _) => ⟨48, []⟩

theorem obliging_blankCamera (bcdUVC : UInt16) : Obliging blankCamera bcdUVC where
  claims := fun sent number ↦ by rw [blankCamera, List.getLast?_concat]
  transfers := fun sent number probe kind block ↦ by
    rw [blankCamera, List.getLast?_concat]
    exact Int.ofNat_le.mpr (blockLength_le bcdUVC)

theorem negotiation_succeeds_iff_small :
    ((uvcGetStreamCtrlFormatSizeFps blankCamera smallInfo .mjpeg 640 480 1 30).2.2 =
        .returned 0 ↔ ∃ mode, smallInfo.Offers .mjpeg 640 480 1 30 mode) ∧
      ((uvcGetStreamCtrlFormatSizeFps blankCamera smallInfo .mjpeg 640 480 1 30).2.2 =
        .returned uvcErrorInvalidMode ↔
          ¬ ∃ mode, smallInfo.Offers .mjpeg 640 480 1 30 mode) := by
  have hsteps : ∀ listed ∈ smallInfo.formats, ∀ frame ∈ listed.2.frameDescs,
      ¬ frame.Stepless := by
    intro listed hlisted frame hframe hstepless
    obtain rfl := List.mem_singleton.mp (show listed ∈ [_] from hlisted)
    obtain rfl := List.mem_singleton.mp (show frame ∈ [_] from hframe)
    exact absurd hstepless.1 (Option.some_ne_none _)
  exact negotiation_succeeds_iff (obliging_blankCamera _) .mjpeg 640 480 1 30 hsteps

end UvcRtmpStream.Camera
