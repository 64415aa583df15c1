import UvcRtmpStream.Camera.DescriptorRoundTrip

/-!
# A camera taken in as it was said

The blocks of the control interface, and `uvc_get_device_info` on the whole: from a configuration
whose control interface says which interfaces are streaming interfaces, and each of these what
formats it has, the device information has all of it, in its order.
-/

set_option autoImplicit false
set_option relaxedAutoImplicit false

namespace UvcRtmpStream.Camera

open UvcRtmpStream.Foundations LittleEndian

/-! ### The units -/

theorem toNat_ofNat_of_le {n : ℕ} (h : n ≤ 255) : (UInt8.ofNat n).toNat = n := by
  rw [UInt8.toNat_ofNat']
  exact Nat.mod_eq_of_lt (by omega)

theorem uvcParseVc_camera (info : DeviceInfo) (spec : CameraTerminalSpec)
    (h : (UnitSpec.camera spec).Fits) (later : List UInt8) :
    uvcParseVc info (spec.encode ++ later) = .ok (info.addUnit (.camera spec)) := by
  have hfits : spec.controls.length ≤ 240 := h
  have hparse : uvcParseVc info (spec.encode ++ later) =
      uvcParseVcInputTerminal info (spec.encode ++ later) := rfl
  have hlength : 15 + spec.controls.length ≤ (spec.encode ++ later).length := by
    simp [CameraTerminalSpec.encode]
    omega
  have htype : swAt (fun offset ↦ (spec.encode ++ later).getD offset 0) 4 = 0x0201 :=
    joinSw_bytes 0x0201
  have hsize : ((spec.encode ++ later).getD 14 0).toNat = spec.controls.length :=
    toNat_ofNat_of_le (by omega)
  have hmin : swAt (fun offset ↦ (spec.encode ++ later).getD offset 0) 8 =
      spec.wObjectiveFocalLengthMin := joinSw_bytes _
  have hmax : swAt (fun offset ↦ (spec.encode ++ later).getD offset 0) 10 =
      spec.wObjectiveFocalLengthMax := joinSw_bytes _
  have hocular : swAt (fun offset ↦ (spec.encode ++ later).getD offset 0) 12 =
      spec.wOcularFocalLength := joinSw_bytes _
  have hcontrols : bytesAt (fun offset ↦ (spec.encode ++ later).getD offset 0) 15
      spec.controls.length = spec.controls :=
    bytesAt_append (spec.encode.take 15) spec.controls later
  rw [hparse, uvcParseVcInputTerminal, reads_of_le (by omega)]
  simp only [htype]
  rw [if_neg (by decide), reads_of_le (by omega)]
  simp only [hsize]
  rw [reads_of_le hlength]
  simp only [hmin, hmax, hocular, htype, hsize, hcontrols]
  simp only [DeviceInfo.addUnit, UnitSpec.inputTerminal, UnitSpec.processingUnit,
    UnitSpec.extensionUnit, Option.toList_some, Option.toList_none, List.append_nil]
  rfl

theorem uvcParseVc_processing (info : DeviceInfo) (spec : ProcessingUnitSpec)
    (h : (UnitSpec.processing spec).Fits) (later : List UInt8) :
    uvcParseVc info (spec.encode ++ later) = .ok (info.addUnit (.processing spec)) := by
  have hfits : spec.controls.length + spec.trailer.length ≤ 247 := h
  have hparse : uvcParseVc info (spec.encode ++ later) =
      uvcParseVcProcessingUnit info (spec.encode ++ later) := rfl
  have hlength : 8 + spec.controls.length ≤ (spec.encode ++ later).length := by
    simp [ProcessingUnitSpec.encode]
    omega
  have hsize : ((spec.encode ++ later).getD 7 0).toNat = spec.controls.length :=
    toNat_ofNat_of_le (by omega)
  have hcontrols : bytesAt (fun offset ↦ (spec.encode ++ later).getD offset 0) 8
      spec.controls.length = spec.controls := by
    have hbytes := bytesAt_append (spec.encode.take 8) spec.controls (spec.trailer ++ later)
    rw [← List.append_assoc spec.controls] at hbytes
    exact hbytes
  rw [hparse, uvcParseVcProcessingUnit, reads_of_le (by omega)]
  simp only [hsize]
  rw [reads_of_le hlength]
  simp only [hsize, hcontrols]
  simp only [DeviceInfo.addUnit, UnitSpec.inputTerminal, UnitSpec.processingUnit,
    UnitSpec.extensionUnit, Option.toList_some, Option.toList_none, List.append_nil]
  rfl

theorem uvcParseVc_extension (info : DeviceInfo) (spec : ExtensionUnitSpec)
    (h : (UnitSpec.extension spec).Fits) (later : List UInt8) :
    uvcParseVc info (spec.encode ++ later) = .ok (info.addUnit (.extension spec)) := by
  obtain ⟨hguid, hfits⟩ :
    spec.guidExtensionCode.length = 16 ∧ spec.pins.length + spec.controls.length ≤ 231 := h
  have hparse : uvcParseVc info (spec.encode ++ later) =
      uvcParseVcExtensionUnit info (spec.encode ++ later) := rfl
  -- the block in front of its name, of its pins and of its controls
  let front : List UInt8 :=
    [UInt8.ofNat (24 + spec.pins.length + spec.controls.length), 0x24, 0x06, spec.bUnitID]
  let named : List UInt8 := front ++ spec.guidExtensionCode
  let pinned : List UInt8 :=
    named ++ [spec.bNumControls, UInt8.ofNat spec.pins.length] ++ spec.pins
  let sized : List UInt8 := pinned ++ [UInt8.ofNat spec.controls.length]
  have hnamed : named.length = 20 := by simp [named, front, hguid]
  have hpinned : pinned.length = 22 + spec.pins.length := by
    simp [pinned, hnamed]
    omega
  have hsized : sized.length = 23 + spec.pins.length := by
    simp [sized, hpinned]
    omega
  have hblock : spec.encode ++ later =
      sized ++ (spec.controls ++ ([spec.iExtension] ++ later)) := by
    simp [ExtensionUnitSpec.encode, sized, pinned, named, front]
  have hlength : 23 + spec.pins.length + spec.controls.length ≤ (spec.encode ++ later).length := by
    rw [hblock, List.length_append, hsized, List.length_append]
    omega
  have hpins : ((spec.encode ++ later).getD 21 0).toNat = spec.pins.length := by
    have hat := getD_append_add named ([spec.bNumControls, UInt8.ofNat spec.pins.length] ++
      (spec.pins ++ ([UInt8.ofNat spec.controls.length] ++
        (spec.controls ++ ([spec.iExtension] ++ later))))) 1
    rw [hnamed] at hat
    have hbytes : spec.encode ++ later = named ++ ([spec.bNumControls,
        UInt8.ofNat spec.pins.length] ++ (spec.pins ++ ([UInt8.ofNat spec.controls.length] ++
          (spec.controls ++ ([spec.iExtension] ++ later))))) := by
      rw [hblock]
      simp [sized, pinned]
    rw [hbytes]
    exact (congrArg UInt8.toNat hat).trans (toNat_ofNat_of_le (by omega))
  have hsize : ((spec.encode ++ later).getD (22 + spec.pins.length) 0).toNat =
      spec.controls.length := by
    have hat := getD_append_add pinned ([UInt8.ofNat spec.controls.length] ++
      (spec.controls ++ ([spec.iExtension] ++ later))) 0
    rw [hpinned, Nat.add_zero, ← List.append_assoc] at hat
    rw [hblock]
    exact (congrArg UInt8.toNat hat).trans (toNat_ofNat_of_le (by omega))
  have hcontrols : bytesAt (fun offset ↦ (spec.encode ++ later).getD offset 0)
      (23 + spec.pins.length) spec.controls.length = spec.controls := by
    have hbytes := bytesAt_append sized spec.controls ([spec.iExtension] ++ later)
    rw [hsized] at hbytes
    rw [hblock]
    exact hbytes
  have hname : bytesAt (fun offset ↦ (spec.encode ++ later).getD offset 0) 4 16 =
      spec.guidExtensionCode := by
    have hbytes := bytesAt_append front spec.guidExtensionCode
      ([spec.bNumControls, UInt8.ofNat spec.pins.length] ++ (spec.pins ++
        ([UInt8.ofNat spec.controls.length] ++ (spec.controls ++ ([spec.iExtension] ++ later)))))
    rw [hguid] at hbytes
    have hfront : spec.encode ++ later = front ++ (spec.guidExtensionCode ++
        ([spec.bNumControls, UInt8.ofNat spec.pins.length] ++ (spec.pins ++
          ([UInt8.ofNat spec.controls.length] ++
            (spec.controls ++ ([spec.iExtension] ++ later)))))) := by
      rw [hblock]
      simp [sized, pinned, named]
    rw [hfront]
    exact hbytes
  rw [hparse, uvcParseVcExtensionUnit, reads_of_le (by omega)]
  simp only [hpins]
  rw [reads_of_le (by omega)]
  simp only [hsize]
  rw [reads_of_le hlength]
  simp only [hname, hcontrols]
  simp only [DeviceInfo.addUnit, UnitSpec.inputTerminal, UnitSpec.processingUnit,
    UnitSpec.extensionUnit, Option.toList_some, Option.toList_none, List.append_nil]
  rfl

theorem uvcParseVc_unit (info : DeviceInfo) (spec : UnitSpec) (h : spec.Fits)
    (later : List UInt8) : uvcParseVc info (spec.encode ++ later) = .ok (info.addUnit spec) := by
  cases spec with
  | camera spec => exact uvcParseVc_camera info spec h later
  | processing spec => exact uvcParseVc_processing info spec h later
  | extension spec => exact uvcParseVc_extension info spec h later
  | terminal bTerminalID wTerminalType payload =>
    have htype : swAt (fun offset ↦
        ((UnitSpec.terminal bTerminalID wTerminalType payload).encode ++ later).getD offset 0) 4 =
          wTerminalType := joinSw_bytes wTerminalType
    have hlength : 6 ≤
        ((UnitSpec.terminal bTerminalID wTerminalType payload).encode ++ later).length := by
      simp [UnitSpec.encode]
    have hparse : uvcParseVc info
        ((UnitSpec.terminal bTerminalID wTerminalType payload).encode ++ later) =
          uvcParseVcInputTerminal info
            ((UnitSpec.terminal bTerminalID wTerminalType payload).encode ++ later) := rfl
    rw [hparse, uvcParseVcInputTerminal, reads_of_le hlength]
    simp only [htype]
    rw [if_pos h.1]
    simp [DeviceInfo.addUnit, UnitSpec.inputTerminal, UnitSpec.processingUnit,
      UnitSpec.extensionUnit]
  | skipped spec =>
    have htype : (spec.encode ++ later).getD 1 0 = spec.bDescriptorType := rfl
    have hsubtype : (spec.encode ++ later).getD 2 0 = spec.bDescriptorSubtype := rfl
    have hsame : info.addUnit (.skipped spec) = info := by
      simp [DeviceInfo.addUnit, UnitSpec.inputTerminal, UnitSpec.processingUnit,
        UnitSpec.extensionUnit]
    rw [UnitSpec.encode, uvcParseVc, htype, hsubtype, hsame]
    rcases h.2 with hother | hpast
    · rw [if_pos hother]
    · simp only [List.mem_cons, List.not_mem_nil, or_false] at hpast
      rcases hpast with houtput | hselector
      · rw [houtput]
        split <;> rfl
      · rw [hselector]
        split <;> rfl

/-! ### The header -/

/-- Streaming interfaces behind those that are there. -/
def DeviceInfo.addStreams (info : DeviceInfo) (streamIfs : List StreamingInterface) : DeviceInfo :=
  { info with streamIfs := info.streamIfs ++ streamIfs }

@[simp] theorem DeviceInfo.config_addStreams (info : DeviceInfo)
    (streamIfs : List StreamingInterface) : (info.addStreams streamIfs).config = info.config := rfl

theorem DeviceInfo.addStreams_nil (info : DeviceInfo) : info.addStreams [] = info := by
  simp [DeviceInfo.addStreams]

theorem DeviceInfo.addStreams_addStreams (info : DeviceInfo)
    (first second : List StreamingInterface) :
    (info.addStreams first).addStreams second = info.addStreams (first ++ second) := by
  simp [DeviceInfo.addStreams]

theorem uvcScanStreaming_described {streams : UInt8 → StreamingSpec} {info : DeviceInfo}
    {place : UInt8} (h : Describes streams info.config place) :
    uvcScanStreaming info place.toNat =
      .ok (info.addStreams [streamAt streams info.config place]) := by
  obtain ⟨hfits, interface, hplace, hbytes⟩ := h
  have hscan := scan_streaming_encode (streams place) hfits interface.bInterfaceNumber
  simp only [uvcScanStreaming, streamAt, hplace, hbytes, hscan]
  rfl

/-- The loop of the header, after a number of turns. -/
theorem foldlM_places {streams : UInt8 → StreamingSpec} {info : DeviceInfo} {front : List UInt8}
    (hfront : front.length = 12) (places later : List UInt8)
    (hdescribed : ∀ place ∈ places, Describes streams info.config place) (turns : ℕ)
    (hturns : turns ≤ places.length) :
    (List.range turns).foldlM
        (fun info place ↦ reads (front ++ (places ++ later)) (13 + place) fun byteAt ↦
          uvcScanStreaming info (byteAt (12 + place)).toNat) info =
      .ok (info.addStreams ((places.take turns).map (streamAt streams info.config))) := by
  induction turns with
  | zero =>
    rw [List.take_zero, List.map_nil, DeviceInfo.addStreams_nil]
    rfl
  | succ turns ih =>
    have hplace : turns < places.length := hturns
    have hneeded : 13 + turns ≤ (front ++ (places ++ later)).length := by
      rw [List.length_append, List.length_append]
      omega
    have hat := getD_append_add front (places ++ later) turns
    rw [hfront, List.getD_append _ _ _ _ hplace, List.getD_eq_getElem _ _ hplace] at hat
    have hdescribes : Describes streams (info.addStreams
        ((places.take turns).map (streamAt streams info.config))).config places[turns] :=
      hdescribed _ (List.getElem_mem hplace)
    rw [List.range_succ, List.foldlM_append, ih (by omega)]
    simp only [List.foldlM_cons, List.foldlM_nil, bind, Except.bind,
      reads_of_le hneeded, hat, uvcScanStreaming_described hdescribes,
      DeviceInfo.addStreams_addStreams, DeviceInfo.config_addStreams]
    rw [List.take_add_one, List.getElem?_eq_getElem hplace, List.map_append]
    rfl

theorem uvcParseVc_header {streams : UInt8 → StreamingSpec} (info : DeviceInfo)
    (spec : ControlSpec) (hversion : spec.bcdUVC ∈ knownVersions)
    (hplaces : spec.baInterfaceNr.length ≤ 243)
    (hdescribed : ∀ place ∈ spec.baInterfaceNr, Describes streams info.config place)
    (later : List UInt8) :
    uvcParseVc info (spec.header ++ later) =
      .ok ({ info with bcdUVC := spec.bcdUVC }.addStreams
        (spec.baInterfaceNr.map (streamAt streams info.config))) := by
  have hparse : uvcParseVc info (spec.header ++ later) =
      uvcParseVcHeader info (spec.header ++ later) := rfl
  have hneeded : 5 ≤ (spec.header ++ later).length := by
    simp [ControlSpec.header]
  have hread : swAt (fun offset ↦ (spec.header ++ later).getD offset 0) 3 = spec.bcdUVC :=
    joinSw_bytes _
  have hsize : ((spec.header ++ later).getD 0 0).toNat = 12 + spec.baInterfaceNr.length :=
    toNat_ofNat_of_le (by omega)
  have hfront : (spec.header.take 12).length = 12 := rfl
  have hdescribedHere : ∀ place ∈ spec.baInterfaceNr,
      Describes streams { info with bcdUVC := spec.bcdUVC }.config place := hdescribed
  have hloop := foldlM_places hfront spec.baInterfaceNr later hdescribedHere
    spec.baInterfaceNr.length (Nat.le_refl _)
  simp only [knownVersions, List.mem_cons, List.not_mem_nil, or_false] at hversion
  rw [hparse, uvcParseVcHeader, reads_of_le hneeded]
  simp only [hread, hsize]
  rw [if_pos hversion, Nat.add_sub_cancel_left]
  rw [List.take_length] at hloop
  exact hloop

/-! ### The whole device -/

/-- What a block of the control interface does to the device information. -/
def DeviceInfo.take (streams : UInt8 → StreamingSpec) (info : DeviceInfo) :
    ControlBlock → DeviceInfo
  | .header spec => { info with bcdUVC := spec.bcdUVC }.addStreams
      (spec.baInterfaceNr.map (streamAt streams info.config))
  | .unit spec => info.addUnit spec

def DeviceInfo.Accepts (streams : UInt8 → StreamingSpec) (info : DeviceInfo) :
    ControlBlock → Prop
  | .header spec => spec.Fits ∧ ∀ place ∈ spec.baInterfaceNr, Describes streams info.config place
  | .unit spec => spec.Fits

/-- A block of the control interface says its own length. -/
theorem ControlBlock.length_encode {streams : UInt8 → StreamingSpec} {info : DeviceInfo}
    (block : ControlBlock) (h : info.Accepts streams block) :
    3 ≤ block.encode.length ∧ (block.encode.headD 0).toNat = block.encode.length := by
  cases block with
  | header spec =>
    have hplaces := h.1.places
    have hlength : spec.header.length = 12 + spec.baInterfaceNr.length := by
      simp [ControlSpec.header]
      omega
    have hfirst : spec.header.headD 0 = UInt8.ofNat (12 + spec.baInterfaceNr.length) := rfl
    rw [ControlBlock.encode, hfirst, hlength, toNat_ofNat_of_le (by omega)]
    omega
  | unit spec =>
    have hfits : spec.Fits := h
    cases spec with
    | camera spec =>
      have hcontrols : spec.controls.length ≤ 240 := hfits
      have hlength : spec.encode.length = 15 + spec.controls.length := by
        simp [CameraTerminalSpec.encode]
        omega
      have hfirst : spec.encode.headD 0 = UInt8.ofNat (15 + spec.controls.length) := rfl
      rw [ControlBlock.encode, UnitSpec.encode, hfirst, hlength, toNat_ofNat_of_le (by omega)]
      omega
    | processing spec =>
      have hcontrols : spec.controls.length + spec.trailer.length ≤ 247 := hfits
      have hlength : spec.encode.length = 8 + spec.controls.length + spec.trailer.length := by
        simp [ProcessingUnitSpec.encode]
        omega
      have hfirst : spec.encode.headD 0 =
          UInt8.ofNat (8 + spec.controls.length + spec.trailer.length) := rfl
      rw [ControlBlock.encode, UnitSpec.encode, hfirst, hlength, toNat_ofNat_of_le (by omega)]
      omega
    | extension spec =>
      obtain ⟨hguid, hpins⟩ : spec.guidExtensionCode.length = 16 ∧
        spec.pins.length + spec.controls.length ≤ 231 := hfits
      have hlength : spec.encode.length = 24 + spec.pins.length + spec.controls.length := by
        simp [ExtensionUnitSpec.encode, hguid]
        omega
      have hfirst : spec.encode.headD 0 =
          UInt8.ofNat (24 + spec.pins.length + spec.controls.length) := rfl
      rw [ControlBlock.encode, UnitSpec.encode, hfirst, hlength, toNat_ofNat_of_le (by omega)]
      omega
    | terminal bTerminalID wTerminalType payload =>
      have hpayload := hfits.2
      have hlength : (UnitSpec.terminal bTerminalID wTerminalType payload).encode.length =
          6 + payload.length := by
        simp [UnitSpec.encode]
        omega
      have hfirst : (UnitSpec.terminal bTerminalID wTerminalType payload).encode.headD 0 =
          UInt8.ofNat (6 + payload.length) := rfl
      rw [ControlBlock.encode, hfirst, hlength, toNat_ofNat_of_le (by omega)]
      omega
    | skipped spec =>
      have hpayload := hfits.1
      have hlength : spec.encode.length = 3 + spec.payload.length := by
        rw [OtherSpec.encode, List.length_append]
        rfl
      have hfirst : spec.encode.headD 0 = UInt8.ofNat (3 + spec.payload.length) := rfl
      rw [ControlBlock.encode, UnitSpec.encode, hfirst, hlength, toNat_ofNat_of_le (by omega)]
      omega

theorem uvcParseVc_block {streams : UInt8 → StreamingSpec} (info : DeviceInfo)
    (block : ControlBlock) (h : info.Accepts streams block) (later : List UInt8) :
    uvcParseVc info (block.encode ++ later) = .ok (info.take streams block) := by
  cases block with
  | header spec => exact uvcParseVc_header info spec h.1.version h.1.places h.2 later
  | unit spec => exact uvcParseVc_unit info spec h later

/-- The units go behind those that are there, each to its kind. -/
theorem accepted_units (streams : UInt8 → StreamingSpec) (info : DeviceInfo)
    (units : List UnitSpec) (hfits : ∀ unit ∈ units, unit.Fits) :
    BlockScanner.AcceptedAll (DeviceInfo.take streams) (DeviceInfo.Accepts streams) info
        (units.map .unit) ∧
      (units.map ControlBlock.unit).foldl (DeviceInfo.take streams) info = { info with
        inputTermDescs :=
          info.inputTermDescs ++ units.filterMap (·.inputTerminal info.requestOf)
        processingUnitDescs :=
          info.processingUnitDescs ++ units.filterMap (·.processingUnit info.requestOf)
        extensionUnitDescs :=
          info.extensionUnitDescs ++ units.filterMap (·.extensionUnit info.requestOf) } := by
  induction units generalizing info with
  | nil =>
    refine ⟨trivial, ?_⟩
    simp
  | cons unit units ih =>
    obtain ⟨haccepted, hfold⟩ := ih (info.addUnit unit) fun later hlater ↦
      hfits later (List.mem_cons_of_mem _ hlater)
    refine ⟨⟨hfits unit List.mem_cons_self, haccepted⟩, ?_⟩
    have hrequest : (info.addUnit unit).requestOf = info.requestOf := rfl
    rw [List.map_cons, List.foldl_cons, DeviceInfo.take, hfold, hrequest]
    simp only [DeviceInfo.addUnit, List.filterMap_eq_flatMap_toList, List.flatMap_cons,
      List.append_assoc]

/-- The scan of the control interface takes in what was said of the device. -/
theorem scan_control_encode {streams : UInt8 → StreamingSpec} (info : DeviceInfo)
    (spec : ControlSpec) (hfits : spec.Fits)
    (hdescribed : ∀ place ∈ spec.baInterfaceNr, Describes streams info.config place) :
    vcScanner.scan info spec.encode = .ok { info with
      bcdUVC := spec.bcdUVC
      inputTermDescs :=
        info.inputTermDescs ++ spec.units.filterMap (·.inputTerminal info.requestOf)
      processingUnitDescs :=
        info.processingUnitDescs ++ spec.units.filterMap (·.processingUnit info.requestOf)
      extensionUnitDescs :=
        info.extensionUnitDescs ++ spec.units.filterMap (·.extensionUnit info.requestOf)
      streamIfs := info.streamIfs ++ spec.baInterfaceNr.map (streamAt streams info.config) } := by
  obtain ⟨haccepted, hfold⟩ :=
    accepted_units streams (info.take streams (.header spec)) spec.units hfits.units
  have hall : BlockScanner.AcceptedAll (DeviceInfo.take streams) (DeviceInfo.Accepts streams) info
      spec.blocks := ⟨⟨hfits, hdescribed⟩, haccepted⟩
  have hencode : ∀ (info : DeviceInfo) (block : ControlBlock) (later : List UInt8),
      info.Accepts streams block → vcScanner.least ≤ (block.encode ++ later).length ∧
        block.encode ≠ [] ∧ vcScanner.size (block.encode ++ later) = block.encode.length ∧
          vcScanner.handle info (block.encode ++ later) = .ok (info.take streams block) := by
    intro info block later haccept
    obtain ⟨hleast, hsize⟩ := block.length_encode haccept
    cases hbytes : block.encode with
    | nil => simp [hbytes] at hleast
    | cons byte bytes =>
      have hparse := uvcParseVc_block info block haccept later
      rw [hbytes] at hleast hsize hparse
      refine ⟨?_, List.cons_ne_nil _ _, hsize, hparse⟩
      rw [List.length_append]
      exact Nat.le_add_right_of_le hleast
  have hscan := BlockScanner.scan_encodeAll (by decide) hencode hall
  rw [ControlSpec.encode, hscan, ControlSpec.blocks, List.foldl_cons, hfold]
  rfl

/-- What a camera says of itself is what the device information has of it: its version, its
terminals and units, and its streaming interfaces with their formats and frames. -/
theorem get_device_info_encode {isTIS : Bool} {config : List UsbInterface}
    {streams : UInt8 → StreamingSpec} {spec : ControlSpec} {interface : UsbInterface}
    (hcontrol : config.find? (·.IsControl isTIS) = some interface)
    (hextra : interface.extra = spec.encode) (hfits : spec.Fits)
    (hdescribed : ∀ place ∈ spec.baInterfaceNr, Describes streams config place) :
    uvcGetDeviceInfo isTIS config = .ok (spec.deviceInfo streams config
      (UInt8.ofNat (config.findIdx (·.IsControl isTIS)))
      ((interface.endpoints.head?.map Prod.fst).getD 0)) := by
  rw [uvcGetDeviceInfo, uvcScanControl]
  simp only [hcontrol, hextra]
  exact scan_control_encode _ spec hfits hdescribed

/-- A streaming interface with one MJPEG format, of one size. -/
def smallStream : StreamingSpec where
  header :=
    { bNumFormats := 1, wTotalLength := 65, bEndpointAddress := 0x81, bmInfo := 0
      bTerminalLink := 2, bStillCaptureMethod := 0, bTriggerSupport := 0, bTriggerUsage := 0
      bControlSize := 1, controls := [[0]] }
  formats :=
    [{ kind := .mjpeg, bFormatIndex := 1, guidFormat := List.replicate 16 0, bBitsPerPixel := 1
       bDefaultFrameIndex := 1, bAspectRatioX := 0, bAspectRatioY := 0, bmInterlaceFlags := 0
       bCopyProtect := 0, bVariableSize := 0
       frames :=
        [{ bFrameIndex := 1, bmCapabilities := 0, wWidth := 640, wHeight := 480
           dwMinBitRate := 1000, dwMaxBitRate := 2000, dwMaxVideoFrameBufferSize := 614400
           dwBytesPerLine := 0, dwDefaultFrameInterval := 333333
           timing := .discrete [333333, 666666] }]
       others := [{ bDescriptorType := 0x24, bDescriptorSubtype := 0x0d, payload := [1, 1, 4] }] }]

/-- A control interface with a camera and a processing unit. -/
def smallControl : ControlSpec where
  bcdUVC := 0x0100
  wTotalLength := 52
  dwClockFrequency := 48000000
  baInterfaceNr := [1]
  units :=
    [.camera
       { bTerminalID := 1, bAssocTerminal := 0, iTerminal := 0, wObjectiveFocalLengthMin := 0
         wObjectiveFocalLengthMax := 0, wOcularFocalLength := 0, controls := [0x0e, 0, 0] },
     .processing
       { bUnitID := 2, bSourceID := 1, wMaxMultiplier := 0, controls := [0x7f, 0x05]
         trailer := [0, 0] },
     .skipped
       { bDescriptorType := 0x24, bDescriptorSubtype := 0x03, payload := [3, 1, 1, 0, 2, 0] }]

def smallConfig : List UsbInterface :=
  [{ bInterfaceNumber := 0, bInterfaceClass := 14, bInterfaceSubClass := 1
     endpoints := [(0x83, [])], extra := smallControl.encode },
   { bInterfaceNumber := 1, bInterfaceClass := 14, bInterfaceSubClass := 2
     endpoints := [], extra := smallStream.encode }]

theorem get_device_info_encode_small :
    uvcGetDeviceInfo false smallConfig =
      .ok (smallControl.deviceInfo (fun _ ↦ smallStream) smallConfig 0 0x83) := by
  have hunits : ∀ unit ∈ smallControl.units, unit.Fits := by
    simp [smallControl, UnitSpec.Fits]
  have hblocks : ∀ block ∈ smallStream.blocks, block.Fits := by
    simp [smallStream, StreamingSpec.blocks, FormatSpec.blocks, StreamingBlock.Fits,
      FrameTiming.Fits]
  have hfits : smallControl.Fits := ⟨by decide, by decide, hunits⟩
  have hcontrol : smallConfig.find? (·.IsControl false) =
      some ⟨0, 14, 1, [(0x83, [])], smallControl.encode⟩ := rfl
  refine get_device_info_encode hcontrol rfl hfits fun place hplace ↦ ?_
  obtain rfl : place = 1 := by simpa [smallControl] using hplace
  exact ⟨hblocks, _, rfl, rfl⟩

end UvcRtmpStream.Camera
