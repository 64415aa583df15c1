import Mathlib.Data.List.DropRight
import UvcRtmpStream.Camera.Negotiation
import UvcRtmpStream.Foundations.Json

/-!
# The sizes a camera supports

What the service knows about the sizes of a camera goes through a text. `UVCDiags::getSupportedSize`
writes the formats of the device information as JSON, and `UVCCamera.getSupportedSize` reads the
sizes of one type of formats from it.

The writer has an object for each format, but fills it for uncompressed and MJPEG formats alone. The
reader asks each object for its type, and where there is none, the exception ends the reading: what
is behind an empty object is not read, whatever its type. `supported_sizes` is what remains.
-/

set_option autoImplicit false
set_option relaxedAutoImplicit false

namespace UvcRtmpStream.Camera

open UvcRtmpStream.Foundations

/-! ### Writing -/

/-- `snprintf` with `"%dx%d"`. -/
def FrameDesc.sizeText (frame : FrameDesc) : List Char :=
  Nat.toDigits 10 frame.wWidth.toNat ++ 'x' :: Nat.toDigits 10 frame.wHeight.toNat

/-- The format is `UVC_VS_FORMAT_UNCOMPRESSED` or `UVC_VS_FORMAT_MJPEG`. -/
def FormatDesc.IsListed (format : FormatDesc) : Prop :=
  format.bDescriptorSubtype = 0x04 ∨ format.bDescriptorSubtype = 0x06

instance (format : FormatDesc) : Decidable format.IsListed := inferInstanceAs (Decidable (_ ∨ _))

/-- `write`, for a number. -/
def writeNumber (writer : Writer) (key : String) (value : UInt8) : Writer :=
  (writer.text key.toList).number value.toNat

/-- The body of the loop over the formats. -/
def writeFormat (writer : Writer) (format : FormatDesc) : Writer :=
  let writer := writer.startObject
  let writer :=
    if format.IsListed then
      let writer := writeNumber writer "index" format.bFormatIndex
      let writer := writeNumber writer "type" format.bDescriptorSubtype
      let writer := writeNumber writer "default" format.bDefaultFrameIndex
      let writer := (writer.text "size".toList).startArray
      let writer := format.frameDescs.foldl (fun writer frame ↦ writer.text frame.sizeText) writer
      writer.endArray
    else writer
  writer.endObject

/-- `UVCDiags::getSupportedSize`. -/
def UVCDiags.getSupportedSize (info : DeviceInfo) : List Char :=
  let writer := Writer.new.startObject
  let writer :=
    if info.streamIfs = [] then writer
    else
      let writer := (writer.text "formats".toList).startArray
      let writer := info.streamIfs.foldl
        (fun writer streamIf ↦ streamIf.formatDescs.foldl writeFormat writer) writer
      writer.endArray
  writer.endObject.output

/-! ### Reading -/

/-- `com.serenegiant.usb.Size`, without its frame rates. -/
structure Size where
  type : Int32
  frameType : Int32
  index : Int32
  width : Int32
  height : Int32
  deriving DecidableEq

/-- `JSONObject.getJSONArray`, or none where it throws. -/
def getJSONArray (json : Json) (name : String) : Option (List Json) :=
  match json.get name.toList with
  | some (.array values) => some values
  | _ => none

/-- `JSONObject.getInt`, of a number. -/
def getInt (json : Json) (name : String) : Option Int32 :=
  match json.get name.toList with
  | some (.number value) => some (Int32.ofNat value)
  | _ => none

/-- `JSONArray.getString`. -/
def getString : Json → List Char
  | .text value => value
  | .number value => (Json.number value).print
  | .array values => (Json.array values).print
  | .object members => (Json.object members).print

/-- `Integer.parseInt`, or none where it throws. -/
def parseInt (text : List Char) : Option Int32 :=
  let digits := if text.head? = some '-' ∨ text.head? = some '+' then text.tail else text
  let magnitude := Nat.ofDigitChars 10 digits 0
  if digits = [] ∨ ¬ digits.all Char.isDigit then none
  else if text.head? = some '-' then
    if magnitude ≤ 2 ^ 31 then some (Int32.ofInt (-magnitude)) else none
  else if magnitude < 2 ^ 31 then some (Int32.ofInt magnitude)
  else none

/-- `String.split("x")`, which leaves out the empty strings at the end. -/
def splitAtX (text : List Char) : List (List Char) := (text.splitOn 'x').rdropWhile (· = [])

/-- The loop of `addSize`, from an index on. -/
def addSize (formatType : Int32) (index : ℕ) : List Json → List Size
  | [] => []
  | value :: values =>
    let parts := splitAtX (getString value)
    match parts[0]?.bind parseInt, parts[1]?.bind parseInt with
    | some width, some height =>
      ⟨formatType, 0, Int32.ofNat index, width, height⟩ :: addSize formatType (index + 1) values
    | _, _ => []

/-- The loop of `getSupportedSize`. An exception ends it, and leaves the sizes it has. -/
def addFormats (type : Int32) : List Json → List Size
  | [] => []
  | format :: formats =>
    match getInt format "type" with
    | none => []
    | some formatType =>
      if formatType = type ∨ type = -1 then
        match getJSONArray format "size" with
        | none => []
        | some sizes => addSize formatType 0 sizes ++ addFormats type formats
      else addFormats type formats

/-- `UVCCamera.getSupportedSize`. -/
def UVCCamera.getSupportedSize (type : Int32) (supportedSize : List Char) : List Size :=
  match (Json.readJson supportedSize).bind fun json ↦ getJSONArray json "formats" with
  | none => []
  | some formats => addFormats type formats

/-! ### What was written is read -/

/-- The object of a format. -/
def FormatDesc.json (format : FormatDesc) : Json :=
  .object <|
    if format.IsListed then
      [("index".toList, .number format.bFormatIndex.toNat),
        ("type".toList, .number format.bDescriptorSubtype.toNat),
        ("default".toList, .number format.bDefaultFrameIndex.toNat),
        ("size".toList, .array (format.frameDescs.map fun frame ↦ .text frame.sizeText))]
    else []

/-- The value that `UVCDiags::getSupportedSize` writes. -/
def DeviceInfo.json (info : DeviceInfo) : Json :=
  .object <|
    if info.streamIfs = [] then []
    else [("formats".toList, .array (info.formats.map fun listed ↦ listed.2.json))]

theorem putValues_map {α : Type*} (value : α → Json) (writer : Writer) (items : List α) :
    writer.putValues (items.map value) =
      items.foldl (fun writer item ↦ writer.put (value item)) writer := by
  induction items generalizing writer with
  | nil => rfl
  | cons item items ih => exact ih _

theorem writeFormat_eq (writer : Writer) (format : FormatDesc) :
    writeFormat writer format = writer.put format.json := by
  by_cases hlisted : format.IsListed
  · simp only [writeFormat, FormatDesc.json, hlisted, if_true, Writer.put, Writer.putMembers,
      putValues_map]
    rfl
  · simp only [writeFormat, FormatDesc.json, hlisted, if_false, Writer.put, Writer.putMembers]

theorem getSupportedSize_eq (info : DeviceInfo) :
    UVCDiags.getSupportedSize info = info.json.print := by
  rw [← Writer.output_put]
  by_cases hnone : info.streamIfs = []
  · simp only [UVCDiags.getSupportedSize, DeviceInfo.json, hnone, if_true, Writer.put,
      Writer.putMembers]
  · have hformats (writer : Writer) :
        info.streamIfs.foldl (fun writer streamIf ↦ streamIf.formatDescs.foldl writeFormat writer)
          writer = writer.putValues (info.formats.map fun listed ↦ listed.2.json) := by
      rw [putValues_map, DeviceInfo.formats, List.foldl_flatMap]
      congr
      funext writer streamIf
      rw [List.foldl_map]
      congr
      funext writer format
      exact writeFormat_eq writer format
    simp only [UVCDiags.getSupportedSize, DeviceInfo.json, hnone, if_false, Writer.put,
      Writer.putMembers, hformats]

/-- A number of 16 bits is read back. -/
theorem parseInt_toDigits (value : UInt16) :
    parseInt (Nat.toDigits 10 value.toNat) = some (Int32.ofNat value.toNat) := by
  have hdigits : ∀ c ∈ Nat.toDigits 10 value.toNat, c.isDigit = true :=
    fun c hc ↦ Nat.isDigit_of_mem_toDigits (by decide) (by decide) hc
  have hsign (sign : Char) (hsign : sign.isDigit = false) :
      (Nat.toDigits 10 value.toNat).head? ≠ some sign := by
    intro hhead
    have hmem := List.mem_of_head? hhead
    rw [hdigits sign hmem] at hsign
    exact absurd hsign (by decide)
  have hminus := hsign '-' (by decide)
  have hplus := hsign '+' (by decide)
  have hbound : value.toNat < 2 ^ 31 := lt_trans value.toNat_lt (by decide)
  have hall : (Nat.toDigits 10 value.toNat).all Char.isDigit = true := List.all_eq_true.mpr hdigits
  rw [parseInt]
  simp only [hminus, hplus, or_self, if_false, Nat.toDigits_ne_nil, hall, not_true_eq_false,
    Nat.ofDigitChars_ten_toDigits, hbound, if_true]
  rfl

theorem splitAtX_sizeText (frame : FrameDesc) :
    splitAtX frame.sizeText =
      [Nat.toDigits 10 frame.wWidth.toNat, Nat.toDigits 10 frame.wHeight.toNat] := by
  have hdigits (value : ℕ) : 'x' ∉ Nat.toDigits 10 value := fun hmem ↦
    absurd (Nat.isDigit_of_mem_toDigits (by decide) (by decide) hmem) (by decide)
  rw [splitAtX, FrameDesc.sizeText, List.splitOn_append_cons_self_of_not_mem (hdigits _),
    List.splitOn_eq_singleton (hdigits _)]
  simp [List.rdropWhile, Nat.toDigits_ne_nil]

/-- The size of a frame, at a place of its format. -/
def FrameDesc.size (formatType : Int32) (frame : FrameDesc) (index : ℕ) : Size :=
  ⟨formatType, 0, Int32.ofNat index, Int32.ofNat frame.wWidth.toNat,
    Int32.ofNat frame.wHeight.toNat⟩

theorem addSize_map (formatType : Int32) (index : ℕ) (frames : List FrameDesc) :
    addSize formatType index (frames.map fun frame ↦ .text frame.sizeText) =
      frames.mapIdx fun place frame ↦ frame.size formatType (index + place) := by
  induction frames generalizing index with
  | nil => rfl
  | cons frame frames ih =>
    rw [List.map_cons, addSize, getString, splitAtX_sizeText, List.mapIdx_cons]
    simp only [List.getElem?_cons_zero, List.getElem?_cons_succ, Option.bind_some,
      parseInt_toDigits]
    rw [ih]
    simp only [FrameDesc.size, add_zero, add_assoc, add_comm 1]

/-- The type of a format as the reader has it. -/
def FormatDesc.type (format : FormatDesc) : Int32 := Int32.ofNat format.bDescriptorSubtype.toNat

/-- The sizes of a format. -/
def FormatDesc.sizes (format : FormatDesc) : List Size :=
  format.frameDescs.mapIdx fun place frame ↦ frame.size format.type place

theorem getInt_json (format : FormatDesc) :
    getInt format.json "type" = if format.IsListed then some format.type else none := by
  by_cases hlisted : format.IsListed
  · rw [if_pos hlisted, getInt, FormatDesc.json, if_pos hlisted]
    rfl
  · rw [if_neg hlisted, getInt, FormatDesc.json, if_neg hlisted]
    rfl

theorem getJSONArray_json {format : FormatDesc} (hlisted : format.IsListed) :
    getJSONArray format.json "size" =
      some (format.frameDescs.map fun frame ↦ .text frame.sizeText) := by
  rw [getJSONArray, FormatDesc.json, if_pos hlisted]
  rfl

/-- The formats in front of the first that is neither uncompressed nor MJPEG. -/
def DeviceInfo.readable (info : DeviceInfo) : List FormatDesc :=
  (info.formats.map Prod.snd).takeWhile fun format ↦ format.IsListed

theorem addFormats_map (type : Int32) (formats : List FormatDesc) :
    addFormats type (formats.map FormatDesc.json) =
      ((formats.takeWhile fun format ↦ format.IsListed).filter fun format ↦
        format.type = type ∨ type = -1).flatMap FormatDesc.sizes := by
  induction formats with
  | nil => rfl
  | cons format formats ih =>
    rw [List.map_cons, addFormats, getInt_json]
    by_cases hlisted : format.IsListed
    · rw [if_pos hlisted, List.takeWhile_cons_of_pos (by simpa using hlisted), List.filter_cons]
      simp only
      by_cases htype : format.type = type ∨ type = -1
      · rw [if_pos htype, if_pos (by simpa using htype), getJSONArray_json hlisted,
          List.flatMap_cons]
        simp only
        rw [ih, addSize_map]
        simp only [zero_add, FormatDesc.sizes]
      · rw [if_neg htype, if_neg (by simpa using htype), ih]
    · rw [if_neg hlisted, List.takeWhile_cons_of_neg (by simpa using hlisted)]
      rfl

/-- What is read of the text of a camera are its formats. -/
theorem getSupportedSize_of_text (type : Int32) (info : DeviceInfo) :
    UVCCamera.getSupportedSize type (UVCDiags.getSupportedSize info) =
      addFormats type ((info.formats.map Prod.snd).map FormatDesc.json) := by
  rw [UVCCamera.getSupportedSize, getSupportedSize_eq, Json.readJson_print, Option.bind_some]
  by_cases hnone : info.streamIfs = []
  · rw [DeviceInfo.formats, DeviceInfo.json, if_pos hnone, hnone]
    rfl
  · have harray : getJSONArray info.json "formats" =
        some (info.formats.map fun listed ↦ listed.2.json) := by
      rw [DeviceInfo.json, if_neg hnone]
      rfl
    rw [harray, List.map_map]
    rfl

/-- The sizes that are read from the text of a camera are those of the formats of the type, up to
the first format of the camera that is neither uncompressed nor MJPEG. -/
theorem supported_sizes (type : Int32) (info : DeviceInfo) :
    UVCCamera.getSupportedSize type (UVCDiags.getSupportedSize info) =
      (info.readable.filter fun format ↦ format.type = type ∨ type = -1).flatMap
        FormatDesc.sizes := by
  rw [getSupportedSize_of_text, addFormats_map, DeviceInfo.readable]

end UvcRtmpStream.Camera
