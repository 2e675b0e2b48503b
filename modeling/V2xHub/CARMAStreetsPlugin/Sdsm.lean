import V2xHub.JsonCpp.Value

/-!
# Sensor data sharing messages as JSON

`J3224ToSDSMJsonConverter` and `JsonToJ3224SDSMConverter` on the structures of J3224. A pointer to an optional field is an
`Option`, a null pointer that is dereferenced is undefined (`none`). The extensions of the structures, which neither
converter looks at, are left out.
-/

namespace V2xHub.CARMAStreetsPlugin
open JsonCpp JsonCpp.Value

structure DDateTime where
  year : Option Int64
  month : Option Int64
  day : Option Int64
  hour : Option Int64
  minute : Option Int64
  second : Option Int64
  offset : Option Int64

structure Position3D where
  lat : Int64
  Long : Int64
  elevation : Option Int64

structure PositionalAccuracy where
  semiMajor : Int64
  semiMinor : Int64
  orientation : Int64

structure PositionOffsetXYZ where
  offsetX : Int64
  offsetY : Int64
  offsetZ : Option Int64

structure PositionConfidenceSet where
  pos : Int64
  elevation : Int64

structure AccelerationSet4Way where
  Long : Int64
  lat : Int64
  vert : Int64
  yaw : Int64

structure DetectedObjectCommonData where
  objType : Int64
  objTypeCfd : Int64
  objectID : Int64
  measurementTime : Int64
  timeConfidence : Int64
  pos : PositionOffsetXYZ
  posConfidence : PositionConfidenceSet
  speed : Int64
  speedConfidence : Int64
  speedZ : Option Int64
  speedConfidenceZ : Option Int64
  heading : Int64
  headingConf : Int64
  accel4way : Option AccelerationSet4Way
  accCfdX : Option Int64
  accCfdY : Option Int64
  accCfdZ : Option Int64
  accCfdYaw : Option Int64

structure Attitude where
  pitch : Int64
  roll : Int64
  yaw : Int64

structure AttitudeConfidence where
  pitchConfidence : Int64
  rollConfidence : Int64
  yawConfidence : Int64

structure AngularVelocity where
  pitchRate : Int64
  rollRate : Int64

structure AngularVelocityConfidence where
  pitchRateConfidence : Option Int64
  rollRateConfidence : Option Int64

structure VehicleSize where
  width : Int64
  length : Int64

structure VehicleSizeConfidence where
  vehicleWidthConfidence : Int64
  vehicleLengthConfidence : Int64
  vehicleHeightConfidence : Option Int64

/-- `lights` is a bit string, here the bytes of its buffer. -/
structure DetectedVehicleData where
  lights : Option (List UInt8)
  vehAttitude : Option Attitude
  vehAttitudeConfidence : Option AttitudeConfidence
  vehAngVel : Option AngularVelocity
  vehAngVelConfidence : Option AngularVelocityConfidence
  size : Option VehicleSize
  height : Option Int64
  vehicleSizeConfidence : Option VehicleSizeConfidence
  vehicleClass : Option Int64
  classConf : Option Int64

inductive PropelledInformation where
  | NOTHING
  | human (type : Int64)
  | animal (type : Int64)
  | motor (type : Int64)

structure DetectedVRUData where
  basicType : Option Int64
  propulsion : Option PropelledInformation
  attachment : Option Int64
  radius : Option Int64

structure ObstacleSize where
  width : Int64
  length : Int64
  height : Option Int64

structure ObstacleSizeConfidence where
  widthConfidence : Int64
  lengthConfidence : Int64
  heightConfidence : Option Int64

structure DetectedObstacleData where
  obstSize : ObstacleSize
  obstSizeConfidence : ObstacleSizeConfidence

inductive DetectedObjectOptionalData where
  | NOTHING
  | detVeh (data : DetectedVehicleData)
  | detVRU (data : DetectedVRUData)
  | detObst (data : DetectedObstacleData)

structure DetectedObjectData where
  detObjCommon : DetectedObjectCommonData
  detObjOptData : Option DetectedObjectOptionalData

structure SensorDataSharingMessage where
  msgCnt : Int64
  sourceID : List UInt8
  equipmentType : Int64
  sDSMTimeStamp : DDateTime
  refPos : Position3D
  refPosXYConf : PositionalAccuracy
  refPosElConf : Option Int64
  objects : List DetectedObjectData

/-! ### To JSON -/

/-- `std::hex` -/
def hexDigit (d : Nat) : UInt8 := if d < 10 then UInt8.ofNat (48 + d) else UInt8.ofNat (87 + d)

def hex (n : Nat) : Str := if n = 0 then [hexDigit 0] else (Nat.digits 16 n).reverse.map hexDigit

/-- The source id as a number in 64 bits. -/
def id_num (buf : List UInt8) : Nat := buf.foldl (fun n b => n <<< 8 % 2 ^ 64 ||| b.toNat) 0

/-- With `std::setfill('0')` and `std::setw(8)`. -/
def id_fill (buf : List UInt8) : Str := List.replicate (8 - (hex (id_num buf)).length) 48 ++ hex (id_num buf)

def DDateTime.toJson (t : DDateTime) : Option Value := do
  let year ← t.year
  let month ← t.month
  let day ← t.day
  let hour ← t.hour
  let minute ← t.minute
  let second ← t.second
  let offset ← t.offset
  return object [("year", int year), ("month", int month), ("day", int day), ("hour", int hour), ("minute", int minute),
    ("second", int second), ("offset", int offset)]

def Position3D.toJson (p : Position3D) : Option Value := do
  let elevation ← p.elevation
  return object [("lat", int p.lat), ("long", int p.Long), ("elevation", int elevation)]

def PositionalAccuracy.toJson (a : PositionalAccuracy) : Value :=
  object [("semi_major", int a.semiMajor), ("semi_minor", int a.semiMinor), ("orientation", int a.orientation)]

def PositionOffsetXYZ.toJson (p : PositionOffsetXYZ) : Option Value := do
  let offsetZ ← p.offsetZ
  return object [("offset_x", int p.offsetX), ("offset_y", int p.offsetY), ("offset_z", int offsetZ)]

def PositionConfidenceSet.toJson (c : PositionConfidenceSet) : Value :=
  object [("pos", int c.pos), ("elevation", int c.elevation)]

def AccelerationSet4Way.toJson (a : AccelerationSet4Way) : Value :=
  object [("long", int a.Long), ("lat", int a.lat), ("vert", int a.vert), ("yaw", int a.yaw)]

def DetectedObjectCommonData.toJson (c : DetectedObjectCommonData) : Option Value := do
  let pos ← c.pos.toJson
  let speedZ ← c.speedZ
  let speedConfidenceZ ← c.speedConfidenceZ
  let accel4way ← c.accel4way
  let accCfdX ← c.accCfdX
  let accCfdY ← c.accCfdY
  let accCfdZ ← c.accCfdZ
  let accCfdYaw ← c.accCfdYaw
  return object [("obj_type", int c.objType), ("obj_type_cfd", int c.objTypeCfd), ("object_id", int c.objectID),
    ("measurement_time", int c.measurementTime), ("time_confidence", int c.timeConfidence), ("pos", pos),
    ("pos_confidence", c.posConfidence.toJson), ("speed", int c.speed), ("speed_confidence", int c.speedConfidence),
    ("heading", int c.heading), ("heading_conf", int c.headingConf), ("speed_z", int speedZ),
    ("speed_confidence_z", int speedConfidenceZ), ("accel_4_way", accel4way.toJson), ("acc_cfd_x", int accCfdX),
    ("acc_cfd_y", int accCfdY), ("acc_cfd_z", int accCfdZ), ("acc_cfd_yaw", int accCfdYaw)]

def Attitude.toJson (a : Attitude) : Value :=
  object [("pitch", int a.pitch), ("roll", int a.roll), ("yaw", int a.yaw)]

def AttitudeConfidence.toJson (c : AttitudeConfidence) : Value :=
  object [("pitch_confidence", int c.pitchConfidence), ("roll_confidence", int c.rollConfidence),
    ("yaw_confidence", int c.yawConfidence)]

def AngularVelocity.toJson (v : AngularVelocity) : Value :=
  object [("pitch_rate", int v.pitchRate), ("roll_rate", int v.rollRate)]

def AngularVelocityConfidence.toJson (c : AngularVelocityConfidence) : Option Value := do
  let pitchRateConfidence ← c.pitchRateConfidence
  let rollRateConfidence ← c.rollRateConfidence
  return object [("pitch_rate_confidence", int pitchRateConfidence), ("roll_rate_confidence", int rollRateConfidence)]

def VehicleSize.toJson (s : VehicleSize) : Value := object [("width", int s.width), ("length", int s.length)]

def VehicleSizeConfidence.toJson (c : VehicleSizeConfidence) : Option Value := do
  let vehicleHeightConfidence ← c.vehicleHeightConfidence
  return object [("vehicle_width_confidence", int c.vehicleWidthConfidence),
    ("vehicle_length_confidence", int c.vehicleLengthConfidence),
    ("vehicle_height_confidence", int vehicleHeightConfidence)]

/-- Of the lights the first byte is written, as a decimal. -/
def DetectedVehicleData.toJson (v : DetectedVehicleData) : Option Value := do
  let lights ← (← v.lights).head?
  let vehAttitude ← v.vehAttitude
  let vehAttitudeConfidence ← v.vehAttitudeConfidence
  let vehAngVel ← v.vehAngVel
  let vehAngVelConfidence ← (← v.vehAngVelConfidence).toJson
  let size ← v.size
  let height ← v.height
  let vehicleSizeConfidence ← (← v.vehicleSizeConfidence).toJson
  let vehicleClass ← v.vehicleClass
  let classConf ← v.classConf
  return object [("lights", string (Printf.decimal lights.toNat)), ("veh_attitude", vehAttitude.toJson),
    ("veh_attitude_confidence", vehAttitudeConfidence.toJson), ("veh_ang_vel", vehAngVel.toJson),
    ("veh_ang_vel_confidence", vehAngVelConfidence), ("size", size.toJson), ("height", int height),
    ("vehicle_size_confidence", vehicleSizeConfidence), ("vehicle_class", int vehicleClass),
    ("vehicle_class_conf", int classConf)]

/-- All three propulsions are written as the human one. -/
def PropelledInformation.toJson : PropelledInformation → List (String × Value)
  | NOTHING => []
  | human type => [("propulsion", object [("human", int type)])]
  | animal type => [("propulsion", object [("human", int type)])]
  | motor type => [("propulsion", object [("human", int type)])]

def DetectedVRUData.toJson (v : DetectedVRUData) : Option Value := do
  let basicType ← v.basicType
  let propulsion ← v.propulsion
  let attachment ← v.attachment
  let radius ← v.radius
  return object (("basic_type", int basicType) :: propulsion.toJson ++
    [("attachment", int attachment), ("radius", int radius)])

def ObstacleSize.toJson (s : ObstacleSize) : Option Value := do
  let height ← s.height
  return object [("width", int s.width), ("length", int s.length), ("height", int height)]

def ObstacleSizeConfidence.toJson (c : ObstacleSizeConfidence) : Option Value := do
  let heightConfidence ← c.heightConfidence
  return object [("width_confidence", int c.widthConfidence), ("length_confidence", int c.lengthConfidence),
    ("height_confidence", int heightConfidence)]

def DetectedObstacleData.toJson (o : DetectedObstacleData) : Option Value := do
  let obstSize ← o.obstSize.toJson
  let obstSizeConfidence ← o.obstSizeConfidence.toJson
  return object [("obst_size", obstSize), ("obst_size_confidence", obstSizeConfidence)]

def DetectedObjectOptionalData.toJson : DetectedObjectOptionalData → Option Value
  | NOTHING => some null
  | detVeh data => do return object [("detected_vehicle_data", ← data.toJson)]
  | detVRU data => do return object [("detected_vru_data", ← data.toJson)]
  | detObst data => do return object [("detected_obstacle_data", ← data.toJson)]

def DetectedObjectData.toJson (o : DetectedObjectData) : Option Value := do
  let common ← o.detObjCommon.toJson
  match o.detObjOptData with
  | none => return object [("detected_object_data", object [("detected_object_common_data", common)])]
  | some data =>
    let optional ← data.toJson
    return object [("detected_object_data",
      object [("detected_object_common_data", common), ("detected_object_optional_data", optional)])]

def convertJ3224ToSDSMJSON (m : SensorDataSharingMessage) : Option Value := do
  let sDSMTimeStamp ← m.sDSMTimeStamp.toJson
  let refPos ← m.refPos.toJson
  let refPosElConf ← m.refPosElConf
  let objects ← m.objects.mapM DetectedObjectData.toJson
  return object ([("msg_cnt", int m.msgCnt), ("source_id", string (id_fill m.sourceID)),
    ("equipment_type", int m.equipmentType), ("sdsm_time_stamp", sDSMTimeStamp), ("ref_pos", refPos),
    ("ref_pos_xy_conf", m.refPosXYConf.toJson), ("ref_pos_el_conf", int refPosElConf)] ++
    if objects = [] then [] else [("objects", array objects)])

/-! ### From JSON -/

/-- The structure on the stack is not initialized. -/
def DDateTime.ofJson (uninitialized : DDateTime) (json : Value) : Except Exception DDateTime := do
  let year ← json.optionalAt "year" asInt64
  let month ← json.optionalAt "month" asInt64
  let day ← json.optionalAt "day" asInt64
  let hour ← json.optionalAt "hour" asInt64
  let minute ← json.optionalAt "minute" asInt64
  let second ← json.optionalAt "second" asInt64
  let offset ← json.optionalAt "offset" asInt64
  return {
    year := year.or uninitialized.year
    month := month.or uninitialized.month
    day := day.or uninitialized.day
    hour := hour.or uninitialized.hour
    minute := minute.or uninitialized.minute
    second := second.or uninitialized.second
    offset := offset.or uninitialized.offset }

def Position3D.ofJson (json : Value) : Except Exception Position3D := do
  return {
    lat := ← json.int64At "lat"
    Long := ← json.int64At "long"
    elevation := ← json.optionalAt "elevation" asInt64 }

def PositionalAccuracy.ofJson (json : Value) : Except Exception PositionalAccuracy := do
  return {
    semiMajor := ← json.int64At "semi_major"
    semiMinor := ← json.int64At "semi_minor"
    orientation := ← json.int64At "orientation" }

def PositionOffsetXYZ.ofJson (json : Value) : Except Exception PositionOffsetXYZ := do
  return {
    offsetX := ← json.int64At "offset_x"
    offsetY := ← json.int64At "offset_y"
    offsetZ := ← json.optionalAt "offset_z" asInt64 }

def PositionConfidenceSet.ofJson (json : Value) : Except Exception PositionConfidenceSet := do
  return {
    pos := ← json.int64At "pos"
    elevation := ← json.int64At "elevation" }

def AccelerationSet4Way.ofJson (json : Value) : Except Exception AccelerationSet4Way := do
  return {
    Long := ← json.int64At "long"
    lat := ← json.int64At "lat"
    vert := ← json.int64At "vert"
    yaw := ← json.int64At "yaw" }

def DetectedObjectCommonData.ofJson (json : Value) : Except Exception DetectedObjectCommonData := do
  return {
    objType := ← json.int64At "obj_type"
    objTypeCfd := ← json.int64At "obj_type_cfd"
    objectID := ← json.int64At "object_id"
    measurementTime := ← json.int64At "measurement_time"
    timeConfidence := ← json.int64At "time_confidence"
    pos := ← json.readAt "pos" PositionOffsetXYZ.ofJson
    posConfidence := ← json.readAt "pos_confidence" PositionConfidenceSet.ofJson
    speed := ← json.int64At "speed"
    speedConfidence := ← json.int64At "speed_confidence"
    speedZ := ← json.optionalAt "speed_z" asInt64
    speedConfidenceZ := ← json.optionalAt "speed_confidence_z" asInt64
    heading := ← json.int64At "heading"
    headingConf := ← json.int64At "heading_conf"
    accel4way := ← json.optionalAt "accel_4_way" AccelerationSet4Way.ofJson
    accCfdX := ← json.optionalAt "acc_cfd_x" asInt64
    accCfdY := ← json.optionalAt "acc_cfd_y" asInt64
    accCfdZ := ← json.optionalAt "acc_cfd_z" asInt64
    accCfdYaw := ← json.optionalAt "acc_cfd_yaw" asInt64 }

def Attitude.ofJson (json : Value) : Except Exception Attitude := do
  return {
    pitch := ← json.int64At "pitch"
    roll := ← json.int64At "roll"
    yaw := ← json.int64At "yaw" }

def AttitudeConfidence.ofJson (json : Value) : Except Exception AttitudeConfidence := do
  return {
    pitchConfidence := ← json.int64At "pitch_confidence"
    rollConfidence := ← json.int64At "roll_confidence"
    yawConfidence := ← json.int64At "yaw_confidence" }

def AngularVelocity.ofJson (json : Value) : Except Exception AngularVelocity := do
  return {
    pitchRate := ← json.int64At "pitch_rate"
    rollRate := ← json.int64At "roll_rate" }

def AngularVelocityConfidence.ofJson (json : Value) : Except Exception AngularVelocityConfidence := do
  return {
    pitchRateConfidence := ← json.optionalAt "pitch_rate_confidence" asInt64
    rollRateConfidence := ← json.optionalAt "roll_rate_confidence" asInt64 }

def VehicleSize.ofJson (json : Value) : Except Exception VehicleSize := do
  return {
    length := ← json.int64At "length"
    width := ← json.int64At "width" }

def VehicleSizeConfidence.ofJson (json : Value) : Except Exception VehicleSizeConfidence := do
  return {
    vehicleLengthConfidence := ← json.int64At "vehicle_length_confidence"
    vehicleWidthConfidence := ← json.int64At "vehicle_width_confidence"
    vehicleHeightConfidence := ← json.optionalAt "vehicle_height_confidence" asInt64 }

/-- Nobody reads the lights. -/
def DetectedVehicleData.ofJson (json : Value) : Except Exception DetectedVehicleData := do
  return {
    lights := none
    vehAttitude := ← json.optionalAt "veh_attitude" Attitude.ofJson
    vehAttitudeConfidence := ← json.optionalAt "veh_attitude_confidence" AttitudeConfidence.ofJson
    vehAngVel := ← json.optionalAt "veh_ang_vel" AngularVelocity.ofJson
    vehAngVelConfidence := ← json.optionalAt "veh_ang_vel_confidence" AngularVelocityConfidence.ofJson
    size := ← json.optionalAt "size" VehicleSize.ofJson
    height := ← json.optionalAt "height" asInt64
    vehicleSizeConfidence := ← json.optionalAt "vehicle_size_confidence" VehicleSizeConfidence.ofJson
    vehicleClass := ← json.optionalAt "vehicle_class" asInt64
    classConf := ← json.optionalAt "vehicle_class_conf" asInt64 }

def PropelledInformation.ofJson (json : Value) : Except Exception PropelledInformation := do
  if ← json.isMember "human" then return human (← json.int64At "human")
  else if ← json.isMember "animal" then return animal (← json.int64At "animal")
  else if ← json.isMember "motor" then return motor (← json.int64At "motor")
  else return NOTHING

def DetectedVRUData.ofJson (json : Value) : Except Exception DetectedVRUData := do
  return {
    basicType := ← json.optionalAt "basic_type" asInt64
    propulsion := ← json.optionalAt "propulsion" PropelledInformation.ofJson
    attachment := ← json.optionalAt "attachment" asInt64
    radius := ← json.optionalAt "radius" asInt64 }

def ObstacleSize.ofJson (json : Value) : Except Exception ObstacleSize := do
  return {
    length := ← json.int64At "length"
    width := ← json.int64At "width"
    height := ← json.optionalAt "height" asInt64 }

def ObstacleSizeConfidence.ofJson (json : Value) : Except Exception ObstacleSizeConfidence := do
  return {
    lengthConfidence := ← json.int64At "length_confidence"
    widthConfidence := ← json.int64At "width_confidence"
    heightConfidence := ← json.optionalAt "height_confidence" asInt64 }

def DetectedObstacleData.ofJson (json : Value) : Except Exception DetectedObstacleData := do
  return {
    obstSize := ← json.readAt "obst_size" ObstacleSize.ofJson
    obstSizeConfidence := ← json.readAt "obst_size_confidence" ObstacleSizeConfidence.ofJson }

def populateOptionalData (json : Value) : Except Exception DetectedObjectOptionalData := do
  if ← json.isMember "detected_vehicle_data" then
    return .detVeh (← json.readAt "detected_vehicle_data" DetectedVehicleData.ofJson)
  else if ← json.isMember "detected_vru_data" then
    return .detVRU (← json.readAt "detected_vru_data" DetectedVRUData.ofJson)
  else if ← json.isMember "detected_obstacle_data" then
    return .detObst (← json.readAt "detected_obstacle_data" DetectedObstacleData.ofJson)
  else return .NOTHING

def DetectedObjectData.ofJson (json : Value) : Except Exception DetectedObjectData := do
  let data ← json.member "detected_object_data"
  return {
    detObjCommon := ← data.readAt "detected_object_common_data" DetectedObjectCommonData.ofJson
    detObjOptData := ← data.optionalAt "detected_object_optional_data" populateOptionalData }

def objectsOfJson (json : Value) : Except Exception (List DetectedObjectData) := do
  if ← json.isMember "objects" then
    let objects ← json.member "objects"
    if objects.isArray then objects.elements.mapM DetectedObjectData.ofJson else return []
  else return []

/-- Into a new message. The source id is what `substr(4)` leaves, up to a zero. -/
def convertJsonToSDSM (valueToString : Double → Str) (uninitialized : DDateTime) (sdsm_json : Value) :
    Except Exception SensorDataSharingMessage := do
  let msgCnt ← sdsm_json.int64At "msg_cnt"
  let id_data ← substr 4 (← sdsm_json.readAt "source_id" (asString valueToString))
  return {
    msgCnt
    sourceID := id_data.takeWhile (· ≠ 0)
    equipmentType := ← sdsm_json.int64At "equipment_type"
    sDSMTimeStamp := ← sdsm_json.readAt "sdsm_time_stamp" (DDateTime.ofJson uninitialized)
    refPos := ← sdsm_json.readAt "ref_pos" Position3D.ofJson
    refPosXYConf := ← sdsm_json.readAt "ref_pos_xy_conf" PositionalAccuracy.ofJson
    refPosElConf := ← sdsm_json.optionalAt "ref_pos_el_conf" asInt64
    objects := ← objectsOfJson sdsm_json }

end V2xHub.CARMAStreetsPlugin
