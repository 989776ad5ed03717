import DriverAlerts.Named
/-!
# Events

An event is a condition that some monitor reports for the current control cycle. It carries nothing
but its identity: what it means for engagement and for the driver is said by the policy table alone.
The names are the ones published in records, so they are part of the format and never change.
-/

namespace DriverAlerts

/-- The conditions that a monitor can report. -/
inductive Event where
  | stockFcw | joystickDebug | controlsInitializing | startup | startupMaster | startupNoControl
  | startupNoCar | startupNoFw | dashcamMode | invalidLkasSetting | cruiseMismatch
  | carUnrecognized | stockAeb | fcw | ldw | vehicleModelInvalid | steerTempUnavailableSilent
  | preDriverDistracted | promptDriverDistracted | driverDistracted | preDriverUnresponsive
  | promptDriverUnresponsive | driverUnresponsive | manualRestart | resumeRequired
  | belowSteerSpeed | preLaneChangeLeft | preLaneChangeRight | laneChangeBlocked | laneChange
  | steerSaturated | fanMalfunction | cameraMalfunction | gpsMalfunction | localizerMalfunction
  | pcmEnable | buttonEnable | pcmDisable | buttonCancel | brakeHold | parkBrake | pedalPressed
  | pedalPressedPreEnable | gasPressedOverride | wrongCarMode | wrongCruiseMode
  | steerTempUnavailable | outOfSpace | belowEngageSpeed | sensorDataInvalid | noGps
  | soundsUnavailable | tooDistracted | overheat | wrongGear | calibrationInvalid
  | calibrationIncomplete | doorOpen | seatbeltNotLatched | espDisabled | lowBattery | commIssue
  | processNotRunning | radarFault | modeldLagging | posenetInvalid | deviceFalling | lowMemory
  | highCpuUsage | accFaulted | controlsMismatch | roadCameraError | driverCameraError
  | wideRoadCameraError | usbError | canError | steerUnavailable | brakeUnavailable | reverseGear
  | cruiseDisabled | plannerError | relayMalfunction | noTarget | speedTooLow | speedTooHigh
  | lowSpeedLockout | lkasDisabled
  deriving DecidableEq, Repr, Inhabited

namespace Event

/-- The name of an event in published records. -/
def name : Event → String
  | .stockFcw => "stockFcw"
  | .joystickDebug => "joystickDebug"
  | .controlsInitializing => "controlsInitializing"
  | .startup => "startup"
  | .startupMaster => "startupMaster"
  | .startupNoControl => "startupNoControl"
  | .startupNoCar => "startupNoCar"
  | .startupNoFw => "startupNoFw"
  | .dashcamMode => "dashcamMode"
  | .invalidLkasSetting => "invalidLkasSetting"
  | .cruiseMismatch => "cruiseMismatch"
  | .carUnrecognized => "carUnrecognized"
  | .stockAeb => "stockAeb"
  | .fcw => "fcw"
  | .ldw => "ldw"
  | .vehicleModelInvalid => "vehicleModelInvalid"
  | .steerTempUnavailableSilent => "steerTempUnavailableSilent"
  | .preDriverDistracted => "preDriverDistracted"
  | .promptDriverDistracted => "promptDriverDistracted"
  | .driverDistracted => "driverDistracted"
  | .preDriverUnresponsive => "preDriverUnresponsive"
  | .promptDriverUnresponsive => "promptDriverUnresponsive"
  | .driverUnresponsive => "driverUnresponsive"
  | .manualRestart => "manualRestart"
  | .resumeRequired => "resumeRequired"
  | .belowSteerSpeed => "belowSteerSpeed"
  | .preLaneChangeLeft => "preLaneChangeLeft"
  | .preLaneChangeRight => "preLaneChangeRight"
  | .laneChangeBlocked => "laneChangeBlocked"
  | .laneChange => "laneChange"
  | .steerSaturated => "steerSaturated"
  | .fanMalfunction => "fanMalfunction"
  | .cameraMalfunction => "cameraMalfunction"
  | .gpsMalfunction => "gpsMalfunction"
  | .localizerMalfunction => "localizerMalfunction"
  | .pcmEnable => "pcmEnable"
  | .buttonEnable => "buttonEnable"
  | .pcmDisable => "pcmDisable"
  | .buttonCancel => "buttonCancel"
  | .brakeHold => "brakeHold"
  | .parkBrake => "parkBrake"
  | .pedalPressed => "pedalPressed"
  | .pedalPressedPreEnable => "pedalPressedPreEnable"
  | .gasPressedOverride => "gasPressedOverride"
  | .wrongCarMode => "wrongCarMode"
  | .wrongCruiseMode => "wrongCruiseMode"
  | .steerTempUnavailable => "steerTempUnavailable"
  | .outOfSpace => "outOfSpace"
  | .belowEngageSpeed => "belowEngageSpeed"
  | .sensorDataInvalid => "sensorDataInvalid"
  | .noGps => "noGps"
  | .soundsUnavailable => "soundsUnavailable"
  | .tooDistracted => "tooDistracted"
  | .overheat => "overheat"
  | .wrongGear => "wrongGear"
  | .calibrationInvalid => "calibrationInvalid"
  | .calibrationIncomplete => "calibrationIncomplete"
  | .doorOpen => "doorOpen"
  | .seatbeltNotLatched => "seatbeltNotLatched"
  | .espDisabled => "espDisabled"
  | .lowBattery => "lowBattery"
  | .commIssue => "commIssue"
  | .processNotRunning => "processNotRunning"
  | .radarFault => "radarFault"
  | .modeldLagging => "modeldLagging"
  | .posenetInvalid => "posenetInvalid"
  | .deviceFalling => "deviceFalling"
  | .lowMemory => "lowMemory"
  | .highCpuUsage => "highCpuUsage"
  | .accFaulted => "accFaulted"
  | .controlsMismatch => "controlsMismatch"
  | .roadCameraError => "roadCameraError"
  | .driverCameraError => "driverCameraError"
  | .wideRoadCameraError => "wideRoadCameraError"
  | .usbError => "usbError"
  | .canError => "canError"
  | .steerUnavailable => "steerUnavailable"
  | .brakeUnavailable => "brakeUnavailable"
  | .reverseGear => "reverseGear"
  | .cruiseDisabled => "cruiseDisabled"
  | .plannerError => "plannerError"
  | .relayMalfunction => "relayMalfunction"
  | .noTarget => "noTarget"
  | .speedTooLow => "speedTooLow"
  | .speedTooHigh => "speedTooHigh"
  | .lowSpeedLockout => "lowSpeedLockout"
  | .lkasDisabled => "lkasDisabled"

/-- Every event, in declaration order. -/
def all : List Event := [
  .stockFcw, .joystickDebug, .controlsInitializing, .startup, .startupMaster, .startupNoControl,
  .startupNoCar, .startupNoFw, .dashcamMode, .invalidLkasSetting, .cruiseMismatch,
  .carUnrecognized, .stockAeb, .fcw, .ldw, .vehicleModelInvalid, .steerTempUnavailableSilent,
  .preDriverDistracted, .promptDriverDistracted, .driverDistracted, .preDriverUnresponsive,
  .promptDriverUnresponsive, .driverUnresponsive, .manualRestart, .resumeRequired,
  .belowSteerSpeed, .preLaneChangeLeft, .preLaneChangeRight, .laneChangeBlocked, .laneChange,
  .steerSaturated, .fanMalfunction, .cameraMalfunction, .gpsMalfunction, .localizerMalfunction,
  .pcmEnable, .buttonEnable, .pcmDisable, .buttonCancel, .brakeHold, .parkBrake, .pedalPressed,
  .pedalPressedPreEnable, .gasPressedOverride, .wrongCarMode, .wrongCruiseMode,
  .steerTempUnavailable, .outOfSpace, .belowEngageSpeed, .sensorDataInvalid, .noGps,
  .soundsUnavailable, .tooDistracted, .overheat, .wrongGear, .calibrationInvalid,
  .calibrationIncomplete, .doorOpen, .seatbeltNotLatched, .espDisabled, .lowBattery, .commIssue,
  .processNotRunning, .radarFault, .modeldLagging, .posenetInvalid, .deviceFalling, .lowMemory,
  .highCpuUsage, .accFaulted, .controlsMismatch, .roadCameraError, .driverCameraError,
  .wideRoadCameraError, .usbError, .canError, .steerUnavailable, .brakeUnavailable, .reverseGear,
  .cruiseDisabled, .plannerError, .relayMalfunction, .noTarget, .speedTooLow, .speedTooHigh,
  .lowSpeedLockout, .lkasDisabled
  ]

instance : Named Event := ⟨all, name⟩

end Event

end DriverAlerts
