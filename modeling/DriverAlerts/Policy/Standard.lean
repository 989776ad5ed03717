import DriverAlerts.Config
import DriverAlerts.Notice
import DriverAlerts.Policy.Plan
/-!
# The standard table

Every event and the alerts it raises. Rows without slots are deliberate: their events are recorded and
published and never shown. The table needs a fixed list of texts and can be built from every catalog
that has them.
-/

namespace DriverAlerts

namespace Standard

/-! ### Rows of a common shape -/

def noEntry (text2 : String) : Category × SlotPlan :=
  (.noEntry, .fixed (.noEntry text2 .none))

def immediateDisable (text2 : String) : Category × SlotPlan :=
  (.immediateDisable, .fixed (.immediateDisable text2))

def permanent (text1 : String) (text2 : Line) : Category × SlotPlan :=
  (.permanent, .fixed (.normalPermanent text1 text2))

def disengage : Category × SlotPlan :=
  (.userDisable, .fixed (.engagement .disengage))

/-- A soft disable that also refuses engagement. -/
def soft (text2 : String) : RowPlan :=
  [(.softDisable, .softDisable text2), noEntry text2]

/-- The same for a condition that the driver caused. -/
def userSoft (text2 : String) : RowPlan :=
  [(.softDisable, .userSoftDisable text2), noEntry text2]

def warning (text1 text2 : Line) (style : Style) (seconds : Float) : Category × SlotPlan :=
  (.warning, .fixed (.plain text1 text2 style seconds))

def hardware (text1 : String) : RowPlan :=
  [permanent text1 (.text "hardware_issue")]

def cameraError : RowPlan :=
  [(.permanent, .fixed (.withActivationDelay
    (.withDuration (.normalPermanent "camera_error" .empty) 1.0) 30.0))]

def laneChangePrompt (text1 : String) : RowPlan :=
  [(.warning, .fixed (.withRepeatRate
    (.plain (.text text1) .empty ⟨.normal, .small, .low, .none, .none⟩ 0.1) 0.75))]

/-- Control has ended, for a reason that the second line gives. -/
def disengaged (text2 : String) : Category × SlotPlan :=
  (.immediateDisable, .fixed (.plain (.text "disengaged") (.text text2)
    ⟨.normal, .mid, .high, .none, .disengage⟩ 3.0))

/-! ### The rows -/

/-- The rows in the order in which they are declared. -/
def rows : List (Event × RowPlan) := [
  (.stockFcw, []),
  (.cruiseMismatch, []),
  (.localizerMalfunction, []),
  (.noGps, []),
  (.joystickDebug, [
      (.warning, .joystick "joystick.title" "joystick.axes"),
      permanent "joystick_debug.permanent" .empty]),
  (.controlsInitializing, [noEntry "controls_initializing"]),
  (.startup, [(.permanent, .fixed (.startup "startup"))]),
  (.startupMaster, [(.permanent, .startupMaster "startup_master.title")]),
  (.startupNoControl, [(.permanent, .fixed (.startup "startup_no_control"))]),
  (.startupNoCar, [(.permanent, .fixed (.startup "startup_no_car"))]),
  (.startupNoFw, [
      (.permanent, .fixed (.startupWith "startup_no_fw.title" "startup_no_fw.hint" .userPrompt))]),
  (.dashcamMode, [
      (.permanent, .fixed (.withPriority (.normalPermanent "dashcam_mode" .empty) .lowest))]),
  (.invalidLkasSetting, [
      permanent "invalid_lkas_setting.title" (.text "invalid_lkas_setting.hint")]),
  (.carUnrecognized, [
      (.permanent, .fixed (.withPriority
        (.normalPermanent "car_unrecognized.title" (.text "car_unrecognized.hint")) .lowest))]),
  (.stockAeb, [
      (.permanent, .fixed (.plain (.text "brake_now") (.text "stock_aeb.hint")
        ⟨.critical, .full, .highest, .fcw, .none⟩ 2.0)),
      noEntry "stock_aeb.no_entry"]),
  (.fcw, [
      (.permanent, .fixed (.plain (.text "brake_now") (.text "fcw.hint")
        ⟨.critical, .full, .highest, .fcw, .warningSoft⟩ 2.0))]),
  (.ldw, [
      (.permanent, .fixed (.plain (.text "ldw") .empty
        ⟨.userPrompt, .small, .low, .ldw, .prompt⟩ 3.0))]),
  (.vehicleModelInvalid, soft "vehicle_model_invalid"),
  (.steerTempUnavailableSilent, [
      warning (.text "steer_temp_unavailable_silent") .empty
        ⟨.userPrompt, .small, .low, .steerRequired, .prompt⟩ 1.0]),
  (.preDriverDistracted, [
      warning (.text "pay_attention") .empty ⟨.normal, .small, .low, .none, .none⟩ 0.1]),
  (.promptDriverDistracted, [
      warning (.text "pay_attention") (.text "driver_distracted")
        ⟨.userPrompt, .mid, .mid, .steerRequired, .promptDistracted⟩ 0.1]),
  (.driverDistracted, [
      warning (.text "disengage_immediately") (.text "driver_distracted")
        ⟨.critical, .full, .high, .steerRequired, .warningImmediate⟩ 0.1]),
  (.preDriverUnresponsive, [
      (.warning, .fixed (.withRepeatRate (.plain (.text "pre_driver_unresponsive") .empty
        ⟨.normal, .small, .low, .steerRequired, .none⟩ 0.1) 0.75))]),
  (.promptDriverUnresponsive, [
      warning (.text "touch_steering_wheel") (.text "driver_unresponsive")
        ⟨.userPrompt, .mid, .mid, .steerRequired, .promptDistracted⟩ 0.1]),
  (.driverUnresponsive, [
      warning (.text "disengage_immediately") (.text "driver_unresponsive")
        ⟨.critical, .full, .high, .steerRequired, .warningImmediate⟩ 0.1]),
  (.manualRestart, [
      warning (.text "manual_restart.title") (.text "manual_restart.hint")
        ⟨.userPrompt, .mid, .low, .none, .none⟩ 0.2]),
  (.resumeRequired, [
      warning (.text "resume_required.title") (.text "resume_required.hint")
        ⟨.userPrompt, .mid, .low, .none, .none⟩ 0.2]),
  (.belowSteerSpeed, [(.warning, .belowSteerSpeed "below_steer_speed")]),
  (.preLaneChangeLeft, laneChangePrompt "pre_lane_change_left"),
  (.preLaneChangeRight, laneChangePrompt "pre_lane_change_right"),
  (.laneChangeBlocked, [
      warning (.text "lane_change_blocked") .empty ⟨.userPrompt, .small, .low, .none, .prompt⟩ 0.1]),
  (.laneChange, [
      warning (.text "lane_change") .empty ⟨.normal, .small, .low, .none, .none⟩ 0.1]),
  (.steerSaturated, [
      warning (.text "steer_saturated.title") (.text "steer_saturated.hint")
        ⟨.userPrompt, .mid, .low, .steerRequired, .promptRepeat⟩ 1.0]),
  (.fanMalfunction, hardware "fan_malfunction"),
  (.cameraMalfunction, hardware "camera_malfunction"),
  (.gpsMalfunction, hardware "gps_malfunction"),
  (.pcmEnable, [(.enable, .fixed (.engagement .engage))]),
  (.buttonEnable, [(.enable, .fixed (.engagement .engage))]),
  (.pcmDisable, [disengage]),
  (.buttonCancel, [disengage]),
  (.brakeHold, [disengage, noEntry "brake_hold"]),
  (.parkBrake, [disengage, noEntry "park_brake"]),
  (.pedalPressed, [
      disengage, (.noEntry, .fixed (.noEntry "pedal_pressed" .brakePressed))]),
  (.pedalPressedPreEnable, [
      (.preEnable, .fixed (.withActivationDelay (.plain (.text "pedal_pressed_pre_enable") .empty
        ⟨.normal, .small, .lowest, .none, .none⟩ 0.1) 1.0))]),
  (.gasPressedOverride, [
      (.override, .fixed (.plain .empty .empty ⟨.normal, .none, .lowest, .none, .none⟩ 0.1))]),
  (.wrongCarMode, [
      disengage,
      (.noEntry, .wrongCarMode "wrong_car_mode.cruise_off" "wrong_car_mode.main_switch_off")]),
  (.wrongCruiseMode, [disengage, noEntry "wrong_cruise_mode"]),
  (.steerTempUnavailable, soft "steer_temp_unavailable"),
  (.outOfSpace, [permanent "out_of_space" .empty, noEntry "out_of_space"]),
  (.belowEngageSpeed, [(.noEntry, .belowEngageSpeed "below_engage_speed")]),
  (.sensorDataInvalid, [
      (.permanent, .fixed (.withActivationDelay
        (.plain (.text "sensor_data_invalid") (.text "reboot_device")
          ⟨.normal, .mid, .lower, .none, .none⟩ 0.2) 1.0)),
      noEntry "sensor_data_invalid"]),
  (.soundsUnavailable, [
      permanent "sounds_unavailable" (.text "reboot_device"), noEntry "sounds_unavailable"]),
  (.tooDistracted, [noEntry "too_distracted"]),
  (.overheat, soft "overheat" ++ [permanent "overheat" .empty]),
  (.wrongGear, userSoft "wrong_gear"),
  (.calibrationInvalid, soft "calibration_invalid.detail" ++
        [permanent "calibration_invalid.title" (.text "calibration_invalid.hint")]),
  (.calibrationIncomplete, soft "calibration_incomplete" ++
        [(.permanent, .calibrationIncomplete "calibration_incomplete.title"
          "calibration_incomplete.hint")]),
  (.doorOpen, userSoft "door_open"),
  (.seatbeltNotLatched, userSoft "seatbelt_not_latched"),
  (.espDisabled, soft "esp_disabled"),
  (.lowBattery, soft "low_battery"),
  (.commIssue, soft "comm_issue"),
  (.processNotRunning, [noEntry "system_malfunction"]),
  (.radarFault, soft "radar_fault"),
  (.modeldLagging, soft "modeld_lagging"),
  (.posenetInvalid, soft "posenet_invalid"),
  (.deviceFalling, soft "device_falling"),
  (.lowMemory, soft "low_memory" ++ [permanent "low_memory.title" (.text "reboot_device")]),
  (.highCpuUsage, [noEntry "system_malfunction"]),
  (.accFaulted, [
      immediateDisable "acc_faulted", permanent "acc_faulted" .empty, noEntry "acc_faulted"]),
  (.controlsMismatch, [immediateDisable "controls_mismatch"]),
  (.roadCameraError, cameraError),
  (.driverCameraError, cameraError),
  (.wideRoadCameraError, cameraError),
  (.usbError, soft "usb_error" ++ [permanent "usb_error" .empty]),
  (.canError, [
      immediateDisable "can_error",
      (.permanent, .fixed (.withActivationDelay (.plain (.text "can_error") .empty
        ⟨.normal, .small, .low, .none, .none⟩ 1.0) 1.0)),
      noEntry "can_error"]),
  (.steerUnavailable, [
      immediateDisable "steer_unavailable", permanent "steer_unavailable.permanent" .empty,
      noEntry "steer_unavailable"]),
  (.brakeUnavailable, [
      immediateDisable "brake_unavailable", permanent "brake_unavailable" .empty,
      noEntry "brake_unavailable"]),
  (.reverseGear, [
      (.permanent, .fixed (.withActivationDelay (.plain (.text "reverse_gear.title") .empty
        ⟨.normal, .full, .lowest, .none, .none⟩ 0.2) 0.5)),
      (.userDisable, .fixed (.immediateDisable "reverse_gear")),
      noEntry "reverse_gear"]),
  (.cruiseDisabled, [immediateDisable "cruise_disabled"]),
  (.plannerError, [immediateDisable "planner_error", noEntry "planner_error"]),
  (.relayMalfunction, [
      immediateDisable "relay_malfunction",
      permanent "relay_malfunction" (.text "relay_malfunction.hint"),
      noEntry "relay_malfunction"]),
  (.noTarget, [disengaged "no_target.hint", noEntry "no_target.no_entry"]),
  (.speedTooLow, [disengaged "speed_too_low"]),
  (.speedTooHigh, [
      warning (.text "speed_too_high.title") (.text "speed_too_high.hint")
        ⟨.userPrompt, .mid, .high, .steerRequired, .promptRepeat⟩ 4.0,
      noEntry "speed_too_high.no_entry"]),
  (.lowSpeedLockout, [
      permanent "low_speed_lockout.permanent" .empty, noEntry "low_speed_lockout.no_entry"]),
  (.lkasDisabled, [
      permanent "lkas_disabled.permanent" .empty, noEntry "lkas_disabled.no_entry"])]

/-- The keys of all texts that the table needs, in the order in which they are looked up. -/
def keys : List String :=
  Presets.keys ++ SpeedUnits.keys ++ rows.flatMap fun (_, plan) => plan.keys

/-- The table in some wording. -/
def table (wording : Wording) (window : Float) : Except ValidationError Table :=
  (TableBuilder.ofRows (rows.map fun (event, plan) => (event, plan.row wording window))).build

end Standard

namespace Table

/-- The standard table with the texts of a catalog. The window is taken as it is. -/
def standardWithCatalog (catalog : Catalog) (window : Float) : Except ValidationError Table := do
  catalog.require Standard.keys
  Standard.table (.ofTexts catalog.textOrEmpty) window

/-- The standard table of a configuration, with built-in texts. -/
def standard (config : Config) : Logged (Except ValidationError Table) :=
  match config.validate with
  | .error cause => pure (.error cause)
  | .ok () =>
    let catalog := Catalog.embedded config.locale
    match standardWithCatalog catalog config.escalationWindow with
    | .error cause => pure (.error cause)
    | .ok table =>
      ⟨.ok table, [.tableBuilt config.locale catalog.size table.size table.fingerprint]⟩

end Table

end DriverAlerts
