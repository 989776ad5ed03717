/-!
# English texts

The wording of alerts in English. Each text has a key, and the keys are the same in every language.
-/

namespace DriverAlerts.Text

/-- The wording of alerts in English. -/
def english : List (String × String) := [
  ("preset.no_entry_title", "openpilot Unavailable"),
  ("preset.take_control", "TAKE CONTROL IMMEDIATELY"),
  ("preset.user_soft_disable_title", "openpilot will disengage"),
  ("preset.startup_hint", "Always keep hands on wheel and eyes on road"),
  ("unit.kph", "km/h"),
  ("unit.mph", "mph"),
  ("below_engage_speed", "Speed Below \x7bspeed\x7d"),
  ("below_steer_speed", "Steer Unavailable Below \x7bspeed\x7d"),
  ("calibration_incomplete.title", "Calibration in Progress: \x7bpercent\x7d%"),
  ("calibration_incomplete.hint", "Drive Above \x7bspeed\x7d"),
  ("wrong_car_mode.cruise_off", "Cruise Mode Disabled"),
  ("wrong_car_mode.main_switch_off", "Main Switch Off"),
  ("joystick.title", "Joystick Mode"),
  ("joystick.axes", "Gas: \x7bgas\x7d%, Steer: \x7bsteer\x7d%"),
  ("startup_master.title", "WARNING: This branch is not tested"),
  ("joystick_debug.permanent", "Joystick Mode"),
  ("controls_initializing", "System Initializing"),
  ("startup", "Be ready to take over at any time"),
  ("startup_no_control", "Dashcam mode"),
  ("startup_no_car", "Dashcam mode for unsupported car"),
  ("startup_no_fw.title", "Car Unrecognized"),
  ("startup_no_fw.hint", "Check comma power connections"),
  ("dashcam_mode", "Dashcam Mode"),
  ("invalid_lkas_setting.title", "Stock LKAS is on"),
  ("invalid_lkas_setting.hint", "Turn off stock LKAS to engage"),
  ("car_unrecognized.title", "Dashcam Mode"),
  ("car_unrecognized.hint", "Car Unrecognized"),
  ("brake_now", "BRAKE!"),
  ("stock_aeb.hint", "Stock AEB: Risk of Collision"),
  ("stock_aeb.no_entry", "Stock AEB: Risk of Collision"),
  ("fcw.hint", "Risk of Collision"),
  ("ldw", "Lane Departure Detected"),
  ("vehicle_model_invalid", "Vehicle Parameter Identification Failed"),
  ("steer_temp_unavailable_silent", "Steering Temporarily Unavailable"),
  ("pay_attention", "Pay Attention"),
  ("driver_distracted", "Driver Distracted"),
  ("disengage_immediately", "DISENGAGE IMMEDIATELY"),
  ("pre_driver_unresponsive", "Touch Steering Wheel: No Face Detected"),
  ("touch_steering_wheel", "Touch Steering Wheel"),
  ("driver_unresponsive", "Driver Unresponsive"),
  ("manual_restart.title", "TAKE CONTROL"),
  ("manual_restart.hint", "Resume Driving Manually"),
  ("resume_required.title", "STOPPED"),
  ("resume_required.hint", "Press Resume to Go"),
  ("pre_lane_change_left", "Steer Left to Start Lane Change Once Safe"),
  ("pre_lane_change_right", "Steer Right to Start Lane Change Once Safe"),
  ("lane_change_blocked", "Car Detected in Blindspot"),
  ("lane_change", "Changing Lanes"),
  ("steer_saturated.title", "Take Control"),
  ("steer_saturated.hint", "Turn Exceeds Steering Limit"),
  ("hardware_issue", "Likely Hardware Issue"),
  ("fan_malfunction", "Fan Malfunction"),
  ("camera_malfunction", "Camera Malfunction"),
  ("gps_malfunction", "GPS Malfunction"),
  ("brake_hold", "Brake Hold Active"),
  ("park_brake", "Parking Brake Engaged"),
  ("pedal_pressed", "Pedal Pressed"),
  ("pedal_pressed_pre_enable", "Release Pedal to Engage"),
  ("wrong_cruise_mode", "Adaptive Cruise Disabled"),
  ("steer_temp_unavailable", "Steering Temporarily Unavailable"),
  ("out_of_space", "Out of Storage"),
  ("sensor_data_invalid", "No Data from Device Sensors"),
  ("reboot_device", "Reboot your Device"),
  ("sounds_unavailable", "Speaker not found"),
  ("too_distracted", "Distraction Level Too High"),
  ("overheat", "System Overheated"),
  ("wrong_gear", "Gear not D"),
  ("calibration_invalid.title", "Calibration Invalid"),
  ("calibration_invalid.hint", "Remount Device and Recalibrate"),
  ("calibration_invalid.detail", "Calibration Invalid: Remount Device & Recalibrate"),
  ("calibration_incomplete", "Calibration in Progress"),
  ("door_open", "Door Open"),
  ("seatbelt_not_latched", "Seatbelt Unlatched"),
  ("esp_disabled", "ESP Off"),
  ("low_battery", "Low Battery"),
  ("comm_issue", "Communication Issue between Processes"),
  ("system_malfunction", "System Malfunction: Reboot Your Device"),
  ("radar_fault", "Radar Error: Restart the Car"),
  ("modeld_lagging", "Driving model lagging"),
  ("posenet_invalid", "Model Output Uncertain"),
  ("device_falling", "Device Fell Off Mount"),
  ("low_memory", "Low Memory: Reboot Your Device"),
  ("low_memory.title", "RAM Critically Low"),
  ("acc_faulted", "Cruise Faulted"),
  ("controls_mismatch", "Controls Mismatch"),
  ("camera_error", "Camera Error"),
  ("usb_error", "USB Error: Reboot Your Device"),
  ("can_error", "CAN Error: Check Connections"),
  ("steer_unavailable", "LKAS Fault: Restart the Car"),
  ("steer_unavailable.permanent", "LKAS Fault: Restart the car to engage"),
  ("brake_unavailable", "Cruise Fault: Restart the Car"),
  ("reverse_gear.title", "Reverse\nGear"),
  ("reverse_gear", "Reverse Gear"),
  ("cruise_disabled", "Cruise Is Off"),
  ("planner_error", "Planner Solution Error"),
  ("relay_malfunction", "Harness Malfunction"),
  ("relay_malfunction.hint", "Check Hardware"),
  ("disengaged", "openpilot Canceled"),
  ("no_target.hint", "No close lead car"),
  ("no_target.no_entry", "No Close Lead Car"),
  ("speed_too_low", "Speed too low"),
  ("speed_too_high.title", "Speed Too High"),
  ("speed_too_high.hint", "Model uncertain at this speed"),
  ("speed_too_high.no_entry", "Slow down to engage"),
  ("low_speed_lockout.permanent", "Cruise Fault: Restart the car to engage"),
  ("low_speed_lockout.no_entry", "Cruise Fault: Restart the Car"),
  ("lkas_disabled.permanent", "LKAS Disabled: Enable LKAS to engage"),
  ("lkas_disabled.no_entry", "LKAS Disabled")
  ]

end DriverAlerts.Text
