/-!
# Russian texts

The wording of alerts in Russian. Each text has a key, and the keys are the same in every language.
-/

namespace DriverAlerts.Text

/-- The wording of alerts in Russian. -/
def russian : List (String × String) := [
  ("preset.no_entry_title", "openpilot недоступен"),
  ("preset.take_control", "ВОЗЬМИТЕ УПРАВЛЕНИЕ НА СЕБЯ!"),
  ("preset.user_soft_disable_title", "openpilot отключится"),
  ("preset.startup_hint", "Всегда держите руки на руле и смотрите на дорогу"),
  ("unit.kph", "км/ч"),
  ("unit.mph", "миль/ч"),
  ("below_engage_speed", "Speed Below \x7bspeed\x7d"),
  ("below_steer_speed", "Steer Unavailable Below \x7bspeed\x7d"),
  ("calibration_incomplete.title", "Calibration in Progress: \x7bpercent\x7d%"),
  ("calibration_incomplete.hint", "Drive Above \x7bspeed\x7d"),
  ("wrong_car_mode.cruise_off", "Круиз-контроль отключен"),
  ("wrong_car_mode.main_switch_off", "Main Switch Off"),
  ("joystick.title", "Joystick Mode"),
  ("joystick.axes", "Gas: \x7bgas\x7d%, Steer: \x7bsteer\x7d%"),
  ("startup_master.title", "ВНИМАНИЕ! Эта ветка тестируется!"),
  ("joystick_debug.permanent", "Режим джойстика"),
  ("controls_initializing", "Инициализация системы"),
  ("startup", "Будьте готовы взять управление на себя в любой момент"),
  ("startup_no_control", "Режим видеорегистратора"),
  ("startup_no_car", "Режим видеорегистратора для неподдерживаемого автомобиля"),
  ("startup_no_fw.title", "Автомобиль не опознан"),
  ("startup_no_fw.hint", "Проверьте подключение питания comma"),
  ("dashcam_mode", "Режим видеорегистратора"),
  ("invalid_lkas_setting.title", "Stock LKAS is on"),
  ("invalid_lkas_setting.hint", "Turn off stock LKAS to engage"),
  ("car_unrecognized.title", "Режим видеорегистратора"),
  ("car_unrecognized.hint", "Автомобиль не опознан"),
  ("brake_now", "ТОРМОЗИТЕ!"),
  ("stock_aeb.hint", "Заводской AEB: РИСК СТОЛКНОВЕНИЯ"),
  ("stock_aeb.no_entry", "Stock AEB: Risk of Collision"),
  ("fcw.hint", "РИСК СТОЛКНОВЕНИЯ"),
  ("ldw", "Выезд с полосы движения!"),
  ("vehicle_model_invalid", "Не удалось идентифицировать параметры ТС"),
  ("steer_temp_unavailable_silent", "Рулевое управление временно недоступно"),
  ("pay_attention", "Обратите внимание!"),
  ("driver_distracted", "Водитель отвлекся!"),
  ("disengage_immediately", "НЕМЕДЛЕННО ОТКЛЮЧИТЕ OP"),
  ("pre_driver_unresponsive", "Держитесь за руль! Лицо водителя не обнаружено"),
  ("touch_steering_wheel", "Держитесь за руль!"),
  ("driver_unresponsive", "Водитель не реагирует!"),
  ("manual_restart.title", "ВОЗЬМИТЕ УПРАВЛЕНИЕ ПОД КОНТРОЛЬ!"),
  ("manual_restart.hint", "Возобновите ручное управление"),
  ("resume_required.title", "ОСТАНОВИТЕСЬ"),
  ("resume_required.hint", "Нажмите ВОЗВРАТ для движения"),
  ("pre_lane_change_left", "Поверните налево, чтобы начать перестроение в безопасную полосу движения"),
  ("pre_lane_change_right", "Поверните направо, чтобы начать перестроение в безопасную полосу движения"),
  ("lane_change_blocked", "В слепой зоне обнаружен автомобиль"),
  ("lane_change", "Смена полосы движения"),
  ("steer_saturated.title", "Возьмите управление на себя!"),
  ("steer_saturated.hint", "Поворот превышает ограничение рулевого управления"),
  ("hardware_issue", "Проблема с оборудованием"),
  ("fan_malfunction", "Неисправность вентилятора"),
  ("camera_malfunction", "Неисправность камеры"),
  ("gps_malfunction", "Неисправность GPS"),
  ("brake_hold", "Активировано удержание тормоза"),
  ("park_brake", "Включен стояночный тормоз"),
  ("pedal_pressed", "Нажата педаль"),
  ("pedal_pressed_pre_enable", "Отпустите педаль для включения"),
  ("wrong_cruise_mode", "Адаптивный круиз отключен"),
  ("steer_temp_unavailable", "Управление рулем недоступно"),
  ("out_of_space", "Недостаточно места"),
  ("sensor_data_invalid", "Нет данных с датчиков устройства"),
  ("reboot_device", "Перезагрузите устройство"),
  ("sounds_unavailable", "Динамик не найден"),
  ("too_distracted", "Много отвлекаетесь"),
  ("overheat", "Перегрев"),
  ("wrong_gear", "Не включена передача D"),
  ("calibration_invalid.title", "Calibration Invalid"),
  ("calibration_invalid.hint", "Remount Device and Recalibrate"),
  ("calibration_invalid.detail", "Calibration Invalid: Remount Device & Recalibrate"),
  ("calibration_incomplete", "Выполняется калибровка"),
  ("door_open", "Закройте дверь"),
  ("seatbelt_not_latched", "Пристегните ремень безопасности"),
  ("esp_disabled", "ESP отключено"),
  ("low_battery", "Низкий заряд батареи"),
  ("comm_issue", "Проблема связи между устройствами"),
  ("system_malfunction", "Системный сбой: Перезагрузите устройство"),
  ("radar_fault", "Ошибка радара: Перезапустите автомобиль"),
  ("modeld_lagging", "Задержки при моделировании"),
  ("posenet_invalid", "Моделирование не точно"),
  ("device_falling", "Устройство сорвалось с Крепления"),
  ("low_memory", "Недостаточно памяти: Перезагрузите устройство"),
  ("low_memory.title", "Недостаточно памяти"),
  ("acc_faulted", "Круиз-контроль неисправен"),
  ("controls_mismatch", "Несоответствие элементов управления"),
  ("camera_error", "Ошибка камеры"),
  ("usb_error", "Ошибка USB: Перезагрузите устройство"),
  ("can_error", "Ошибка CAN: Проверьте соединения"),
  ("steer_unavailable", "LKAS Fault: Restart the Car"),
  ("steer_unavailable.permanent", "LKAS Fault: Restart the car to engage"),
  ("brake_unavailable", "Круиз-контроль неисправен: Перезапустите автомобиль"),
  ("reverse_gear.title", "Reverse\nGear"),
  ("reverse_gear", "Задний ход"),
  ("cruise_disabled", "Круиз-контроль выключен"),
  ("planner_error", "Ошибка планировщика"),
  ("relay_malfunction", "Неисправность жгута проводов"),
  ("relay_malfunction.hint", "Проверьте оборудование"),
  ("disengaged", "openpilot отключен"),
  ("no_target.hint", "No close lead car"),
  ("no_target.no_entry", "No Close Lead Car"),
  ("speed_too_low", "Слишком низкая скорость"),
  ("speed_too_high.title", "Слишком высокая скорость"),
  ("speed_too_high.hint", "Моделирование недоступно на такой скорости"),
  ("speed_too_high.no_entry", "Сбавьте скорость"),
  ("low_speed_lockout.permanent", "Неисправность круиз-контроля: Перезапустите автомобиль, чтобы включить"),
  ("low_speed_lockout.no_entry", "Неисправность круиз-контроля: Перезапустите автомобиль"),
  ("lkas_disabled.permanent", "LKAS Disabled: Enable LKAS to engage"),
  ("lkas_disabled.no_entry", "LKAS Disabled")
  ]

end DriverAlerts.Text
