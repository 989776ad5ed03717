import DriverAlerts.Alert.Json
import DriverAlerts.Alert.Presets
import DriverAlerts.Config
import DriverAlerts.Context
import DriverAlerts.Proofs.Json.Double
/-!
# Records with doubles read back

Alerts, contexts and configurations hold doubles among other values. The other values are always
read back, an optional one as one that is there or not, just as it was written. So whatever is read
from the text of a record is that record with doubles in the place of its own, each read from the
text of the one it replaces. The record is read as an equal one if each of them is equal to what it
replaces.
-/

namespace DriverAlerts

open Json (Reads Survives)

/-! ### Doubles in a value -/

/-- The text is read as an equal value exactly when the doubles of the value survive, and not at all
when one of them is not finite. Nothing but doubles is ever read differently. -/
structure Json.ReadBack {α : Type} [BEq α] (decode : Json.Decoder α) (floats : α → List Float)
    (withFloats : α → List Float → α) (value : α) (text : String) : Prop where
  equal_iff : (∃ read, Json.decodeText decode text = .ok read ∧ read == value) ↔
    ∀ x ∈ floats value, Survives x
  error_of_not_isFinite : (∃ x ∈ floats value, x.isFinite = false) →
    ∃ cause, Json.decodeText decode text = .error cause
  rest : ∀ read, Json.decodeText decode text = .ok read →
    (floats read).length = (floats value).length ∧ read = withFloats value (floats read)

section ReadBack

variable {α : Type} [BEq α] {decode : Json.Decoder α} {floats : α → List Float}
  {withFloats : α → List Float → α} {value : α} {json : Json}

theorem Json.readBack_of_decode_iff
    (hfloats : ∀ xs, xs.length = (floats value).length → floats (withFloats value xs) = xs)
    (hequal : ∀ xs, xs.length = (floats value).length →
      (withFloats value xs == value) = (xs == floats value))
    (hdecode : ∀ read, decode json = .ok read ↔
      ∃ xs, List.Forall₂ Reads (floats value) xs ∧ read = withFloats value xs)
    {text : String} (htext : Json.ofText? text = some json) :
    Json.ReadBack decode floats withFloats value text := by
  have hread : Json.decodeText decode text = decode json := by rw [Json.decodeText, htext]
  constructor
  · rw [← Json.exists_reads_list_iff, hread]
    constructor
    · rintro ⟨read, hok, hsame⟩
      obtain ⟨xs, hxs, rfl⟩ := (hdecode read).mp hok
      rw [hequal xs hxs.length_eq.symm] at hsame
      exact ⟨xs, hxs, hsame⟩
    · rintro ⟨xs, hxs, hsame⟩
      refine ⟨withFloats value xs, (hdecode _).mpr ⟨xs, hxs, rfl⟩, ?_⟩
      rwa [hequal xs hxs.length_eq.symm]
  · rintro ⟨x, hx, hnot⟩
    rw [hread]
    cases hok : decode json with
    | error cause => exact ⟨cause, rfl⟩
    | ok read =>
        obtain ⟨xs, hxs, -⟩ := (hdecode read).mp hok
        rw [Json.isFinite_of_reads_list hxs x hx] at hnot
        exact absurd hnot Bool.noConfusion
  · intro read hok
    rw [hread] at hok
    obtain ⟨xs, hxs, rfl⟩ := (hdecode read).mp hok
    rw [hfloats xs hxs.length_eq.symm]
    exact ⟨hxs.length_eq.symm, rfl⟩

end ReadBack

/-! ### Alerts -/

namespace Alert

/-- The doubles of an alert. -/
def floats (alert : Alert) : List Float :=
  [alert.repeatRate, alert.activationDelay]

/-- The alert with other doubles. -/
def withFloats (alert : Alert) : List Float → Alert
  | [rate, delay] => { alert with repeatRate := rate, activationDelay := delay }
  | _ => alert

/-- What the record of an alert has for its fields. -/
def entries (alert : Alert) : Json.Entries :=
  .ofMembers fields [
    ("text1", .ofString alert.text1),
    ("text2", .ofString alert.text2),
    ("status", .ofString alert.status.name),
    ("size", .ofString alert.size.name),
    ("priority", .ofString alert.priority.name),
    ("visual", .ofString alert.visual.name),
    ("audible", .ofString alert.audible.name),
    ("duration_cycles", .ofNat alert.duration.toNat),
    ("repeat_rate", .ofFloat alert.repeatRate),
    ("activation_delay_secs", .ofFloat alert.activationDelay),
    ("alert_type", .ofString alert.tag),
    ("resolved_category", match alert.category with
      | some category => .ofString category.name
      | none => .null)]

theorem entries_toJson (alert : Alert) : Json.entries fields alert.toJson = .ok alert.entries :=
  Json.entries_record (by simp) fields

theorem legible_toJson (alert : Alert) : alert.toJson.Legible := by
  rw [toJson, Json.legible_record]
  cases alert.category <;>
    simp [Json.legible_ofString, Json.ofNat, Json.legible_number, Json.legible_ofFloat,
      Json.legible_null]

theorem cycles_ofNat (count : Cycles) : cycles (.ofNat count.toNat) = .ok count := by
  have hcount : count.toNat ≤ Cycles.limit := Nat.le_sub_one_of_lt count.toNat_lt_size
  rw [cycles, Json.natural_ofNat hcount]
  change Except.ok (UInt32.ofNat count.toNat) = _
  rw [UInt32.ofNat_toNat]

theorem decode_toJson (alert : Alert) : decode alert.toJson = do
    let rate ← Json.double (.ofFloat alert.repeatRate)
    let delay ← Json.double (.ofFloat alert.activationDelay)
    return { alert with repeatRate := rate, activationDelay := delay } := by
  have hstatus : alert.entries.required "status" (Json.word Status) = .ok alert.status :=
    Json.word_ofString alert.status
  have hsize : alert.entries.required "size" (Json.word Size) = .ok alert.size :=
    Json.word_ofString alert.size
  have hpriority : alert.entries.required "priority" (Json.word Priority) = .ok alert.priority :=
    Json.word_ofString alert.priority
  have hvisual : alert.entries.required "visual" (Json.word VisualCue) = .ok alert.visual :=
    Json.word_ofString alert.visual
  have haudible : alert.entries.required "audible" (Json.word AudibleCue) = .ok alert.audible :=
    Json.word_ofString alert.audible
  have hduration : alert.entries.required "duration_cycles" cycles = .ok alert.duration :=
    cycles_ofNat alert.duration
  have hcategory : alert.entries.optional "resolved_category" (Json.word Category) =
      .ok alert.category := by
    change Json.nullable (Json.word Category) (match alert.category with
      | some category => .ofString category.name
      | none => .null) = _
    cases alert.category with
    | none => rfl
    | some category =>
        change some <$> Json.word Category (.ofString (Named.name category)) = _
        rw [Json.word_ofString]
        rfl
  rw [decode, entries_toJson, Json.ok_bind, hstatus, hsize, hpriority, hvisual, haudible, hduration,
    hcategory]
  rfl

theorem category_withFloats (alert : Alert) (xs : List Float) :
    (alert.withFloats xs).category = alert.category := by
  rw [withFloats.eq_def]
  split <;> rfl

theorem decode_eq_ok_iff {alert read : Alert} :
    decode alert.toJson = .ok read ↔
      ∃ xs, List.Forall₂ Reads alert.floats xs ∧ read = alert.withFloats xs := by
  rw [decode_toJson]
  simp only [Json.bind_eq_ok_iff, ← Json.reads_iff]
  constructor
  · rintro ⟨rate, hrate, delay, hdelay, hread⟩
    exact ⟨[rate, delay], .cons hrate (.cons hdelay .nil), (Except.ok.inj hread).symm⟩
  · rintro ⟨xs, hxs, rfl⟩
    cases hxs with
    | cons hrate hxs =>
        cases hxs with
        | cons hdelay hxs =>
            cases hxs
            exact ⟨_, hrate, _, hdelay, rfl⟩

theorem beq_withFloats (alert : Alert) (rate delay : Float) :
    (alert.withFloats [rate, delay] == alert) =
      (rate == alert.repeatRate && delay == alert.activationDelay) := by
  change instBEqAlert.beq _ _ = _
  simp [instBEqAlert.beq, withFloats]

theorem readBack (alert : Alert) {text : String} (htext : Json.ofText? text = some alert.toJson) :
    Json.ReadBack decode floats withFloats alert text := by
  refine Json.readBack_of_decode_iff ?_ ?_ (fun _ => decode_eq_ok_iff) htext
  · intro xs hxs
    obtain ⟨rate, delay, rfl⟩ := List.length_eq_two.mp hxs
    rfl
  · intro xs hxs
    obtain ⟨rate, delay, rfl⟩ := List.length_eq_two.mp hxs
    rw [beq_withFloats, floats, List.cons_beq_cons, List.cons_beq_cons]
    simp

end Alert

/-! ### Contexts -/

namespace Car

theorem legible_toJson (car : Car) : car.toJson.Legible := by
  rw [toJson, Json.legible_record]
  simp [Json.legible_ofString, Json.legible_ofFloat]

theorem decode_toJson (car : Car) : decode car.toJson = do
    let enable ← Json.double (.ofFloat car.minEnableSpeed)
    let steer ← Json.double (.ofFloat car.minSteerSpeed)
    return { car with minEnableSpeed := enable, minSteerSpeed := steer } := by
  have hentries : Json.entries fields car.toJson = .ok (.ofMembers fields [
      ("car_name", .ofString car.name),
      ("min_enable_speed", .ofFloat car.minEnableSpeed),
      ("min_steer_speed", .ofFloat car.minSteerSpeed)]) :=
    Json.entries_record (by simp) fields
  rw [decode, hentries, Json.ok_bind]
  rfl

end Car

namespace LiveState

/-- The members of live values as they are written. -/
def members (live : LiveState) : List (String × Json) :=
  (match live.calibrationPercent with
    | some percent => [("calibration_percent", Json.ofNat percent.toNat)]
    | none => []) ++
  (if live.joystickAxes.isEmpty then []
    else [("joystick_axes", .array (live.joystickAxes.map Json.ofFloat))]) ++
  (match live.branch with
    | some branch => [("branch", Json.ofString branch)]
    | none => []) ++
  [("replay", .bool live.replay)]

theorem legible_toJson (live : LiveState) : live.toJson.Legible := by
  obtain ⟨percent, axes, branch, replay⟩ := live
  have haxes : (Json.array (axes.map Json.ofFloat)).Legible := by
    rw [Json.legible_array, List.forall_mem_map]
    exact fun x _ => Json.legible_ofFloat x
  rw [toJson, Json.legible_record]
  cases percent <;> cases axes <;> cases branch <;>
    simp [Json.legible_ofString, Json.ofNat, Json.legible_number, Json.legible_bool] at haxes ⊢ <;>
    exact haxes

theorem nodup_members (live : LiveState) : (live.members.map Prod.fst).Nodup := by
  obtain ⟨percent, axes, branch, replay⟩ := live
  cases percent <;> cases axes <;> cases branch <;> simp [members]

theorem percent_ofNat (n : UInt8) : percent (.ofNat n.toNat) = .ok n := by
  have hn : n.toNat ≤ 255 := Nat.le_of_lt_succ n.toNat_lt
  rw [percent, Json.natural_ofNat hn]
  change Except.ok (UInt8.ofNat n.toNat) = _
  rw [UInt8.ofNat_toNat]

/-- An optional field is read as one that is there exactly when it is written. -/
theorem decode_toJson (live : LiveState) : decode live.toJson = do
    let axes ← live.joystickAxes.mapM fun x => Json.double (.ofFloat x)
    return { live with joystickAxes := axes } := by
  have hentries : Json.entries fields live.toJson = .ok (.ofMembers fields live.members) :=
    Json.entries_record live.nodup_members fields
  have hpercent : (Json.Entries.ofMembers fields live.members).orElse "calibration_percent" none
      (Json.nullable percent) = .ok live.calibrationPercent := by
    have hentry : (Json.Entries.ofMembers fields live.members).entry "calibration_percent" =
        .ofMember (live.calibrationPercent.map fun n => .ofNat n.toNat) := by
      obtain ⟨_ | n, _ | ⟨x, axes⟩, _ | branch, replay⟩ := live <;> rfl
    rw [Json.Entries.orElse, hentry]
    cases live.calibrationPercent with
    | none => rfl
    | some n =>
        change some <$> percent (.ofNat n.toNat) = _
        rw [percent_ofNat]
        rfl
  have haxes : (Json.Entries.ofMembers fields live.members).orElse "joystick_axes" []
      (Json.list Json.double) = live.joystickAxes.mapM fun x => Json.double (.ofFloat x) := by
    have hentry : (Json.Entries.ofMembers fields live.members).entry "joystick_axes" =
        .ofMember (if live.joystickAxes.isEmpty then none
          else some (.array (live.joystickAxes.map Json.ofFloat))) := by
      obtain ⟨_ | n, _ | ⟨x, axes⟩, _ | branch, replay⟩ := live <;> rfl
    rw [Json.Entries.orElse, hentry]
    cases live.joystickAxes with
    | nil => rfl
    | cons x axes =>
        change ((x :: axes).map Json.ofFloat).mapM Json.double = _
        rw [List.mapM_map]
        rfl
  have hbranch : (Json.Entries.ofMembers fields live.members).orElse "branch" none
      (Json.nullable Json.text) = .ok live.branch := by
    obtain ⟨_ | n, _ | ⟨x, axes⟩, _ | branch, replay⟩ := live <;> rfl
  have hreplay : (Json.Entries.ofMembers fields live.members).orElse "replay" false
      Json.boolean = .ok live.replay := by
    obtain ⟨_ | n, _ | ⟨x, axes⟩, _ | branch, replay⟩ := live <;> rfl
  rw [decode, hentries, Json.ok_bind, hpercent, haxes, hbranch, hreplay]
  rfl

end LiveState

namespace Context

/-- The doubles of a context. -/
def floats (context : Context) : List Float :=
  context.car.minEnableSpeed :: context.car.minSteerSpeed :: context.live.joystickAxes

/-- The context with other doubles. -/
def withFloats (context : Context) : List Float → Context
  | enable :: steer :: axes =>
    { context with
      car := { context.car with minEnableSpeed := enable, minSteerSpeed := steer }
      live := { context.live with joystickAxes := axes } }
  | _ => context

theorem legible_toJson (context : Context) : context.toJson.Legible := by
  rw [toJson, Json.legible_record]
  simp [Car.legible_toJson, LiveState.legible_toJson, Json.legible_bool]

theorem decode_toJson (context : Context) : decode context.toJson = do
    let car ← Car.decode context.car.toJson
    let live ← LiveState.decode context.live.toJson
    return { context with car, live } := by
  have hentries : Json.entries fields context.toJson = .ok (.ofMembers fields [
      ("car", context.car.toJson),
      ("live", context.live.toJson),
      ("metric", .bool context.metric)]) :=
    Json.entries_record (by simp) fields
  rw [decode, hentries, Json.ok_bind]
  rfl

theorem optional_withFloats (context : Context) (xs : List Float) :
    (context.withFloats xs).live.calibrationPercent = context.live.calibrationPercent ∧
      (context.withFloats xs).live.branch = context.live.branch := by
  rw [withFloats.eq_def]
  split <;> exact ⟨rfl, rfl⟩

theorem decode_eq_ok_iff {context read : Context} :
    decode context.toJson = .ok read ↔
      ∃ xs, List.Forall₂ Reads context.floats xs ∧ read = context.withFloats xs := by
  rw [decode_toJson, Car.decode_toJson, LiveState.decode_toJson]
  simp only [Json.bind_eq_ok_iff, Json.mapM_eq_ok_iff, ← Json.reads_iff]
  constructor
  · rintro ⟨_, ⟨enable, henable, steer, hsteer, hcar⟩, _, ⟨axes, haxes, hlive⟩, hread⟩
    refine ⟨enable :: steer :: axes, .cons henable (.cons hsteer haxes), ?_⟩
    rw [← Except.ok.inj hread, ← Except.ok.inj hcar, ← Except.ok.inj hlive]
    rfl
  · rintro ⟨xs, hxs, rfl⟩
    cases hxs with
    | cons henable hxs =>
        cases hxs with
        | cons hsteer haxes =>
            exact ⟨_, ⟨_, henable, _, hsteer, rfl⟩, _, ⟨_, haxes, rfl⟩, rfl⟩

theorem beq_withFloats (context : Context) (enable steer : Float) (axes : List Float) :
    (context.withFloats (enable :: steer :: axes) == context) =
      ((enable == context.car.minEnableSpeed && steer == context.car.minSteerSpeed) &&
        axes == context.live.joystickAxes) := by
  have hcar : ∀ left right : Car, (left == right) = instBEqCar.beq left right := fun _ _ => rfl
  have hlive : ∀ left right : LiveState, (left == right) = instBEqLiveState.beq left right :=
    fun _ _ => rfl
  change instBEqContext.beq _ _ = _
  simp [instBEqContext.beq, hcar, hlive, instBEqCar.beq, instBEqLiveState.beq, withFloats]

theorem readBack (context : Context) {text : String}
    (htext : Json.ofText? text = some context.toJson) :
    Json.ReadBack decode floats withFloats context text := by
  have hcons : ∀ xs : List Float, xs.length = context.floats.length →
      ∃ enable steer axes, xs = enable :: steer :: axes := by
    intro xs hxs
    match xs, hxs with
    | enable :: steer :: axes, _ => exact ⟨enable, steer, axes, rfl⟩
  refine Json.readBack_of_decode_iff ?_ ?_ (fun _ => decode_eq_ok_iff) htext
  · intro xs hxs
    obtain ⟨enable, steer, axes, rfl⟩ := hcons xs hxs
    rfl
  · intro xs hxs
    obtain ⟨enable, steer, axes, rfl⟩ := hcons xs hxs
    rw [beq_withFloats, floats, List.cons_beq_cons, List.cons_beq_cons, Bool.and_assoc]

end Context

/-! ### Configurations -/

namespace Config

/-- The doubles of a configuration. -/
def floats (config : Config) : List Float :=
  [config.escalationWindow]

/-- The configuration with another double. -/
def withFloats (config : Config) : List Float → Config
  | [window] => { config with escalationWindow := window }
  | _ => config

theorem legible_toJson (config : Config) : config.toJson.Legible := by
  rw [toJson, Json.legible_record]
  simp [Json.legible_ofString, Json.legible_ofFloat, Json.ofNat, Json.legible_number]

theorem capacity_ofNat (n : UInt64) : capacity (.ofNat n.toNat) = .ok n := by
  have hn : n.toNat ≤ UInt64.size - 1 := Nat.le_sub_one_of_lt n.toNat_lt_size
  rw [capacity, Json.natural_ofNat hn]
  change Except.ok (UInt64.ofNat n.toNat) = _
  rw [UInt64.ofNat_toNat]

theorem decode_toJson (config : Config) : decode config.toJson = do
    let window ← Json.double (.ofFloat config.escalationWindow)
    return { config with escalationWindow := window } := by
  let members := [
    ("locale", Json.ofString config.locale.name),
    ("soft_disable_escalation_secs", .ofFloat config.escalationWindow),
    ("telemetry_queue_capacity", .ofNat config.queueCapacity.toNat)]
  have hentries : Json.entries fields config.toJson = .ok (.ofMembers fields members) :=
    Json.entries_record (by simp) fields
  have hlocale : (Json.Entries.ofMembers fields members).orElse "locale" .en (Json.word Locale) =
      .ok config.locale := Json.word_ofString config.locale
  have hcapacity : (Json.Entries.ofMembers fields members).orElse "telemetry_queue_capacity" 64
      capacity = .ok config.queueCapacity := capacity_ofNat config.queueCapacity
  rw [decode, hentries, Json.ok_bind, hlocale, hcapacity]
  rfl

theorem decode_eq_ok_iff {config read : Config} :
    decode config.toJson = .ok read ↔
      ∃ xs, List.Forall₂ Reads config.floats xs ∧ read = config.withFloats xs := by
  rw [decode_toJson]
  simp only [Json.bind_eq_ok_iff, ← Json.reads_iff]
  constructor
  · rintro ⟨window, hwindow, hread⟩
    exact ⟨[window], .cons hwindow .nil, (Except.ok.inj hread).symm⟩
  · rintro ⟨xs, hxs, rfl⟩
    cases hxs with
    | cons hwindow hxs =>
        cases hxs
        exact ⟨_, hwindow, rfl⟩

theorem beq_withFloats (config : Config) (window : Float) :
    (config.withFloats [window] == config) = (window == config.escalationWindow) := by
  change instBEqConfig.beq _ _ = _
  simp [instBEqConfig.beq, withFloats]

theorem readBack (config : Config) {text : String}
    (htext : Json.ofText? text = some config.toJson) :
    Json.ReadBack decode floats withFloats config text := by
  refine Json.readBack_of_decode_iff ?_ ?_ (fun _ => decode_eq_ok_iff) htext
  · intro xs hxs
    obtain ⟨window, rfl⟩ := List.length_eq_one_iff.mp hxs
    rfl
  · intro xs hxs
    obtain ⟨window, rfl⟩ := List.length_eq_one_iff.mp hxs
    rw [beq_withFloats, floats, List.cons_beq_cons]
    simp

theorem not_window_le_zero {config : Config} (h : config.validate = .ok ()) :
    ¬ config.escalationWindow ≤ 0 := by
  intro hwindow
  rw [validate, if_pos (.inr hwindow)] at h
  exact nomatch h

theorem decodeText_of_ofJson {json : String} {config : Config} (h : ofJson json = .ok config) :
    Json.decodeText decode json = .ok config := by
  rw [ofJson] at h
  split at h
  · exact nomatch h
  · next decoded hdecode =>
    cases hvalid : decoded.validate with
    | error cause =>
        rw [hvalid] at h
        exact nomatch h
    | ok _ =>
        rw [hvalid] at h
        obtain rfl : decoded = config := Except.ok.inj h
        exact hdecode

/-- A checked configuration whose window survives is read as it is, so it passes the check again. -/
theorem ofJson_toJsonPretty {config : Config} (hvalid : config.validate = .ok ())
    (hsurvives : Survives config.escalationWindow) : ofJson config.toJsonPretty = .ok config := by
  obtain ⟨window, hread, hsame⟩ := hsurvives
  obtain rfl := Json.eq_of_beq_of_pos hsame (not_window_le_zero hvalid)
  have hdecode : decode config.toJson = .ok config :=
    decode_eq_ok_iff.mpr ⟨[config.escalationWindow], .cons hread .nil, rfl⟩
  rw [ofJson, toJsonPretty, Json.decodeText, Json.ofText?_pretty config.legible_toJson]
  simp only [hdecode, hvalid]
  rfl

theorem exists_ofJson_iff {config : Config} (hvalid : config.validate = .ok ()) :
    (∃ read, ofJson config.toJsonPretty = .ok read ∧ read == config) ↔
      Survives config.escalationWindow := by
  have hequal := (config.readBack (Json.ofText?_pretty config.legible_toJson)).equal_iff
  rw [floats, List.forall_mem_singleton] at hequal
  constructor
  · rintro ⟨read, hread, hsame⟩
    exact hequal.mp ⟨read, decodeText_of_ofJson hread, hsame⟩
  · intro hsurvives
    obtain ⟨read, hread, hsame⟩ := hequal.mpr hsurvives
    have hofJson := ofJson_toJsonPretty hvalid hsurvives
    have hdecode := decodeText_of_ofJson hofJson
    rw [toJsonPretty, hread] at hdecode
    obtain rfl := Except.ok.inj hdecode
    exact ⟨read, hofJson, hsame⟩

end Config

/-- **A record is read back when its doubles are.** The text of an alert, of a context and of a
checked configuration, on one line or on many, is read as an equal value exactly when every double
in the value survives, and is not read at all when one of them is not finite, for such a double is
written as null. All that can be read differently are the doubles: a category, a progress or a
branch is there exactly when it was, and there are as many axes. A checked configuration whose
window survives is read and passes its check as the same configuration. -/
theorem records_are_read_back_when_doubles_survive :
    (∀ alert : Alert, ∀ text ∈ [alert.toJson.compact, alert.toJson.pretty],
        Json.ReadBack Alert.decode Alert.floats Alert.withFloats alert text ∧
          ∀ read, Json.decodeText Alert.decode text = .ok read → read.category = alert.category) ∧
      (∀ context : Context, ∀ text ∈ [context.toJson.compact, context.toJson.pretty],
        Json.ReadBack Context.decode Context.floats Context.withFloats context text ∧
          ∀ read, Json.decodeText Context.decode text = .ok read →
            read.live.calibrationPercent = context.live.calibrationPercent ∧
              read.live.joystickAxes.length = context.live.joystickAxes.length ∧
              read.live.branch = context.live.branch) ∧
      (∀ config : Config, config.validate = .ok () →
        (∀ text ∈ [config.toJson.compact, config.toJsonPretty],
          Json.ReadBack Config.decode Config.floats Config.withFloats config text) ∧
        ((∃ read, Config.ofJson config.toJsonPretty = .ok read ∧ read == config) ↔
          Survives config.escalationWindow) ∧
        (Survives config.escalationWindow → Config.ofJson config.toJsonPretty = .ok config)) ∧
      ∀ x : Float, x.isFinite = false → (Json.ofFloat x).compact = "null" ∧ ¬ Survives x := by
  have htexts : ∀ {json : Json}, json.Legible → ∀ text ∈ [json.compact, json.pretty],
      Json.ofText? text = some json := by
    intro json hlegible text htext
    obtain rfl | rfl := List.mem_pair.mp htext
    · exact Json.ofText?_compact hlegible
    · exact Json.ofText?_pretty hlegible
  refine ⟨fun alert text htext => ?_, fun context text htext => ?_, fun config hvalid => ?_,
    fun x hx => ?_⟩
  · have hback := alert.readBack (htexts alert.legible_toJson text htext)
    refine ⟨hback, fun read hread => ?_⟩
    rw [(hback.rest read hread).2, Alert.category_withFloats]
  · have hback := context.readBack (htexts context.legible_toJson text htext)
    refine ⟨hback, fun read hread => ?_⟩
    obtain ⟨hlength, hrest⟩ := hback.rest read hread
    have haxes : read.live.joystickAxes.length + 2 = context.live.joystickAxes.length + 2 := hlength
    obtain ⟨hpercent, hbranch⟩ := context.optional_withFloats read.floats
    rw [← hrest] at hpercent hbranch
    exact ⟨hpercent, Nat.add_right_cancel haxes, hbranch⟩
  · exact ⟨fun text htext => config.readBack (htexts config.legible_toJson text htext),
      Config.exists_ofJson_iff hvalid, Config.ofJson_toJsonPretty hvalid⟩
  · refine ⟨?_, fun hsurvives => ?_⟩
    · rw [Json.ofFloat_of_not_isFinite hx]
      rfl
    · rw [Json.isFinite_of_survives hsurvives] at hx
      exact nomatch hx

/-- A quiet banner whose sound repeats. -/
def chiming (rate : Float) : Alert :=
  ((Presets.normalPermanent "CAN Error" "\"\n").withActivationDelay 0.5).withRepeatRate rate

/-- A context in which nothing but the branch is known. -/
def onBranchNull : Context :=
  ⟨⟨"mock", 0.0, 8.25⟩, ⟨none, [], some "null", false⟩, true⟩

/-- A configuration with no default in it. -/
def russianConfiguration : Config :=
  ⟨.ru, 0.75, 8⟩

theorem read_back_of_chiming :
    (∃ read, Json.decodeText Alert.decode (chiming 0.75).toJson.compact = .ok read ∧
        read == chiming 0.75) ∧
      (¬ ∃ read, Json.decodeText Alert.decode (chiming 9.114716273668758e+63).toJson.compact =
          .ok read ∧ read == chiming 9.114716273668758e+63) ∧
      (∃ cause, Json.decodeText Alert.decode (chiming (1.0 / 0.0)).toJson.pretty = .error cause) ∧
      (∃ read, Json.decodeText Context.decode onBranchNull.toJson.compact = .ok read ∧
        read == onBranchNull) ∧
      russianConfiguration.validate = .ok () ∧
      Config.ofJson russianConfiguration.toJsonPretty = .ok russianConfiguration := by
  have hsurvives : ∀ x, Json.double (.ofFloat x) = .ok x ∧ x == x → Survives x :=
    fun x hread => ⟨x, Json.reads_iff.mpr hread.1, hread.2⟩
  have hlost : ¬ Survives 9.114716273668758e+63 := by
    rintro ⟨y, hread, hsame⟩
    have hother : Json.double (.ofFloat 9.114716273668758e+63) = .ok 9.114716273668759e+63 := by
      decide +kernel
    rw [Json.reads_iff, hother] at hread
    rw [← Except.ok.inj hread] at hsame
    exact absurd hsame (by decide +kernel)
  have hvalid : russianConfiguration.validate = .ok () := by rfl
  obtain ⟨halerts, hcontexts, hconfigs, -⟩ := records_are_read_back_when_doubles_survive
  refine ⟨?_, ?_, ?_, ?_, hvalid, (hconfigs _ hvalid).2.2 (hsurvives 0.75 (by decide +kernel))⟩
  · refine (halerts (chiming 0.75) _ List.mem_cons_self).1.equal_iff.mpr ?_
    simp only [Alert.floats, List.forall_mem_cons]
    exact ⟨hsurvives 0.75 (by decide +kernel), hsurvives 0.5 (by decide +kernel), nofun⟩
  · rw [(halerts (chiming 9.114716273668758e+63) _ List.mem_cons_self).1.equal_iff]
    exact fun h => hlost (h _ List.mem_cons_self)
  · have hback := (halerts (chiming (1.0 / 0.0)) _ (List.mem_pair.mpr (.inr rfl))).1
    exact hback.error_of_not_isFinite ⟨1.0 / 0.0, List.mem_cons_self, by decide⟩
  · refine (hcontexts onBranchNull _ List.mem_cons_self).1.equal_iff.mpr ?_
    simp only [Context.floats, List.forall_mem_cons]
    exact ⟨hsurvives 0.0 (by decide +kernel), hsurvives 8.25 (by decide +kernel), nofun⟩

end DriverAlerts
