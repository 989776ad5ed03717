import DriverAlerts.Proofs.Resolution.Standard
import DriverAlerts.Proofs.Text.Template
/-!
# No placeholder reaches the driver

A placeholder starts with an open brace, so a text without one has no placeholder. Of the texts of a
slot most are shown as they are and must not have one themselves. A template may have placeholders,
but only of the names for which its slot has a value, and the values are numbers and units. Whether
the texts of a catalog are of this kind is a finite check, and both built-in catalogs pass it. What
is left is the software branch, a text of the context that is shown as it is.
-/

namespace DriverAlerts

/-! ### Texts without open braces -/

namespace Text

/-- A text without an open brace. -/
def IsPlain (text : String) : Prop :=
  '\x7b' ∉ text.toList

instance (text : String) : Decidable (IsPlain text) :=
  inferInstanceAs (Decidable ('\x7b' ∉ text.toList))

theorem isPlain_ofList {chars : List Char} (h : chars.all (· ≠ '\x7b')) :
    IsPlain (String.ofList chars) := by
  rw [IsPlain, String.toList_ofList]
  intro hmem
  exact of_decide_eq_true (List.all_eq_true.mp h _ hmem) rfl

theorem isPlain_append {left right : String} (hleft : IsPlain left) (hright : IsPlain right) :
    IsPlain (left ++ right) := by
  rw [IsPlain, String.toList_append, List.mem_append, not_or]
  exact ⟨hleft, hright⟩

theorem isPlain_repr (n : Nat) : IsPlain n.repr := by
  rw [IsPlain, Nat.toList_repr]
  intro hmem
  have hdigit := Nat.isDigit_of_mem_toDigits (by decide) (by decide) hmem
  exact absurd hdigit (by decide)

theorem isPlain_toString (n : Int) : IsPlain (toString n) := by
  rw [Int.toString_eq_repr]
  cases n with
  | ofNat n => exact isPlain_repr n
  | negSucc n => exact isPlain_append (by decide) (isPlain_repr (n + 1))

end Text

open Text (IsPlain)

namespace Template

theorem not_names_of_isPlain {text : String} (hplain : IsPlain text) (name : String) :
    ¬ Names text name := by
  rintro ⟨-, htoken⟩
  exact hplain (htoken.subset List.mem_cons_self)

/-- Values of these names leave no open brace of the piece. -/
def Piece.isFilledBy (names : List String) : Piece → Bool
  | char c => c ≠ '\x7b'
  | placeholder name => names.contains (String.ofList name)

/-- Values of these names leave no open brace of the template. -/
def isFilledBy (template : Template) (names : List String) : Bool :=
  template.pieces.all (Piece.isFilledBy names)

theorem isPlain_render {template : Template} {values : List (String × String)}
    (hfilled : template.isFilledBy (values.map Prod.fst))
    (hvalues : ∀ entry ∈ values, IsPlain entry.2) : IsPlain (template.render values) := by
  rw [IsPlain, toList_render, List.mem_flatMap]
  rintro ⟨piece, hpiece, hmem⟩
  have hpiece := List.all_eq_true.mp hfilled piece hpiece
  cases piece with
  | char c =>
      rw [Piece.render, List.mem_singleton] at hmem
      exact of_decide_eq_true hpiece hmem.symm
  | placeholder name =>
      rw [Piece.isFilledBy, ← isSome_lookup] at hpiece
      obtain ⟨value, hvalue⟩ := Option.isSome_iff_exists.mp hpiece
      rw [Piece.render, hvalue] at hmem
      obtain ⟨before, after, rfl, -⟩ := List.lookup_eq_some_iff.mp hvalue
      exact hvalues _ (List.mem_append_right before List.mem_cons_self) hmem

end Template

/-! ### Alerts of plans -/

/-- Neither line has an open brace. -/
structure Alert.IsPlain (alert : Alert) : Prop where
  text1 : Text.IsPlain alert.text1
  text2 : Text.IsPlain alert.text2

namespace SlotPlan

/-- The keys of the texts that are shown as they are. -/
def verbatim : SlotPlan → List String
  | fixed prototype => prototype.keys
  | softDisable text2 => [text2]
  | userSoftDisable text2 => [text2]
  | startupMaster title => [title]
  | belowEngageSpeed _ => []
  | belowSteerSpeed _ => []
  | calibrationIncomplete _ _ => []
  | wrongCarMode cruiseOff mainSwitchOff => [cruiseOff, mainSwitchOff]
  | joystick title _ => [title]

/-- The keys of the templates, each with the names for which there are values. -/
def templates : SlotPlan → List (String × List String)
  | belowEngageSpeed reason => [(reason, ["speed"])]
  | belowSteerSpeed reason => [(reason, ["speed"])]
  | calibrationIncomplete title hint => [(title, ["percent"]), (hint, ["speed"])]
  | joystick _ axes => [(axes, ["gas", "steer"])]
  | _ => []

/-- The slot shows the software branch. -/
def showsBranch : SlotPlan → Bool
  | startupMaster _ => true
  | _ => false

end SlotPlan

/-- The texts that a plan shows as they are have no open brace, and its templates have none but
those of the placeholders that are filled. -/
structure SlotPlan.IsFilled (text : String → String) (plan : SlotPlan) : Prop where
  verbatim : ∀ key ∈ plan.verbatim, IsPlain (text key)
  templates : ∀ entry ∈ plan.templates, (Template.mk (text entry.1)).isFilledBy entry.2

instance (text : String → String) (plan : SlotPlan) : Decidable (plan.IsFilled text) :=
  decidable_of_iff ((∀ key ∈ plan.verbatim, IsPlain (text key)) ∧
      ∀ entry ∈ plan.templates, (Template.mk (text entry.1)).isFilledBy entry.2)
    ⟨fun h => ⟨h.1, h.2⟩, fun h => ⟨h.verbatim, h.templates⟩⟩

section Plans

variable {text : String → String}
  (hshared : ∀ key ∈ Presets.keys ++ SpeedUnits.keys, IsPlain (text key))
include hshared

theorem SpeedUnits.isPlain_display (speed : Float) (metric : Bool) :
    IsPlain ((ofTexts text).display speed metric) := by
  rw [display]
  split
  · exact Text.isPlain_append (Text.isPlain_append (Text.isPlain_toString _) (by decide))
      (hshared "unit.kph" (by decide))
  · exact Text.isPlain_append (Text.isPlain_append (Text.isPlain_toString _) (by decide))
      (hshared "unit.mph" (by decide))

theorem Prototype.isPlain_alert {prototype : Prototype}
    (hkeys : ∀ key ∈ prototype.keys, IsPlain (text key)) :
    (prototype.alert (.ofTexts text)).IsPlain := by
  have hline : ∀ line : Line, (∀ key ∈ line.keys, IsPlain (text key)) →
      IsPlain (line.read (.ofTexts text)) := by
    intro line hline
    cases line with
    | empty => exact (by decide : IsPlain "")
    | text key => exact hline key (List.mem_singleton_self key)
  induction prototype with
  | plain text1 text2 style seconds =>
      rw [keys, List.forall_mem_append] at hkeys
      exact ⟨hline text1 hkeys.1, hline text2 hkeys.2⟩
  | noEntry text2 visual =>
      exact ⟨hshared "preset.no_entry_title" (by decide), hkeys text2 (by simp [keys])⟩
  | immediateDisable text2 =>
      exact ⟨hshared "preset.take_control" (by decide), hkeys text2 (by simp [keys])⟩
  | engagement audible => exact ⟨(by decide : IsPlain ""), (by decide : IsPlain "")⟩
  | normalPermanent text1 text2 =>
      rw [keys, List.forall_mem_cons] at hkeys
      exact ⟨hkeys.1, hline text2 hkeys.2⟩
  | startup text1 =>
      exact ⟨hkeys text1 (by simp [keys]), hshared "preset.startup_hint" (by decide)⟩
  | startupWith text1 text2 status =>
      exact ⟨hkeys text1 (by simp [keys]), hkeys text2 (by simp [keys])⟩
  | withPriority base _ ih => exact { ih hkeys with }
  | withDuration base _ ih => exact { ih hkeys with }
  | withRepeatRate base _ ih => exact { ih hkeys with }
  | withActivationDelay base _ ih => exact { ih hkeys with }

namespace SlotPlan

variable {plan : SlotPlan} {window : Float} {context : Context} {age : Cycles} {alert : Alert}

theorem isPlain_of_build (hplan : plan.IsFilled text) (hbranch : ¬ plan.showsBranch)
    (hbuild : (plan.slot (.ofTexts text) window).build context age = .ok alert) :
    alert.IsPlain := by
  obtain ⟨hverbatim, htemplates⟩ := hplan
  have hspeed : ∀ {reason : String} (speed : Float) (metric : Bool),
      (Template.mk (text reason)).isFilledBy ["speed"] →
        IsPlain ((Wording.ofTexts text).render reason
          [("speed", (SpeedUnits.ofTexts text).display speed metric)]) := by
    intro reason speed metric hfilled
    refine Template.isPlain_render hfilled fun entry hentry => ?_
    rw [List.mem_singleton.mp hentry]
    exact SpeedUnits.isPlain_display hshared speed metric
  have hnoEntry := hshared "preset.no_entry_title" (by decide)
  have htakeControl := hshared "preset.take_control" (by decide)
  cases plan with
  | fixed prototype =>
      rw [← Except.ok.inj hbuild]
      exact Prototype.isPlain_alert hshared hverbatim
  | softDisable text2 =>
      have htext2 := hverbatim text2 (List.mem_singleton_self text2)
      rw [← Except.ok.inj hbuild]
      split
      · exact ⟨htakeControl, htext2⟩
      · exact ⟨htakeControl, htext2⟩
  | userSoftDisable text2 =>
      have htext2 := hverbatim text2 (List.mem_singleton_self text2)
      rw [← Except.ok.inj hbuild]
      split
      · exact ⟨htakeControl, htext2⟩
      · exact ⟨hshared "preset.user_soft_disable_title" (by decide), htext2⟩
  | startupMaster title => exact absurd rfl hbranch
  | belowEngageSpeed reason =>
      rw [← Except.ok.inj hbuild]
      exact ⟨hnoEntry, hspeed _ _ (htemplates (reason, ["speed"]) (List.mem_singleton_self _))⟩
  | belowSteerSpeed reason =>
      rw [← Except.ok.inj hbuild]
      exact ⟨hspeed _ _ (htemplates (reason, ["speed"]) (List.mem_singleton_self _)),
        (by decide : IsPlain "")⟩
  | calibrationIncomplete title hint =>
      rw [templates, List.forall_mem_cons, List.forall_mem_singleton] at htemplates
      rw [slot, Slot.build] at hbuild
      cases hpercent : context.live.calibrationPercent with
      | none =>
          rw [hpercent] at hbuild
          cases hbuild
      | some percent =>
          rw [hpercent] at hbuild
          rw [← Except.ok.inj hbuild]
          refine ⟨Template.isPlain_render htemplates.1 fun entry hentry => ?_,
            hspeed _ _ htemplates.2⟩
          rw [List.mem_singleton.mp hentry]
          exact Text.isPlain_repr percent.toNat
  | wrongCarMode cruiseOff mainSwitchOff =>
      rw [← Except.ok.inj hbuild]
      refine ⟨hnoEntry, hverbatim _ ?_⟩
      split
      · exact List.mem_cons_of_mem _ (List.mem_singleton_self _)
      · exact List.mem_cons_self
  | joystick title axesText =>
      rw [← Except.ok.inj hbuild]
      refine ⟨hverbatim title (List.mem_singleton_self title),
        Template.isPlain_render (htemplates _ (List.mem_singleton_self _)) fun entry hentry => ?_⟩
      rw [List.mem_pair] at hentry
      obtain rfl | rfl := hentry
      · exact Text.isPlain_toString _
      · exact Text.isPlain_toString _

omit hshared in
/-- The software branch is shown as it is. -/
theorem lines_of_showsBranch (hplan : plan.IsFilled text) (hbranch : plan.showsBranch)
    (hbuild : (plan.slot (.ofTexts text) window).build context age = .ok alert) :
    IsPlain alert.text1 ∧
      alert.text2 = if context.live.replay then "replay" else context.live.branch.getD "" := by
  cases plan with
  | startupMaster title =>
      rw [← Except.ok.inj hbuild]
      exact ⟨hplan.verbatim title (List.mem_singleton_self title), rfl⟩
  | _ => exact absurd hbranch Bool.false_ne_true

end SlotPlan

end Plans

/-! ### The standard plans in the built-in wordings -/

namespace Standard

theorem showsBranch_iff {event : Event} {category : Category} {plan : SlotPlan}
    (hplan : (event, category, plan) ∈ slots) :
    plan.showsBranch ↔ event = .startupMaster ∧ category = .permanent := by
  have hall : slots.all fun slot => slot.2.2.showsBranch =
      decide (slot.1 = .startupMaster ∧ slot.2.1 = .permanent) := by decide
  rw [of_decide_eq_true (List.all_eq_true.mp hall _ hplan), decide_eq_true_iff]

/-- The keys of all templates, each with the names for which there are values. -/
def templates : List (String × List String) :=
  slots.flatMap fun slot => slot.2.2.templates

/-- Every text is plain if it is not that of a template. -/
theorem isPlain_text (locale : Locale) {key : String} (hkey : key ∉ templates.map Prod.fst) :
    IsPlain ((Catalog.embedded locale).textOrEmpty key) := by
  have hkeys : templates.map Prod.fst = ["joystick.axes", "below_steer_speed", "below_engage_speed",
      "calibration_incomplete.title", "calibration_incomplete.hint"] := by decide
  have htexts : ∀ entry ∈ (Catalog.embedded locale).texts,
      entry.1 ∈ templates.map Prod.fst ∨ IsPlain entry.2 := by
    -- A literal is checked as the list of its characters, because its bytes take long to decode.
    rw [hkeys]
    cases locale with
    | en | ru =>
        repeat' refine List.forall_mem_cons.mpr ⟨?_, ?_⟩
        all_goals first
          | exact List.forall_mem_nil _
          | right; apply Text.isPlain_ofList; decide +kernel
          | left; decide
  rw [Catalog.textOrEmpty, Catalog.text?]
  cases hfound : (Catalog.embedded locale).texts.lookup key with
  | none => exact (by decide : IsPlain "")
  | some text =>
      obtain ⟨before, after, hentries, -⟩ := List.lookup_eq_some_iff.mp hfound
      have hentry : (key, text) ∈ (Catalog.embedded locale).texts := by
        rw [hentries]
        exact List.mem_append_right before List.mem_cons_self
      exact (htexts _ hentry).resolve_left hkey

theorem isPlain_shared (locale : Locale) :
    ∀ key ∈ Presets.keys ++ SpeedUnits.keys,
      IsPlain ((Catalog.embedded locale).textOrEmpty key) := by
  have hkeys : ∀ key ∈ Presets.keys ++ SpeedUnits.keys, key ∉ templates.map Prod.fst := by
    decide +kernel
  exact fun key hkey => isPlain_text locale (hkeys key hkey)

theorem isFilled_of_mem_slots (locale : Locale) {event : Event} {category : Category}
    {plan : SlotPlan} (hplan : (event, category, plan) ∈ slots) :
    plan.IsFilled (Catalog.embedded locale).textOrEmpty := by
  have hverbatim : slots.all fun slot => slot.2.2.verbatim.all fun key =>
      !(templates.map Prod.fst).contains key := by decide +kernel
  have htemplates : templates.all fun entry =>
      (Template.mk ((Catalog.embedded locale).textOrEmpty entry.1)).isFilledBy entry.2 := by
    cases locale <;> decide +kernel
  refine ⟨fun key hkey => isPlain_text locale fun hmem => ?_, fun entry hentry => ?_⟩
  · have hnot := List.all_eq_true.mp (List.all_eq_true.mp hverbatim _ hplan) key hkey
    rw [List.contains_iff_mem.mpr hmem] at hnot
    exact Bool.false_ne_true hnot
  · exact List.all_eq_true.mp htemplates entry (List.mem_flatMap.mpr ⟨_, hplan, hentry⟩)

end Standard

open Template in
/-- **No placeholder reaches the driver.** A set over the standard table in a built-in wording,
whatever its window, events and counts, resolves in whatever context to alerts without placeholders,
in either line, except that the banner of the software branch shows the branch as the context has
it, or the word for a replay. -/
theorem resolved_lines_have_no_placeholder {locale : Locale} {window : Float} {set : EventSet}
    (htable : Table.standardWithCatalog (.embedded locale) window = .ok set.table)
    {categories : List Category} {context : Context} {alerts : List Alert}
    (hresolve : (set.resolve categories context).value = .ok alerts) :
    ∀ alert ∈ alerts,
      (alert.tag ≠ "startupMaster/permanent" →
        ∀ name, ¬ Names alert.text1 name ∧ ¬ Names alert.text2 name) ∧
      (alert.tag = "startupMaster/permanent" →
        (∀ name, ¬ Names alert.text1 name) ∧
          alert.text2 = if context.live.replay then "replay" else context.live.branch.getD "") := by
  have hmade := (Table.standardWithCatalog_eq_ok_iff.mp htable).2
  have hbanner : "startupMaster/permanent" = Alert.origin .startupMaster .permanent := by decide
  intro alert halert
  rw [(EventSet.resolve_eq_ok_iff.mp hresolve).2] at halert
  obtain ⟨⟨event, category⟩, -, hsurfaced⟩ := List.mem_filterMap.mp halert
  obtain ⟨built, houtcome, -, rfl⟩ := EventSet.surfaced_eq_some_iff.mp hsurfaced
  obtain ⟨_, hslot, hbuild⟩ := EventSet.outcome_eq_some_iff.mp houtcome
  obtain ⟨plan, hplan, rfl⟩ := (Standard.slot?_table hmade).mp hslot
  have hfilled := Standard.isFilled_of_mem_slots locale hplan
  have htag : (built.resolved event category).tag = "startupMaster/permanent" ↔
      plan.showsBranch := by
    rw [hbanner, Standard.showsBranch_iff hplan]
    exact Alert.origin_inj
  rw [ne_eq, htag]
  constructor
  · intro hbranch name
    have hplain := SlotPlan.isPlain_of_build (Standard.isPlain_shared locale) hfilled hbranch hbuild
    exact ⟨not_names_of_isPlain hplain.text1 name, not_names_of_isPlain hplain.text2 name⟩
  · intro hbranch
    obtain ⟨htext1, htext2⟩ := SlotPlan.lines_of_showsBranch hfilled hbranch hbuild
    exact ⟨not_names_of_isPlain htext1, htext2⟩

/-- The banner of the software branch, and a debug joystick. -/
def bannerAndJoystick : List Command :=
  [.add .startupMaster false, .add .joystickDebug false]

/-- Both axes at work, on a branch whose name looks like a placeholder. -/
def onBracedBranch : Context :=
  ⟨⟨"mock", 5.0, 8.0⟩, ⟨some 42, [0.25, -1.0], some "\x7bgas\x7d", false⟩, true⟩

theorem no_placeholder_of_bannerAndJoystick :
    ∃ table alerts, Table.standardWithCatalog (.embedded .ru) 0.02 = .ok table ∧
      ((run table bannerAndJoystick).resolve [.permanent, .warning] onBracedBranch).value =
        .ok alerts ∧
      alerts.map (fun alert => (alert.tag, alert.text2)) =
        [("startupMaster/permanent", "\x7bgas\x7d"), ("joystickDebug/permanent", ""),
          ("joystickDebug/warning", "Gas: 25%, Steer: -100%")] ∧
      ∀ alert ∈ alerts, alert.tag ≠ "startupMaster/permanent" →
        ∀ name, ¬ Template.Names alert.text1 name ∧ ¬ Template.Names alert.text2 name := by
  obtain ⟨table, htable⟩ := Table.exists_standard_embedded .ru 0.02
  have hrun : Table.standardWithCatalog (.embedded .ru) 0.02 =
      .ok (run table bannerAndJoystick).table := by rw [table_run, htable]
  obtain ⟨alerts, hresolve⟩ : ∃ alerts, ((run table bannerAndJoystick).resolve
      [.permanent, .warning] onBracedBranch).value = .ok alerts :=
    EventSet.exists_ok_standard (Table.standardWithCatalog_eq_ok_iff.mp hrun).2 onBracedBranch
      fun h => nomatch h.2.2
  have hlines : ((Standard.table (.ofTexts (Catalog.embedded .ru).textOrEmpty) 0.02).toOption.bind
      fun table => ((run table bannerAndJoystick).resolve [.permanent, .warning]
        onBracedBranch).value.toOption.map (List.map fun alert => (alert.tag, alert.text2))) =
      some [("startupMaster/permanent", "\x7bgas\x7d"), ("joystickDebug/permanent", ""),
        ("joystickDebug/warning", "Gas: 25%, Steer: -100%")] := by decide +kernel
  rw [(Table.standardWithCatalog_eq_ok_iff.mp htable).2, Except.toOption, Option.bind_some,
    hresolve, Except.toOption, Option.map_some, Option.some.injEq] at hlines
  exact ⟨table, alerts, htable, hresolve, hlines, fun alert halert =>
    (resolved_lines_have_no_placeholder hrun hresolve alert halert).1⟩

end DriverAlerts
