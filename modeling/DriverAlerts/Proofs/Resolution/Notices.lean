import DriverAlerts.Proofs.Cycles.Saturation
import DriverAlerts.Proofs.EventSet.Notices
import DriverAlerts.Proofs.Resolution.Debounce
/-!
# What is said while alerts are resolved

A resolution speaks of each alert when it adds it to the result, and of a failure when it ends with
one. Up to the first failure the notices are therefore those of the requests before it, one for each
alert that is not kept back, and the failure is the last thing said. A log tells what a resolution
found even when the result does not.
-/

namespace DriverAlerts

/-! ### Answering requests -/

namespace Request

/-- What is said of the alert that a request adds to a resolution. -/
def trace? (context : Context) (request : Request) : Option Notice :=
  (request.surfaced context).map fun alert => .resolved alert request.age

theorem build_of_failure_eq_none {context : Context} {request : Request}
    (h : request.failure context = none) : ∃ alert, request.build context = .ok alert := by
  rw [failure] at h
  cases hbuild : request.build context with
  | ok alert => exact ⟨alert, rfl⟩
  | error cause =>
      rw [hbuild] at h
      exact absurd h (Option.some_ne_none cause)

end Request

/-- Requests that do not fail say what they add, and the others follow. -/
theorem notices_answer_append {context : Context} {before : List Request}
    (hbefore : ∀ request ∈ before, request.failure context = none) (rest : List Request) :
    (answer context (before ++ rest)).notices =
      before.filterMap (Request.trace? context) ++ (answer context rest).notices := by
  induction before with
  | nil => rfl
  | cons request before ih =>
      rw [List.forall_mem_cons] at hbefore
      obtain ⟨alert, hbuild⟩ := Request.build_of_failure_eq_none hbefore.1
      rw [List.cons_append, answer, hbuild, List.filterMap_cons, Request.trace?, Request.surfaced,
        hbuild]
      dsimp only
      cases request.covers alert with
      | false => exact ih hbefore.2
      | true => exact congrArg _ (ih hbefore.2)

/-- Nothing is said behind the first failure. -/
theorem notices_answer_of_failure {context : Context} {request : Request} {cause : FactoryError}
    (hfailure : request.failure context = some cause) (rest : List Request) :
    (answer context (request :: rest)).notices = [.failed cause] := by
  rw [Request.failure] at hfailure
  rw [answer]
  cases hbuild : request.build context with
  | ok alert =>
      rw [hbuild] at hfailure
      exact absurd hfailure (Option.some_ne_none cause).symm
  | error other =>
      rw [hbuild] at hfailure
      rw [Option.some.inj hfailure]

namespace EventSet

variable {set : EventSet} {categories : List Category} {context : Context}

/-- What is said of the alert that a pair surfaces. -/
def trace? (set : EventSet) (context : Context) (pair : Event × Category) : Option Notice :=
  (set.surfaced context pair).map fun alert => .resolved alert (set.age pair.1)

theorem trace?_eq_bind (set : EventSet) (context : Context) (pair : Event × Category) :
    set.trace? context pair = (set.request? pair).bind (Request.trace? context) := by
  rw [trace?, surfaced_eq_bind, request?]
  cases set.table.slot? pair.1 pair.2 <;> rfl

/-- Pairs without a failure say what they surface. -/
theorem filterMap_trace?_request? (set : EventSet) (context : Context)
    (pairs : List (Event × Category)) :
    (pairs.filterMap set.request?).filterMap (Request.trace? context) =
      pairs.filterMap (set.trace? context) := by
  rw [List.filterMap_filterMap]
  simp only [← trace?_eq_bind]

theorem forall_failure_eq_none {pairs : List (Event × Category)}
    (hpairs : ∀ pair ∈ pairs, set.failure context pair = none) :
    ∀ request ∈ pairs.filterMap set.request?, request.failure context = none := by
  intro request hrequest
  obtain ⟨pair, hpair, hpair_request⟩ := List.mem_filterMap.mp hrequest
  have hfailure := hpairs pair hpair
  rwa [failure_eq_bind, hpair_request, Option.bind_some] at hfailure

theorem notices_resolve_of_ok {alerts : List Alert}
    (hok : (set.resolve categories context).value = .ok alerts) :
    (set.resolve categories context).notices =
      (set.pairs categories).filterMap (set.trace? context) := by
  have hnone := forall_failure_eq_none (resolve_eq_ok_iff.mp hok).1
  have hnotices := notices_answer_append hnone []
  rw [List.append_nil, filterMap_trace?_request?] at hnotices
  rw [resolve, requests_eq, hnotices]
  exact List.append_nil _

/-- The pairs before the one that fails are spoken of as if nothing had failed. -/
theorem notices_resolve_of_error {before after : List (Event × Category)} {pair : Event × Category}
    {cause : FactoryError} (hpairs : set.pairs categories = before ++ pair :: after)
    (hfailure : set.failure context pair = some cause)
    (hbefore : ∀ earlier ∈ before, set.failure context earlier = none) :
    (set.resolve categories context).notices =
      before.filterMap (set.trace? context) ++ [.failed cause] := by
  obtain ⟨request, hrequest, hfails⟩ : ∃ request, set.request? pair = some request ∧
      request.failure context = some cause := by
    rwa [failure_eq_bind, Option.bind_eq_some_iff] at hfailure
  rw [resolve, requests_eq, hpairs, List.filterMap_append, List.filterMap_cons, hrequest,
    notices_answer_append (forall_failure_eq_none hbefore), filterMap_trace?_request?,
    notices_answer_of_failure hfails]

/-- A log line reports an alert: it tells the tag of the alert, for how many cycles in a row the event
of the alert has been active, the current one included, and what is shown. -/
def Reports (set : EventSet) (alert : Alert) (notice : Notice) : Prop :=
  ∃ event ∈ set.active, ∃ category, alert.tag = Alert.origin event category ∧
    notice.line = (.trace, "resolved " ++ alert.tag ++ " after " ++
      toString (min ((set.persistence event).toNat + 1) Cycles.limit) ++ " cycles: " ++
      alert.describe)

/-- The alerts that pairs surface and what is said of them stand in the same order. -/
theorem reports_of_pairs (pairs : List (Event × Category))
    (hactive : ∀ pair ∈ pairs, pair.1 ∈ set.active) :
    List.Forall₂ set.Reports (pairs.filterMap (set.surfaced context))
      (pairs.filterMap (set.trace? context)) := by
  apply forall₂_filterMap_of_rel
  intro pair hpair
  rw [trace?]
  cases hsurfaced : set.surfaced context pair with
  | none => exact .none
  | some alert =>
      obtain ⟨built, -, -, rfl⟩ := surfaced_eq_some_iff.mp hsurfaced
      refine .some ⟨pair.1, hactive pair hpair, pair.2, rfl, ?_⟩
      rw [← Cycles.toNat_saturate]
      rfl

end EventSet

/-- **What is said matches what happened.** A resolution that succeeds reports its alerts, one line for
each and in their order. One that fails reports the alerts of the pairs before the first that fails, and
then says what it returns, as an error, and nothing else. Whatever a set is handed, the lines are
those about events without a row and about records of unknown events, each in its place, and about no
other event: what is handed over and not skipped is what becomes active. A batch that is refused is not
spoken of at all. -/
theorem notices_tell_what_happened :
    (∀ (set : EventSet) categories context alerts,
      (set.resolve categories context).value = .ok alerts →
        List.Forall₂ set.Reports alerts (set.resolve categories context).notices) ∧
      (∀ (set : EventSet) categories context cause,
        (set.resolve categories context).value = .error cause →
          ∃ before pair after traces last, set.pairs categories = before ++ pair :: after ∧
            set.failure context pair = some cause ∧
            (∀ earlier ∈ before, set.failure context earlier = none) ∧
            (set.resolve categories context).notices = traces ++ [last] ∧
            List.Forall₂ set.Reports (before.filterMap (set.surfaced context)) traces ∧
            last.line = (.error, cause.message)) ∧
      (∀ set commands,
        (performAll set commands).value =
            commands.foldl (fun set command => command.apply set) set ∧
          (performAll set commands).notices.map Notice.line =
            (commands.flatMap Command.intake).filterMap (Intake.line? set.table)) ∧
      (∀ (set : EventSet) commands, (∀ command ∈ commands, command.isReset = false) →
        (performAll set commands).value.active =
          set.active ++ (commands.flatMap Command.intake).filterMap Intake.event?) ∧
      ∀ (set : EventSet) records cause, (set.tryAddRecords records).value.2 = .error cause →
        (set.tryAddRecords records).notices = [] := by
  refine ⟨fun set categories context alerts hok => ?_,
    fun set categories context cause herror => ?_,
    fun set commands => ⟨value_performAll set commands, lines_performAll set commands⟩,
    fun set _ => active_performAll set,
    fun set _ _ => set.notices_tryAddRecords_of_error⟩
  · rw [EventSet.notices_resolve_of_ok hok, (EventSet.resolve_eq_ok_iff.mp hok).2]
    exact EventSet.reports_of_pairs _ fun pair hpair => (EventSet.mem_pairs.mp hpair).1
  · obtain ⟨before, pair, after, hpairs, hfailure, hbefore⟩ :=
      EventSet.resolve_eq_error_iff.mp herror
    have hactive : ∀ earlier ∈ before, earlier.1 ∈ set.active := by
      intro earlier hearlier
      have hmem : earlier ∈ set.pairs categories := by
        rw [hpairs]
        exact List.mem_append_left _ hearlier
      exact (EventSet.mem_pairs.mp hmem).1
    exact ⟨before, pair, after, _, _, hpairs, hfailure, hbefore,
      EventSet.notices_resolve_of_error hpairs hfailure hbefore,
      EventSet.reports_of_pairs before hactive, rfl⟩

/-- Something hot has a banner, a warning that is kept back for three cycles, and a notice of refusal
that cannot be built. -/
def hotTable : Table :=
  .ofRows fun event =>
    if event = .overheat then
      some (.ofSlots [(.permanent, .fixed (Presets.normalPermanent "Overheated" "")),
        (.warning, .fixed ((Presets.normalPermanent "Still hot" "").withActivationDelay 0.03)),
        (.noEntry, .dynamic fun _ _ => .error ⟨"branch"⟩)])
    else none

/-- The second cycle with something hot. -/
def hotSet : EventSet :=
  run hotTable [.add .overheat true, .reset]

/-- An event without a row, and records of which one is unknown, taken first leniently and then
strictly. -/
def mixedIntake : List Command :=
  [.add .canError false, .addRecords [⟨"overheat", .none⟩, ⟨"unheard", .none⟩, ⟨"ldw", .none⟩],
    .tryAddRecords [⟨"ldw", .none⟩, ⟨"unheard", .none⟩]]

/-- The banner is reported and the warning is not, and what cannot be built is said last. -/
theorem notices_of_hotSet :
    (∃ alerts, (hotSet.resolve [.permanent, .warning] parked).value = .ok alerts ∧
        List.Forall₂ hotSet.Reports alerts (hotSet.resolve [.permanent, .warning] parked).notices) ∧
      (hotSet.resolve [.permanent, .warning] parked).notices.map Notice.line =
        [(.trace, "resolved overheat/permanent after 2 cycles: Overheated/ Lower None None")] ∧
      (∃ traces last, (hotSet.resolve [.permanent, .noEntry] parked).notices = traces ++ [last] ∧
        traces.length = 1 ∧ last.line =
          (.error, "Alert factory for 'overheat/noEntry' needs live state field 'branch'")) ∧
      (performAll hotSet mixedIntake).notices.map Notice.line =
        [(.debug, "event canError has no policy row, it classifies as no categories"),
          (.debug, "skipping record: Unknown event name in record: 'unheard'"),
          (.debug, "event ldw has no policy row, it classifies as no categories")] ∧
      (performAll hotSet mixedIntake).value.active = [.overheat, .canError, .overheat, .ldw] ∧
      (hotSet.tryAddRecords [⟨"ldw", .none⟩, ⟨"unheard", .none⟩]).notices = [] := by
  obtain ⟨hok, herror, hlines, hactive, hrefused⟩ := notices_tell_what_happened
  refine ⟨?_, by decide +kernel, ?_, ?_, ?_, hrefused _ _ (.unknownEvent "unheard") rfl⟩
  · cases hvalue : (hotSet.resolve [.permanent, .warning] parked).value with
    | ok alerts => exact ⟨alerts, rfl, hok _ _ _ _ hvalue⟩
    | error cause =>
        have hsome : (hotSet.resolve [.permanent, .warning] parked).value.toOption.isSome := by
          decide +kernel
        rw [hvalue] at hsome
        exact nomatch hsome
  · have hfails : (hotSet.resolve [.permanent, .noEntry] parked).value =
        .error (.missingLiveState .overheat .noEntry "branch") := by
      rfl
    have hlength : (hotSet.resolve [.permanent, .noEntry] parked).notices.length = 2 := by rfl
    obtain ⟨_, _, _, traces, last, -, -, -, hnotices, -, hlast⟩ := herror _ _ _ _ hfails
    rw [hnotices, List.length_append] at hlength
    exact ⟨traces, last, hnotices, Nat.succ.inj hlength, hlast⟩
  · rw [(hlines hotSet mixedIntake).2]
    decide
  · rw [hactive hotSet mixedIntake (by decide)]
    decide

end DriverAlerts
