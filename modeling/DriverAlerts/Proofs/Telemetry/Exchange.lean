import DriverAlerts.Telemetry
import Mathlib.Data.List.Induction
/-!
# What goes through a telemetry channel

A channel has several parties, and their calls come in any order. The queue makes one sequence of
them: a call that may wait has its place where it stops waiting, and a call that takes all snapshots
is as good as taking them one at a time (`Exchange.next_drain_eq`), so that other calls may come in
between.

`perform_moves` says once what a call can do to the queue, the count and the notices. Whatever holds
of a channel after any calls is then an induction over `Moves` alone, which never looks at a call.
-/

namespace DriverAlerts

/-- A call on one of the ends of a channel. -/
inductive Call (α : Type) where
  | publish (item : α)
  | receive
  | receiveWithin (milliseconds : Nat)
  | drain
  | addPublisher
  | dropPublisher
  | dropReceiver

namespace Call

variable {α β : Type}

def map (f : α → β) : Call α → Call β
  | .publish item => .publish (f item)
  | .receive => .receive
  | .receiveWithin milliseconds => .receiveWithin milliseconds
  | .drain => .drain
  | .addPublisher => .addPublisher
  | .dropPublisher => .dropPublisher
  | .dropReceiver => .dropReceiver

@[simp] def offered : Call α → List α
  | .publish item => [item]
  | _ => []

@[simp] def isAddPublisher : Call α → Bool
  | .addPublisher => true
  | _ => false

@[simp] def isDropPublisher : Call α → Bool
  | .dropPublisher => true
  | _ => false

theorem isAddPublisher_of_isDropPublisher {call : Call α} (hcall : call.isDropPublisher) :
    call.isAddPublisher = false := by
  cases call with
  | dropPublisher => rfl
  | _ => exact absurd hcall Bool.false_ne_true

theorem offered_map (f : α → β) (call : Call α) : (call.map f).offered = call.offered.map f := by
  cases call <;> rfl

end Call

/-- What a call answers. -/
inductive Answer where
  | published (answer : Except TelemetryError Bool)
  | received (answer : Except TelemetryError (Option Snapshot))
  | waited (answer : Except TelemetryError Snapshot)
  | drained (snapshots : List Snapshot)
  | done

/-- A call that has been answered. -/
structure Reply where
  call : Call Snapshot
  answer : Answer

namespace Reply

/-- The snapshot that went into the queue. -/
@[simp] def accepted : Reply → List Snapshot
  | ⟨.publish snapshot, .published (.ok true)⟩ => [snapshot]
  | _ => []

/-- The snapshot that found the queue full. -/
@[simp] def refused : Reply → List Snapshot
  | ⟨.publish snapshot, .published (.ok false)⟩ => [snapshot]
  | _ => []

/-- The snapshots that the receiver got, by whichever call. -/
@[simp] def received (reply : Reply) : List Snapshot :=
  match reply.answer with
  | .received (.ok (some snapshot)) => [snapshot]
  | .waited (.ok snapshot) => [snapshot]
  | .drained snapshots => snapshots
  | _ => []

theorem eq_nil_of_offered {reply : Reply} (hoffered : reply.call.offered = []) :
    reply.accepted = [] ∧ reply.refused = [] := by
  obtain ⟨call, answer⟩ := reply
  cases call with
  | publish snapshot => exact absurd hoffered (List.cons_ne_nil _ _)
  | _ => exact ⟨rfl, rfl⟩

end Reply

namespace Telemetry

/-- The channel that a call leaves and what the call answers. -/
def perform (channel : Telemetry) : Call Snapshot → Logged (Telemetry × Answer)
  | .publish snapshot => do
    let (channel, answer) ← channel.publish snapshot
    return (channel, .published answer)
  | .receive =>
    let (channel, answer) := channel.receive
    pure (channel, .received answer)
  | .receiveWithin milliseconds =>
    let (channel, answer) := channel.receiveWithin milliseconds
    pure (channel, .waited answer)
  | .drain =>
    let (channel, snapshots) := channel.drain
    pure (channel, .drained snapshots)
  | .addPublisher => pure (channel.addPublisher, .done)
  | .dropPublisher => pure (channel.dropPublisher, .done)
  | .dropReceiver => pure (channel.dropReceiver, .done)

/-! ### The calls -/

section Calls

variable (channel : Telemetry)

theorem publish_of_gone (hgone : channel.isReceiving = false) (snapshot : Snapshot) :
    channel.publish snapshot = pure (channel, .error .disconnected) := by
  simp only [publish, hgone, Bool.false_eq_true, not_false_eq_true, if_true]

theorem publish_of_room (hreceiving : channel.isReceiving)
    (hroom : channel.queue.length < channel.capacity) (snapshot : Snapshot) :
    channel.publish snapshot =
      pure ({ channel with queue := channel.queue ++ [snapshot] }, .ok true) := by
  simp only [publish, hreceiving, not_true_eq_false, if_false, hroom, if_true]

theorem publish_of_full (hreceiving : channel.isReceiving)
    (hfull : ¬ channel.queue.length < channel.capacity) (snapshot : Snapshot) :
    channel.publish snapshot =
      ⟨({ channel with dropped := channel.dropped + 1 }, .ok false),
        [.queueFull snapshot.cycle (channel.dropped + 1)]⟩ := by
  simp only [publish, hreceiving, not_true_eq_false, if_false, hfull]

/-- The three answers to a publisher tell apart a queue with room, a full one and one without a
receiver. -/
theorem publish_answer (snapshot : Snapshot) :
    ((channel.publish snapshot).value.2 = .ok true ↔
        channel.isReceiving ∧ channel.queue.length < channel.capacity) ∧
      ((channel.publish snapshot).value.2 = .ok false ↔
        channel.isReceiving ∧ channel.capacity ≤ channel.queue.length) ∧
      ((channel.publish snapshot).value.2 = .error .disconnected ↔ ¬ channel.isReceiving) := by
  cases hreceiving : channel.isReceiving with
  | false => simp [channel.publish_of_gone hreceiving]
  | true =>
      by_cases hroom : channel.queue.length < channel.capacity
      · simp [channel.publish_of_room hreceiving hroom, hroom]
      · simp [channel.publish_of_full hreceiving hroom, hroom, Nat.le_of_not_lt hroom]

theorem receive_of_empty (hempty : channel.queue = []) :
    channel.receive =
      (channel, if channel.publishers = 0 then .error .disconnected else .ok none) := by
  simp only [receive, hempty]

theorem receive_of_waiting {snapshot : Snapshot} {queue : List Snapshot}
    (hwaiting : channel.queue = snapshot :: queue) :
    channel.receive = ({ channel with queue }, .ok (some snapshot)) := by
  simp only [receive, hwaiting]

theorem receive_fst : channel.receive.1 = { channel with queue := channel.queue.tail } := by
  cases hqueue : channel.queue with
  | nil => rw [channel.receive_of_empty hqueue, List.tail_nil, ← hqueue]
  | cons snapshot queue => rw [channel.receive_of_waiting hqueue, List.tail_cons]

/-- Waiting changes nothing about what is received. -/
theorem receiveWithin_eq (milliseconds : Nat) :
    channel.receiveWithin milliseconds =
      (channel.receive.1, match channel.receive.2 with
        | .ok (some snapshot) => .ok snapshot
        | .ok none => .error (.timeout (min milliseconds (UInt64.size - 1)))
        | .error cause => .error cause) := by
  rw [receiveWithin]
  rcases channel.receive with ⟨channel, cause | snapshot | _⟩ <;> rfl

theorem receiveWithin_fst (milliseconds : Nat) :
    (channel.receiveWithin milliseconds).1 = channel.receive.1 := by
  rw [receiveWithin_eq]

/-- A receiver gets the oldest snapshot, and the other two answers tell apart an empty queue to which
there may be added and one to which there may not. -/
theorem receive_answer :
    (∀ snapshot, channel.receive.2 = .ok (some snapshot) ↔ channel.queue.head? = some snapshot) ∧
      (channel.receive.2 = .ok none ↔ channel.queue = [] ∧ channel.publishers ≠ 0) ∧
      (channel.receive.2 = .error .disconnected ↔
        channel.queue = [] ∧ channel.publishers = 0) := by
  cases hqueue : channel.queue with
  | cons snapshot queue => simp [channel.receive_of_waiting hqueue]
  | nil => by_cases hpublishers : channel.publishers = 0 <;>
      simp [channel.receive_of_empty hqueue, hpublishers]

/-- One who waits gets the same, and is told for how long the waiting was in vain. -/
theorem receiveWithin_answer (milliseconds : Nat) :
    (∀ snapshot, (channel.receiveWithin milliseconds).2 = .ok snapshot ↔
        channel.queue.head? = some snapshot) ∧
      ((channel.receiveWithin milliseconds).2 =
          .error (.timeout (min milliseconds (UInt64.size - 1))) ↔
        channel.queue = [] ∧ channel.publishers ≠ 0) ∧
      ((channel.receiveWithin milliseconds).2 = .error .disconnected ↔
        channel.queue = [] ∧ channel.publishers = 0) := by
  rw [receiveWithin_eq]
  cases hqueue : channel.queue with
  | cons snapshot queue => simp [channel.receive_of_waiting hqueue]
  | nil => by_cases hpublishers : channel.publishers = 0 <;>
      simp [channel.receive_of_empty hqueue, hpublishers]

theorem received_of_receive (call : Call Snapshot) :
    Reply.received ⟨call, .received channel.receive.2⟩ = channel.queue.take 1 := by
  cases hqueue : channel.queue with
  | cons snapshot queue => simp [channel.receive_of_waiting hqueue]
  | nil => by_cases hpublishers : channel.publishers = 0 <;>
      simp [channel.receive_of_empty hqueue, hpublishers]

theorem received_of_receiveWithin (call : Call Snapshot) (milliseconds : Nat) :
    Reply.received ⟨call, .waited (channel.receiveWithin milliseconds).2⟩ =
      channel.queue.take 1 := by
  rw [← channel.received_of_receive call, receiveWithin_eq]
  rcases channel.receive with ⟨channel, cause | snapshot | _⟩ <;> rfl

theorem drain_of_empty (hempty : channel.queue = []) : channel.drain = (channel, []) := by
  rw [drain, ← hempty]

/-- Taking all snapshots is taking the oldest one and then all the others. -/
theorem drain_of_waiting {snapshot : Snapshot} {queue : List Snapshot}
    (hwaiting : channel.queue = snapshot :: queue) :
    channel.drain = (channel.receive.1.drain.1, snapshot :: channel.receive.1.drain.2) := by
  rw [channel.receive_of_waiting hwaiting, drain, drain, hwaiting]

end Calls

/-- The warnings for snapshots that find the queue full, when some have been dropped already. -/
def warnings (dropped : Nat) (refused : List Snapshot) : List Notice :=
  (refused.zipIdx dropped).map fun (snapshot, earlier) =>
    .queueFull snapshot.cycle (UInt64.ofNat (earlier + 1))

theorem warnings_append (dropped : Nat) (refused more : List Snapshot) :
    warnings dropped (refused ++ more) =
      warnings dropped refused ++ warnings (dropped + refused.length) more := by
  rw [warnings, List.zipIdx_append, List.map_append, warnings, warnings]

/-- All that a call can do. While there is a receiver, what is published either goes behind the queue
or is refused and counted, and what is received comes from the front of the queue. -/
structure Moves (before : Telemetry) (reply : Reply) (notices : List Notice)
    (after : Telemetry) : Prop where
  capacity : after.capacity = before.capacity
  isReceiving : after.isReceiving ↔ before.isReceiving ∧ reply.call ≠ .dropReceiver
  publishers : (reply.call.isDropPublisher → before.publishers ≠ 0) →
    after.publishers + reply.call.isDropPublisher.toNat =
      before.publishers + reply.call.isAddPublisher.toNat
  length_le : before.queue.length ≤ before.capacity → after.queue.length ≤ before.capacity
  answered : reply.accepted ++ reply.refused = if before.isReceiving then reply.call.offered else []
  conserved : reply.call ≠ .dropReceiver →
    before.queue ++ reply.accepted = reply.received ++ after.queue
  emptied : reply.call = .dropReceiver → reply.received = [] ∧ after.queue = []
  counted : ∀ dropped, before.dropped = UInt64.ofNat dropped →
    after.dropped = UInt64.ofNat (dropped + reply.refused.length) ∧
      notices = warnings dropped reply.refused

section Moves

variable {before after : Telemetry}

/-- A call that publishes nothing and leaves the receiver takes from the front of the queue. -/
theorem moves_of_taken {reply : Reply} (hreceiver : reply.call ≠ .dropReceiver)
    (hoffered : reply.call.offered = []) (hqueue : before.queue = reply.received ++ after.queue)
    (hcapacity : after.capacity = before.capacity)
    (hreceiving : after.isReceiving = before.isReceiving)
    (hpublishers : (reply.call.isDropPublisher → before.publishers ≠ 0) →
      after.publishers + reply.call.isDropPublisher.toNat =
        before.publishers + reply.call.isAddPublisher.toNat)
    (hdropped : after.dropped = before.dropped) : Moves before reply [] after := by
  obtain ⟨haccepted, hrefused⟩ := Reply.eq_nil_of_offered hoffered
  constructor
  case capacity => exact hcapacity
  case isReceiving => simp only [hreceiving, hreceiver, ne_eq, not_false_eq_true, and_true]
  case publishers => exact hpublishers
  case length_le =>
    intro hlength
    rw [hqueue, List.length_append] at hlength
    omega
  case answered => rw [haccepted, hrefused, hoffered, ite_self, List.append_nil]
  case conserved => exact fun _ => by rw [haccepted, List.append_nil, hqueue]
  case emptied => exact fun hcall => absurd hcall hreceiver
  case counted =>
    intro dropped hcount
    rw [hrefused, List.length_nil, Nat.add_zero, hdropped]
    exact ⟨hcount, rfl⟩

theorem publish_moves (channel : Telemetry) (snapshot : Snapshot) :
    Moves channel ⟨.publish snapshot, .published (channel.publish snapshot).value.2⟩
      (channel.publish snapshot).notices (channel.publish snapshot).value.1 := by
  cases hreceiving : channel.isReceiving with
  | false =>
      rw [channel.publish_of_gone hreceiving]
      constructor <;> simp [hreceiving, warnings]
  | true =>
      by_cases hroom : channel.queue.length < channel.capacity
      · rw [channel.publish_of_room hreceiving hroom]
        constructor <;> simp [hreceiving, warnings]
        omega
      · rw [channel.publish_of_full hreceiving hroom]
        constructor <;> simp +contextual [hreceiving, warnings, UInt64.ofNat_add]

/-- The two calls that take the oldest snapshot. -/
theorem receive_moves {channel : Telemetry} {reply : Reply}
    (hcall : reply.call = .receive ∨ ∃ milliseconds, reply.call = .receiveWithin milliseconds)
    (hreceived : reply.received = channel.queue.take 1) :
    Moves channel reply [] channel.receive.1 := by
  have hqueue : channel.queue = reply.received ++ channel.queue.tail := by
    rw [hreceived, ← List.drop_one, List.take_append_drop]
  rw [receive_fst]
  obtain ⟨call, answer⟩ := reply
  rcases hcall with rfl | ⟨milliseconds, rfl⟩ <;>
    exact moves_of_taken nofun rfl hqueue rfl rfl (fun _ => rfl) rfl

/-- **What a call does.** -/
theorem perform_moves (channel : Telemetry) (call : Call Snapshot) :
    Moves channel ⟨call, (channel.perform call).value.2⟩ (channel.perform call).notices
      (channel.perform call).value.1 := by
  cases call with
  | publish snapshot =>
      simpa only [perform, Logged.value_bind, Logged.notices_bind, Logged.value_pure,
        Logged.notices_pure, List.append_nil] using channel.publish_moves snapshot
  | receive => exact receive_moves (.inl rfl) (channel.received_of_receive .receive)
  | receiveWithin milliseconds =>
      have hmoves := receive_moves (.inr ⟨milliseconds, rfl⟩)
        (channel.received_of_receiveWithin (.receiveWithin milliseconds) milliseconds)
      rwa [← channel.receiveWithin_fst milliseconds] at hmoves
  | drain => exact moves_of_taken nofun rfl (List.append_nil _).symm rfl rfl (fun _ => rfl) rfl
  | addPublisher => exact moves_of_taken nofun rfl rfl rfl rfl (fun _ => rfl) rfl
  | dropPublisher =>
      refine moves_of_taken nofun rfl rfl rfl rfl (fun hpublishers => ?_) rfl
      exact Nat.sub_add_cancel (Nat.pos_of_ne_zero (hpublishers rfl))
  | dropReceiver =>
      constructor <;> simp [perform, dropReceiver, warnings]

end Moves

end Telemetry

/-! ### Any calls -/

/-- What came of some calls: the channel, the answered calls and the notices, each in order. -/
structure Exchange where
  channel : Telemetry
  replies : List Reply
  notices : List Notice

namespace Exchange

def next (exchange : Exchange) (call : Call Snapshot) : Exchange :=
  let done := exchange.channel.perform call
  ⟨done.value.1, exchange.replies ++ [⟨call, done.value.2⟩], exchange.notices ++ done.notices⟩

def accepted (exchange : Exchange) : List Snapshot :=
  exchange.replies.flatMap Reply.accepted

def refused (exchange : Exchange) : List Snapshot :=
  exchange.replies.flatMap Reply.refused

/-- The snapshots that the receiver got, in the order in which it got them. -/
def received (exchange : Exchange) : List Snapshot :=
  exchange.replies.flatMap Reply.received

section Concat

variable (channel : Telemetry) (replies : List Reply) (reply : Reply) (notices : List Notice)

@[simp] theorem accepted_concat : accepted ⟨channel, replies ++ [reply], notices⟩ =
    replies.flatMap Reply.accepted ++ reply.accepted := by
  rw [accepted, List.flatMap_append, List.flatMap_singleton]

@[simp] theorem refused_concat : refused ⟨channel, replies ++ [reply], notices⟩ =
    replies.flatMap Reply.refused ++ reply.refused := by
  rw [refused, List.flatMap_append, List.flatMap_singleton]

@[simp] theorem received_concat : received ⟨channel, replies ++ [reply], notices⟩ =
    replies.flatMap Reply.received ++ reply.received := by
  rw [received, List.flatMap_append, List.flatMap_singleton]

end Concat

section Next

variable (exchange : Exchange)

theorem received_next (call : Call Snapshot) :
    (exchange.next call).received =
      exchange.received ++ Reply.received ⟨call, (exchange.channel.perform call).value.2⟩ := by
  rw [next, received_concat, received]

theorem received_next_receive :
    (exchange.next .receive).received = exchange.received ++ exchange.channel.queue.take 1 := by
  rw [received_next]
  exact congrArg _ (exchange.channel.received_of_receive .receive)

theorem received_next_receiveWithin (milliseconds : Nat) :
    (exchange.next (.receiveWithin milliseconds)).received =
      exchange.received ++ exchange.channel.queue.take 1 := by
  rw [received_next]
  exact congrArg _ (exchange.channel.received_of_receiveWithin _ milliseconds)

theorem received_next_drain :
    (exchange.next .drain).received = exchange.received ++ exchange.channel.queue :=
  exchange.received_next .drain

end Next

/-- A call that takes all snapshots leaves the channel and hands over the snapshots that as many calls
do which take one each. -/
theorem next_drain_eq (exchange : Exchange) :
    (exchange.next .drain).channel =
        ((List.replicate exchange.channel.queue.length .receive).foldl next exchange).channel ∧
      (exchange.next .drain).received =
        ((List.replicate exchange.channel.queue.length .receive).foldl next exchange).received := by
  induction hqueue : exchange.channel.queue generalizing exchange with
  | nil =>
      have hdrain := exchange.channel.drain_of_empty hqueue
      exact ⟨congrArg Prod.fst hdrain,
        by rw [received_next_drain, hqueue, List.append_nil]; rfl⟩
  | cons snapshot queue ih =>
      -- The first of the single calls leaves a shorter queue, for which the others do as one call does.
      have hrest : (exchange.next .receive).channel.queue = queue := by
        change exchange.channel.receive.1.queue = queue
        rw [exchange.channel.receive_of_waiting hqueue]
      obtain ⟨hchannel, hreceived⟩ := ih (exchange.next .receive) hrest
      rw [List.length_cons, List.replicate_succ, List.foldl_cons, ← hchannel, ← hreceived]
      constructor
      · change exchange.channel.drain.1 = exchange.channel.receive.1.drain.1
        rw [exchange.channel.drain_of_waiting hqueue]
      · rw [received_next_drain, received_next_drain, received_next_receive, hrest, hqueue,
          List.append_assoc]
        rfl

end Exchange

/-- What came of some calls on a new channel. -/
def exchange (capacity : Nat) (calls : List (Call Snapshot)) : Exchange :=
  calls.foldl Exchange.next ⟨.new capacity, [], []⟩

theorem exchange_append (capacity : Nat) (calls more : List (Call Snapshot)) :
    exchange capacity (calls ++ more) = more.foldl Exchange.next (exchange capacity calls) := by
  rw [exchange, List.foldl_append, exchange]

theorem exchange_concat (capacity : Nat) (calls : List (Call Snapshot)) (call : Call Snapshot) :
    exchange capacity (calls ++ [call]) = (exchange capacity calls).next call :=
  exchange_append capacity calls [call]

/-- A property of a new channel that every move keeps holds after all calls. -/
theorem exchange_induction {capacity : Nat} {motive : List (Call Snapshot) → Exchange → Prop}
    (hnew : motive [] ⟨.new capacity, [], []⟩)
    (hmoves : ∀ calls before reply notices channel, motive calls before →
      Telemetry.Moves before.channel reply notices channel →
        motive (calls ++ [reply.call])
          ⟨channel, before.replies ++ [reply], before.notices ++ notices⟩)
    (calls : List (Call Snapshot)) : motive calls (exchange capacity calls) := by
  induction calls using List.reverseRecOn with
  | nil => exact hnew
  | append_singleton calls call ih =>
      rw [exchange_concat]
      exact hmoves calls _ ⟨call, _⟩ _ _ ih (Telemetry.perform_moves _ call)

section Exchange

variable (capacity : Nat) (calls : List (Call Snapshot))

theorem calls_exchange : (exchange capacity calls).replies.map Reply.call = calls := by
  refine exchange_induction (motive := fun calls exchange =>
    exchange.replies.map Reply.call = calls) rfl ?_ calls
  intro calls before reply notices channel ih _
  rw [List.map_append, ih, List.map_singleton]

theorem capacity_exchange : (exchange capacity calls).channel.capacity = max capacity 1 :=
  exchange_induction (motive := fun _ exchange => exchange.channel.capacity = max capacity 1) rfl
    (fun _ _ _ _ _ ih hmoves => hmoves.capacity.trans ih) calls

theorem isReceiving_exchange :
    (exchange capacity calls).channel.isReceiving ↔ .dropReceiver ∉ calls := by
  refine exchange_induction (motive := fun calls exchange =>
    exchange.channel.isReceiving ↔ .dropReceiver ∉ calls) ?_ ?_ calls
  · simp [Telemetry.new]
  · intro calls before reply notices channel ih hmoves
    rw [hmoves.isReceiving, ih, List.mem_append, List.mem_singleton, not_or, ne_comm]

/-- The queue never holds more than it has room for. -/
theorem length_queue_exchange :
    (exchange capacity calls).channel.queue.length ≤ max capacity 1 := by
  refine exchange_induction (motive := fun _ exchange => exchange.channel.capacity = max capacity 1 ∧
    exchange.channel.queue.length ≤ max capacity 1) ?_ ?_ calls |>.2
  · exact ⟨rfl, Nat.zero_le _⟩
  · rintro calls before reply notices channel ⟨hcapacity, hlength⟩ hmoves
    refine ⟨hmoves.capacity.trans hcapacity, ?_⟩
    rw [← hcapacity] at hlength ⊢
    exact hmoves.length_le hlength

theorem publish_exchange (snapshot : Snapshot) :
    let answer := ((exchange capacity calls).channel.publish snapshot).value.2
    (answer = .ok true ↔ .dropReceiver ∉ calls ∧
        (exchange capacity calls).channel.queue.length < max capacity 1) ∧
      (answer = .ok false ↔ .dropReceiver ∉ calls ∧
        (exchange capacity calls).channel.queue.length = max capacity 1) ∧
      (answer = .error .disconnected ↔ .dropReceiver ∈ calls) := by
  have hlength := length_queue_exchange capacity calls
  obtain ⟨hroom, hfull, hgone⟩ := (exchange capacity calls).channel.publish_answer snapshot
  rw [capacity_exchange, isReceiving_exchange] at hroom hfull
  rw [isReceiving_exchange, not_not] at hgone
  refine ⟨hroom, hfull.trans (and_congr_right fun _ => ?_), hgone⟩
  exact ⟨Nat.le_antisymm hlength, Nat.le_of_eq ∘ Eq.symm⟩

/-- The number of publishers that are left, where no more are dropped than there are. -/
theorem publishers_exchange
    (hhandles : ∀ earlier, earlier <+: calls →
      earlier.countP Call.isDropPublisher ≤ earlier.countP Call.isAddPublisher + 1) :
    (exchange capacity calls).channel.publishers + calls.countP Call.isDropPublisher =
      calls.countP Call.isAddPublisher + 1 := by
  revert hhandles
  refine exchange_induction (motive := fun calls exchange =>
    (∀ earlier, earlier <+: calls →
      earlier.countP Call.isDropPublisher ≤ earlier.countP Call.isAddPublisher + 1) →
    exchange.channel.publishers + calls.countP Call.isDropPublisher =
      calls.countP Call.isAddPublisher + 1) (fun _ => rfl) ?_ calls
  intro calls before reply notices channel ih hmoves hhandles
  have hbefore := ih fun earlier hearlier => hhandles earlier (hearlier.trans (List.prefix_append _ _))
  have hlast := hhandles _ List.prefix_rfl
  simp only [List.countP_append, List.countP_singleton] at hlast ⊢
  cases hdrop : reply.call.isDropPublisher with
  | false =>
      have hmove := hmoves.publishers fun h => absurd (hdrop.symm.trans h) Bool.false_ne_true
      cases hadd : reply.call.isAddPublisher <;>
        simp only [hdrop, hadd, Bool.toNat_false, Bool.toNat_true, Bool.false_eq_true, if_false,
          if_true] at hmove ⊢ <;> omega
  | true =>
      -- The prefix up to here drops no more than there are, so there was one to drop.
      have hadd := Call.isAddPublisher_of_isDropPublisher hdrop
      simp only [hdrop, hadd, Bool.false_eq_true, if_false, if_true] at hlast ⊢
      have hmove := hmoves.publishers fun _ => by omega
      simp only [hdrop, hadd, Bool.toNat_false, Bool.toNat_true] at hmove
      omega

/-- Every refused snapshot is counted in the word, and reported with the number of those refused so
far. -/
theorem counted_exchange :
    (exchange capacity calls).channel.dropped =
        UInt64.ofNat (exchange capacity calls).refused.length ∧
      (exchange capacity calls).notices =
        Telemetry.warnings 0 (exchange capacity calls).refused := by
  refine exchange_induction (motive := fun _ exchange =>
    exchange.channel.dropped = UInt64.ofNat exchange.refused.length ∧
      exchange.notices = Telemetry.warnings 0 exchange.refused) ⟨rfl, rfl⟩ ?_ calls
  rintro calls before reply notices channel ⟨hdropped, hnotices⟩ hmoves
  obtain ⟨hcount, hwarned⟩ := hmoves.counted _ hdropped
  rw [Exchange.refused] at hcount hwarned hnotices
  rw [Exchange.refused_concat, List.length_append, Telemetry.warnings_append, ← hnotices,
    Nat.zero_add]
  exact ⟨hcount, congrArg (before.notices ++ ·) hwarned⟩

section Exact

variable (hrefused : (exchange capacity calls).refused.length < UInt64.size)
include hrefused

/-- The word holds the number itself until there are too many. -/
theorem toNat_dropped_exchange :
    (exchange capacity calls).channel.dropped.toNat = (exchange capacity calls).refused.length := by
  rw [(counted_exchange capacity calls).1, UInt64.toNat_ofNat_of_lt' hrefused]

theorem messages_exchange :
    (exchange capacity calls).notices.map Notice.message =
      (exchange capacity calls).refused.zipIdx.map fun (snapshot, earlier) =>
        "telemetry queue full, dropped snapshot for cycle " ++ toString snapshot.cycle.toNat ++
          " (" ++ toString (earlier + 1) ++ " dropped so far)" := by
  rw [(counted_exchange capacity calls).2, Telemetry.warnings, List.map_map]
  apply List.map_congr_left
  rintro ⟨snapshot, earlier⟩ hmem
  have hearlier : earlier < (exchange capacity calls).refused.length := by
    simpa using List.snd_lt_of_mem_zipIdx hmem
  have htotal : (UInt64.ofNat (earlier + 1)).toNat = earlier + 1 :=
    UInt64.toNat_ofNat_of_lt' (Nat.lt_of_le_of_lt hearlier hrefused)
  change "telemetry queue full, dropped snapshot for cycle " ++ toString snapshot.cycle.toNat ++
    " (" ++ toString (UInt64.ofNat (earlier + 1)).toNat ++ " dropped so far)" = _
  rw [htotal]

end Exact

/-- What went into the queue was received or waits there, in the same order, up to what waited when
the receiver went. -/
def Exchange.Conserves (exchange : Exchange) (lost : List Snapshot) : Prop :=
  exchange.accepted = exchange.received ++ exchange.channel.queue ++ lost ∧
    (exchange.channel.isReceiving → lost = []) ∧
      (¬ exchange.channel.isReceiving → exchange.channel.queue = [])

theorem exists_conserves : ∃ lost, (exchange capacity calls).Conserves lost := by
  refine exchange_induction (motive := fun _ exchange => ∃ lost, exchange.Conserves lost)
    ⟨[], rfl, fun _ => rfl, fun _ => rfl⟩ ?_ calls
  rintro calls before reply notices channel ⟨lost, haccepted, hlost, hqueue⟩ hmoves
  rw [Exchange.accepted, Exchange.received] at haccepted
  simp only [Exchange.Conserves, Exchange.accepted_concat, Exchange.received_concat, haccepted,
    hmoves.isReceiving]
  by_cases hcall : reply.call = .dropReceiver
  · -- What waited is lost.
    obtain ⟨hreceived, hempty⟩ := hmoves.emptied hcall
    have hnone : reply.accepted = [] := (Reply.eq_nil_of_offered (by rw [hcall]; rfl)).1
    refine ⟨before.channel.queue ++ lost, ?_, fun h => absurd hcall h.2, fun _ => hempty⟩
    rw [hreceived, hempty, hnone]
    simp only [List.append_nil, List.append_assoc]
  · have hconserved := hmoves.conserved hcall
    cases hreceiving : before.channel.isReceiving with
    | true =>
        refine ⟨[], ?_, fun _ => rfl, fun h => absurd ⟨rfl, hcall⟩ h⟩
        rw [hlost hreceiving, List.append_nil, List.append_nil, List.append_assoc, hconserved,
          List.append_assoc]
    | false =>
        -- Nothing is accepted and nothing waits any more, so nothing can be received.
        have hbefore : before.channel.queue = [] := hqueue (by rw [hreceiving]; decide)
        have hanswered := hmoves.answered
        rw [hreceiving, if_neg Bool.false_ne_true, List.append_eq_nil_iff] at hanswered
        rw [hbefore, hanswered.1, List.append_nil, List.nil_eq, List.append_eq_nil_iff] at hconserved
        refine ⟨lost, ?_, fun h => absurd h.1 Bool.false_ne_true, fun _ => hconserved.2⟩
        rw [hbefore, hanswered.1, hconserved.1, hconserved.2]
        simp only [List.append_nil]

theorem accepted_exchange (hreceiver : .dropReceiver ∉ calls) :
    (exchange capacity calls).accepted =
      (exchange capacity calls).received ++ (exchange capacity calls).channel.queue := by
  obtain ⟨lost, haccepted, hlost, -⟩ := exists_conserves capacity calls
  rw [haccepted, hlost ((isReceiving_exchange capacity calls).mpr hreceiver), List.append_nil]

/-- While there is a receiver, each of its calls goes on where it left off: two of them hand over the
next accepted snapshot, and the third all that are left. -/
theorem received_exchange_concat (hreceiver : .dropReceiver ∉ calls) :
    (exchange capacity (calls ++ [.receive])).received =
        (exchange capacity calls).accepted.take ((exchange capacity calls).received.length + 1) ∧
      (∀ milliseconds, (exchange capacity (calls ++ [.receiveWithin milliseconds])).received =
        (exchange capacity calls).accepted.take ((exchange capacity calls).received.length + 1)) ∧
      (exchange capacity (calls ++ [.drain])).received = (exchange capacity calls).accepted := by
  rw [accepted_exchange capacity calls hreceiver, List.take_length_add_append]
  refine ⟨?_, fun milliseconds => ?_, ?_⟩
  · rw [exchange_concat, Exchange.received_next_receive]
  · rw [exchange_concat, Exchange.received_next_receiveWithin]
  · rw [exchange_concat, Exchange.received_next_drain]

theorem exchange_drain :
    let waiting := (exchange capacity calls).channel.queue.length
    (exchange capacity (calls ++ [.drain])).channel =
        (exchange capacity (calls ++ List.replicate waiting .receive)).channel ∧
      (exchange capacity (calls ++ [.drain])).received =
        (exchange capacity (calls ++ List.replicate waiting .receive)).received := by
  dsimp only
  rw [exchange_concat, exchange_append]
  exact (exchange capacity calls).next_drain_eq

theorem received_append_queue_prefix :
    (exchange capacity calls).received ++ (exchange capacity calls).channel.queue <+:
      (exchange capacity calls).accepted := by
  obtain ⟨lost, haccepted, -⟩ := exists_conserves capacity calls
  exact ⟨lost, haccepted.symm⟩

/-- While there is a receiver, every snapshot that was to be published is accepted or refused. -/
theorem length_accepted_add_length_refused (hreceiver : .dropReceiver ∉ calls) :
    (exchange capacity calls).accepted.length + (exchange capacity calls).refused.length =
      (calls.flatMap Call.offered).length := by
  rw [← isReceiving_exchange capacity] at hreceiver
  revert hreceiver
  refine exchange_induction (motive := fun calls exchange => exchange.channel.isReceiving →
    exchange.accepted.length + exchange.refused.length = (calls.flatMap Call.offered).length)
    (fun _ => rfl) ?_ calls
  intro calls before reply notices channel ih hmoves hreceiving
  have hbefore := (hmoves.isReceiving.mp hreceiving).1
  have hlength := congrArg List.length hmoves.answered
  have hcalls := ih hbefore
  rw [if_pos hbefore, List.length_append] at hlength
  rw [Exchange.accepted, Exchange.refused] at hcalls
  rw [Exchange.accepted_concat, Exchange.refused_concat, List.flatMap_append,
    List.flatMap_singleton, List.length_append, List.length_append, List.length_append]
  omega

theorem length_received_add (hreceiver : .dropReceiver ∉ calls) :
    (exchange capacity calls).received.length + (exchange capacity calls).channel.queue.length +
        (exchange capacity calls).refused.length =
      (calls.flatMap Call.offered).length := by
  rw [← length_accepted_add_length_refused capacity calls hreceiver,
    accepted_exchange capacity calls hreceiver, List.length_append]

/-- What went into the queue was published, in that order. -/
theorem accepted_sublist_offered :
    (exchange capacity calls).accepted.Sublist (calls.flatMap Call.offered) := by
  refine exchange_induction (motive := fun calls exchange =>
    exchange.accepted.Sublist (calls.flatMap Call.offered)) (List.Sublist.refl []) ?_ calls
  intro calls before reply notices channel ih hmoves
  have hreply : reply.accepted.Sublist reply.call.offered := by
    have hanswered := hmoves.answered
    have haccepted := List.sublist_append_left reply.accepted reply.refused
    rw [hanswered] at haccepted
    split at haccepted
    · exact haccepted
    · exact haccepted.trans (List.nil_sublist _)
  rw [Exchange.accepted_concat, List.flatMap_append, List.flatMap_singleton]
  exact ih.append hreply

end Exchange

end DriverAlerts
