import DriverAlerts.Proofs.EventSet.Run
import DriverAlerts.Proofs.Telemetry.Exchange
import Mathlib.Data.List.Infix
/-!
# What a control loop publishes

A control loop adds events, completes cycles and publishes snapshots of its event set, while the other
parties use the channel. The snapshots that reach the receiver are some of those that were published,
in that order, and each carries the number of cycles completed before it. So the cycle numbers that the
receiver sees never go back, and they go forward where no cycle is published twice.
-/

namespace DriverAlerts

/-- What happens next: a command to the event set, or a call on the channel, where a snapshot of the
event set is published with the time at which it is taken. -/
inductive Turn where
  | toSet (command : Command)
  | toChannel (call : Call Timestamp)

def Turn.isReset : Turn → Bool
  | .toSet command => command.isReset
  | .toChannel _ => false

/-- The calls on the channel, starting from an event set. -/
def callsOf (set : EventSet) : List Turn → List (Call Snapshot)
  | [] => []
  | .toSet command :: turns => callsOf (command.apply set) turns
  | .toChannel call :: turns => call.map set.snapshot :: callsOf set turns

/-- For each snapshot that is to be published, the number of cycles completed before it, when some
are complete already. -/
def publishedFrom (cycle : Nat) : List Turn → List Nat
  | [] => []
  | .toSet command :: turns => publishedFrom (if command.isReset then cycle + 1 else cycle) turns
  | .toChannel call :: turns => call.offered.map (fun _ => cycle) ++ publishedFrom cycle turns

/-- What is published carries the cycles completed so far. -/
theorem cycles_offered (turns : List Turn) {set : EventSet} {cycle : Nat}
    (hcycle : set.cycle = UInt64.ofNat cycle) :
    ((callsOf set turns).flatMap Call.offered).map Snapshot.cycle =
      (publishedFrom cycle turns).map UInt64.ofNat := by
  induction turns generalizing set cycle with
  | nil => rfl
  | cons turn turns ih =>
      cases turn with
      | toSet command =>
          apply ih
          rw [command.cycle_apply, hcycle]
          split
          · rw [UInt64.ofNat_add]
            rfl
          · rfl
      | toChannel call =>
          rw [callsOf, publishedFrom, List.flatMap_cons, List.map_append, List.map_append,
            ih hcycle, Call.offered_map, List.map_map, List.map_map]
          congr 2
          funext capturedAt
          exact hcycle

/-- What is published was classified by the table of the event set. -/
theorem verify_offered (turns : List Turn) {set : EventSet} {snapshot : Snapshot}
    (hsnapshot : snapshot ∈ (callsOf set turns).flatMap Call.offered) :
    snapshot.verify set.table = .ok () := by
  induction turns generalizing set with
  | nil => exact absurd hsnapshot List.not_mem_nil
  | cons turn turns ih =>
      cases turn with
      | toSet command => exact command.table_apply set ▸ ih hsnapshot
      | toChannel call =>
          rw [callsOf, List.flatMap_cons, List.mem_append, Call.offered_map, List.mem_map] at hsnapshot
          rcases hsnapshot with ⟨capturedAt, -, rfl⟩ | hsnapshot
          · exact if_pos rfl
          · exact ih hsnapshot

theorem bounds_publishedFrom (turns : List Turn) {cycle published : Nat}
    (hpublished : published ∈ publishedFrom cycle turns) :
    cycle ≤ published ∧ published ≤ cycle + turns.countP Turn.isReset := by
  induction turns generalizing cycle with
  | nil => exact absurd hpublished List.not_mem_nil
  | cons turn turns ih =>
      rw [List.countP_cons]
      cases turn with
      | toSet command =>
          have hrest := ih hpublished
          cases hreset : command.isReset <;> simp [Turn.isReset, hreset] at hrest ⊢ <;> omega
      | toChannel call =>
          rw [publishedFrom, List.mem_append, List.mem_map] at hpublished
          rcases hpublished with ⟨_, -, rfl⟩ | hpublished
          · omega
          · have hrest := ih hpublished
            omega

theorem pairwise_publishedFrom (cycle : Nat) (turns : List Turn) :
    (publishedFrom cycle turns).Pairwise (· ≤ ·) := by
  induction turns generalizing cycle with
  | nil => exact .nil
  | cons turn turns ih =>
      cases turn with
      | toSet command => exact ih _
      | toChannel call =>
          rw [publishedFrom, List.pairwise_append]
          refine ⟨?_, ih cycle, ?_⟩
          · rw [List.map_const']
            exact List.pairwise_replicate.mpr (.inr (Nat.le_refl cycle))
          · intro first hfirst later hlater
            obtain ⟨_, -, rfl⟩ := List.mem_map.mp hfirst
            exact (bounds_publishedFrom turns hlater).1

section Loop

variable (capacity : Nat) (table : Table) (turns : List Turn)

/-- What came of a control loop that starts with the empty set over a table and a new channel. -/
def controlLoop : Exchange :=
  exchange capacity (callsOf (EventSet.new table).value turns)

theorem received_sublist_offered : (controlLoop capacity table turns).received.Sublist
    ((callsOf (EventSet.new table).value turns).flatMap Call.offered) := by
  have hqueue := received_append_queue_prefix capacity (callsOf (EventSet.new table).value turns)
  have hreceived := (List.prefix_append _ _).trans hqueue
  exact hreceived.sublist.trans (accepted_sublist_offered _ _)

/-- The cycle numbers that the receiver gets are those of some published snapshots. -/
theorem cycles_received (hresets : turns.countP Turn.isReset < UInt64.size) :
    ((controlLoop capacity table turns).received.map fun snapshot => snapshot.cycle.toNat).Sublist
      (publishedFrom 0 turns) := by
  have hexact : ∀ cycle ∈ publishedFrom 0 turns, (UInt64.ofNat cycle).toNat = cycle := by
    intro cycle hcycle
    have hbound := (bounds_publishedFrom turns hcycle).2
    exact UInt64.toNat_ofNat_of_lt' (by omega)
  have hoffered : ((callsOf (EventSet.new table).value turns).flatMap Call.offered).map
      (fun snapshot => snapshot.cycle.toNat) = publishedFrom 0 turns := by
    have hcycles := @cycles_offered turns (EventSet.new table).value 0 rfl
    have hnumbers := congrArg (List.map UInt64.toNat) hcycles
    rw [List.map_map, List.map_map] at hnumbers
    exact hnumbers.trans ((List.map_congr_left hexact).trans (List.map_id' _))
  exact hoffered ▸ (received_sublist_offered capacity table turns).map _

theorem length_offered :
    ((callsOf (EventSet.new table).value turns).flatMap Call.offered).length =
      (publishedFrom 0 turns).length := by
  have hcycles := @cycles_offered turns (EventSet.new table).value 0 rfl
  simpa only [List.length_map] using congrArg List.length hcycles

end Loop

/-- **A channel loses nothing but what it counts.** After any calls on a channel, each of them has
been answered, the queue is within its bound, and the next publisher is told whether the queue has room,
is full or has no receiver. Each refusal is counted once and reported with the total, exactly until
there are more of them than a word holds. While there is a receiver, what was accepted is what was
received followed by what waits, in publish order: two of its calls hand over the next snapshot, and the
third hands over all, as one call for each of them would do. A call to receive fails only if nothing
waits and no publisher is left.

So a receiver of the snapshots of one event set gets some of the published ones, all classified by its
table, with cycle numbers that never go back and that go forward if no cycle is published twice, and
what it has not got waits or was refused. -/
theorem channel_loses_only_what_it_counts (capacity : Nat) :
    (∀ calls : List (Call Snapshot),
      let result := exchange capacity calls
      let channel := result.channel
      result.replies.map Reply.call = calls ∧
        channel.queue.length ≤ max capacity 1 ∧
        (∀ snapshot,
          let answer := (channel.publish snapshot).value.2
          (answer = .ok true ↔
              .dropReceiver ∉ calls ∧ channel.queue.length < max capacity 1) ∧
            (answer = .ok false ↔
              .dropReceiver ∉ calls ∧ channel.queue.length = max capacity 1) ∧
            (answer = .error .disconnected ↔ .dropReceiver ∈ calls)) ∧
        channel.dropped = UInt64.ofNat result.refused.length ∧
        result.notices = (result.refused.zipIdx.map fun (snapshot, earlier) =>
          .queueFull snapshot.cycle (UInt64.ofNat (earlier + 1))) ∧
        (result.refused.length < UInt64.size →
          channel.dropped.toNat = result.refused.length ∧
            result.notices.map Notice.message =
              result.refused.zipIdx.map fun (snapshot, earlier) =>
                "telemetry queue full, dropped snapshot for cycle " ++
                  toString snapshot.cycle.toNat ++ " (" ++ toString (earlier + 1) ++
                    " dropped so far)") ∧
        (.dropReceiver ∉ calls →
          result.accepted = result.received ++ channel.queue ∧
            result.received.length + channel.queue.length + result.refused.length =
              (calls.flatMap Call.offered).length ∧
            (exchange capacity (calls ++ [.receive])).received =
              result.accepted.take (result.received.length + 1) ∧
            (∀ milliseconds, (exchange capacity (calls ++ [.receiveWithin milliseconds])).received =
              result.accepted.take (result.received.length + 1)) ∧
            (exchange capacity (calls ++ [.drain])).received = result.accepted) ∧
        (let drained := exchange capacity (calls ++ [.drain])
          let taken := exchange capacity (calls ++ List.replicate channel.queue.length .receive)
          drained.channel = taken.channel ∧ drained.received = taken.received) ∧
        ((∀ snapshot, channel.receive.2 = .ok (some snapshot) ↔
            channel.queue.head? = some snapshot) ∧
          (channel.receive.2 = .ok none ↔ channel.queue = [] ∧ channel.publishers ≠ 0) ∧
          (channel.receive.2 = .error .disconnected ↔
            channel.queue = [] ∧ channel.publishers = 0)) ∧
        (∀ milliseconds,
          let answer := (channel.receiveWithin milliseconds).2
          (∀ snapshot, answer = .ok snapshot ↔ channel.queue.head? = some snapshot) ∧
            (answer = .error (.timeout (min milliseconds (UInt64.size - 1))) ↔
              channel.queue = [] ∧ channel.publishers ≠ 0) ∧
            (answer = .error .disconnected ↔ channel.queue = [] ∧ channel.publishers = 0)) ∧
        ((∀ earlier, earlier <+: calls →
            earlier.countP Call.isDropPublisher ≤ earlier.countP Call.isAddPublisher + 1) →
          channel.publishers + calls.countP Call.isDropPublisher =
            calls.countP Call.isAddPublisher + 1)) ∧
      ∀ (table : Table) (turns : List Turn),
        let calls := callsOf (EventSet.new table).value turns
        let result := exchange capacity calls
        let cycles := result.received.map fun snapshot => snapshot.cycle.toNat
        result.received.Sublist (calls.flatMap Call.offered) ∧
          (∀ snapshot ∈ result.received, snapshot.verify table = .ok ()) ∧
          (.dropReceiver ∉ calls →
            result.received.length + result.channel.queue.length + result.refused.length =
                (publishedFrom 0 turns).length ∧
              (result.refused.length < UInt64.size →
                result.received.length + result.channel.queue.length +
                    result.channel.dropped.toNat = (publishedFrom 0 turns).length)) ∧
          (turns.countP Turn.isReset < UInt64.size →
            cycles.Sublist (publishedFrom 0 turns) ∧ cycles.Pairwise (· ≤ ·) ∧
              ((publishedFrom 0 turns).Nodup → cycles.Pairwise (· < ·))) := by
  refine ⟨fun calls => ?_, fun table turns => ?_⟩
  · exact ⟨calls_exchange capacity calls, length_queue_exchange capacity calls,
      publish_exchange capacity calls, (counted_exchange capacity calls).1,
      (counted_exchange capacity calls).2,
      fun hrefused => ⟨toNat_dropped_exchange capacity calls hrefused,
        messages_exchange capacity calls hrefused⟩,
      fun hreceiver => ⟨accepted_exchange capacity calls hreceiver,
        length_received_add capacity calls hreceiver,
        received_exchange_concat capacity calls hreceiver⟩,
      exchange_drain capacity calls, Telemetry.receive_answer _, Telemetry.receiveWithin_answer _,
      publishers_exchange capacity calls⟩
  · have hreceived := received_sublist_offered capacity table turns
    refine ⟨hreceived, fun snapshot hsnapshot => ?_, fun hreceiver => ?_, fun hresets => ?_⟩
    · exact verify_offered turns (hreceived.subset hsnapshot)
    · have hcount := length_received_add capacity _ hreceiver
      rw [length_offered table turns] at hcount
      refine ⟨hcount, fun hrefused => ?_⟩
      rwa [toNat_dropped_exchange capacity _ hrefused]
    · have hcycles := cycles_received capacity table turns hresets
      have hordered := pairwise_publishedFrom 0 turns
      refine ⟨hcycles, hordered.sublist hcycles, fun hnodup => ?_⟩
      have hstrict : (publishedFrom 0 turns).Pairwise (· < ·) :=
        (hordered.and hnodup).imp fun h => Nat.lt_of_le_of_ne h.1 h.2
      exact hstrict.sublist hcycles

/-- Five cycles of a control loop, each published once. The receiver is slow, then takes what waits by
each of its three calls, and outlives the publishers. -/
def slowReceiver : List Turn :=
  [.toSet (.add .overheat true), .toChannel (.publish .epoch), .toSet .reset,
    .toChannel (.publish .epoch), .toSet .reset, .toChannel (.publish .epoch), .toSet .reset,
    .toChannel .receive, .toChannel .addPublisher, .toChannel (.publish .epoch), .toSet .reset,
    .toChannel (.publish .epoch), .toChannel (.receiveWithin 5), .toChannel .drain,
    .toChannel .dropPublisher, .toChannel .receive, .toChannel .dropPublisher]

theorem loss_of_slowReceiver :
    let calls := callsOf (EventSet.new (.ofRows fun _ => none)).value slowReceiver
    let result := exchange 2 calls
    .dropReceiver ∉ calls ∧
      (∀ earlier, earlier <+: calls →
        earlier.countP Call.isDropPublisher ≤ earlier.countP Call.isAddPublisher + 1) ∧
      result.accepted = result.received ∧
      result.received.map (fun snapshot => snapshot.cycle.toNat) = [0, 1, 3] ∧
      result.refused.length < UInt64.size ∧ result.channel.dropped.toNat = 2 ∧
      result.notices = [.queueFull 2 1, .queueFull 4 2] ∧
      result.channel.publishers = 0 ∧
      result.channel.receive.2 = .error .disconnected ∧
      slowReceiver.countP Turn.isReset < UInt64.size ∧ (publishedFrom 0 slowReceiver).Nodup ∧
      (result.received.map fun snapshot => snapshot.cycle.toNat).Pairwise (· < ·) := by
  intro calls result
  obtain ⟨hcalls, hloop⟩ := channel_loses_only_what_it_counts 2
  obtain ⟨-, -, -, -, hnotices, hcounted, hconserved, -, ⟨-, -, hdisconnected⟩, -, hpublishers⟩ :=
    hcalls calls
  obtain ⟨-, -, -, hcycles⟩ := hloop (.ofRows fun _ => none) slowReceiver
  have hreceiver : .dropReceiver ∉ calls := (isReceiving_exchange 2 calls).mp (by decide)
  have hhandles : ∀ earlier, earlier <+: calls →
      earlier.countP Call.isDropPublisher ≤ earlier.countP Call.isAddPublisher + 1 := by
    intro earlier hearlier
    have hall : ∀ earlier ∈ calls.inits,
        earlier.countP Call.isDropPublisher ≤ earlier.countP Call.isAddPublisher + 1 := by decide
    exact hall earlier ((List.mem_inits _ _).mpr hearlier)
  have hresets : slowReceiver.countP Turn.isReset < UInt64.size := by decide
  have hnodup : (publishedFrom 0 slowReceiver).Nodup := by decide
  have hqueue : result.channel.queue = [] := by rfl
  have hpublisher : result.channel.publishers = 0 :=
    Nat.add_right_cancel ((hpublishers hhandles).trans (by decide))
  have hrefused : result.refused.length < UInt64.size := by decide
  refine ⟨hreceiver, hhandles, ?_, by decide, hrefused, (hcounted hrefused).1, ?_, hpublisher,
    hdisconnected.mpr ⟨hqueue, hpublisher⟩, hresets, hnodup, (hcycles hresets).2.2 hnodup⟩
  · exact (hconserved hreceiver).1.trans (by rw [hqueue, List.append_nil])
  · exact hnotices.trans rfl

end DriverAlerts
