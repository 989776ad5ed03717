import DriverAlerts.Config
import DriverAlerts.Notice
import DriverAlerts.Snapshot
/-!
# Telemetry

Snapshots are handed to a consumer through a bounded queue. The control loop never waits: a snapshot
that finds the queue full is dropped and counted. Either side notices that the other has gone, the
consumer only after it has taken what is still queued.
-/

namespace DriverAlerts

/-- A queue of snapshots between publishers and a receiver. -/
structure Telemetry where
  capacity : Nat
  /-- The snapshots that wait, oldest first. -/
  queue : List Snapshot
  /-- How many publishers there are. -/
  publishers : Nat
  /-- There is a receiver. -/
  isReceiving : Bool
  /-- How many snapshots found the queue full, counted in a word. -/
  dropped : UInt64

namespace Telemetry

/-- An empty queue with one publisher and a receiver. There is room for at least one snapshot. -/
def new (capacity : Nat) : Telemetry :=
  ⟨max capacity 1, [], 1, true, 0⟩

def ofConfig (config : Config) : Telemetry :=
  new config.queueCapacity.toNat

/-- Queues a snapshot. The answer is false if the queue was full. -/
def publish (channel : Telemetry) (snapshot : Snapshot) :
    Logged (Telemetry × Except TelemetryError Bool) :=
  if ¬ channel.isReceiving then pure (channel, .error .disconnected)
  else if channel.queue.length < channel.capacity then
    pure ({ channel with queue := channel.queue ++ [snapshot] }, .ok true)
  else
    let dropped := channel.dropped + 1
    ⟨({ channel with dropped }, .ok false), [.queueFull snapshot.cycle dropped]⟩

/-- Takes the oldest snapshot if there is one. -/
def receive (channel : Telemetry) : Telemetry × Except TelemetryError (Option Snapshot) :=
  match channel.queue with
  | snapshot :: queue => ({ channel with queue }, .ok (some snapshot))
  | [] => (channel, if channel.publishers = 0 then .error .disconnected else .ok none)

/-- Takes the oldest snapshot; if there is none, waits some milliseconds in vain. The error counts them
in a word. -/
def receiveWithin (channel : Telemetry) (milliseconds : Nat) :
    Telemetry × Except TelemetryError Snapshot :=
  match channel.receive with
  | (channel, .ok (some snapshot)) => (channel, .ok snapshot)
  | (channel, .ok none) => (channel, .error (.timeout (min milliseconds (UInt64.size - 1))))
  | (channel, .error cause) => (channel, .error cause)

/-- Takes all snapshots that wait. -/
def drain (channel : Telemetry) : Telemetry × List Snapshot :=
  ({ channel with queue := [] }, channel.queue)

def addPublisher (channel : Telemetry) : Telemetry :=
  { channel with publishers := channel.publishers + 1 }

def dropPublisher (channel : Telemetry) : Telemetry :=
  { channel with publishers := channel.publishers - 1 }

/-- The receiver goes, and with it what still waits. -/
def dropReceiver (channel : Telemetry) : Telemetry :=
  { channel with isReceiving := false, queue := [] }

end Telemetry

end DriverAlerts
