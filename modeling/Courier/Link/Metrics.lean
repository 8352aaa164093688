import Courier.Envelope.Basic

/-!
# Courier — traffic of a connection

Sent and received messages are counted apart, by whole minutes of the age of the connection. "The
last minutes" are the last ones that saw traffic in that direction. A series keeps a day of such
minutes; the totals forget nothing.

* `Series.record`, `Series.last` — counting, and the sum over the last minutes with traffic;
* `Metrics` — both directions, the time of the last traffic, and the samples of round trips;
* `Load.ofMetrics` — the sum over the connections of a node.
-/

namespace Courier

/-- Counters of one direction, over some time. -/
structure Counters where
  bytes : Nat
  messages : Nat
  timeMs : Nat
deriving DecidableEq, Repr, Inhabited

namespace Counters

def zero : Counters := ⟨0, 0, 0⟩

/-- One message more. -/
def count (c : Counters) (bytes timeMs : Nat) : Counters :=
  ⟨c.bytes + bytes, c.messages + 1, c.timeMs + timeMs⟩

def add (c d : Counters) : Counters :=
  ⟨c.bytes + d.bytes, c.messages + d.messages, c.timeMs + d.timeMs⟩

end Counters

/-- The traffic of one direction. -/
structure Series where
  /-- The counters of each minute with traffic, latest minute first. -/
  minutes : List (Nat × Counters)
  totals : Counters
deriving DecidableEq, Repr, Inhabited

namespace Series

/-- The number of minutes that are kept. -/
def maxMinutes : Nat := 1440

def empty : Series := ⟨[], .zero⟩

/-- Counts a message in its minute. -/
def countIn (minute bytes timeMs : Nat) : List (Nat × Counters) → List (Nat × Counters)
  | [] => [(minute, Counters.zero.count bytes timeMs)]
  | (m, c) :: rest =>
    if m < minute then (minute, Counters.zero.count bytes timeMs) :: (m, c) :: rest
    else if m = minute then (m, c.count bytes timeMs) :: rest
    else (m, c) :: countIn minute bytes timeMs rest

/-- Counts a message; the earliest minute is forgotten when there are too many. -/
def record (minute bytes timeMs : Nat) (s : Series) : Series :=
  ⟨(countIn minute bytes timeMs s.minutes).take maxMinutes, s.totals.count bytes timeMs⟩

/-- The sum over the last `n` minutes with traffic. -/
def last (n : Nat) (s : Series) : Counters :=
  (s.minutes.take n).foldl (fun sum m => sum.add m.2) .zero

end Series

/-- The traffic of a connection. Times are milliseconds since it began. -/
structure Metrics where
  sent : Series
  received : Series
  lastUpdateMs : Nat
  /-- Durations of round trips in milliseconds, in the order in which they were measured. -/
  roundTrips : List Nat
deriving DecidableEq, Repr, Inhabited

namespace Metrics

def empty : Metrics := ⟨.empty, .empty, 0, []⟩

def minuteMs : Nat := 60000

/-- A time before the beginning counts as the beginning. -/
def age (atMs : Int) : Nat := atMs.toNat

/-- Counts a message sent at a time, and the whole milliseconds that sending took (`record_sent`).
-/
def recordSent (bytes spentUs : Nat) (atMs : Int) (m : Metrics) : Metrics :=
  { m with
    sent := m.sent.record (age atMs / minuteMs) bytes (spentUs / 1000)
    lastUpdateMs := max m.lastUpdateMs (age atMs) }

/-- Counts a message received at a time, and the whole milliseconds that reading it took
(`record_received`). -/
def recordReceived (bytes spentUs : Nat) (atMs : Int) (m : Metrics) : Metrics :=
  { m with
    received := m.received.record (age atMs / minuteMs) bytes (spentUs / 1000)
    lastUpdateMs := max m.lastUpdateMs (age atMs) }

/-- Counts an envelope by the size of its binary form (`on_sent`). -/
def onSent (e : Envelope) (spentUs : Nat) (atMs : Int) (m : Metrics) : Metrics :=
  m.recordSent e.size spentUs atMs

def onReceived (e : Envelope) (spentUs : Nat) (atMs : Int) (m : Metrics) : Metrics :=
  m.recordReceived e.size spentUs atMs

def addRoundTrip (spentUs : Nat) (m : Metrics) : Metrics :=
  { m with roundTrips := m.roundTrips ++ [spentUs / 1000] }

/-- The mean duration of a round trip in milliseconds, zero when none was measured. -/
def averageRoundTrip (m : Metrics) : Float :=
  if m.roundTrips.isEmpty then 0
  else Float.ofNat (m.roundTrips.foldr (· + ·) 0) / Float.ofNat m.roundTrips.length

/-- The number of minutes of an hour. -/
def hour : Nat := 60

end Metrics

/-- The traffic of the connections of a node in the last hour. -/
structure Load where
  connections : Nat
  sent : Counters
  received : Counters
  averageRoundTrip : Float

namespace Load

/-- The mean of floating-point numbers, summed from left to right. -/
def mean (xs : List Float) : Float :=
  if xs.isEmpty then 0 else xs.foldl (· + ·) 0 / Float.ofNat xs.length

/-- The sums over these connections (`from_metrics`). The duration of a round trip is the mean over
the connections on which one was measured. -/
def ofMetrics (ms : List Metrics) : Load where
  connections := ms.length
  sent := ms.foldl (fun sum m => sum.add (m.sent.last Metrics.hour)) .zero
  received := ms.foldl (fun sum m => sum.add (m.received.last Metrics.hour)) .zero
  averageRoundTrip :=
    mean ((ms.filter fun m => !m.roundTrips.isEmpty).map Metrics.averageRoundTrip)

end Load

end Courier
