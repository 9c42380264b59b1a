import SeriesBridge.Keyed

/-! # Metrics

What the bridge counts while it runs. A **`Reading`** is one observation with the name of its
connector and its stream; **`Metrics.summary`** is what a list of readings comes to.

Counters add up, the health of a stream is its last value, batch sizes are listed, and of processing
times the number is kept. -/

namespace SeriesBridge

/-- **One observation.** -/
inductive Observation where
  | received
  | processed
  | failed (kind : String)
  | retried
  | skipped
  | reconnected
  /-- A record was processed, in some time. -/
  | timed
  | batch (size : Nat)
  | health (healthy : Bool)
  deriving DecidableEq, Repr

/-- Where an observation was made. -/
structure Meter where
  connector : String
  stream : String
  deriving DecidableEq, Repr, Inhabited

/-- An observation and where it was made. -/
structure Reading where
  meter : Meter
  observed : Observation
  deriving DecidableEq, Repr

namespace Metrics

/-- The name of a metric. -/
def name : Observation → String
  | .received => "connector_records_received_total"
  | .processed => "connector_records_processed_total"
  | .failed _ => "connector_errors_total"
  | .retried => "connector_retries_total"
  | .skipped => "connector_records_skipped_total"
  | .reconnected => "connector_reconnects_total"
  | .timed => "connector_processing_seconds"
  | .batch _ => "connector_batch_size"
  | .health _ => "connector_healthy"

/-- **The metric that a reading belongs to:** its name and its labels in order. -/
def label (r : Reading) : String :=
  let kind := match r.observed with
    | .failed kind => ",kind=" ++ kind
    | _ => ""
  name r.observed ++ "\x7bconnector=" ++ r.meter.connector ++ kind ++ ",stream=" ++
    r.meter.stream ++ "\x7d"

/-- What the readings of one metric come to. -/
inductive Total where
  | number (n : Nat)
  | values (sizes : List Nat)
  deriving DecidableEq, Repr

/-- Add an observation to what was there. -/
def Total.add (old : Option Total) : Observation → Total
  | .health healthy => .number (if healthy then 1 else 0)
  | .batch size =>
      match old with
      | some (.values sizes) => .values (sizes ++ [size])
      | _ => .values [size]
  | _ =>
      match old with
      | some (.number n) => .number (n + 1)
      | _ => .number 1

/-- **What readings come to,** metric by metric, in the order of their labels. -/
def summary (readings : List Reading) : List (String × Total) :=
  readings.foldl
    (fun m r => Keyed.insert (label r) (Total.add (Keyed.lookup (label r) m) r.observed) m) []

end Metrics

end SeriesBridge
