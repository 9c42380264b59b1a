import SeriesBridge.Dialogue.Serve
import SeriesBridge.Extraction.Source
import SeriesBridge.Pipeline.Delivery
import SeriesBridge.Pipeline.Publication
import SeriesBridge.Sink

/-! # Whole pipelines

A delivery with the sink that it delivers to, and a publication with the source that it publishes
from: what is left to be asked is asked of a database, of a stream or a receiver of records, and of
the machine.

* **`Sink.answer`**, **`Source.answer`** — answer the calls of a pipeline.
* **`Delivery.runInto d sink n`**, **`Publication.runFrom p source n`** — runs of at most `n`
  rounds. -/

namespace SeriesBridge

/-- **A sink answers** the calls of a delivery. -/
def Sink.answer : Server Sinking Link Sink
  | .prepare settings, s => s.prepare settings
  | .process r, s => s.process r
  | .flush, s => s.flush
  | .shutdown, s => s.shutdown

/-- **A source answers** the calls of a publication. -/
def Source.answer : Server Sourcing Link Source
  | .prepare settings, s => s.prepare settings
  | .restore offsets, s => pure (.ok (), s.restore offsets)
  | .poll, s => s.poll
  | .commit offsets, s => pure (.ok (), s.commit offsets)
  | .shutdown, s => do return (.ok (), ← s.shutdown)

/-- **A run of a delivery** of at most `n` rounds into a sink. -/
def Delivery.runInto (d : Delivery) (sink : Sink) (n : Nat) :
    Dialogue (Link.sum Intake) (Delivery.Progress × Sink) := (d.run n).serve Sink.answer sink

/-- **A run of a publication** of at most `n` rounds from a source. -/
def Publication.runFrom (p : Publication) (source : Source) (n : Nat) :
    Dialogue (Link.sum Outlet) (Publication.Progress × Source) :=
  (p.run n).serve Source.answer source

end SeriesBridge
