import Sluice.Metrics.Tally
import Sluice.Number.Binary64

/-!
# A tally as exposition text

The text for a scraper: families in the order of their names, each with its help, its type and a
line for each sample. A family with labels and no sample is left out.

* `Family` is one family and `Family.text` its text;
* `Tally.families` are the families of a tally;
* `Tally.exposition` is the whole text.
-/

namespace Sluice

/-- One line: what comes after the name of the family, the labels, and the value. -/
structure Sample where
  /-- What comes after the name of the family. -/
  tail : String
  /-- The labels with their values. -/
  labels : List (String × String)
  /-- The value. -/
  value : Float

/-- The samples of one name. -/
structure Family where
  /-- The name. -/
  name : String
  /-- What is counted. -/
  help : String
  /-- Counter, gauge or histogram. -/
  kind : String
  /-- The samples. -/
  samples : List Sample

namespace Sample

/-- A character inside a label's value. -/
def escaped : Char → List Char
  | '\\' => ['\\', '\\']
  | '\n' => ['\\', 'n']
  | '"' => ['\\', '"']
  | c => [c]

/-- A label with its value. -/
def labelText (l : String × String) : String :=
  l.1 ++ "=\"" ++ String.ofList (l.2.toList.flatMap escaped) ++ "\""

/-- Values have no point when they are whole and never an exponent. -/
def style : Binary64.Style := ⟨false, false⟩

/-- The line of a sample in a family. -/
def text (family : String) (s : Sample) : String :=
  let labels :=
    if s.labels.isEmpty then ""
    else "\x7b" ++ ",".intercalate (s.labels.map labelText) ++ "\x7d"
  family ++ s.tail ++ labels ++ " " ++ Binary64.text style s.value ++ "\n"

end Sample

namespace Family

/-- The lines of a family. -/
def text (f : Family) : String :=
  "# HELP " ++ f.name ++ " " ++ f.help ++ "\n# TYPE " ++ f.name ++ " " ++ f.kind ++ "\n" ++
    String.join (f.samples.map (Sample.text f.name))

/-- A count without labels. -/
def count (name help : String) (n : Nat) : Family :=
  ⟨name, help, "counter", [⟨"", [], Float.ofNat n⟩]⟩

/-- Counts by one label. -/
def counts (name help label : String) (c : Catalog Nat) : Family :=
  ⟨name, help, "counter", c.toList.map fun e => ⟨"", [(label, e.1)], Float.ofNat e.2⟩⟩

/-- A value that goes up and down. -/
def gauge (name help : String) (n : Int) : Family :=
  ⟨name, help, "gauge", [⟨"", [], Float.ofInt n⟩]⟩

/-- The upper ends of the classes of a histogram. -/
def bounds : List Float := [0.005, 0.01, 0.025, 0.05, 0.1, 0.25, 0.5, 1, 2.5, 5, 10]

/-- The samples of one histogram: how many observations do not pass each bound, their sum, and how
many there are. Observations are given with the last one first. -/
def classes (labels : List (String × String)) (xs : List Float) : List Sample :=
  let upTo (b : Float) : Float := Float.ofNat (xs.countP (· ≤ b))
  let total := Float.ofNat xs.length
  bounds.map (fun b =>
      ⟨"_bucket", labels ++ [("le", Binary64.text Sample.style b)], upTo b⟩) ++
    [⟨"_bucket", labels ++ [("le", "+Inf")], total⟩,
      ⟨"_sum", labels, xs.foldr (fun x sum => sum + x) 0⟩, ⟨"_count", labels, total⟩]

/-- Histograms by one label. -/
def histogram (name help label : String) (c : Catalog (List Float)) : Family :=
  ⟨name, help, "histogram", c.toList.flatMap fun e => classes [(label, e.1)] e.2⟩

end Family

namespace Tally

/-- The families of a tally in the order of their names. -/
def families (t : Tally) : List Family :=
  [.counts "relay_admission_denied_total" "Total number of rate-limited admission attempts"
      "bucket" t.denied,
    .count "relay_admission_granted_total" "Total number of admission grants" t.granted,
    .count "relay_bucket_correction_failures_total"
      "Total number of failed authoritative limit corrections" t.correctionFailures,
    .count "relay_duplicate_responses_total"
      "Total number of responses for already settled entries" t.duplicates,
    .histogram "relay_invocation_duration_seconds" "End-to-end invocation duration in seconds"
      "state" t.durations,
    .counts "relay_invocations_total" "Total number of invocations by terminal state" "state"
      t.ended,
    .count "relay_malformed_frames_total"
      "Total number of malformed frames on the response channel" t.malformed,
    .gauge "relay_pending_entries" "Number of entries currently in the correlation table"
      t.pending,
    .count "relay_responses_received_total"
      "Total number of response envelopes read by the listener" t.received,
    .count "relay_send_failures_total" "Total number of envelopes the queue transport rejected"
      t.sendFailures,
    .count "relay_unknown_responses_total"
      "Total number of responses for unregistered correlation ids" t.unknown]

/-- The text for a scraper. -/
def exposition (t : Tally) : String :=
  String.join ((t.families.filter fun f => !f.samples.isEmpty).map Family.text)

end Tally

end Sluice
