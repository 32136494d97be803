import ScanRelay.Editor.Hover
import ScanRelay.Editor.Message
import ScanRelay.Scan.Telemetry

/-!
# Events

What the engine does to the world around it, in order: it enters the scanner, reports telemetry,
sends messages and hover documents, and uses the inline values of the scanner.
-/

namespace ScanRelay

inductive Event
  /-- The scanner is entered for a path in a folder, perhaps after its scan was cancelled. -/
  | scan (path folder : String) (cancelled : Bool)
  | telemetry (e : ScanDone)
  | send (m : Message)
  | hover (d : HoverDocument)
  | clearInline (path : String)
  | readInline (path : String) (range : Range)

namespace Event

def hover? : Event → Option HoverDocument
  | hover d => some d
  | _ => none

def message? : Event → Option Message
  | send m => some m
  | _ => none

def isScanStatus : Event → Bool
  | send m => m.isScanStatus
  | _ => false

/-- The hover documents among events. -/
def hovers (es : List Event) : List HoverDocument := es.filterMap hover?

/-- The messages among events. -/
def messages (es : List Event) : List Message := es.filterMap message?

/-! ## Groups

Files may be cleared in any order. Clearing one ends with its hover document, so a list of events
falls into one group for each file, and sorting the groups by file gives it a standard order. -/

/-- Cuts events after each hover document. What is left at the end stands for itself. -/
def groups : List Event → List (String × List Event) × List Event
  | [] => ([], [])
  | hover d :: rest =>
    let (gs, trailing) := groups rest
    ((d.path, [hover d]) :: gs, trailing)
  | e :: rest =>
    match groups rest with
    | ([], trailing) => ([], e :: trailing)
    | ((path, g) :: gs, trailing) => ((path, e :: g) :: gs, trailing)

/-- Events in their standard order. Those of a publication are in order already. -/
def sorted (es : List Event) : List Event :=
  if es.any isScanStatus then es
  else
    let (gs, trailing) := groups es
    (gs.mergeSort fun a b => a.1 ≤ b.1).flatMap (·.2) ++ trailing

end Event

end ScanRelay
