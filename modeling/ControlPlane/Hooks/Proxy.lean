import ControlPlane.Hooks.Mapping
import ControlPlane.Lib.Cumulative
import ControlPlane.Runtime.Tokens

/-! The proxy before the Codex app server: its queue and its worker, the hooks on their way, and
the daemon that counts their tokens. -/

namespace ControlPlane.Hooks

open Cumulative (latest level Grows reported)
open Fleet (CodePoint Text Json Dict text)
open ControlPlane.Runtime (HookNumber RuntimeHookEnvelope RuntimeConfig RuntimeMonitor RuntimeState
  Accounted total)

def QUEUE_CAPACITY : Nat := 1024

inductive Side
  | input
  | output

namespace Side

def of : Side → Totals → Nat
  | input => Prod.fst
  | output => Prod.snd

def delta : Side → RuntimeHookEnvelope → Nat
  | input => RuntimeHookEnvelope.inputTokensDelta
  | output => RuntimeHookEnvelope.outputTokensDelta

def tokens : Side → RuntimeState → String → Nat
  | input => RuntimeState.inputTokens
  | output => RuntimeState.outputTokens

end Side

/-- The queue holds notifications and, at the end, the `None` that ends the worker. -/
structure Bridge where
  queue : List (Option Dict)
  working : Bool
  tokenState : HashMap Text Totals
  /-- Hooks that are posted and neither at the daemon nor lost. -/
  inFlight : List HookEnvelope
  monitor : RuntimeMonitor

inductive Op
  /-- The app server writes an object. -/
  | wrote (payload : Dict)
  /-- The app server has ended. -/
  | ended
  /-- The worker takes what is next in the queue. -/
  | worked (circumstances : Circumstances)
  /-- The worker takes what is next, and sampling the process raises. -/
  | unsampled
  | arrived (position : Nat)
  | lost (position : Nat)
  /-- Whatever else the daemon is asked. -/
  | daemon (op : RuntimeMonitor.Op)

inductive Mark
  | notified (key : Text) (totals : Totals)
  | taken (key : Text) (totals : Totals)
  | accepted (hook : RuntimeHookEnvelope)
  /-- Tokens of an agent that no hook will bring. -/
  | uncounted (agentId : String) (added : Totals)

namespace Bridge

def new (config : RuntimeConfig) : Bridge where
  queue := []
  working := true
  tokenState := .empty
  inFlight := []
  monitor := .new config

def putNowait (bridge : Bridge) (event : Option Dict) : Bridge :=
  if bridge.queue.length < QUEUE_CAPACITY then { bridge with queue := bridge.queue ++ [event] }
  else bridge

end Bridge

def isNotification (payload : Dict) : Bool :=
  match payload.get "method" with
  | some (.str _) => true
  | _ => false

def due (envelope : HookEnvelope) : String × Totals :=
  (envelope.agentId.asString, envelope.inputTokensDelta, envelope.outputTokensDelta)

section Step

variable [Python]

def readingOf (payload : Dict) : Option (Text × Totals) :=
  match tokenReading payload with
  | .ok reading => reading
  | .error _ => none

variable (settings : Settings)

def agentOf (key : Text) : String :=
  (identifier (some (.str (settings.overrideAgentId (text "codex") (some key))))
    (text "openai:unidentified")).asString

namespace Bridge

section Work

variable (bridge : Bridge)

def rise (key : Text) (totals : Totals) : Totals :=
  let previous := (bridge.tokenState.get key).getD (0, 0)
  (totals.1 - previous.1, totals.2 - previous.2)

def takenMarks (payload : Dict) (raised : Bool) : List Mark :=
  match readingOf payload with
  | none => []
  | some (key, totals) =>
    .taken key totals ::
      if raised then [.uncounted (agentOf settings key) (bridge.rise key totals)] else []

/-- One turn of `hook_worker`: whatever the mapping raises, the worker goes on. -/
def work (circumstances : Circumstances) : Bridge × List Mark :=
  match bridge.working, bridge.queue with
  | true, none :: rest => ({ bridge with queue := rest, working := false }, [])
  | true, some payload :: rest =>
    let mapped := mapCodexNotification settings circumstances bridge.tokenState payload
    let mapping := { bridge with queue := rest, tokenState := mapped.1 }
    match mapped.2 with
    | .error _ => (mapping, bridge.takenMarks settings payload true)
    | .ok none => (mapping, bridge.takenMarks settings payload false)
    | .ok (some envelope) =>
      ({ mapping with inFlight := bridge.inFlight ++ [envelope] },
        bridge.takenMarks settings payload false)
  | _, _ => (bridge, [])

end Work

def skip (bridge : Bridge) : Bridge :=
  match bridge.working, bridge.queue with
  | true, some _ :: rest => { bridge with queue := rest }
  | _, _ => bridge

section Act

variable (N : Type) [HookNumber N] [WireText] [HookText] (bridge : Bridge)

/-- `POST /api/v1/runtime/hooks` -/
def receive (envelope : HookEnvelope) : RuntimeMonitor × List Mark :=
  match (RuntimeHookEnvelope.codec : Serde.Codec N _).decode envelope.value with
  | none => (bridge.monitor, [.uncounted (due envelope).1 (due envelope).2])
  | some hook =>
    match bridge.monitor.ingestHook hook with
    | (monitor, .ok _) => (monitor, [.accepted hook])
    | (monitor, .error _) => (monitor, [.uncounted (due envelope).1 (due envelope).2])

def act : Op → Bridge × List Mark
  | .wrote payload =>
    if isNotification payload then
      (bridge.putNowait (some payload),
        (readingOf payload).toList.map fun reading => .notified reading.1 reading.2)
    else (bridge, [])
  | .ended => (bridge.putNowait none, [])
  | .worked circumstances => bridge.work settings circumstances
  | .unsampled => (bridge.skip, [])
  | .arrived position =>
    match bridge.inFlight[position]? with
    | none => (bridge, [])
    | some envelope =>
      let received := bridge.receive N envelope
      ({ bridge with inFlight := bridge.inFlight.eraseIdx position, monitor := received.1 },
        received.2)
  | .lost position =>
    match bridge.inFlight[position]? with
    | none => (bridge, [])
    | some envelope =>
      ({ bridge with inFlight := bridge.inFlight.eraseIdx position },
        [.uncounted (due envelope).1 (due envelope).2])
  | .daemon op =>
    ({ bridge with monitor := bridge.monitor.step op }, (bridge.monitor.accepts op).map .accepted)

def step (op : Op) : Bridge := (bridge.act settings N op).1

def marks (op : Op) : List Mark := (bridge.act settings N op).2

end Act

end Bridge

variable (N : Type) [HookNumber N] [WireText] [HookText] (config : RuntimeConfig)

abbrev ran (ops : List Op) : Bridge := Run.after (Bridge.step settings N) (.new config) ops

abbrev record (ops : List Op) : List Mark :=
  Run.emitted (Bridge.marks settings N) (Bridge.step settings N) (.new config) ops

end Step

namespace Mark

def notifiedTotals : Mark → Option (Text × Totals)
  | notified key totals => some (key, totals)
  | _ => none

def takenTotals : Mark → Option (Text × Totals)
  | taken key totals => some (key, totals)
  | _ => none

def acceptedHook : Mark → Option RuntimeHookEnvelope
  | accepted hook => some hook
  | _ => none

def missing : Mark → Option (String × Totals)
  | uncounted agentId added => some (agentId, added)
  | _ => none

end Mark

def notifiedOf (record : List Mark) : List (Text × Totals) := record.filterMap Mark.notifiedTotals

def takenOf (record : List Mark) : List (Text × Totals) := record.filterMap Mark.takenTotals

def acceptedOf (record : List Mark) : List RuntimeHookEnvelope :=
  record.filterMap Mark.acceptedHook

def missingOf (record : List Mark) : List (String × Totals) := record.filterMap Mark.missing

def owed (side : Side) (agentId : String) (dues : List (String × Totals)) : Nat :=
  ((dues.filter fun due => due.1 = agentId).map fun due => side.of due.2).sum

end ControlPlane.Hooks
