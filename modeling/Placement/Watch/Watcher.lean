import Placement.Settings
import Placement.Steering
import Placement.Watch.Follower

/-!
# The watcher

The watcher loads what the store holds, and then follows two streams of changes, one
for policies and one for pods.  When either stream ends the watcher stops.

## Main definitions

* `Store` — what the store answers while the watcher starts.
* `Watcher.start` — loading, and opening the streams.
* `Watcher.receive` — following one message of a stream.
* `Watcher.schedule` — an attempt to place a pod, by what the watcher knows.
-/

namespace Placement.Watch

/-- What the store answers while the watcher starts. -/
structure Store where
  /-- Whether any address leads to it. -/
  connects : Bool := true
  /-- What a listing of the policies finds, unless it fails. -/
  policies : Option (List KeyValue) := some []
  /-- What a listing of the pods finds, unless it fails. -/
  pods : Option (List KeyValue) := some []
  watchesPolicies : Bool := true
  watchesPods : Bool := true

/-- Why the watcher does not start. -/
inductive StartError where
  | unreachable (endpoints : List String)
  /-- What is under a prefix cannot be listed. -/
  | unlisted (start : String)
  /-- A stream does not open.  What was listed is known by then. -/
  | unwatched (loaded : Follower)

/-- The wording of a cause; that a stream does not open is worded by the store. -/
def StartError.message : StartError → Option String
  | .unreachable endpoints => some ("Failed to connect to xline at " ++ Text.quotedList endpoints)
  | .unlisted start => some s!"listing {start}"
  | .unwatched _ => none

/-- A message of one of the streams. -/
inductive Message where
  | policies (events : List Event)
  | pods (events : List Event)
  | ended

/-- A watcher. -/
structure Watcher where
  policyPrefix : String
  follower : Follower
  /-- Whether both streams are still open. -/
  running : Bool := true

namespace Watcher

/-- Starts a watcher over what is known already. -/
def start (settings : Settings) (store : Store) (known : Follower) : Except StartError Watcher :=
  if !store.connects then .error (.unreachable settings.endpoints)
  else
    match store.policies, store.pods with
    | none, _ => .error (.unlisted settings.policyPrefix)
    | some _, none => .error (.unlisted settings.podPrefix)
    | some policies, some pods =>
      let loaded := known.load policies pods
      if !store.watchesPolicies || !store.watchesPods then .error (.unwatched loaded)
      else .ok ⟨settings.policyPrefix, loaded, true⟩

/-- Follows one message.  A watcher that has stopped follows none. -/
def receive (w : Watcher) (message : Message) : Watcher :=
  if !w.running then w
  else
    match message with
    | .policies events =>
      { w with follower := events.foldl (·.policyEvent w.policyPrefix) w.follower }
    | .pods events => { w with follower := events.foldl Follower.podEvent w.follower }
    | .ended => { w with running := false }

/-- Tries to place a pod by what the watcher knows, running or not. -/
def schedule (w : Watcher) (pod : Pod) (nodes : List Node) :
    Except Status Assignment × Watcher :=
  let (outcome, desk) := Host.schedule (Steering.plugin { catalog := w.follower.catalog }) pod nodes
    { registry := w.follower.registry }
  (outcome, { w with follower := { w.follower with registry := desk.registry } })

end Watcher

end Placement.Watch
