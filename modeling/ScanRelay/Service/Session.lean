import ScanRelay.Service.Abilities
import ScanRelay.Service.Incoming

/-!
# Sessions

The life of the server beside one editor. The editor opens the session with a request and confirms
the answer with a notification; then the server serves until the editor asks it to shut down and
tells it to exit. A step out of this order ends the session with a failure.

Scans go on while the server waits. They get on by whole seconds: `Session.elapse` lets one pass.
-/

namespace ScanRelay

/-- What a session takes from the machine it runs on. -/
structure Machine where
  /-- What the device is called in telemetry. -/
  deviceId : String
  start : Launch → ProgramRun

/-- A server with the tasks that it started and that are not finished. -/
structure Serving where
  server : Server
  tasks : List Task

namespace Serving

/-- The server that an editor asks for. Settings that cannot be used are left aside. -/
def ofStart (machine : Machine) (start : EditorStart) : Serving :=
  let settings :=
    match start.options.map (Settings.ofPayload machine.deviceId) with
    | some (.ok settings) => settings
    | _ => .standard machine.deviceId
  let w := Workspace.new settings ⟨.program machine.start, none⟩
  ⟨.new (w.ofEditor start.folders start.root), []⟩

def unfinished (ts : List Task) : List Task := ts.filter fun t => !t.isFinished

/-- What comes of a handler. Its tasks begin at once. -/
def handle (s : Serving) (h : Handled) : Serving × List Message :=
  let p := Task.round h.server.workspace h.server.stopped h.tasks
  (⟨h.server.follow p, s.tasks ++ unfinished p.left⟩, Event.messages (h.events ++ p.events))

/-- A second passes. -/
def elapse (s : Serving) : Serving × List Message :=
  let p := Task.round s.server.workspace s.server.stopped s.tasks
  (⟨s.server.follow p, unfinished p.left⟩, Event.messages p.events)

/-- What is still sent until every task is finished. -/
def finish (s : Serving) : List Message :=
  Event.messages (s.server.runTasks s.tasks).1.events

end Serving

inductive Session
  /-- The editor has yet to open the session. -/
  | greeting
  /-- The editor has yet to confirm. It opened the session with these parameters. -/
  | greeted (params : Json)
  | serving (s : Serving)
  /-- The editor has asked to shut down and has yet to say that this is the end. -/
  | leaving (s : Serving)
  | ended (success : Bool)

namespace Session

def notInitialized : Int := -32002

/-- Answers a request that comes before the session is open. -/
def refuse (r : Request) : Message :=
  .reply r.id (.error ⟨notInitialized, "expected initialize request, got " ++ r.inspect⟩)

/-- Begins to serve. Parameters of the wrong kind end the session. -/
def confirmed (machine : Machine) (params : Json) : Session :=
  match EditorStart.schema.decode EditorStart.ofJson params with
  | .ok start => .serving (.ofStart machine start)
  | .error _ => .ended false

/-- A message to a server at work. -/
def serve (s : Serving) : Incoming → Session × List Message
  | .request r =>
    if r.method = "shutdown" then (.leaving s, [.reply r.id (.ok .null)])
    else
      let (s, sent) := s.handle (s.server.request r)
      (.serving s, sent)
  | .notification n =>
    if n.method = "exit" then (.ended true, s.finish)
    else
      let (s, sent) := s.handle (s.server.notify n)
      (.serving s, sent)
  | .reply => (.serving s, [])

/-- A message, and what is sent because of it. -/
def receive (machine : Machine) (s : Session) (m : Incoming) : Session × List Message :=
  match s with
  | greeting =>
    match m with
    | .request r =>
      if r.method = "initialize" then (.greeted r.params, [.reply r.id (.ok Abilities.greeting)])
      else (.greeting, [refuse r])
    | .notification n => (if n.method = "exit" then .ended false else .greeting, [])
    | .reply => (.ended false, [])
  | greeted params =>
    match m with
    | .notification n =>
      (if n.method = "initialized" then confirmed machine params else .ended false, [])
    | _ => (.ended false, [])
  | serving s => serve s m
  | leaving s =>
    match m with
    | .notification n =>
      if n.method = "exit" then (.ended true, { s with server := s.server.stop }.finish)
      else (.ended false, [])
    | _ => (.ended false, [])
  | ended success => (.ended success, [])

/-- A message as JSON. One that is no message ends the session. -/
def receiveJson (machine : Machine) (s : Session) (j : Json) : Session × List Message :=
  match s, Incoming.ofJson? j with
  | .ended success, _ => (.ended success, [])
  | s, some m => s.receive machine m
  | _, none => (.ended false, [])

/-- The editor sends nothing any more. -/
def close (s : Session) : Session × List Message :=
  match s with
  | serving s => (.ended true, s.finish)
  | ended success => (.ended success, [])
  | _ => (.ended false, [])

/-- A second passes. -/
def elapse (s : Session) : Session × List Message :=
  match s with
  | serving s => let (s, sent) := s.elapse; (.serving s, sent)
  | leaving s => let (s, sent) := s.elapse; (.leaving s, sent)
  | s => (s, [])

/-- Whether any scan is under way. -/
def isBusy : Session → Bool
  | serving s | leaving s => !s.tasks.isEmpty
  | _ => false

def isEnded : Session → Bool
  | ended _ => true
  | _ => false

/-- The status to exit with. A session that has not ended is a failure. -/
def exitStatus : Session → UInt32
  | ended true => 0
  | _ => 1

end Session

end ScanRelay
