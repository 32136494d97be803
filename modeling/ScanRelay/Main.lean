import ScanRelay.Service.Frame
import ScanRelay.Service.Invocation
import ScanRelay.Service.Session

/-!
# The command line

Shows the version, or serves the editor at the other end of standard input and output. No programs
are started from here, so every scanner counts as one that cannot be.
-/

namespace ScanRelay.CommandLine

def send (output : IO.FS.Stream) (messages : List Message) : IO Unit := do
  for m in messages do
    output.putStr (frame m.toWire.toText)
  output.flush

/-- The length that the next head announces; nothing at the end of the input. -/
partial def readHead (input : IO.FS.Stream) (length : Option Nat) : IO (Option Nat) := do
  let line ← input.getLine
  if line.isEmpty then return none
  match HeadLine.ofText line with
  | .length n => readHead input (some n)
  | .other => readHead input length
  | .blank =>
    match length with
    | some n => return some n
    | none => throw (.userError "no Content-Length")
  | .malformed => throw (.userError "malformed header")

/-- Reads so many bytes and appends them to what was read. -/
partial def readBytes (input : IO.FS.Stream) (count : Nat) (read : ByteArray) : IO ByteArray := do
  if count ≤ read.size then return read
  let more ← input.read (USize.ofNat (count - read.size))
  if more.isEmpty then throw (.userError "the body ends early")
  readBytes input count (read ++ more)

/-- The next message; nothing at the end of the input. -/
def readMessage (input : IO.FS.Stream) : IO (Option Json) := do
  match ← readHead input none with
  | none => return none
  | some n =>
    let body ← readBytes input n .empty
    match String.fromUTF8? body with
    | none => throw (.userError "the body is no text")
    | some text =>
      match Json.parse text with
      | .ok j => return some j
      | .error fault => throw (.userError fault.message)

/-- Lets time pass until nothing is under way. -/
partial def settle (output : IO.FS.Stream) (session : Session) : IO Session := do
  if !session.isBusy then return session
  let (session, sent) := session.elapse
  send output sent
  settle output session

/-- Serves until the session ends. -/
partial def serve (machine : Machine) (input output : IO.FS.Stream) (session : Session) :
    IO UInt32 := do
  if session.isEnded then return session.exitStatus
  match ← readMessage input with
  | none =>
    let (session, sent) := session.close
    send output sent
    return session.exitStatus
  | some j =>
    let (session, sent) := session.receiveJson machine j
    send output sent
    serve machine input output (← settle output session)

def run (arguments : List String) : IO UInt32 := do
  let output ← IO.getStdout
  match Invocation.ofArguments arguments with
  | .version =>
    output.putStrLn Invocation.versionLine
    return 0
  | .serve =>
    let device ← IO.rand 0 (UInt64.size - 1)
    let machine : Machine := ⟨toString device, fun _ => .impossible⟩
    serve machine (← IO.getStdin) output .greeting

end ScanRelay.CommandLine

def main (arguments : List String) : IO UInt32 := ScanRelay.CommandLine.run arguments
