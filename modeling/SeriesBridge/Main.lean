import Std.Async.DNS
import Std.Async.Signal
import Std.Async.TCP
import Std.Time.DateTime.Timestamp
import SeriesBridge.Program.Stage
import SeriesBridge.Web.Message

/-! # The command line

The program without arguments: what it asks of the machine is asked of the one that it runs on. -/

namespace SeriesBridge.Main

/-- **What the program holds of its machine.** -/
structure Handles where
  /-- The milliseconds of the clock at the start. -/
  started : Nat
  /-- Is done when the program was interrupted. -/
  interrupted : Task (Except IO.Error Int)
  /-- A read of the standard input that is under way. -/
  reading : IO.Ref (Option (Task (Except IO.Error ByteArray)))

/-- The words of the system for an error. -/
def faultText (details : String) (code : UInt32) : String :=
  let number := if code.toNat < 0x80000000 then code.toNat else 0x100000000 - code.toNat
  details.capitalize ++ " (os error " ++ toString number ++ ")"

/-- The words for an error. -/
def errorText : IO.Error → String
  | .noFileOrDirectory _ code details => faultText details code
  | .alreadyExists _ code details => faultText details code
  | .permissionDenied _ code details => faultText details code
  | .inappropriateType _ code details => faultText details code
  | .invalidArgument _ code details => faultText details code
  | .noSuchThing _ code details => faultText details code
  | .resourceExhausted _ code details => faultText details code
  | .interrupted _ code details => faultText details code
  | .otherError code details => faultText details code
  | e => toString e

/-- A file that is asked for, or the fault. -/
def guarded {α : Type} (act : IO α) : IO (Except FileFault α) := do
  try
    return .ok (← act)
  catch e =>
    return .error
      { text := errorText e
        missing := match e with
          | .noFileOrDirectory .. => true
          | _ => false }

/-- Files of the machine. -/
def answerFile : (call : FileCall) → IO call.Answer
  | .read path => guarded do return (← IO.FS.readBinFile path).toList
  | .write path bytes => guarded (IO.FS.writeBinFile path ⟨bytes.toArray⟩)
  | .rename path target => guarded (IO.FS.rename path target)

/-- Milliseconds since the start. -/
def elapsed (h : Handles) : IO Nat := do return (← IO.monoMsNow) - h.started

/-- Whether the program was interrupted. -/
def isInterrupted (h : Handles) : IO Bool := IO.hasFinished h.interrupted

/-- Wait for a task until a deadline, or until there is a reason to give up. -/
partial def await {α : Type} (h : Handles) (deadline : Nat) (givesUp : IO Bool) (task : Task α) :
    IO (Option α) := do
  if ← IO.hasFinished task then return some (← IO.wait task)
  else
    let time ← elapsed h
    if deadline ≤ time || (← givesUp) then return none
    else
      IO.sleep (UInt32.ofNat (min 10 (deadline - time)))
      await h deadline givesUp task

/-- The next bytes of the standard input. A read that is given up is taken up the next time. -/
def answerInput (h : Handles) (deadline : Nat) : IO Supply := do
  let task ←
    match ← h.reading.get with
    | some task => pure task
    | none => IO.asTask (do (← IO.getStdin).read 8192) .dedicated
  h.reading.set (some task)
  match ← await h deadline (isInterrupted h) task with
  | none => return .nothing
  | some read =>
      h.reading.set none
      match read with
      | .ok bytes => return if bytes.isEmpty then .ended else .bytes bytes.toList
      | .error e => return .failed (errorText e)

/-- All bytes that come in on a connection. -/
partial def receiveAll (socket : Std.Async.TCP.Socket.Client) (received : ByteArray) :
    Std.Async.Async ByteArray := do
  match ← socket.recv? 65536 with
  | some bytes => receiveAll socket (received ++ bytes)
  | none => return received

/-- The addresses of a host. An address in brackets is one already. -/
def addresses (host : String) (port : UInt16) : Std.Async.Async (List Std.Net.SocketAddress) := do
  let inner := String.ofList ((host.toList.filter (· != '[')).filter (· != ']'))
  let found ← Std.Async.DNS.getAddrInfo inner (toString port)
  return found.toList.map (fun
    | .v4 addr => .v4 { addr, port }
    | .v6 addr => .v6 { addr, port })

/-- Send a request on a connection of its own and take what comes back. -/
def exchange (request : WebRequest) : Std.Async.Async ByteArray := do
  match ← addresses request.endpoint.host (UInt16.ofNat request.endpoint.port) with
  | [] => throw (IO.userError "no address for the host")
  | address :: _ =>
      let socket ← Std.Async.TCP.Socket.Client.mk
      socket.connect address
      socket.send ⟨request.message.toArray⟩
      receiveAll socket .empty

/-- A request over the network. Secured connections cannot be made. -/
def answerWeb (h : Handles) (request : WebRequest) : IO (Except String WebReply) := do
  if request.endpoint.secure then return .error "secured connections are not supported"
  else
    let task ← IO.asTask (exchange request).block .dedicated
    let deadline := (← elapsed h) + 1000 * request.timeout
    match ← await h deadline (pure false) task with
    | none => return .error "operation timed out"
    | some (.error e) => return .error (errorText e)
    | some (.ok bytes) =>
        match WebReply.ofMessage? bytes.toList with
        | some reply => return .ok reply
        | none => return .error "connection closed before message completed"

/-- Output that can fail. -/
def written (act : IO Unit) : IO (Except String Unit) := do
  try
    act
    return .ok ()
  catch e => return .error (errorText e)

/-- The time of day. -/
def timeOfDay : IO Instant := do
  let nanos := (← Std.Time.Timestamp.now).toNanosecondsSinceUnixEpoch.val
  return ⟨nanos / 1000000000, (nanos % 1000000000).toNat⟩

/-- **The machine that the program runs on.** Readings are taken nowhere. -/
def answer (h : Handles) : (call : MachineCall) → IO call.Answer
  | .file call => answerFile call
  | .web request => answerWeb h request
  | .input deadline => answerInput h deadline
  | .output bytes => written do (← IO.getStdout).write ⟨bytes.toArray⟩
  | .flush => written do (← IO.getStdout).flush
  | .stopping => isInterrupted h
  | .clock => elapsed h
  | .now => timeOfDay
  | .pause millis => IO.sleep (UInt32.ofNat (min millis 0xFFFFFFFF))
  | .draw most room => do
      let n ← IO.rand 0 most
      if h : n < min most room + 1 then return ⟨n, h⟩
      else throw (IO.userError "attempt to add with overflow")
  | .note _ => pure ()

/-- Go on until the program is over. -/
partial def finish (h : Handles) : Stage → IO (Except Failure Unit)
  | .over result => pure result
  | s => do finish h (← s.advance.run (I := Machine) (answer h))

end SeriesBridge.Main

open SeriesBridge in
/-- **The program.** A failure is reported on the standard error output, and so is why a run broke
off. -/
def main : IO UInt32 := do
  let values ← BridgeSettings.variableNames.mapM (fun name => do return (name, ← IO.getEnv name))
  let env : Environment := fun name => (values.lookup name).getD none
  let h : Main.Handles :=
    { started := ← IO.monoMsNow
      interrupted := ← (← Std.Async.Signal.Waiter.mk .sigint true).wait
      reading := ← IO.mkRef none }
  try
    match ← Main.finish h (← (Stage.begin env).run (I := Machine) (Main.answer h)) with
    | .ok () => return 0
    | .error failure => do
        IO.eprint failure.render
        return 1
  catch e => do
    IO.eprintln (toString e)
    return 101
