import ModelRepositories.Protocol.Response
import ModelRepositories.Text.Blank
import ModelRepositories.Text.Split

/-!
Serving a stream of requests, one a line. Blank lines are passed over; every other line is answered
with one line. A line that is not text or not a request ends the service, and so does an output that
takes no more bytes.
-/

namespace ModelRepositories.Protocol

abbrev Bytes := List UInt8

def lineFeed : UInt8 := 10

def carriageReturn : UInt8 := 13

/-- A carriage return before the line feed belongs to the line end. -/
def dropReturn (line : Bytes) : Bytes :=
  if line.getLast? = some carriageReturn then line.dropLast else line

/-- The lines of a stream; the last one may end without a line feed, and then keeps its bytes. -/
def lines (input : Bytes) : List Bytes :=
  let pieces := Text.splitWhere (· == lineFeed) input
  pieces.dropLast.map dropReturn ++ (pieces.getLast?.toList.filter (!·.isEmpty))

def inputName : Path := ⟨"<stdin>"⟩

def outputName : Path := ⟨"<stderr>"⟩

def readLine (line : Bytes) : Except Failure (Option Request) :=
  match String.fromUTF8? ⟨line.toArray⟩ with
  | none => .error (.access inputName .notText)
  | some text =>
    if Text.isBlankLine text.toList then .ok none
    else some <$> (Request.parse text).mapError .json

/-- Answers the lines one after another; `send` is told the bytes of each answer. -/
def answerLines {m : Type → Type} [Monad m] (respond : Request → m Response)
    (send : Bytes → m (Except Failure Unit)) : List Bytes → m (Except Failure Unit)
  | [] => return .ok ()
  | line :: rest =>
    match readLine line with
    | .error failure => return .error failure
    | .ok none => answerLines respond send rest
    | .ok (some request) => do
      let response ← respond request
      match ← send response.encode with
      | .ok () => answerLines respond send rest
      | .error failure => return .error failure

/-- `room` is the number of bytes that the output still takes, if that is limited. -/
structure Session where
  world : World
  room : Option Nat
  output : Bytes

namespace Session

def respond (environment : Environment) (request : Request) : StateM Session Response :=
  fun session =>
    let (world, response) := Protocol.respond environment session.world request
    (response, { session with world })

def taken (room : Option Nat) (bytes : Bytes) : Bytes :=
  match room with
  | none => bytes
  | some room => bytes.take room

def send (bytes : Bytes) : StateM Session (Except Failure Unit) := fun session =>
  let written := taken session.room bytes
  (if written.length < bytes.length then .error (.access outputName .writeRefused) else .ok (),
    { session with
      output := session.output ++ written
      room := session.room.map (· - bytes.length) })

def serve (environment : Environment) (served : List Bytes) :
    StateM Session (Except Failure Unit) :=
  answerLines (respond environment) send served

end Session

/-- What a service has written, how it ended and the world after it. -/
structure Served where
  output : Bytes
  ending : Except Failure Unit
  world : World

def serveLines (environment : Environment) (room : Option Nat) (world : World)
    (served : List Bytes) : Served :=
  let (ending, session) := Session.serve environment served ⟨world, room, []⟩
  ⟨session.output, ending, session.world⟩

def serve (environment : Environment) (room : Option Nat) (input : Bytes) (world : World) :
    Served :=
  serveLines environment room world (lines input)

end ModelRepositories.Protocol
