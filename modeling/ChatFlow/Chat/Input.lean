import ChatFlow.Chat

/-!
# Input of a chat

The input of a chat arrives in pieces, each of which may come with a change
of the flow file that is made before it.  A line is acted on as soon as its
line feed has arrived, and so sees the changes up to that piece; what is left
when the input ends is a last line.
-/

namespace ChatFlow

/-- A piece of input. -/
structure Delivery where
  /-- What stands in place of the flow file from now on, if it changes. -/
  change? : Option (Option File) := none
  bytes : List UInt8 := []

namespace Chat

def lineFeed : UInt8 := 10

def carriageReturn : UInt8 := 13

/-- A line of bytes without its line end, as text. -/
def eventOfBytes (line : List UInt8) (file : Option File) : ChatEvent :=
  match String.fromUTF8? ⟨line.toArray⟩ with
  | some text => .line text (File.text file)
  | none => .garbled

/-- A line of bytes that was ended by a line feed, which takes a carriage
return before it. -/
def withoutReturn (line : List UInt8) : List UInt8 :=
  if line.getLast? = some carriageReturn then line.dropLast else line

/-- The events of the lines that are complete, and the bytes of the line that
is not; `stretches` are what stands between the line feeds. -/
def eventsOfStretches (file : Option File) :
    List (List UInt8) → List ChatEvent × List UInt8
  | [] => ([], [])
  | [pending] => ([], pending)
  | line :: next :: rest =>
      let (events, pending) := eventsOfStretches file (next :: rest)
      (eventOfBytes (withoutReturn line) file :: events, pending)

/-- The events that pieces of input give rise to, after the bytes of a line
that is not complete yet. -/
def events (file : Option File) (pending : List UInt8) : List Delivery → List ChatEvent
  | [] => if pending.isEmpty then [] else [eventOfBytes pending file]
  | delivery :: rest =>
      let file := delivery.change?.getD file
      let (complete, pending) :=
        eventsOfStretches file ((pending ++ delivery.bytes).splitOn lineFeed)
      complete ++ events file pending rest

/-- A whole chat over pieces of input. -/
def runDeliveries (settings : Settings) (file : Option File)
    (deliveries : List Delivery) : ChatResult :=
  run settings (File.text file) (events file [] deliveries)

end Chat

end ChatFlow
