import WalletRecovery.Bytes

/-!
# Sinks

A sink takes bytes until it is full, and can refuse to be flushed.  What it took before it failed
stays in it.
-/

namespace WalletRecovery

/-- A destination of bytes. -/
structure Sink where
  /-- The number of bytes that it still takes, if that is limited. -/
  room : Option Nat := none
  /-- Whether it refuses to be flushed. -/
  refusesFlush : Bool := false
  /-- What it has taken. -/
  written : Array UInt8 := #[]
deriving DecidableEq

inductive SinkError where
  | full
  | flushRefused
deriving DecidableEq, Repr

def SinkError.message : SinkError → String
  | full => "writer is full"
  | flushRefused => "flush refused"

namespace Sink

def bytes (s : Sink) : List UInt8 :=
  s.written.toList

/-- Puts bytes into a sink, as many as it takes. -/
def put (s : Sink) (bs : List UInt8) : Except SinkError Unit × Sink :=
  match s.room with
  | none => (.ok (), { s with written := s.written ++ bs })
  | some room =>
    ((if bs.length ≤ room then .ok () else .error .full),
      { s with room := some (room - bs.length), written := s.written ++ bs.take room })

def flush (s : Sink) : Except SinkError Unit :=
  if s.refusesFlush then .error .flushRefused else .ok ()

end Sink

end WalletRecovery
