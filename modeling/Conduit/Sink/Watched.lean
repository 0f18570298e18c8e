import Conduit.Sink.Basic

set_option autoImplicit false

namespace Conduit

inductive SinkCall where
  /-- Bytes were offered as data, while the sink still needed this handshake. -/
  | write (pending : Option Handshake) (offered : Bytes) (answer : Except IoFault Nat)
  /-- A handshake without input was driven. -/
  | greet (answer : Except IoFault Unit)
  /-- Bytes were offered to a handshake. -/
  | feed (offered : Bytes) (answer : Except IoFault Nat)

structure Watched (σ : Type) (depth : Nat) where
  sink : Sink σ depth
  /-- The calls made of it, latest first. -/
  latestFirst : List SinkCall

namespace Watched

variable {σ : Type} {depth : Nat}

/-- A sink of which no call was made yet. -/
def fresh (sink : Sink σ depth) : Watched σ depth := ⟨sink, []⟩

def calls (watched : Watched σ depth) : List SinkCall := watched.latestFirst.reverse

def answered (watched : Watched σ depth) (sink : Sink σ depth) (call : SinkCall) :
    Watched σ depth :=
  ⟨sink, call :: watched.latestFirst⟩

@[simp] theorem calls_fresh (sink : Sink σ depth) : (fresh sink).calls = [] := rfl

@[simp] theorem calls_answered (watched : Watched σ depth) (sink : Sink σ depth)
    (call : SinkCall) : (watched.answered sink call).calls = watched.calls ++ [call] := by
  simp [answered, calls]

@[simp] theorem sink_answered (watched : Watched σ depth) (sink : Sink σ depth)
    (call : SinkCall) : (watched.answered sink call).sink = sink := rfl

variable [WritePeer σ]

def handshake? (watched : Watched σ depth) : Option Handshake := watched.sink.handshake?

def write : Writing (Watched σ depth) := fun watched bytes world =>
  let called := watched.sink.write depth bytes world
  called.through fun sink =>
    watched.answered sink (.write watched.handshake? bytes called.answer)

/-- Drives a handshake without input. -/
def greet (watched : Watched σ depth) (world : World) : Called (Watched σ depth) Unit :=
  let called := watched.sink.greet world
  called.through fun sink => watched.answered sink (.greet called.answer)

/-- Offers bytes to a handshake, which says how many it took. -/
def feed (watched : Watched σ depth) (bytes : Bytes) (world : World) :
    Called (Watched σ depth) Nat :=
  let called := watched.sink.feed bytes world
  called.through fun sink => watched.answered sink (.feed bytes called.answer)

end Watched

end Conduit
