import Conduit.Bytes
import Conduit.Notice

set_option autoImplicit false

namespace Conduit

structure Counter where
  name : String
  deriving DecidableEq, Repr

structure CounterSet where
  /-- Called for bytes taken from the source. -/
  read : List Counter
  /-- Called for bytes that reached the destination. -/
  write : List Counter

/-- The number by which the journal knows a live reader or writer. -/
abbrev PeerId := Nat

inductive Event where
  /-- A reader was asked for up to `wanted` bytes. -/
  | read (peer : PeerId) (wanted : Nat) (answer : Except IoFault Bytes)
  /-- A writer was offered bytes and said how many it took. -/
  | wrote (peer : PeerId) (offered : Bytes) (answer : Except IoFault Nat)
  /-- A writer was asked to flush. -/
  | flushed (peer : PeerId) (answer : Except IoFault Unit)
  /-- A handshake without input was driven. -/
  | greeted (peer : PeerId) (answer : Except IoFault Unit)
  /-- A handshake was offered bytes and said how many it took. -/
  | fed (peer : PeerId) (offered : Bytes) (answer : Except IoFault Nat)
  /-- A writer was asked to pull from a source by itself. -/
  | pulling (peer : PeerId)
  /-- A writer pulled bytes by itself. -/
  | pulled (peer : PeerId) (bytes : Bytes)
  | closed (peer : PeerId)
  | counted (counter : Counter) (bytes : Nat)
  | noticed (notice : Notice)

namespace Event

/-- The bytes that a record says a writer took as data. -/
def delivered (peer : PeerId) : Event → Bytes
  | .wrote writer offered (.ok taken) => if writer = peer then offered.take taken else []
  | .pulled writer bytes => if writer = peer then bytes else []
  | _ => []

/-- The bytes that a record says a writer's handshake took. -/
def greeting (peer : PeerId) : Event → Bytes
  | .fed writer offered (.ok taken) => if writer = peer then offered.take taken else []
  | _ => []

/-- The bytes that a record adds to a counter. -/
def tally (counter : Counter) : Event → Nat
  | .counted called bytes => if called = counter then bytes else 0
  | _ => 0

def notice? : Event → Option Notice
  | .noticed notice => some notice
  | _ => none

end Event

structure Journal where
  latestFirst : List Event

namespace Journal

def empty : Journal := ⟨[]⟩

/-- The records in the order in which they were made. -/
def events (journal : Journal) : List Event := journal.latestFirst.reverse

def record (journal : Journal) (event : Event) : Journal := ⟨event :: journal.latestFirst⟩

def size (journal : Journal) : Nat := journal.latestFirst.length

/-- The records made since there were so many. -/
def since (journal : Journal) (earlier : Nat) : List Event :=
  (journal.latestFirst.take (journal.size - earlier)).reverse

/-- Calls each counter in order; nothing is called for no bytes. -/
def count (journal : Journal) (counters : List Counter) (bytes : Nat) : Journal :=
  if bytes = 0 then journal
  else counters.foldl (fun journal counter => journal.record (.counted counter bytes)) journal

@[simp] theorem events_empty : empty.events = [] := rfl

@[simp] theorem events_record (journal : Journal) (event : Event) :
    (journal.record event).events = journal.events ++ [event] := by
  simp [events, record]

@[simp] theorem count_zero (journal : Journal) (counters : List Counter) :
    journal.count counters 0 = journal := rfl

/-- A call of counters records one call of each, in order. -/
theorem events_count (journal : Journal) (counters : List Counter) (bytes : Nat) :
    (journal.count counters bytes).events =
      journal.events ++ if bytes = 0 then [] else counters.map fun c => .counted c bytes := by
  unfold count
  split
  · simp
  · induction counters generalizing journal with
    | nil => simp
    | cons counter rest ih => simp [ih]

end Journal

/-- Live readers, at the far ends of sources. A reader has no part in the world: what it answers is
recorded by its caller. -/
class ReadPeer (ρ : Type) where
  id : ρ → PeerId
  /-- Answers a call for up to so many bytes. No byte for a call that wanted some means the end of
  the stream; bytes beyond the wanted ones are never delivered. -/
  read : ρ → Nat → Except IoFault Bytes × ρ

/-- The handshakes that a writer may need before ordinary writes. -/
inductive Handshake where
  /-- A handshake without input. -/
  | plain
  /-- A handshake that takes the first bytes of the source. -/
  | buffered
  deriving DecidableEq, Repr

inductive PullPlan where
  /-- It reads up to so many bytes at a time until the source ends or fails. -/
  | slices (size : Nat)
  | refuses (fault : IoFault)

/-- Live writers, at the far ends of sinks. What they answer is recorded by their callers. -/
class WritePeer (σ : Type) where
  id : σ → PeerId
  /-- Answers an offer of bytes with how many were taken. -/
  write : σ → Bytes → Except IoFault Nat × σ
  flush : σ → Except IoFault Unit × σ
  /-- The handshake that is still needed. -/
  handshake : σ → Option Handshake
  /-- Drives a handshake without input. -/
  greet : σ → Except IoFault Unit × σ
  /-- Offers bytes to a handshake, which answers how many it took. -/
  feed : σ → Bytes → Except IoFault Nat × σ
  /-- How the writer pulls from a source by itself, if it can. -/
  pull : σ → Option PullPlan

end Conduit
