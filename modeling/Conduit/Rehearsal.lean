import Conduit.Journal

set_option autoImplicit false

namespace Conduit

inductive ReadCue where
  /-- Delivers bytes, over as many reads as it takes; an empty piece is one read of no bytes. -/
  | deliver (bytes : Bytes)
  | fail (fault : IoFault)

inductive ReadFinale where
  | ended
  | failing (fault : IoFault)
  /-- It repeats one byte for ever. -/
  | repeating (byte : UInt8)

structure RehearsedReader where
  id : PeerId
  cues : List ReadCue
  finale : ReadFinale

namespace RehearsedReader

def ofBytes (id : PeerId) (bytes : Bytes) : RehearsedReader := ⟨id, [.deliver bytes], .ended⟩

/-- Answers a call for up to so many bytes. A piece is over only when nothing is left of it. -/
def read (reader : RehearsedReader) (wanted : Nat) : Except IoFault Bytes × RehearsedReader :=
  match reader.cues with
  | .deliver bytes :: rest =>
    let left := bytes.drop wanted
    (.ok (bytes.take wanted),
      { reader with cues := if left.isEmpty then rest else .deliver left :: rest })
  | .fail fault :: rest => (.error fault, { reader with cues := rest })
  | [] =>
    match reader.finale with
    | .ended => (.ok [], reader)
    | .failing fault => (.error fault, reader)
    | .repeating byte => (.ok (List.replicate wanted byte), reader)

instance : ReadPeer RehearsedReader where
  id := RehearsedReader.id
  read := read

/-- The bytes still to be delivered before the finale, in order. -/
def script (reader : RehearsedReader) : Bytes :=
  reader.cues.flatMap fun cue =>
    match cue with
    | .deliver bytes => bytes
    | .fail _ => []

end RehearsedReader

inductive WriteCue where
  | all
  /-- Takes at most so many bytes. -/
  | take (limit : Nat)
  /-- Takes everything, and claims to have taken so many bytes more. -/
  | over (excess : Nat)
  | fail (fault : IoFault)

namespace WriteCue

def answer (cue : WriteCue) (offered : Nat) : Except IoFault Nat :=
  match cue with
  | .all => .ok offered
  | .take limit => .ok (min limit offered)
  | .over excess => .ok (offered + excess)
  | .fail fault => .error fault

end WriteCue

inductive FeedCue where
  /-- As a write would be answered. -/
  | once (cue : WriteCue)
  /-- Takes so many bytes in all, over as many offers as it takes. -/
  | want (bytes : Nat)

inductive HandshakePart where
  | none
  /-- One without input, with the fault of each step, if any. -/
  | plain (steps : List (Option IoFault))
  | buffered (steps : List FeedCue)

structure RehearsedWriter where
  id : PeerId
  cues : List WriteCue
  finale : WriteCue
  flushFault : Option IoFault
  plan : Option PullPlan
  part : HandshakePart

namespace RehearsedWriter

def eager (id : PeerId) : RehearsedWriter := ⟨id, [], .all, none, none, .none⟩

def write (writer : RehearsedWriter) (bytes : Bytes) : Except IoFault Nat × RehearsedWriter :=
  match writer.cues with
  | cue :: rest => (cue.answer bytes.length, { writer with cues := rest })
  | [] => (writer.finale.answer bytes.length, writer)

def flush (writer : RehearsedWriter) : Except IoFault Unit × RehearsedWriter :=
  match writer.flushFault with
  | none => (.ok (), writer)
  | some fault => (.error fault, writer)

def handshake (writer : RehearsedWriter) : Option Handshake :=
  match writer.part with
  | .none => none
  | .plain [] => none
  | .plain (_ :: _) => some .plain
  | .buffered [] => none
  | .buffered (_ :: _) => some .buffered

/-- Drives one step of a handshake without input. -/
def greet (writer : RehearsedWriter) : Except IoFault Unit × RehearsedWriter :=
  match writer.part with
  | .plain (none :: rest) => (.ok (), { writer with part := .plain rest })
  | .plain (some fault :: rest) => (.error fault, { writer with part := .plain rest })
  | _ => (.ok (), writer)

/-- Offers bytes to one step of a handshake. -/
def feed (writer : RehearsedWriter) (bytes : Bytes) : Except IoFault Nat × RehearsedWriter :=
  match writer.part with
  | .buffered (.once cue :: rest) =>
    (cue.answer bytes.length, { writer with part := .buffered rest })
  | .buffered (.want wanted :: rest) =>
    let left := wanted - bytes.length
    (.ok (min wanted bytes.length),
      { writer with part := .buffered (if left = 0 then rest else .want left :: rest) })
  | _ => (.ok 0, writer)

instance : WritePeer RehearsedWriter where
  id := RehearsedWriter.id
  write := write
  flush := flush
  handshake := handshake
  greet := greet
  feed := feed
  pull := RehearsedWriter.plan

end RehearsedWriter

end Conduit
