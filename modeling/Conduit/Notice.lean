import Conduit.Fault.Message
import Conduit.Verbosity

set_option autoImplicit false

namespace Conduit

inductive Notice where
  /-- A phase of a copy ended after moving so many bytes. -/
  | phase (stage : String) (bytes : Nat)
  | failed (fault : CopyFault)
  /-- A cached buffer was written out. -/
  | replay (bytes : Nat)
  /-- A handshake was offered bytes and took some of them. -/
  | handshake (offered consumed : Nat)
  /-- A chunk went through a pipe. -/
  | spliced (bytes : Nat)
  /-- Splicing gave up after so many bytes and left the rest to a buffer. -/
  | fallback (reason : String) (moved : Nat)
  /-- A pipe was made or given up while so many lay idle. -/
  | pipe (event : String) (idle : Nat)
  /-- A pool had no idle storage of its class. -/
  | poolMiss (size : Nat)

namespace Notice

def subsystem : Notice → Subsystem
  | .phase _ _ | .failed _ => .copy
  | .replay _ => .cache
  | .handshake _ _ => .handshake
  | .spliced _ | .fallback _ _ => .splice
  | .pipe _ _ | .poolMiss _ => .pool

def severity : Notice → Severity
  | .phase _ _ | .failed _ => .info
  | .replay _ | .handshake _ _ => .debug
  | .spliced _ | .fallback _ _ | .pipe _ _ | .poolMiss _ => .trace

def message : Notice → String
  | .phase stage bytes => stage ++ " moved " ++ toString bytes ++ " bytes"
  | .failed fault => copyFailedText fault.copied fault.message
  | .replay bytes => "replayed " ++ toString bytes ++ " cached bytes"
  | .handshake offered consumed =>
    "handshake consumed " ++ toString consumed ++ " of " ++ toString offered ++ " bytes"
  | .spliced bytes => "spliced " ++ toString bytes ++ " bytes"
  | .fallback reason moved =>
    "splice not handled after " ++ toString moved ++ " bytes: " ++ reason
  | .pipe event idle => "pipe " ++ event ++ " (idle=" ++ toString idle ++ ")"
  | .poolMiss size => "buffer pool miss for " ++ toString size ++ " byte class"

/-- A text between quotation marks, with quotation marks and backslashes inside marked. -/
def quoted (text : String) : String :=
  let marked := text.toList.flatMap fun c =>
    if c = '"' ∨ c = '\\' then ['\\', c] else if c = '\n' then ['\\', 'n'] else [c]
  String.ofList ('"' :: marked ++ ['"'])

/-- The named values of a notice, without its sentence. -/
def fields : Notice → List (String × String)
  | .phase stage bytes => [("phase", quoted stage), ("bytes", toString bytes)]
  | .failed fault => [("copied", toString fault.copied)]
  | .replay bytes => [("bytes", toString bytes)]
  | .handshake offered consumed =>
    [("offered", toString offered), ("consumed", toString consumed)]
  | .spliced bytes => [("bytes", toString bytes)]
  | .fallback reason moved => [("reason", quoted reason), ("moved", toString moved)]
  | .pipe event idle => [("event", quoted event), ("idle", toString idle)]
  | .poolMiss size => [("class", toString size)]

def shownAt (notice : Notice) (verbosity : Verbosity) : Bool :=
  verbosity.shows notice.subsystem notice.severity

end Notice

end Conduit
