import Conduit.Fault.Message
import Conduit.World.Storage

set_option autoImplicit false

namespace Conduit

/-- A way to close an endpoint. -/
abbrev Closing (ε : Type) := ε → World → Called ε Unit

/-- Shutting down what was never connected is no fault. -/
def shutdownAnswer (answer : Except IoFault Unit) : Except IoFault Unit :=
  match answer with
  | .ok () => .ok ()
  | .error fault => if fault.kind = .notConnected then .ok () else .error fault

inductive Closable where
  /-- An endpoint that has nothing to do when it is closed, such as a file. -/
  | passive
  /-- An endpoint that fails whenever it is closed. -/
  | failing (fault : IoFault)
  | buffer (stock : Buffer)
  /-- A socket, with what its shutdown reports. -/
  | socket (shutdown : Except IoFault Unit)

namespace Closable

def close : Closing Closable
  | .passive, world => ⟨.ok (), .passive, world⟩
  | .failing fault, world => ⟨.error fault, .failing fault, world⟩
  | .buffer stock, world =>
    let (stock, world) := world.freeBuffer stock
    ⟨.ok (), .buffer stock, world⟩
  | .socket shutdown, world => ⟨shutdownAnswer shutdown, .socket shutdown, world⟩

end Closable

structure ClosedAll (ε : Type) where
  faults : List TransferFault
  endpoints : List ε
  world : World

/-- Closes each endpoint once, in order, and gathers the faults. -/
def closeEach {ε : Type} (close : Closing ε) : List ε → World → ClosedAll ε
  | [], world => ⟨[], [], world⟩
  | endpoint :: rest, world =>
    let closed := close endpoint world
    let others := closeEach close rest closed.world
    match closed.answer with
    | .ok () => ⟨others.faults, closed.after :: others.endpoints, others.world⟩
    | .error fault =>
      ⟨fault.toTransfer :: others.faults, closed.after :: others.endpoints, others.world⟩

def joinedAnswer (faults : List TransferFault) : Except TransferFault Unit :=
  match TransferFault.join faults with
  | none => .ok ()
  | some fault => .error fault

/-- Closes the same endpoints several times, with the joined fault of each time. -/
def closeRounds {ε : Type} (close : Closing ε) : Nat → List ε → World →
    List (Except TransferFault Unit)
  | 0, _, _ => []
  | times + 1, endpoints, world =>
    let closed := closeEach close endpoints world
    joinedAnswer closed.faults :: closeRounds close times closed.endpoints closed.world

/-- Closes an endpoint that has nothing to say for itself: the call is recorded, and answered with a
fault if there is one. -/
def closeRecorded {ε : Type} (peer : PeerId) (fault? : Option IoFault) : Closing ε :=
  fun endpoint world =>
    let answer := match fault? with
      | none => .ok ()
      | some fault => .error fault
    ⟨answer, endpoint, world.record (.closed peer)⟩

end Conduit
