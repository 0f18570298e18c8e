import Conduit.Engine.Early
import Conduit.Proofs.Source.Stock
import Conduit.Proofs.Transfer.Filling
import Mathlib.Logic.Relation

set_option autoImplicit false

namespace Conduit

/-- What the early phase of a copy does next: it asks the destination for its handshake, fetches
bytes that the handshake is offered, offers them, looks for the next cached buffer to write out, or
writes one, unless it is at its end. -/
inductive EarlyPoint (ρ : Type) where
  | asking (source : Source ρ)
  | fetching (source : Source ρ)
  | offering (handle : SharedId) (rest : Source ρ)
  | writing (source : Source ρ)
  | replaying (handle : SharedId) (rest : Source ρ)
  | finished (source : Source ρ)
  | failed (fault : TransferFault)

/-- The early phase of a copy between two steps. -/
structure EarlyState (ρ σ : Type) (depth : Nat) where
  point : EarlyPoint ρ
  course : Course σ depth

def EarlyPoint.source? {ρ : Type} : EarlyPoint ρ → Option (Source ρ)
  | .asking source => some source
  | .fetching source => some source
  | .offering handle rest => some (.cached (some handle) none rest)
  | .writing source => some source
  | .replaying handle rest => some (.cached (some handle) none rest)
  | .finished source => some source
  | .failed _ => none

def CopyStep.ended {ρ σ : Type} {depth : Nat} (step : CopyStep σ depth (Source ρ)) :
    EarlyState ρ σ depth :=
  match step.result with
  | .ok source => ⟨.finished source, step.after⟩
  | .error fault => ⟨.failed fault, step.after⟩

@[simp] theorem CopyStep.course_ended {ρ σ : Type} {depth : Nat}
    (step : CopyStep σ depth (Source ρ)) : step.ended.course = step.after := by
  unfold ended
  split <;> rfl

/-- The course after a handshake without input was driven. -/
def Course.greeted {σ : Type} [WritePeer σ] {depth : Nat} (course : Course σ depth) :
    Course σ depth :=
  { course with
    sink := (course.sink.greet course.world).after
    world := (course.sink.greet course.world).world }

namespace Engine

variable {ρ σ : Type} [ReadPeer ρ] [WritePeer σ] {depth : Nat}

/-- One step of the early phase. -/
inductive EarlyStep (engine : Engine) (retries : Nat) (counters : CounterSet) :
    EarlyState ρ σ depth → EarlyState ρ σ depth → Prop where
  | idle {source : Source ρ} {course : Course σ depth} (finished : course.sink.handshake? = none) :
    EarlyStep engine retries counters ⟨.asking source, course⟩ ⟨.writing source, course⟩
  | greeted {source : Source ρ} {course : Course σ depth}
    (pending : course.sink.handshake? = some .plain)
    (success : (course.sink.greet course.world).answer = .ok ()) :
    EarlyStep engine retries counters ⟨.asking source, course⟩ ⟨.writing source, course.greeted⟩
  | ungreeted {source : Source ρ} {course : Course σ depth} {fault : IoFault}
    (pending : course.sink.handshake? = some .plain)
    (failed : (course.sink.greet course.world).answer = .error fault) :
    EarlyStep engine retries counters ⟨.asking source, course⟩
      ⟨.failed (fault.toTransfer.within Stage.handshake),
        course.greeted.inWorld (source.drop course.greeted.world)⟩
  | bare {source rest : Source ρ} {course : Course σ depth}
    (pending : course.sink.handshake? = some .buffered) (picked : source.pick = (rest, none)) :
    EarlyStep engine retries counters ⟨.asking source, course⟩ ⟨.fetching rest, course⟩
  /-- What is cached for a handshake was read out before. -/
  | stale {source rest : Source ρ} {course : Course σ depth} {handle : SharedId}
    (pending : course.sink.handshake? = some .buffered)
    (picked : source.pick = (rest, some handle))
    (empty : (course.world.shared handle).isEmpty = true) :
    EarlyStep engine retries counters ⟨.asking source, course⟩
      ⟨.fetching rest, course.inWorld (course.world.release handle)⟩
  | layer {source rest : Source ρ} {course : Course σ depth} {handle : SharedId}
    (pending : course.sink.handshake? = some .buffered)
    (picked : source.pick = (rest, some handle))
    (filled : (course.world.shared handle).isEmpty = false) :
    EarlyStep engine retries counters ⟨.asking source, course⟩ ⟨.offering handle rest, course⟩
  | fetched {source rest : Source ρ} {course : Course σ depth} {buffer : Buffer} {world : World}
    (fetch : engine.readGreeting retries source course.world = some (.ok buffer, rest, world)) :
    EarlyStep engine retries counters ⟨.fetching source, course⟩
      ⟨.offering (world.share buffer).1 rest, course.inWorld (world.share buffer).2⟩
  | unfetched {source rest : Source ρ} {course : Course σ depth} {fault : TransferFault}
    {world : World}
    (fetch : engine.readGreeting retries source course.world = some (.error fault, rest, world)) :
    EarlyStep engine retries counters ⟨.fetching source, course⟩
      ⟨.failed fault, course.inWorld (rest.drop world)⟩
  /-- A handshake failed, or claimed more than it was offered. -/
  | refused {handle : SharedId} {rest : Source ρ} {course : Course σ depth}
    {fault : TransferFault} (filled : (course.world.shared handle).isEmpty = false)
    (failed : (offer handle counters course).result = .error fault) :
    EarlyStep engine retries counters ⟨.offering handle rest, course⟩
      ⟨.failed fault, (offer handle counters course).after.inWorld
        (rest.drop ((offer handle counters course).after.world.release handle))⟩
  | took {handle : SharedId} {rest : Source ρ} {course : Course σ depth}
    (filled : (course.world.shared handle).isEmpty = false)
    (success : (offer handle counters course).result = .ok ())
    (all : ((offer handle counters course).after.world.shared handle).isEmpty = true)
    (pending : (offer handle counters course).after.sink.handshake?.isSome = true) :
    EarlyStep engine retries counters ⟨.offering handle rest, course⟩
      ⟨.asking rest, (offer handle counters course).after.inWorld
        ((offer handle counters course).after.world.release handle)⟩
  | sated {handle : SharedId} {rest : Source ρ} {course : Course σ depth}
    (filled : (course.world.shared handle).isEmpty = false)
    (success : (offer handle counters course).result = .ok ())
    (all : ((offer handle counters course).after.world.shared handle).isEmpty = true)
    (finished : (offer handle counters course).after.sink.handshake? = none) :
    EarlyStep engine retries counters ⟨.offering handle rest, course⟩
      ⟨.writing rest, (offer handle counters course).after.inWorld
        ((offer handle counters course).after.world.release handle)⟩
  | left {handle : SharedId} {rest : Source ρ} {course : Course σ depth}
    (filled : (course.world.shared handle).isEmpty = false)
    (success : (offer handle counters course).result = .ok ())
    (some : ((offer handle counters course).after.world.shared handle).isEmpty = false) :
    EarlyStep engine retries counters ⟨.offering handle rest, course⟩
      ⟨.replaying handle rest, (offer handle counters course).after⟩
  | uncached {source rest : Source ρ} {course : Course σ depth}
    (picked : source.pick = (rest, none)) :
    EarlyStep engine retries counters ⟨.writing source, course⟩ ⟨.finished rest, course⟩
  /-- What is cached was read out before. -/
  | skipped {source rest : Source ρ} {course : Course σ depth} {handle : SharedId}
    (picked : source.pick = (rest, some handle))
    (empty : (course.world.shared handle).isEmpty = true) :
    EarlyStep engine retries counters ⟨.writing source, course⟩
      ⟨.asking rest, course.inWorld (course.world.release handle)⟩
  | cached {source rest : Source ρ} {course : Course σ depth} {handle : SharedId}
    (picked : source.pick = (rest, some handle))
    (filled : (course.world.shared handle).isEmpty = false) :
    EarlyStep engine retries counters ⟨.writing source, course⟩ ⟨.replaying handle rest, course⟩
  | replayed {handle : SharedId} {rest : Source ρ} {course : Course σ depth}
    (filled : (course.world.shared handle).isEmpty = false)
    (success : (replay handle counters course).result = .ok ()) :
    EarlyStep engine retries counters ⟨.replaying handle rest, course⟩
      ⟨.asking rest, (replay handle counters course).after.inWorld
        ((replay handle counters course).after.world.release handle)⟩
  | unwritten {handle : SharedId} {rest : Source ρ} {course : Course σ depth}
    {fault : TransferFault} (filled : (course.world.shared handle).isEmpty = false)
    (failed : (replay handle counters course).result = .error fault) :
    EarlyStep engine retries counters ⟨.replaying handle rest, course⟩
      ⟨.failed fault, (replay handle counters course).after.inWorld
        (rest.drop ((replay handle counters course).after.world.release handle))⟩

/-- The early phase gets from one state to another. -/
def EarlyPath (engine : Engine) (retries : Nat) (counters : CounterSet) :
    EarlyState ρ σ depth → EarlyState ρ σ depth → Prop :=
  Relation.ReflTransGen (EarlyStep engine retries counters)

variable {engine : Engine} {retries : Nat} {counters : CounterSet}

theorem EarlyStep.source {state next : EarlyState ρ σ depth}
    (step : EarlyStep engine retries counters state next) :
    ∃ source, state.point.source? = some source := by
  cases step <;> exact ⟨_, rfl⟩

/-- What a step keeps holds all along a path. -/
theorem EarlyPath.keeps {Inv : EarlyState ρ σ depth → Prop} {first last : EarlyState ρ σ depth}
    (path : EarlyPath engine retries counters first last)
    (step : ∀ state next, Inv state → EarlyStep engine retries counters state next → Inv next)
    (inv : Inv first) : Inv last := by
  induction path with
  | refl => exact inv
  | tail _ taken ih => exact step _ _ ih taken

end Engine

end Conduit
