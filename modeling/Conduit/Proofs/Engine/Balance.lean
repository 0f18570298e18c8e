import Conduit.Proofs.Engine.BulkSteps
import Conduit.Proofs.Engine.EarlyPath

set_option autoImplicit false

namespace Conduit

variable {ρ σ : Type} {depth : Nat}

/-- The shared buffer that the early phase took out of the source for the destination. -/
def EarlyPoint.inHand? : EarlyPoint ρ → Option SharedId
  | .offering handle _ => some handle
  | .replaying handle _ => some handle
  | _ => none

namespace EarlyState

/-- The bytes that came out of the source and wait for the destination. -/
def held (state : EarlyState ρ σ depth) : Bytes :=
  match state.point.inHand? with
  | some handle => state.course.world.stores.held handle
  | none => []

/-- The bytes that come out of the source in a step. -/
def drew (state next : EarlyState ρ σ depth) : Bytes :=
  match state.point.inHand? with
  | some _ => []
  | none => next.held

end EarlyState

namespace Engine

variable [ReadPeer ρ] [WritePeer σ] {engine : Engine} {retries : Nat} {counters : CounterSet}

/-- A path of the early phase on which these bytes came out of the source. -/
inductive EarlyFlow (engine : Engine) (retries : Nat) (counters : CounterSet)
    (first : EarlyState ρ σ depth) : Bytes → EarlyState ρ σ depth → Prop where
  | nothing : EarlyFlow engine retries counters first [] first
  | step {bytes : Bytes} {state next : EarlyState ρ σ depth}
    (flow : EarlyFlow engine retries counters first bytes state)
    (step : EarlyStep engine retries counters state next) :
    EarlyFlow engine retries counters first (bytes ++ state.drew next) next

theorem EarlyPath.flow {first last : EarlyState ρ σ depth}
    (path : EarlyPath engine retries counters first last) :
    ∃ bytes, EarlyFlow engine retries counters first bytes last := by
  induction path with
  | refl => exact ⟨[], .nothing⟩
  | tail _ step ih =>
    obtain ⟨bytes, flow⟩ := ih
    exact ⟨_, .step flow step⟩

omit [ReadPeer ρ] in
/-- A handshake that succeeds takes the first of the bytes it is offered. -/
theorem given_offer {handle : SharedId} {course : Course σ depth}
    (success : (offer handle counters course).result = .ok ()) :
    course.sink.given ++ course.world.stores.held handle =
      (offer handle counters course).after.sink.given ++
        (offer handle counters course).after.world.stores.held handle := by
  have apart : (course.sink.feed (course.world.shared handle).unread
      course.world).world.shared handle = course.world.shared handle := by
    show (course.sink.sink.feed _ course.world).world.shared handle = _
    cases course.sink.sink <;> rfl
  have fed := Watched.given_feed course.sink (course.world.shared handle).unread course.world
  unfold offer at success ⊢
  cases answer : (course.sink.feed (course.world.shared handle).unread course.world).answer with
  | error fault => simp only [answer, reduceCtorEq] at success
  | ok consumed =>
    simp only [answer] at success ⊢
    split at success
    · cases success
    · rename_i modest
      simp only [answer, SinkCall.taken, if_pos (Nat.le_of_not_lt modest)] at fed
      simp only [modest, if_false]
      generalize course.sink.feed (course.world.shared handle).unread course.world = called at *
      have left := World.held_setShared
        (called.world.notice (.handshake (course.world.shared handle).unread.length consumed))
        handle ((called.world.shared handle).consume consumed)
      calc course.sink.given ++ (course.world.shared handle).unread
          = called.after.given ++ (course.world.shared handle).unread.drop consumed := by
            rw [fed, List.append_assoc, List.take_append_drop]
        _ = called.after.given ++ ((called.world.shared handle).consume consumed).unread := by
            rw [apart]; rfl
        _ = _ := congrArg (called.after.given ++ ·) left.symm

omit [ReadPeer ρ] in
/-- All of a cached buffer that was written out went to the destination. -/
theorem given_replay {handle : SharedId} {course : Course σ depth}
    (filled : (course.world.shared handle).isEmpty = false)
    (success : (replay handle counters course).result = .ok ()) :
    course.sink.given ++ course.world.stores.held handle =
      (replay handle counters course).after.sink.given := by
  have rule : Buffer.DrainRule Watched.write [] fun _ left _ (sink : Watched σ depth) _ =>
      course.sink.given ++ (course.world.shared handle).unread = sink.given ++ left := by
    apply Buffer.DrainRule.steady
    · intro left reported sink world taken balance _ answer
      rw [Watched.given_write, answer, WritePeer.took, List.append_assoc, List.take_append_drop]
      exact balance
    · intro left reported sink world fault balance _ failed
      rw [Watched.given_write, failed, WritePeer.took, List.take_zero, List.append_nil]
      exact balance
  have ends := rule.drain (course.world.shared handle) course.sink course.world
    (List.isEmpty_eq_false_iff.mp filled) rfl
  unfold replay at success ⊢
  generalize (course.world.shared handle).drain Watched.write [] course.sink course.world =
    drained at ends success
  cases result : drained.result with
  | error fault => simp only [result, reduceCtorEq] at success
  | ok total =>
    obtain ⟨_, _, balance⟩ := ends.ok result
    rw [List.append_nil] at balance
    simp only [result]
    exact balance

/-- What comes out of the source in a step of the early phase joins what waits, or goes to the
destination behind it. -/
theorem EarlyStep.given {state next : EarlyState ρ σ depth}
    (step : EarlyStep engine retries counters state next) {source : Source ρ}
    (on : next.point.source? = some source) :
    state.course.sink.given ++ state.held ++ state.drew next =
      next.course.sink.given ++ next.held := by
  have still (given : Bytes) : given ++ [] ++ [] = given ++ [] := List.append_nil _
  have came (given bytes : Bytes) : given ++ [] ++ bytes = given ++ bytes := by
    rw [List.append_nil]
  cases step with
  | idle | bare | stale | uncached | skipped => exact still _
  | layer | cached | fetched => exact came _ _
  | ungreeted | unfetched | refused | unwritten => cases on
  | greeted =>
    rw [← Watched.given_greet]
    exact still _
  | took filled success all | sated filled success all =>
    refine (List.append_nil _).trans ((given_offer success).trans ?_)
    exact congrArg (_ ++ ·) (List.isEmpty_iff.mp all)
  | left filled success more => exact (List.append_nil _).trans (given_offer success)
  | replayed filled success =>
    exact (List.append_nil _).trans ((given_replay filled success).trans (List.append_nil _).symm)

/-- The early phase gives the destination what comes out of the source. -/
theorem EarlyFlow.given {first last : EarlyState ρ σ depth} {bytes : Bytes}
    (flow : EarlyFlow engine retries counters first bytes last) {source : Source ρ}
    (on : last.point.source? = some source) :
    first.course.sink.given ++ first.held ++ bytes = last.course.sink.given ++ last.held := by
  induction flow generalizing source with
  | nothing => rw [List.append_nil]
  | step flow step ih =>
    obtain ⟨_, before⟩ := step.source
    rw [← List.append_assoc, ih before, step.given on]

/-- What a step of the bulk reads waits for the destination, and what it writes went there. -/
theorem BulkStep.given {state next : BulkState ρ σ depth} (step : BulkStep counters state next) :
    ∃ more, next.answers = state.answers ++ more ∧
      state.course.sink.given ++ state.left ++ more.flatMap ReadPeer.brought =
        next.course.sink.given ++ next.left := by
  cases step with
  | @read wanted clear some =>
    refine ⟨[(state.source.read wanted state.course.world).answer], rfl, ?_⟩
    rw [clear, List.append_nil, List.flatMap_singleton]
    rfl
  | write some =>
    have wrote := Watched.given_write state.course.sink state.left state.course.world
    refine ⟨[], (List.append_nil _).symm, (List.append_nil _).trans ?_⟩
    rw [BulkState.write, wrote, List.append_assoc, List.take_append_drop]

/-- The bulk gives the destination what it reads, but for what waits in the buffer. -/
theorem BulkPath.given {first last : BulkState ρ σ depth} (path : BulkPath counters first last) :
    ∃ more, last.answers = first.answers ++ more ∧
      first.course.sink.given ++ first.left ++ more.flatMap ReadPeer.brought =
        last.course.sink.given ++ last.left := by
  induction path with
  | refl => exact ⟨[], (List.append_nil _).symm, List.append_nil _⟩
  | tail _ step ih =>
    obtain ⟨early, grown, before⟩ := ih
    obtain ⟨late, regrown, balance⟩ := step.given
    refine ⟨early ++ late, by rw [regrown, grown, List.append_assoc], ?_⟩
    rw [List.flatMap_append, ← List.append_assoc, before, balance]

end Engine

end Conduit
