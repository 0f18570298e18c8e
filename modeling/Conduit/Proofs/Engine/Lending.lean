import Conduit.Proofs.Engine.CopyLedger
import Conduit.Proofs.Engine.EarlyPath
import Conduit.Proofs.Sink.Giving
import Conduit.Proofs.Sink.Leading
import Conduit.Proofs.Source.Leading
import Conduit.Proofs.Splice.Sparing
import Conduit.Proofs.World.Returns

set_option autoImplicit false

/- What a copy borrows and gives back. A copy is a path of steps of a borrower beside its two ends
and all else in the world: it has one buffer at a time of its engine's allocator, and when it ended
it has none and its ends have let go of all that they had. -/
namespace Conduit

open Tenancy (Leads)

variable {ρ σ : Type} {depth : Nat}

namespace Course

/-- A copy under way and its source, with other handles and buffers around them. -/
def keeping (course : Course σ depth) (source : Source ρ) (handles : Multiset SharedId)
    (buffers : Multiset Buffer) : Estate :=
  source.keeping (course.sink.sink.handles + handles) (course.sink.sink.stocks + buffers)
    course.world

theorem keeping_eq (course : Course σ depth) (source : Source ρ) (handles : Multiset SharedId)
    (buffers : Multiset Buffer) :
    course.keeping source handles buffers =
      course.sink.sink.keeping (source.handles + handles) (source.stocks + buffers)
        course.world := by
  rw [keeping, Source.keeping, Sink.keeping, add_left_comm, add_left_comm (_ : Multiset Buffer)]

theorem keeping_cons (course : Course σ depth) (source : Source ρ) (handle : SharedId)
    (handles : Multiset SharedId) (buffers : Multiset Buffer) :
    course.keeping source (handle ::ₘ handles) buffers =
      ⟨course.world, handle ::ₘ (course.keeping source handles buffers).handles,
        (course.keeping source handles buffers).buffers⟩ := by
  rw [keeping, keeping, Source.keeping, Source.keeping, Multiset.add_cons, Multiset.add_cons]

/-- A handle of the borrower or around the copy is one in its estate. -/
theorem mem_keeping {handle : SharedId} {loan : Borrowed} {handles : Multiset SharedId}
    (alive : handle ∈ loan.handles + handles) (course : Course σ depth) (source : Source ρ)
    (buffers : Multiset Buffer) :
    handle ∈ loan.handles + (course.keeping source handles buffers).handles := by
  rw [keeping, Source.keeping]
  simp only [Multiset.mem_add] at alive ⊢
  exact alive.imp_right fun around => .inr (.inr around)

/-- Nothing comes off a source without a layer. -/
theorem keeping_bare (course : Course σ depth) {source rest : Source ρ}
    (picked : source.pick = (rest, none)) (handles : Multiset SharedId)
    (buffers : Multiset Buffer) :
    course.keeping rest handles buffers = course.keeping source handles buffers := by
  have same := source.keeping_pick (course.sink.sink.handles + handles)
    (course.sink.sink.stocks + buffers) course.world
  rw [picked, Option.toList_none, Multiset.coe_nil, zero_add] at same
  exact same

theorem keeping_layer (course : Course σ depth) {source rest : Source ρ} {handle : SharedId}
    (picked : source.pick = (rest, some handle)) (handles : Multiset SharedId)
    (buffers : Multiset Buffer) :
    course.keeping rest (handle ::ₘ handles) buffers = course.keeping source handles buffers := by
  have same := source.keeping_pick (course.sink.sink.handles + handles)
    (course.sink.sink.stocks + buffers) course.world
  rw [picked, Option.toList_some, Multiset.coe_singleton, Multiset.singleton_add] at same
  rw [keeping, keeping, Multiset.add_cons]
  exact same

section

variable {allocator : Allocator} (course : Course σ depth) {source : Source ρ} {loan : Borrowed}
  {handles : Multiset SharedId} {buffers : Multiset Buffer}

theorem leads_notice (notice : Notice) :
    Leads allocator ((course.keeping source handles buffers).beside loan)
      (((course.inWorld (course.world.notice notice)).keeping source handles buffers).beside
        loan) :=
  .step (.elsewhere rfl rfl)

theorem leads_progressed (counters : CounterSet) (bytes : Nat) :
    Leads allocator ((course.keeping source handles buffers).beside loan)
      (((course.progressed counters bytes).keeping source handles buffers).beside loan) :=
  .step (.elsewhere rfl rfl)

/-- An operation through a handle that the engine or someone around the copy has. -/
theorem leads_through {handle : SharedId} {after : Buffer}
    (alive : handle ∈ loan.handles + handles) (stays : (course.world.shared handle).Stays after) :
    Leads allocator ((course.keeping source handles buffers).beside loan)
      (((course.inWorld (course.world.setShared handle after)).keeping source handles
        buffers).beside loan) :=
  .step (.through (course.mem_keeping alive source buffers) stays)

theorem leads_drop :
    Leads allocator ((course.keeping source handles buffers).beside loan)
      ((course.sink.sink.keeping handles buffers (source.drop course.world)).beside loan) :=
  Source.leads_drop source course.world loan _ _

variable [WritePeer σ]

theorem leads_greeted :
    Leads allocator ((course.keeping source handles buffers).beside loan)
      ((course.greeted.keeping source handles buffers).beside loan) := by
  rw [keeping_eq, keeping_eq]
  exact Sink.leads_greet course.sink.sink course.world loan _ _

theorem leads_fed (offered : Bytes) :
    let fed := course.sink.feed offered course.world
    Leads allocator ((course.keeping source handles buffers).beside loan)
      (((⟨fed.after, course.copied, fed.world⟩ : Course σ depth).keeping source handles
        buffers).beside loan) := by
  dsimp only
  rw [keeping_eq, keeping_eq]
  exact Sink.leads_feed course.sink.sink offered course.world loan _ _

theorem leads_drain (counters : List Counter) (buffer : Buffer) :
    let drained := buffer.drain Watched.write counters course.sink course.world
    buffer.Stays drained.buffer ∧
      Leads allocator ((course.keeping source handles buffers).beside loan)
        (((⟨drained.sink, course.copied, drained.world⟩ : Course σ depth).keeping source handles
          buffers).beside loan) := by
  refine Buffer.leads_drain Watched.write counters (fun sink world =>
    ((⟨sink, course.copied, world⟩ : Course σ depth).keeping source handles buffers).beside loan)
    ?_ ?_ buffer course.sink course.world
  · intro watched bytes world
    rw [keeping_eq, keeping_eq]
    exact Sink.leads_write depth watched.sink bytes world loan _ _
  · exact fun _ _ _ => .step (.elsewhere rfl rfl)

end

end Course

/-- The engine has a handle of its own, or one that it took off the source, which is among those of
others then. -/
inductive Grip (handle : SharedId) (handles : Multiset SharedId) :
    Borrowed → Multiset SharedId → Prop where
  | own : Grip handle handles (.handle handle) handles
  | cached : Grip handle handles .nothing (handle ::ₘ handles)

namespace Grip

variable {handle : SharedId} {handles held : Multiset SharedId} {buffers : Multiset Buffer}
  {loan : Borrowed}

theorem alive (grip : Grip handle handles loan held) : handle ∈ loan.handles + held := by
  rw [Multiset.mem_add]
  cases grip with
  | own => exact .inl (Multiset.mem_singleton_self _)
  | cached => exact .inr (Multiset.mem_cons_self _ _)

theorem leads_release (grip : Grip handle handles loan held) {allocator : Allocator}
    (course : Course σ depth) (source : Source ρ) :
    Leads allocator ((course.keeping source held buffers).beside loan)
      (((course.inWorld (course.world.release handle)).keeping source handles buffers).beside
        .nothing) := by
  cases grip with
  | own => exact .step (.giveUp handle)
  | cached =>
    rw [Course.keeping_cons]
    exact .step (.release handle)

end Grip

namespace Engine

variable [ReadPeer ρ] [WritePeer σ] {engine : Engine} {allocator : Allocator} {retries : Nat}
  {counters : CounterSet} {handles : Multiset SharedId} {buffers : Multiset Buffer}
  {start : Tenancy}

/-- Bytes read for a handshake lie in a borrowed buffer; when there are none it was given back. -/
theorem leads_readGreeting {source rest : Source ρ} {world later : World}
    {result : Except TransferFault Buffer}
    (fetch : engine.readGreeting retries source world = some (result, rest, later))
    (handles : Multiset SharedId) (buffers : Multiset Buffer) :
    Leads engine.buffers ((source.keeping handles buffers world).beside .nothing)
      ((rest.keeping handles buffers later).beside
        (match result with
          | .ok buffer => .buffer buffer
          | .error _ => .nothing)) := by
  simp only [readGreeting, Allocator.standard, Option.map_eq_some_iff] at fetch
  obtain ⟨filled, ended, shape⟩ := fetch
  have borrowed : Leads engine.buffers ((source.keeping handles buffers world).beside .nothing)
      ((source.keeping handles buffers _).beside (.buffer _)) :=
    .step (.borrow engine.buffers.standardSize)
  obtain ⟨stays, read⟩ := Buffer.leads_fillOnce engine.buffers ended
    (.buffer (engine.buffers.alloc engine.buffers.standardSize world).1) handles buffers
  have filling := (borrowed.trans read).trans (.step (.fill stays))
  split at shape <;> cases shape
  · exact filling.trans (.step (.giveBack _))
  · exact filling
  · exact filling.trans (.step (.giveBack _))

section

variable (course : Course σ depth) {source : Source ρ} {loan : Borrowed} {handle : SharedId}

omit [ReadPeer ρ] in
theorem leads_offer (alive : handle ∈ loan.handles + handles) :
    Leads allocator ((course.keeping source handles buffers).beside loan)
      (((offer handle counters course).after.keeping source handles buffers).beside loan) := by
  have fed : Leads allocator ((course.keeping source handles buffers).beside loan) _ :=
    course.leads_fed (course.world.shared handle).unread
  unfold offer
  dsimp only at fed ⊢
  split
  · exact fed
  · rename_i consumed _
    split
    · exact fed
    · refine fed.trans ((Course.leads_notice _
        (.handshake (course.world.shared handle).unread.length consumed)).trans ?_)
      exact (Course.leads_through _ alive (.consume _ consumed)).trans
        (Course.leads_progressed _ counters consumed)

omit [ReadPeer ρ] in
theorem leads_replay (alive : handle ∈ loan.handles + handles)
    (whole : ((course.keeping source handles buffers).beside loan).Whole) :
    Leads allocator ((course.keeping source handles buffers).beside loan)
      (((replay handle counters course).after.keeping source handles buffers).beside loan) := by
  obtain ⟨stays, deals, path⟩ :
      _ ∧ Leads allocator ((course.keeping source handles buffers).beside loan) _ :=
    course.leads_drain [] (course.world.shared handle)
  -- The destination may write to the same shared buffer, but leaves it over its storage.
  have made := whole.sound.made (Multiset.count_pos.mpr (course.mem_keeping alive source buffers))
  have kept := ((path.stays whole).2 handle made (Course.mem_keeping alive _ source buffers)).2
  have late : ∀ {now after : Buffer}, (course.world.shared handle).Stays now →
      (course.world.shared handle).Stays after → now.Stays after := by
    intro now after there here _
    obtain ⟨_, capacity, owner⟩ := there (whole.shared handle)
    obtain ⟨sound, capacities, owners⟩ := here (whole.shared handle)
    exact ⟨sound, capacities.trans capacity.symm, owners.trans owner.symm⟩
  have written := (Leads.trans ⟨deals, path⟩
    (Course.leads_through _ alive (late kept stays))).trans
    (Course.leads_progressed _ counters
      ((course.world.shared handle).drain Watched.write [] course.sink course.world).reported)
  unfold replay
  dsimp only at written ⊢
  split
  · exact written
  · exact written.trans (Course.leads_notice _ _)

end

/-- What the engine has between two steps of the early phase, and where they led from. -/
def Lodged (allocator : Allocator) (start : Tenancy) (handles : Multiset SharedId)
    (buffers : Multiset Buffer) (state : EarlyState ρ σ depth) : Prop :=
  let course := state.course
  match state.point with
  | .asking source | .fetching source | .writing source | .finished source =>
    Leads allocator start ((course.keeping source handles buffers).beside .nothing)
  | .offering handle rest | .replaying handle rest => ∃ loan held, Grip handle handles loan held ∧
    Leads allocator start ((course.keeping rest held buffers).beside loan)
  | .failed _ =>
    Leads allocator start
      ((course.sink.sink.keeping handles buffers course.world).beside .nothing)

theorem EarlyStep.lodged {state next : EarlyState ρ σ depth}
    (step : EarlyStep engine retries counters state next) (whole : start.Whole)
    (lodged : Lodged engine.buffers start handles buffers state) :
    Lodged engine.buffers start handles buffers next := by
  cases step with
  | idle => exact lodged
  | greeted => exact lodged.trans (Course.leads_greeted _)
  | ungreeted =>
    exact (lodged.trans (Course.leads_greeted _)).trans (Course.leads_drop _)
  | bare _ picked | uncached picked =>
    simp only [Lodged, ← Course.keeping_bare _ picked] at lodged
    exact lodged
  | stale _ picked _ | skipped picked _ =>
    -- The handle that comes off the source is one of those around the copy until it is let go.
    simp only [Lodged, ← Course.keeping_layer _ picked] at lodged
    exact lodged.trans (Grip.leads_release .cached _ _)
  | layer _ picked _ | cached picked _ =>
    simp only [Lodged, ← Course.keeping_layer _ picked] at lodged
    exact ⟨_, _, .cached, lodged⟩
  | fetched fetch =>
    refine ⟨_, _, .own, ?_⟩
    exact (lodged.trans (leads_readGreeting fetch _ _)).trans (.step (.share _))
  | unfetched fetch =>
    exact (lodged.trans (leads_readGreeting fetch _ _)).trans (Source.leads_drop _ _ _ _ _)
  | refused =>
    obtain ⟨loan, held, grip, led⟩ := lodged
    exact ((led.trans (leads_offer _ grip.alive)).trans (grip.leads_release _ _)).trans
      (Course.leads_drop _)
  | took | sated =>
    obtain ⟨loan, held, grip, led⟩ := lodged
    exact (led.trans (leads_offer _ grip.alive)).trans (grip.leads_release _ _)
  | left =>
    obtain ⟨loan, held, grip, led⟩ := lodged
    exact ⟨loan, held, grip, led.trans (leads_offer _ grip.alive)⟩
  | replayed =>
    obtain ⟨loan, held, grip, deals, path⟩ := lodged
    have led : Leads engine.buffers start _ := ⟨deals, path⟩
    exact (led.trans (leads_replay _ grip.alive (path.whole whole))).trans
      (grip.leads_release _ _)
  | unwritten =>
    obtain ⟨loan, held, grip, deals, path⟩ := lodged
    have led : Leads engine.buffers start _ := ⟨deals, path⟩
    exact ((led.trans (leads_replay _ grip.alive (path.whole whole))).trans
      (grip.leads_release _ _)).trans
      (Course.leads_drop _)

theorem EarlyPath.lodged {state next : EarlyState ρ σ depth}
    (path : EarlyPath engine retries counters state next) (whole : start.Whole)
    (lodged : Lodged engine.buffers start handles buffers state) :
    Lodged engine.buffers start handles buffers next := by
  have invariant : ∀ state next : EarlyState ρ σ depth,
      Lodged engine.buffers start handles buffers state →
      EarlyStep engine retries counters state next →
      Lodged engine.buffers start handles buffers next :=
    fun _ _ lodged taken => taken.lodged whole lodged
  exact path.keeps invariant lodged

theorem copyEarly_lodged (whole : start.Whole) {rounds : Nat} {source : Source ρ}
    {course : Course σ depth} {step : CopyStep σ depth (Source ρ)}
    (ended : engine.copyEarly retries counters rounds source course = some step)
    (led : Leads engine.buffers start ((course.keeping source handles buffers).beside .nothing)) :
    Lodged engine.buffers start handles buffers step.ended :=
  (copyEarly_path engine retries counters rounds source course step ended).lodged whole led

/-- The pump moves bytes through the borrowed buffer and keeps it. -/
theorem leads_pump {rounds : Nat} {buffer : Buffer} {source : Source ρ} {course : Course σ depth}
    {pumped : Pumped ρ σ depth}
    (ended : pump retries counters rounds buffer source course = some pumped) :
    Leads allocator ((course.keeping source handles buffers).beside (.buffer buffer))
      ((pumped.course.keeping pumped.source handles buffers).beside (.buffer pumped.buffer)) := by
  induction rounds generalizing buffer source course with
  | zero => cases ended
  | succ rounds ih =>
    rw [pump] at ended
    split at ended
    · cases ended
    · rename_i filled fill
      obtain ⟨stays, read⟩ := Buffer.leads_fillOnce allocator fill (.buffer buffer)
        (course.sink.sink.handles + handles) (course.sink.sink.stocks + buffers)
      have filling : Leads allocator
          ((course.keeping source handles buffers).beside (.buffer buffer))
          (((course.inWorld filled.world).keeping filled.source handles buffers).beside
            (.buffer filled.buffer)) :=
        read.trans (.step (.fill ((Buffer.Stays.reset buffer).trans stays)))
      dsimp only at ended
      split at ended
      · cases ended
        exact filling
      · cases ended
        exact filling
      · obtain ⟨drains, wrote⟩ : _ ∧ Leads allocator
            (((course.inWorld filled.world).keeping filled.source handles buffers).beside
              (.buffer filled.buffer)) _ :=
          (course.inWorld filled.world).leads_drain counters.write filled.buffer
        have draining := (filling.trans wrote).trans (.step (.fill drains))
        split at ended
        · cases ended
          exact draining
        · exact draining.trans (ih ended :)

theorem leads_copyBuffered {allowance : Allowance} {source : Source ρ} {course : Course σ depth}
    {step : CopyStep σ depth Unit}
    (ended : engine.copyBuffered allowance counters source course = some step) :
    Leads engine.buffers ((course.keeping source handles buffers).beside .nothing)
      ((step.after.sink.sink.keeping handles buffers step.after.world).beside .nothing) := by
  simp only [copyBuffered, Allocator.huge, Option.map_eq_some_iff] at ended
  obtain ⟨pumped, pumping, rfl⟩ := ended
  have borrowed : Leads engine.buffers
      ((course.keeping source handles buffers).beside .nothing)
      (((course.inWorld _).keeping source handles buffers).beside (.buffer _)) :=
    .step (.borrow engine.buffers.hugeSize)
  exact ((borrowed.trans (leads_pump pumping)).trans (.step (.giveBack _))).trans
    (Source.leads_drop _ _ _ _ _)

theorem leads_copyPure {allowance : Allowance} {source : Source ρ} {course : Course σ depth}
    {step : CopyStep σ depth Unit}
    (ended : engine.copyPure allowance counters source course = some step) :
    Leads engine.buffers ((course.keeping source handles buffers).beside .nothing)
      ((step.after.sink.sink.keeping handles buffers step.after.world).beside .nothing) := by
  unfold copyPure at ended
  split at ended
  · split at ended
    · cases ended
    · rename_i spliced splicing
      obtain ⟨⟨pools, cells, _⟩, _⟩ := spliceCopy_advances splicing
      have moved : Leads engine.buffers
          ((course.keeping source handles buffers).beside .nothing)
          (((⟨course.sink, spliced.copied, spliced.world⟩ : Course σ depth).keeping source handles
            buffers).beside .nothing) := .step (.elsewhere pools cells)
      dsimp only at ended
      split at ended
      · cases ended
        exact moved.trans (Source.leads_drop _ _ _ _ _)
      · cases ended
        exact moved.trans (Source.leads_drop _ _ _ _ _)
      · exact moved.trans (leads_copyBuffered ended)
  · exact leads_copyBuffered ended

omit [ReadPeer ρ] [WritePeer σ] in
theorem leads_end (course : Course σ depth) (notice : Notice) :
    Leads allocator ((course.sink.sink.keeping handles buffers course.world).beside .nothing)
      (Estate.beside ⟨course.sink.sink.drop (course.world.notice notice), handles, buffers⟩
        .nothing) := by
  have noted : Leads allocator
      ((course.sink.sink.keeping handles buffers course.world).beside .nothing)
      ((course.sink.sink.keeping handles buffers (course.world.notice notice)).beside .nothing) :=
    .step (.elsewhere rfl rfl)
  exact noted.trans (Sink.leads_drop _ _ _ _ _)

theorem leads_copyCounted {allowance : Allowance} {sink : Sink σ depth} {source : Source ρ}
    {world : World} {outcome : CopyOutcome} (whole : start.Whole)
    (led : Leads engine.buffers start
      (((⟨.fresh sink, 0, world⟩ : Course σ depth).keeping source handles buffers).beside
        .nothing))
    (ended : engine.copyCounted allowance sink source counters world = some outcome) :
    Leads engine.buffers start (Estate.beside ⟨outcome.world, handles, buffers⟩ .nothing) := by
  unfold copyCounted at ended
  split at ended
  · cases ended
  · rename_i fault course early
    cases ended
    have failed := copyEarly_lodged whole early led
    exact Leads.trans failed (leads_end course _)
  · rename_i middle course early
    have finished : Leads engine.buffers start
        ((course.keeping middle handles buffers).beside .nothing) :=
      copyEarly_lodged whole early led
    have noticed := finished.trans
      (course.leads_notice (.phase Stage.copyEarly course.copied))
    have bare : ∀ course : Course σ depth, course.keeping middle.uncounted.1 handles buffers =
        course.keeping middle handles buffers := by
      intro course
      rw [Course.keeping, Source.keeping, Source.handles_uncounted, Source.stocks_uncounted]
      rfl
    rw [← bare] at noticed
    dsimp only at ended
    split at ended
    · cases ended
    · rename_i result last bulk
      have moved := noticed.trans (leads_copyPure bulk)
      split at ended <;> cases ended
      · exact moved.trans (leads_end last _)
      · exact moved.trans (leads_end last _)

end Engine

end Conduit
