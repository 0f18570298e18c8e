import Conduit.Proofs.Engine.CopyLedger
import Conduit.Proofs.Engine.EarlyPath
import Conduit.Proofs.Sink.Landing
import Conduit.Proofs.Transfer.Draining

set_option autoImplicit false

namespace Conduit

open World (Elsewhere)

namespace Sink.Spared

variable {ρ σ : Type} {depth : Nat} {sink : Sink σ depth}

/-- A source that has no buffer of the sink is let go. -/
theorem drop (source : Source ρ) (outside : ∀ handle ∈ source.handles, handle ∉ sink.handles)
    (world : World) : sink.Spared world (source.drop world) := by
  induction source with
  | peer | descriptor => exact .of_stores_eq (.refl world) rfl
  | buffer stock => exact dropBuffer world stock
  | cached layer deferred inner ih =>
    cases layer with
    | none => exact ih outside
    | some handle =>
      have beneath := ih fun other member => outside other (List.mem_cons_of_mem handle member)
      exact beneath.trans (release (outside handle List.mem_cons_self) _)
  | counted counters total inner ih => exact ih outside
  | plain inner ih => exact ih outside

theorem alloc (allocator : Allocator) (size : Nat) (world : World) :
    sink.Spared world (allocator.alloc size world).2 :=
  .of_stores_eq (world.elsewhere_alloc allocator size)
    (allocator.alloc_blank size world).2.2.2.stores

theorem of_draws [ReadPeer ρ] {source later : Source ρ} {world after : World}
    {bytes gained : Bytes} (draws : source.Draws world bytes gained later after)
    (elsewhere : Elsewhere world after)
    (apart : ∀ handle ∈ sink.handles, handle ∉ source.handles ∧ handle < world.cells.next) :
    sink.Spared world after :=
  ⟨elsewhere, fun handle inside =>
    draws.held handle (apart handle inside).1 (apart handle inside).2⟩

end Sink.Spared

namespace Watched

variable {σ : Type} [WritePeer σ] {depth : Nat}

/-- Every call of a destination keeps this, and so does all that leaves its bytes alone. -/
structure Keeps (Kept : Watched σ depth → World → Prop) : Prop where
  write : ∀ {watched world} bytes, Kept watched world →
    Kept (watched.write bytes world).after (watched.write bytes world).world
  greet : ∀ {watched world}, Kept watched world →
    Kept (watched.greet world).after (watched.greet world).world
  feed : ∀ {watched world} bytes, Kept watched world →
    Kept (watched.feed bytes world).after (watched.feed bytes world).world
  spared : ∀ {watched world later}, Kept watched world → watched.sink.Spared world later →
    Kept watched later

variable {Kept : Watched σ depth → World → Prop}

theorem Keeps.drain (keeps : Keeps Kept) (counters : List Counter) (buffer : Buffer)
    {watched : Watched σ depth} {world : World} (kept : Kept watched world) :
    Kept (buffer.drain Watched.write counters watched world).sink
      (buffer.drain Watched.write counters watched world).world := by
  by_cases empty : buffer.unread = []
  · rw [Buffer.drain_of_empty _ _ _ _ empty]
    exact kept
  · have rule : Buffer.DrainRule Watched.write counters fun _ _ _ sink now => Kept sink now := by
      refine .steady ?_ ?_
      · intro left _ sink now taken kept _ _
        exact keeps.spared (keeps.write left kept) (.count _ counters taken)
      · exact fun {left _ _ _ _} kept _ _ => keeps.write left kept
    obtain ⟨_, later⟩ := (rule.drain buffer watched world empty kept).holds
    exact later

theorem Keeps.and {Other : Watched σ depth → World → Prop} (keeps : Keeps Kept)
    (others : Keeps Other) :
    Keeps fun watched world => Kept watched world ∧ Other watched world where
  write := fun bytes kept => ⟨keeps.write bytes kept.1, others.write bytes kept.2⟩
  greet := fun kept => ⟨keeps.greet kept.1, others.greet kept.2⟩
  feed := fun bytes kept => ⟨keeps.feed bytes kept.1, others.feed bytes kept.2⟩
  spared := fun kept spared => ⟨keeps.spared kept.1 spared, others.spared kept.2 spared⟩

theorem keeps_handles (handles : List SharedId) :
    Keeps fun (watched : Watched σ depth) _ => watched.sink.handles = handles where
  write := fun {watched world} bytes kept =>
    (Sink.write_takes depth watched.sink bytes world).becomes.handles.trans kept
  greet := fun {watched world} kept => (Sink.greet_becomes watched.sink world).handles.trans kept
  feed := fun {watched world} bytes kept =>
    (Sink.feed_becomes watched.sink bytes world).handles.trans kept
  spared := fun kept _ => kept

end Watched

namespace Engine

variable {ρ σ : Type} [ReadPeer ρ] [WritePeer σ] {depth : Nat} {engine : Engine} {retries : Nat}
  {counters : CounterSet} {Kept : Watched σ depth → World → Prop}

theorem elsewhere_readGreeting {source rest : Source ρ} {world later : World}
    {result : Except TransferFault Buffer}
    (fetch : engine.readGreeting retries source world = some (result, rest, later)) :
    Elsewhere world later := by
  simp only [readGreeting, Allocator.standard, Option.map_eq_some_iff] at fetch
  obtain ⟨filled, ended, shape⟩ := fetch
  have before := (World.elsewhere_alloc world engine.buffers engine.buffers.standardSize).trans
    (Buffer.elsewhere_fillOnce ended)
  split at shape <;> cases shape
  · exact before.trans (World.elsewhere_dropBuffer _ _)
  · exact before
  · exact before.trans (World.elsewhere_dropBuffer _ _)

open Stand (Moves Sound)

section

variable (keeps : Watched.Keeps Kept)

include keeps

theorem offer_kept {handle : SharedId} (counters : CounterSet) {course : Course σ depth}
    (outside : handle ∉ course.sink.sink.handles) (kept : Kept course.sink course.world) :
    Kept (offer handle counters course).after.sink (offer handle counters course).after.world := by
  have fed := keeps.feed (course.world.shared handle).unread kept
  rw [← Watched.keeps_handles _ |>.feed (course.world.shared handle).unread rfl] at outside
  unfold offer
  dsimp only
  split
  · exact fed
  · split
    · exact fed
    · refine keeps.spared fed ?_
      exact ((Sink.Spared.notice _ _).trans (.setShared outside _ _)).trans
        (.countBoth _ counters _)

theorem replay_kept {handle : SharedId} (counters : CounterSet) {course : Course σ depth}
    (outside : handle ∉ course.sink.sink.handles) (kept : Kept course.sink course.world) :
    Kept (replay handle counters course).after.sink
      (replay handle counters course).after.world := by
  have drained := keeps.drain [] (course.world.shared handle) kept
  have same : ((course.world.shared handle).drain Watched.write [] course.sink
      course.world).sink.sink.handles = course.sink.sink.handles :=
    (Watched.keeps_handles _).drain [] (course.world.shared handle) rfl
  rw [← same] at outside
  have counted := fun (world : World) (buffer : Buffer) (bytes : Nat) =>
    (Sink.Spared.setShared outside world buffer).trans (.countBoth _ counters bytes)
  unfold replay
  dsimp only
  split
  · exact keeps.spared drained (counted _ _ _)
  · exact keeps.spared drained ((counted _ _ _).trans (.notice _ _))

theorem EarlyStep.kept {state next : EarlyState ρ σ depth}
    (step : EarlyStep engine retries counters state next) {source : Source ρ}
    (here : state.point.source? = some source) (sound : Sound ⟨source, [], state.course⟩)
    (kept : Kept state.course.sink state.course.world) :
    Kept next.course.sink next.course.world := by
  have aside := sound.aside
  cases step with
  | idle | bare | layer | uncached | cached => exact kept
  | greeted => exact keeps.greet kept
  | @ungreeted source course =>
    cases here
    have same : (Watched.greet course.sink course.world).after.sink.handles =
        course.sink.sink.handles := (Watched.keeps_handles _).greet rfl
    rw [← same] at aside
    exact keeps.spared (keeps.greet kept) (.drop source aside _)
  | stale _ picked | skipped picked =>
    cases here
    rw [Source.handles_pick_some picked] at aside
    exact keeps.spared kept (.release (aside _ List.mem_cons_self) _)
  | @fetched _ _ _ buffer _ fetch =>
    cases here
    obtain ⟨_, _, _, draws⟩ := readGreeting_ok fetch
    exact keeps.spared kept (.of_draws (draws.share buffer rfl)
      ((elsewhere_readGreeting fetch).trans (World.elsewhere_share _ buffer)) sound.apart)
  | @unfetched _ rest _ _ _ fetch =>
    cases here
    obtain ⟨_, draws⟩ := readGreeting_error fetch
    have left := (Moves.within counters sound draws).sound.aside
    exact keeps.spared kept
      ((Sink.Spared.of_draws draws (elsewhere_readGreeting fetch) sound.apart).trans
        (.drop rest left _))
  | @refused handle rest course =>
    cases here
    obtain ⟨_, offers, _⟩ := offer_moves counters handle rest course sound
    have left := offers.sound.aside
    exact keeps.spared (offer_kept keeps counters (aside _ List.mem_cons_self) kept)
      ((Sink.Spared.release (left _ List.mem_cons_self) _).trans
        (.drop rest (fun other member => left other (List.mem_cons_of_mem _ member)) _))
  | @took handle rest course | @sated handle rest course =>
    cases here
    obtain ⟨_, offers, _⟩ := offer_moves counters handle rest course sound
    exact keeps.spared (offer_kept keeps counters (aside _ List.mem_cons_self) kept)
      (.release (offers.sound.aside _ List.mem_cons_self) _)
  | left =>
    cases here
    exact offer_kept keeps counters (aside _ List.mem_cons_self) kept
  | @replayed handle rest course filled =>
    cases here
    obtain ⟨_, replays, _⟩ := replay_moves counters handle rest course sound filled
    exact keeps.spared (replay_kept keeps counters (aside _ List.mem_cons_self) kept)
      (.release (replays.sound.aside _ List.mem_cons_self) _)
  | @unwritten handle rest course _ filled =>
    cases here
    obtain ⟨_, replays, _⟩ := replay_moves counters handle rest course sound filled
    have left := replays.sound.aside
    exact keeps.spared (replay_kept keeps counters (aside _ List.mem_cons_self) kept)
      ((Sink.Spared.release (left _ List.mem_cons_self) _).trans
        (.drop rest (fun other member => left other (List.mem_cons_of_mem _ member)) _))

theorem copyEarly_kept (rounds : Nat) (source : Source ρ) {course : Course σ depth}
    {step : CopyStep σ depth (Source ρ)} (sound : Sound ⟨source, [], course⟩)
    (ended : engine.copyEarly retries counters rounds source course = some step)
    (kept : Kept course.sink course.world) : Kept step.after.sink step.after.world := by
  have path := copyEarly_path engine retries counters rounds source course step ended
  let Inv (state : EarlyState ρ σ depth) : Prop :=
    EarlyBalanced counters ⟨source, [], course⟩ state ∧ Kept state.course.sink state.course.world
  have invariant : ∀ state next : EarlyState ρ σ depth, Inv state →
      EarlyStep engine retries counters state next → Inv next := by
    rintro state next ⟨balanced, kept⟩ taken
    refine ⟨taken.balanced balanced, ?_⟩
    obtain ⟨_, here⟩ := taken.source
    rw [EarlyBalanced, here] at balanced
    obtain ⟨_, _, moves⟩ := balanced
    exact taken.kept keeps here moves.sound kept
  rw [← CopyStep.course_ended step]
  exact (path.keeps invariant ⟨⟨[], [], .refl sound⟩, kept⟩).2

theorem pump_kept (rounds : Nat) (buffer : Buffer) (source : Source ρ) {course : Course σ depth}
    {pumped : Pumped ρ σ depth} (sound : Sound ⟨source, [], course⟩)
    (ended : pump retries counters rounds buffer source course = some pumped)
    (kept : Kept course.sink course.world) : Kept pumped.course.sink pumped.course.world := by
  induction rounds generalizing buffer source course with
  | zero => cases ended
  | succ rounds ih =>
    rw [pump] at ended
    split at ended
    · cases ended
    · rename_i filled fill
      obtain ⟨bytes, gained, after, fetches⟩ := Buffer.fillOnce_fetches rfl fill
      have out := Moves.out counters sound fetches.draws
      rw [← fetches.world] at out
      have filling : course.sink.sink.Spared course.world filled.world := by
        refine ⟨Buffer.elsewhere_fillOnce fill, fun handle inside => ?_⟩
        have apart := sound.apart handle inside
        rw [fetches.world, World.stores_count]
        exact fetches.draws.held handle apart.1 apart.2
      have before := keeps.spared kept filling
      dsimp only at ended
      split at ended
      · cases ended
        exact before
      · cases ended
        exact before
      · rename_i less came
        have drained := keeps.drain counters.write filled.buffer before
        split at ended
        · cases ended
          exact drained
        · have some : filled.buffer.unread ≠ [] := by
            intro none
            have count := fetches.ok _ came
            rw [← fetches.unread, none] at count
            cases count
          obtain ⟨_, moves, _⟩ := drain_moves counters filled.buffer filled.source
            (course.inWorld filled.world) some ⟨out.sound.modest, out.sound.apart⟩
          exact ih _ _ ⟨moves.sound.modest, moves.sound.apart⟩ ended drained

/-- The bulk of a copy through a buffer keeps it. -/
theorem copyBuffered_kept (allowance : Allowance) (source : Source ρ) {course : Course σ depth}
    {step : CopyStep σ depth Unit} (sound : Sound ⟨source, [], course⟩)
    (ended : engine.copyBuffered allowance counters source course = some step)
    (kept : Kept course.sink course.world) : Kept step.after.sink step.after.world := by
  obtain ⟨_, _, _, unmoved⟩ := engine.buffers.alloc_blank engine.buffers.hugeSize course.world
  have still := Moves.within counters sound (.still source unmoved)
  simp only [copyBuffered, Allocator.huge, Option.map_eq_some_iff] at ended
  obtain ⟨pumped, pumping, rfl⟩ := ended
  have before := keeps.spared kept (.alloc engine.buffers engine.buffers.hugeSize course.world)
  obtain ⟨_, _, _, balanced⟩ := pump_balanced _ _ _ _ _ _ still.sound _ pumping
  exact keeps.spared (pump_kept keeps _ _ _ still.sound pumping before)
    ((Sink.Spared.dropBuffer _ _).trans (.drop pumped.source balanced.moves.sound.aside _))

/-- A copy keeps it until the destination is let go, if it keeps the copy from splicing. -/
theorem copyCounted_kept
    (buffers : ∀ {watched world}, Kept watched world →
      engine.spliceEnabled = false ∨ watched.sink.descriptor? = none)
    (allowance : Allowance) (sink : Sink σ depth) (source : Source ρ) (world : World)
    {outcome : CopyOutcome}
    (sound : Sound (⟨source, [], .fresh sink, 0, world⟩ : Stand ρ σ depth))
    (ended : engine.copyCounted allowance sink source counters world = some outcome)
    (kept : Kept (.fresh sink) world) :
    ∃ watched before, Kept watched before ∧ outcome.calls = watched.calls ∧
      outcome.world = watched.sink.drop before := by
  unfold copyCounted at ended
  split at ended
  · cases ended
  · rename_i fault course early
    cases ended
    have early := copyEarly_kept keeps _ source sound early kept
    exact ⟨_, _, keeps.spared early (.notice _ _), rfl, rfl⟩
  · rename_i middle course early
    obtain ⟨_, _, front⟩ := copyEarly_balanced _ source _ sound _ early
    have early := copyEarly_kept keeps _ source sound early kept
    have noticed := keeps.spared early (.notice _ (.phase Stage.copyEarly course.copied))
    have between := (Moves.within counters front.sound (.still middle (World.unmoved_notice
      course.world (.phase Stage.copyEarly course.copied)))).sound.uncounted
    have buffered := copyPure_eq_copyBuffered allowance
      ⟨middle.uncounted.2 ++ counters.read, counters.write⟩ middle.uncounted.1
      (course.inWorld (course.world.notice (.phase Stage.copyEarly course.copied)))
      ((buffers noticed).imp_right .inr)
    dsimp only at ended
    rw [buffered] at ended
    split at ended
    · cases ended
    · rename_i result last bulk
      have late := copyBuffered_kept keeps allowance _ between bulk noticed
      split at ended <;> cases ended
      · exact ⟨_, _, keeps.spared late (.notice _ _), rfl, rfl⟩
      · exact ⟨_, _, keeps.spared late (.notice _ _), rfl, rfl⟩

end

end Engine

end Conduit
