import Conduit.Proofs.Engine.Keeping
import Conduit.Proofs.Sink.Descriptor
import Conduit.Proofs.Sink.Landing
import Conduit.Proofs.Source.Piped
import Conduit.Proofs.Splice.Obliging

set_option autoImplicit false

namespace Conduit

namespace Engine

variable {ρ σ : Type} [ReadPeer ρ] [WritePeer σ] {engine : Engine} {counters : CounterSet}
  {input output : Fd} {last : Nat}

open Stand (Moves Sound)
open Watched (Fills keeps_fills)

/-- A copy under way between two descriptors in a kernel that obliges. -/
structure Conveying (input output : Fd) (last : Nat) (source : Source ρ) (course : Course σ 0) :
    Prop where
  source : source.Piped input
  sink : course.sink.sink = .descriptor output
  obliges : course.world.kernel.Obliges input output last

/-- What moving all of a source into a descriptor comes to: `counters` are called for each byte, and
the counters in the source for what lies beneath them. -/
structure Conveys (counters : CounterSet) (output : Fd) (source : Source ρ)
    (course later : Course σ 0) : Prop where
  copied : later.copied = course.copied + (source.stock course.world.stores).length
  received : later.world.kernel.received output =
    course.world.kernel.received output ++ source.stock course.world.stores
  conduct : (later.world.kernel.descriptors.get output).conduct =
    (course.world.kernel.descriptors.get output).conduct
  tally : ∀ counter, later.world.tally counter = course.world.tally counter +
    (counters.read.count counter + counters.write.count counter) *
      (source.stock course.world.stores).length + source.due counter course.world.stores

section

variable {source middle rest : Source ρ} {course between later : Course σ 0} {given : Bytes}

omit [ReadPeer ρ] in
theorem Conveying.sound (conveying : Conveying input output last source course)
    (transit : Bytes) : Sound ⟨source, transit, course⟩ where
  modest := by
    rw [conveying.sink]
    exact fun _ absurd => nomatch absurd
  apart := by
    rw [conveying.sink]
    exact fun _ absurd => nomatch absurd

omit [ReadPeer ρ] [WritePeer σ] in
theorem Conveying.onward (conveying : Conveying input output last source course)
    (piped : rest.Piped input)
    (fills : Fills output course.sink course.world later.sink later.world) :
    Conveying input output last rest later :=
  ⟨piped, fills.sink, conveying.obliges.continues fills.continues⟩

/-- The start of a copy leaves the rest of the source to be moved. The counting layers on the rest
are taken off, and the copy calls their counters from then on. -/
theorem Conveys.after (sink : course.sink.sink = .descriptor output)
    (front : Moves counters ⟨source, [], course⟩ given [] ⟨middle, [], between⟩)
    (fills : Fills output course.sink course.world between.sink between.world)
    (back : Conveys ⟨middle.uncounted.2 ++ counters.read, counters.write⟩ output
      middle.uncounted.1 between later) :
    Conveys counters output source course later := by
  have flow : source.stock course.world.stores = given ++ middle.stock between.world.stores := by
    have whole := front.flow
    simpa only [Stand.ready, List.nil_append, List.append_nil] using whole
  have lengths := congrArg List.length flow
  rw [List.length_append] at lengths
  have calls : between.world.kernel.received output =
      course.world.kernel.received output ++ given := by
    obtain ⟨more, grown, taken⟩ := fills.received
    obtain ⟨others, regrown, gave⟩ := front.calls
    have same : more = others := List.append_cancel_left (grown.symm.trans regrown)
    rw [taken, same, gave]
  constructor
  case copied =>
    have copied := front.copied
    dsimp only at copied
    rw [back.copied, copied, Source.stock_uncounted, lengths, Nat.add_assoc]
  case received =>
    rw [back.received, calls, Source.stock_uncounted, flow, List.append_assoc]
  case conduct => exact back.conduct.trans (fills.continues.conduct output)
  case tally =>
    intro counter
    have outside : counter ∉ course.sink.sink.counters := by
      rw [sink]
      exact List.not_mem_nil
    obtain ⟨own, settled, called⟩ := front.books counter outside
    have due := middle.due_uncounted counter between.world.stores
    dsimp only [List.length_nil] at settled called
    rw [back.tally, Source.stock_uncounted, lengths]
    simp only [List.count_append, Nat.mul_zero, Nat.add_zero, Nat.add_mul, Nat.mul_add]
      at settled called due ⊢
    omega

omit [ReadPeer ρ] [WritePeer σ] in
/-- Nothing has to be done where nothing is left in the source. -/
theorem Conveys.of_empty (empty : source.stock course.world.stores = []) :
    Conveys counters output source course course := by
  refine ⟨?_, ?_, rfl, fun counter => ?_⟩
  · rw [empty]
    rfl
  · rw [empty, List.append_nil]
  · rw [empty, Source.due_of_stock_eq_nil counter _ _ empty]
    rfl

/-- A ledger that balances with nothing left in the source. -/
theorem Conveys.of_moves (sink : course.sink.sink = .descriptor output)
    (moves : Moves counters ⟨source, [], course⟩ given [] ⟨rest, [], later⟩)
    (fills : Fills output course.sink course.world later.sink later.world)
    (ended : rest.stock later.world.stores = []) :
    Conveys counters output source course later :=
  .after sink moves fills (.of_empty ((rest.stock_uncounted _).trans ended))

omit [ReadPeer ρ] [WritePeer σ] in
/-- A splice that delivered all that it took leaves the rest of the source to be moved. -/
theorem Conveys.after_splice {world : World} {bytes : Bytes}
    (splices : World.Splices input output counters bytes bytes course.world world)
    (back : Conveys counters output (.descriptor input : Source ρ)
      ⟨course.sink, course.copied + bytes.length, world⟩ later) :
    Conveys counters output (.descriptor input : Source ρ) course later := by
  have flow : (Source.descriptor input : Source ρ).stock course.world.stores =
      bytes ++ (Source.descriptor input : Source ρ).stock world.stores := by
    have moved := splices.kernel.incoming input
    rwa [if_pos rfl] at moved
  have lengths := congrArg List.length flow
  have received := splices.kernel.received output
  rw [if_pos rfl] at received
  rw [List.length_append] at lengths
  refine ⟨?_, ?_, back.conduct.trans (splices.kernel.conduct output), fun counter => ?_⟩
  · rw [back.copied, lengths, Nat.add_assoc]
  · rw [back.received, received, flow, List.append_assoc]
  · rw [back.tally, splices.tally, lengths, Nat.mul_add, ← Nat.add_assoc]
    rfl

omit [ReadPeer ρ] [WritePeer σ] in
/-- Ends and buffers are let go, and notices given. -/
theorem Conveys.follows {after : Course σ 0} (conveys : Conveys counters output source course later)
    (copied : after.copied = later.copied)
    (elsewhere : World.Elsewhere later.world after.world)
    (tally : ∀ counter, after.world.tally counter = later.world.tally counter) :
    Conveys counters output source course after where
  copied := copied.trans conveys.copied
  received := (elsewhere.received output).trans conveys.received
  conduct := (elsewhere.conduct output).trans conveys.conduct
  tally := fun counter => (tally counter).trans (conveys.tally counter)

end

variable (engine counters)

/-- The early phase writes the cached buffers out that lie in front. -/
theorem copyEarly_conveys (retries rounds : Nat) (source : Source ρ) (course : Course σ 0)
    (conveying : Conveying input output last source course)
    (enough : source.handles.length < rounds) :
    ∃ middle between given,
      engine.copyEarly retries counters rounds source course = some ⟨.ok middle, between⟩ ∧
        middle.Piped input ∧
        Moves counters ⟨source, [], course⟩ given [] ⟨middle, [], between⟩ := by
  induction rounds generalizing source course with
  | zero => exact absurd enough (Nat.not_lt_zero _)
  | succ rounds ih =>
    have asked : course.sink.handshake? = none := by
      rw [Watched.handshake?, conveying.sink]
      rfl
    have beneath := conveying.source.putBack_pick
    have handles := (Source.alike_pick source).handles
    have start := Fills.refl conveying.sink course.world
    simp only [copyEarly, handshakeRound, asked, Bool.false_and, Bool.false_eq_true, if_false]
    cases picked : source.pick with
    | mk rest cached =>
      have pick := pick_moves counters (conveying.sound []) picked
      rw [picked] at beneath handles
      cases cached with
      | none => exact ⟨rest, course, [], rfl, beneath, pick⟩
      | some handle =>
        have fewer : rest.handles.length < rounds := by
          rw [← handles] at enough
          exact Nat.lt_of_succ_lt_succ enough
        cases empty : (course.world.shared handle).isEmpty with
        | true =>
          have releases := pick.trans (release_moves counters pick.sound empty)
          have released := start.elsewhere (World.elsewhere_release course.world handle)
          obtain ⟨middle, between, given, ended, piped, moves⟩ :=
            ih rest (course.inWorld (course.world.release handle))
              (conveying.onward beneath.2 released) fewer
          simp only [empty, if_true]
          exact ⟨middle, between, _, ended, piped, releases.trans moves⟩
        | false =>
          have replays := replay_moves counters handle rest course pick.sound empty
          have result : (replay handle counters course).result = .ok () := by
            obtain ⟨total, drained⟩ := Watched.drain_descriptor []
              (List.isEmpty_eq_false_iff.mp empty) conveying.sink conveying.obliges
            rw [replay, drained]
          obtain ⟨written, moves, -, emptied⟩ := replays
          have releases := (pick.trans moves).trans
            (release_moves counters moves.sound (List.isEmpty_iff.mpr (emptied result)))
          have released := (replay_kept keeps_fills counters
            (pick.sound.aside handle List.mem_cons_self) start).elsewhere
              (World.elsewhere_release _ handle)
          obtain ⟨middle, between, given, ended, piped, moves⟩ :=
            ih rest ((replay handle counters course).after.inWorld
                ((replay handle counters course).after.world.release handle))
              (conveying.onward beneath.2 released) fewer
          simp only [empty, Bool.false_eq_true, if_false, result]
          exact ⟨middle, between, _, ended, piped, releases.trans moves⟩

theorem pump_conveys (retries rounds : Nat) (buffer : Buffer) (source : Source ρ)
    (course : Course σ 0) (room : 0 < buffer.size)
    (conveying : Conveying input output last source course) (patient : last ≤ retries)
    (enough : (source.stock course.world.stores).length < rounds) :
    ∃ pumped given, pump retries counters rounds buffer source course = some pumped ∧
      pumped.result = .ok () ∧ pumped.source.stock pumped.course.world.stores = [] ∧
      Moves counters ⟨source, [], course⟩ given [] ⟨pumped.source, [], pumped.course⟩ := by
  induction rounds generalizing buffer source course with
  | zero => exact absurd enough (Nat.not_lt_zero _)
  | succ rounds ih =>
    obtain ⟨filled, count, fill, result, piped, heard⟩ := Buffer.fillOnce_piped counters.read
      buffer.reset room conveying.source conveying.obliges patient
    obtain ⟨bytes, gained, after, fetches⟩ := Buffer.fillOnce_fetches rfl fill
    have counted : count = bytes.length := fetches.ok count result
    -- No live reader was asked.
    have silent : gained = [] := by
      have told := fetches.draws.heard
      rw [fetches.world, World.obtained_count, told] at heard
      simpa using heard
    subst silent
    have out := Moves.out counters (conveying.sound []) fetches.draws
    rw [← fetches.world, List.nil_append] at out
    have start := Fills.refl conveying.sink course.world
    have filling := start.elsewhere (Buffer.elsewhere_fillOnce fill)
    rw [pump, fill]
    dsimp only
    rw [result]
    cases count with
    | zero =>
      have none : bytes = [] := List.length_eq_zero_iff.mp counted.symm
      subst none
      have ended := fetches.ended conveying.source.orderly result
      refine ⟨_, _, rfl, rfl, ?_, out⟩
      rw [Course.inWorld, fetches.world, World.stores_count]
      exact ended.1
    | succ less =>
      have some : filled.buffer.unread ≠ [] := by
        rw [fetches.unread]
        exact fun none => by simp [none] at counted
      rw [← fetches.unread] at out
      obtain ⟨given, moves, order, emptied, -⟩ := drain_moves counters filled.buffer
        filled.source (course.inWorld filled.world) some out.sound
      obtain ⟨total, drained⟩ := Watched.drain_descriptor counters.write some conveying.sink
        (conveying.obliges.continues filling.continues)
      have draining := keeps_fills.drain counters.write filled.buffer filling
      have size := Buffer.drain_size Watched.write counters.write filled.buffer course.sink
        filled.world
      dsimp only [Course.inWorld] at moves emptied order ⊢
      generalize filled.buffer.drain Watched.write counters.write course.sink filled.world =
        drain at *
      rw [emptied total drained] at moves order
      have so_far := out.trans moves
      have fewer := congrArg List.length so_far.flow
      have first := congrArg List.length (fetches.unread.symm.trans order)
      simp only [Stand.ready, List.nil_append, List.append_nil, List.length_append] at fewer first
      rw [drained]
      obtain ⟨pumped, further, ended, success, dry, on⟩ := ih drain.buffer filled.source
        ⟨drain.sink, course.copied + drain.reported, drain.world⟩
        (by rw [size, fetches.size]; exact room) (conveying.onward piped draining)
        (by dsimp only; omega)
      exact ⟨pumped, _, ended, success, dry, so_far.trans on⟩

variable {engine} (room : 0 < engine.buffers.hugeSize)

include room

/-- The bulk of a copy through a buffer with room. -/
theorem copyBuffered_conveys (allowance : Allowance) (source : Source ρ) (course : Course σ 0)
    (conveying : Conveying input output last source course) (patient : last ≤ allowance.retries)
    (enough : (source.stock course.world.stores).length < allowance.rounds) :
    ∃ step, engine.copyBuffered allowance counters source course = some step ∧
      step.result = .ok () ∧ Conveys counters output source course step.after := by
  obtain ⟨-, size, -, unmoved⟩ := engine.buffers.alloc_blank engine.buffers.hugeSize course.world
  have start := Fills.refl conveying.sink course.world
  have allocating := start.elsewhere
    (World.elsewhere_alloc course.world engine.buffers engine.buffers.hugeSize)
  have still := Moves.within counters (conveying.sound []) (.still source unmoved)
  simp only [copyBuffered, Allocator.huge]
  generalize engine.buffers.alloc engine.buffers.hugeSize course.world = alloc at *
  obtain ⟨pumped, given, ended, success, dry, moves⟩ := pump_conveys counters allowance.retries
    allowance.rounds alloc.1 source (course.inWorld alloc.2) (by rw [size]; exact room)
    (conveying.onward conveying.source allocating) patient
    (by rw [Course.inWorld, unmoved.stores]; exact enough)
  have pumping := pump_kept keeps_fills allowance.rounds alloc.1 source still.sound ended
    allocating
  rw [ended]
  refine ⟨_, rfl, success, (Conveys.of_moves conveying.sink (still.trans moves) pumping
    dry).follows rfl ?_ ?_⟩
  · exact (World.elsewhere_dropBuffer _ _).trans (pumped.source.elsewhere_drop _)
  · exact fun counter => World.tally_of_journal_eq
      ((Source.journal_drop _ _).trans (World.journal_dropBuffer _ _)) counter

/-- The bulk of a copy, whether it splices or not, and wherever splicing is given up. -/
theorem copyPure_conveys (allowance : Allowance) (source : Source ρ) (course : Course σ 0)
    (conveying : Conveying input output last source course) (idle : course.world.PipesIdle)
    (patient : last ≤ allowance.retries)
    (enough : (source.stock course.world.stores).length + last + 2 < allowance.rounds) :
    ∃ step, engine.copyPure allowance counters source course = some step ∧
      step.result = .ok () ∧ Conveys counters output source course step.after := by
  unfold copyPure
  split
  · rename_i fd far enabled found other
    obtain ⟨rfl, rfl⟩ := conveying.source.descriptor_eq found
    rw [conveying.sink] at other
    cases other
    have patience : (course.world.kernel.incoming fd).length +
        (last - course.world.kernel.calls) + 2 < allowance.rounds := by
      have stock : (Source.descriptor fd : Source ρ).stock course.world.stores =
          course.world.kernel.incoming fd := rfl
      rw [stock] at enough
      omega
    obtain ⟨spliced, delivered, later, ended⟩ := spliceCopy_succeeds allowance.rounds
      engine.pipes counters engine.maxChunk course.copied idle conveying.obliges patience
    obtain ⟨drawn, given, balances⟩ := spliceCopy_balances idle ended
    have whole : given = drawn := balances.whole spliced rfl
    subst whole
    have copied : delivered = course.copied + given.length := balances.copied
    subst copied
    rw [ended]
    cases spliced with
    | done =>
      exact ⟨_, rfl, rfl, .after_splice balances.world (.of_empty (balances.ended rfl))⟩
    | notHandled =>
      have on := balances.world.kernel.continues
      have fewer : (course.world.kernel.incoming fd).length =
          given.length + (later.kernel.incoming fd).length := by
        have lengths := congrArg List.length (balances.world.kernel.incoming fd)
        rwa [if_pos rfl, List.length_append] at lengths
      have left : ((Source.descriptor fd : Source ρ).stock later.stores).length <
          allowance.rounds := by
        show (later.kernel.incoming fd).length < allowance.rounds
        omega
      obtain ⟨step, bulk, success, conveys⟩ := copyBuffered_conveys counters room allowance
        (.descriptor fd : Source ρ) ⟨course.sink, course.copied + given.length, later⟩
        ⟨rfl, conveying.sink, conveying.obliges.continues on⟩ patient left
      exact ⟨step, bulk, success, .after_splice balances.world conveys⟩
  · exact copyBuffered_conveys counters room allowance source course conveying patient (by omega)

/-- What a copy comes to that moved all of its source into a descriptor. -/
structure Completes (counters : CounterSet) (output : Fd) (source : Source ρ) (world : World)
    (outcome : CopyOutcome) : Prop where
  result : outcome.result = .ok (source.stock world.stores).length
  received : outcome.world.kernel.received output =
    world.kernel.received output ++ source.stock world.stores
  conduct : (outcome.world.kernel.descriptors.get output).conduct =
    (world.kernel.descriptors.get output).conduct
  tally : ∀ counter, outcome.world.tally counter = world.tally counter +
    (counters.read.count counter + counters.write.count counter) *
      (source.stock world.stores).length + source.due counter world.stores

theorem copyCounted_completes (allowance : Allowance) (source : Source ρ) (world : World)
    (piped : source.Piped input) (idle : world.PipesIdle)
    (obliges : world.kernel.Obliges input output last) (patient : last ≤ allowance.retries)
    (enough : (source.stock world.stores).length + source.handles.length + last + 2 <
      allowance.rounds) :
    ∃ outcome, engine.copyCounted allowance (.descriptor output : Sink σ 0) source counters world =
        some outcome ∧ Completes counters output source world outcome := by
  have conveying : Conveying input output last source
      (⟨.fresh (.descriptor output), 0, world⟩ : Course σ 0) := ⟨piped, rfl, obliges⟩
  obtain ⟨middle, between, given, early, passed, front⟩ := copyEarly_conveys engine counters
    allowance.retries allowance.rounds source _ conveying (by omega)
  have fills := copyEarly_kept keeps_fills allowance.rounds source (conveying.sound []) early
    (Fills.refl rfl world)
  -- The notice between the phases.
  let noticed := between.inWorld (between.world.notice (.phase Stage.copyEarly between.copied))
  have filling : Fills output (.fresh (.descriptor output)) world noticed.sink noticed.world :=
    fills.elsewhere (World.elsewhere_notice _ _)
  have front := front.trans (Moves.within counters front.sound (.still middle
    (World.unmoved_notice between.world (.phase Stage.copyEarly between.copied))))
  have clean : noticed.world.PipesIdle := by
    refine idle.frame filling.pipePools (fun _ pipe _ => ?_) (Nat.le_of_eq (by rw [filling.pipes]))
    rw [Kernel.held, Kernel.held, filling.pipes]
  have left : (middle.uncounted.1.stock noticed.world.stores).length ≤
      (source.stock world.stores).length := by
    have lengths := congrArg List.length front.flow
    simp only [Stand.ready, List.nil_append, List.append_nil, List.length_append] at lengths
    rw [Source.stock_uncounted]
    exact lengths ▸ Nat.le_add_left _ _
  obtain ⟨⟨result, later⟩, bulk, success, back⟩ := copyPure_conveys
    ⟨middle.uncounted.2 ++ counters.read, counters.write⟩ room allowance middle.uncounted.1 noticed
    (conveying.onward passed.uncounted filling) clean patient (by omega)
  cases success
  have whole : Conveys counters output source ⟨.fresh (.descriptor output), 0, world⟩ later :=
    .after rfl front filling back
  let done := later.world.notice (.phase Stage.copyPure (later.copied - between.copied))
  have finished : Conveys counters output source ⟨.fresh (.descriptor output), 0, world⟩
      (later.inWorld (later.sink.sink.drop done)) := by
    refine whole.follows rfl ((World.elsewhere_notice _ _).trans (Sink.elsewhere_drop _ _)) ?_
    intro counter
    exact (World.tally_of_journal_eq (Sink.journal_drop _ _) counter).trans
      (World.tally_notice _ _ counter)
  refine ⟨⟨.ok later.copied, later.sink.sink.drop done, later.sink.calls⟩, ?_, ?_,
    finished.received, finished.conduct, finished.tally⟩
  · rw [copyCounted, early]
    dsimp only
    rw [bulk]
  · rw [whole.copied, Nat.zero_add]

end Engine

end Conduit
