import Conduit.Proofs.Engine.EarlyPath
import Conduit.Proofs.Engine.Ledger

set_option autoImplicit false

namespace Conduit

namespace Engine

variable {ρ σ : Type} [ReadPeer ρ] [WritePeer σ] {depth : Nat} {engine : Engine} {retries : Nat}
  {counters : CounterSet}

open Stand (Moves Sound)

/-- A course after which only its ends were let go. -/
structure Follows (course later : Course σ depth) : Prop where
  sink : later.sink = course.sink
  copied : later.copied = course.copied
  journal : later.world.journal = course.world.journal

def EarlyBalanced (counters : CounterSet) (first : Stand ρ σ depth)
    (state : EarlyState ρ σ depth) : Prop :=
  match state.point.source? with
  | some source => ∃ given gained, Moves counters first given gained ⟨source, [], state.course⟩
  | none => ∃ source course given gained,
      Moves counters first given gained ⟨source, [], course⟩ ∧ Follows course state.course

omit [ReadPeer ρ] in
/-- The bytes behind a handle are not touched by calls of a destination that has no part in them. -/
theorem held_gives {handle : SharedId} {rest : Source ρ} {course : Course σ depth}
    {given : Bytes} {sink : Watched σ depth} {world : World}
    (sound : Sound ⟨.cached (some handle) none rest, [], course⟩)
    (gives : course.sink.Gives course.world given sink world) :
    world.stores.held handle = course.world.stores.held handle :=
  gives.becomes.held handle fun inside => (sound.apart handle inside).1 List.mem_cons_self

theorem offer_moves (counters : CounterSet) (handle : SharedId) (rest : Source ρ)
    (course : Course σ depth) (sound : Sound ⟨.cached (some handle) none rest, [], course⟩) :
    ∃ given, Moves counters ⟨.cached (some handle) none rest, [], course⟩ given []
        ⟨.cached (some handle) none rest, [], (offer handle counters course).after⟩ ∧
      course.world.stores.held handle =
        given ++ (offer handle counters course).after.world.stores.held handle := by
  have gives := Watched.feed_gives course.sink course.world
    (course.world.shared handle).unread
  have untouched := held_gives sound gives
  unfold offer
  cases answer : (course.sink.feed (course.world.shared handle).unread course.world).answer with
  | error fault =>
    simp only [answer]
    rw [answer] at gives
    exact ⟨[], Moves.step counters sound gives (.still _ (World.Unmoved.refl _)) rfl,
      untouched.symm⟩
  | ok consumed =>
    simp only [answer]
    rw [answer] at gives
    by_cases greedy : (course.world.shared handle).unread.length < consumed
    · simp only [greedy, if_true]
      simp only [SinkCall.taken, if_neg (Nat.not_le_of_lt greedy)] at gives
      exact ⟨[], Moves.step counters sound gives (.still _ (World.Unmoved.refl _)) rfl,
        untouched.symm⟩
    · have fits : consumed ≤ (course.world.shared handle).unread.length := Nat.le_of_not_lt greedy
      have length := List.length_take_of_le fits
      simp only [greedy, if_false]
      simp only [SinkCall.taken, if_pos fits] at gives
      generalize course.sink.feed (course.world.shared handle).unread course.world = fed at *
      have noticed := Source.Draws.still (.cached (some handle) none rest)
        (World.unmoved_notice fed.world
          (.handshake (course.world.shared handle).unread.length consumed))
      have order : course.world.stores.held handle =
          (course.world.shared handle).unread.take consumed ++
            ((fed.world.shared handle).consume consumed).unread := by
        simp only [World.stores] at untouched ⊢
        simp only [Buffer.consume, untouched, List.take_append_drop]
      have consumes := Source.draws_consume handle rest
        (fed.world.notice (.handshake (course.world.shared handle).unread.length consumed))
        ((fed.world.shared handle).consume consumed) _ (untouched.trans order)
      have moves := Moves.step counters sound gives (noticed.trans consumes)
        (List.append_nil _).symm
      simp only [List.nil_append, length] at moves
      refine ⟨_, moves, order.trans (congrArg _ ?_)⟩
      exact (World.held_setShared _ handle _).symm

theorem replay_moves (counters : CounterSet) (handle : SharedId) (rest : Source ρ)
    (course : Course σ depth)
    (sound : Sound ⟨.cached (some handle) none rest, [], course⟩)
    (filled : (course.world.shared handle).isEmpty = false) :
    ∃ given, Moves counters ⟨.cached (some handle) none rest, [], course⟩ given []
        ⟨.cached (some handle) none rest, [], (replay handle counters course).after⟩ ∧
      course.world.stores.held handle =
        given ++ (replay handle counters course).after.world.stores.held handle ∧
      ((replay handle counters course).result = .ok () →
        (replay handle counters course).after.world.stores.held handle = []) := by
  have rule : Buffer.DrainRule Watched.write [] fun _ left reported sink world =>
      ∃ given, course.sink.Gives course.world given sink world ∧
        (course.world.shared handle).unread = given ++ left ∧ reported = given.length := by
    refine .steady ?_ ?_
    · rintro left reported sink world taken ⟨given, gives, order, sum⟩ _ answer
      have modest := gives.becomes.modest sound.modest
      obtain ⟨fits, wrote⟩ := Watched.write_gives sink world modest answer
      rw [World.count_nil]
      refine ⟨_, gives.trans wrote, ?_, ?_⟩
      · rw [List.append_assoc, List.take_append_drop, order]
      · rw [List.length_append, List.length_take_of_le fits, sum]
    · rintro left reported sink world fault ⟨given, gives, order, sum⟩ _ answer
      have wrote := (Watched.write_fails sink world answer).2
      refine ⟨_, gives.trans wrote, ?_, ?_⟩
      · rw [List.append_nil, order]
      · rw [List.append_nil, sum]
  -- The invariant holds however the drain ends; only where it ends well is nothing left.
  have ends := rule.drain (course.world.shared handle) course.sink course.world
    (by simpa [Buffer.isEmpty] using filled) ⟨[], .refl _ _, rfl, rfl⟩
  unfold replay
  generalize (course.world.shared handle).drain Watched.write [] course.sink course.world =
    drained at ends
  obtain ⟨_, given, gives, order, sum⟩ := ends.holds
  have consumes := Source.draws_consume handle rest drained.world drained.buffer given
    ((held_gives sound gives).trans order)
  have moves := Moves.step counters sound gives consumes (List.append_nil given).symm
  have left := World.held_setShared drained.world handle drained.buffer
  cases result : drained.result with
  | ok total =>
    have noticed := Moves.within counters moves.sound
      (.still _ (World.unmoved_notice _ (.replay drained.reported)))
    simp only [result, sum] at noticed ⊢
    refine ⟨_, moves.trans noticed, ?_, fun _ => left.trans (ends.ok result).1⟩
    rw [List.append_nil]
    exact order.trans (congrArg _ left.symm)
  | error fault =>
    simp only [result, sum]
    exact ⟨_, moves, order.trans (congrArg _ left.symm), by simp⟩

/-- A picked layer is still a layer of the source for the ledger. -/
theorem pick_moves (counters : CounterSet) {source rest : Source ρ} {course : Course σ depth}
    {found : Option SharedId} (sound : Sound ⟨source, [], course⟩)
    (picked : source.pick = (rest, found)) :
    Moves counters ⟨source, [], course⟩ [] [] ⟨Source.putBack (rest, found), [], course⟩ :=
  picked ▸ Moves.within counters sound ((Source.alike_pick source).draws course.world)

theorem release_moves (counters : CounterSet) {handle : SharedId} {rest : Source ρ}
    {course : Course σ depth}
    (sound : Sound ⟨.cached (some handle) none rest, [], course⟩)
    (empty : (course.world.shared handle).isEmpty = true) :
    Moves counters ⟨.cached (some handle) none rest, [], course⟩ [] []
      ⟨rest, [], course.inWorld (course.world.release handle)⟩ :=
  Moves.within counters sound
    (Source.draws_release handle rest course.world (List.isEmpty_iff.mp empty))

omit [ReadPeer ρ] [WritePeer σ] in
/-- Ends that are let go leave the sums as they are. -/
theorem follows_drop (course : Course σ depth) (source : Source ρ) :
    Follows course (course.inWorld (source.drop course.world)) :=
  ⟨rfl, rfl, Source.journal_drop source course.world⟩

omit [ReadPeer ρ] [WritePeer σ] in
/-- A layer and the rest of the source are let go. -/
theorem follows_release_drop (course : Course σ depth) (handle : SharedId) (rest : Source ρ) :
    Follows course (course.inWorld (rest.drop (course.world.release handle))) :=
  ⟨rfl, rfl, (Source.journal_drop rest _).trans (World.journal_release course.world handle)⟩

/-- A step of the early phase keeps the ledger balanced. -/
theorem EarlyStep.balanced {first : Stand ρ σ depth} {state next : EarlyState ρ σ depth}
    (step : EarlyStep engine retries counters state next)
    (balanced : EarlyBalanced counters first state) : EarlyBalanced counters first next := by
  cases step with
  | idle => exact balanced
  | @greeted source course pending success =>
    obtain ⟨given, gained, moves⟩ := balanced
    have gives := Watched.greet_gives course.sink course.world
    exact ⟨_, _, moves.trans
      (Moves.step counters moves.sound gives (.still source (World.Unmoved.refl _)) rfl)⟩
  | @ungreeted source course fault pending failed =>
    obtain ⟨given, gained, moves⟩ := balanced
    have gives := Watched.greet_gives course.sink course.world
    exact ⟨source, course.greeted, _, _, moves.trans
      (Moves.step counters moves.sound gives (.still source (World.Unmoved.refl _)) rfl),
      follows_drop course.greeted source⟩
  | @bare source rest course pending picked =>
    obtain ⟨given, gained, moves⟩ := balanced
    exact ⟨_, _, moves.trans (pick_moves counters moves.sound picked)⟩
  | @stale source rest course handle pending picked empty =>
    obtain ⟨given, gained, moves⟩ := balanced
    have pick := pick_moves counters moves.sound picked
    exact ⟨_, _, (moves.trans pick).trans (release_moves counters pick.sound empty)⟩
  | @layer source rest course handle pending picked filled =>
    obtain ⟨given, gained, moves⟩ := balanced
    exact ⟨_, _, moves.trans (pick_moves counters moves.sound picked)⟩
  | @fetched source rest course buffer world fetch =>
    obtain ⟨given, gained, moves⟩ := balanced
    obtain ⟨_, _, further, draws⟩ := readGreeting_ok fetch
    exact ⟨_, _, moves.trans (Moves.within counters moves.sound (draws.share buffer rfl))⟩
  | @unfetched source rest course fault world fetch =>
    obtain ⟨given, gained, moves⟩ := balanced
    obtain ⟨further, draws⟩ := readGreeting_error fetch
    exact ⟨rest, course.inWorld world, _, _, moves.trans (Moves.within counters moves.sound draws),
      follows_drop (course.inWorld world) rest⟩
  | @refused handle rest course fault filled failed =>
    obtain ⟨given, gained, moves⟩ := balanced
    obtain ⟨taken, offers, _⟩ := offer_moves counters handle rest course moves.sound
    exact ⟨_, _, _, _, moves.trans offers, follows_release_drop _ handle rest⟩
  | @took handle rest course filled success all pending =>
    obtain ⟨given, gained, moves⟩ := balanced
    obtain ⟨taken, offers, _⟩ := offer_moves counters handle rest course moves.sound
    exact ⟨_, _, (moves.trans offers).trans (release_moves counters offers.sound all)⟩
  | @sated handle rest course filled success all finished =>
    obtain ⟨given, gained, moves⟩ := balanced
    obtain ⟨taken, offers, _⟩ := offer_moves counters handle rest course moves.sound
    exact ⟨_, _, (moves.trans offers).trans (release_moves counters offers.sound all)⟩
  | @left handle rest course filled success some =>
    obtain ⟨given, gained, moves⟩ := balanced
    obtain ⟨taken, offers, _⟩ := offer_moves counters handle rest course moves.sound
    exact ⟨_, _, moves.trans offers⟩
  | @uncached source rest course picked =>
    obtain ⟨given, gained, moves⟩ := balanced
    exact ⟨_, _, moves.trans (pick_moves counters moves.sound picked)⟩
  | @skipped source rest course handle picked empty =>
    obtain ⟨given, gained, moves⟩ := balanced
    have pick := pick_moves counters moves.sound picked
    exact ⟨_, _, (moves.trans pick).trans (release_moves counters pick.sound empty)⟩
  | @cached source rest course handle picked filled =>
    obtain ⟨given, gained, moves⟩ := balanced
    exact ⟨_, _, moves.trans (pick_moves counters moves.sound picked)⟩
  | @replayed handle rest course filled success =>
    obtain ⟨given, gained, moves⟩ := balanced
    obtain ⟨written, replays, _, empty⟩ :=
      replay_moves counters handle rest course moves.sound filled
    exact ⟨_, _, (moves.trans replays).trans
      (release_moves counters replays.sound (List.isEmpty_iff.mpr (empty success)))⟩
  | @unwritten handle rest course fault filled failed =>
    obtain ⟨given, gained, moves⟩ := balanced
    obtain ⟨written, replays, _, _⟩ :=
      replay_moves counters handle rest course moves.sound filled
    exact ⟨_, _, _, _, moves.trans replays, follows_release_drop _ handle rest⟩

/-- The ledger balances wherever the early phase ends. -/
theorem copyEarly_balanced (rounds : Nat) (source : Source ρ) (course : Course σ depth)
    (sound : Sound ⟨source, [], course⟩) (step : CopyStep σ depth (Source ρ))
    (ended : engine.copyEarly retries counters rounds source course = some step) :
    EarlyBalanced counters ⟨source, [], course⟩ step.ended :=
  (copyEarly_path engine retries counters rounds source course step ended).keeps
    (fun _ _ balanced taken => taken.balanced balanced) ⟨[], [], .refl sound⟩

end Engine

end Conduit
