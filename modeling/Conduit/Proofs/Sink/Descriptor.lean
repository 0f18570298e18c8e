import Conduit.Proofs.Engine.Keeping
import Conduit.Proofs.World.Obliging

set_option autoImplicit false

namespace Conduit

theorem Kernel.pipes_write (kernel : Kernel) (fd : Fd) (bytes : Bytes) :
    (kernel.write fd bytes).2.pipes = kernel.pipes := by
  unfold write
  dsimp only
  split <;> rfl

namespace Watched

variable {σ : Type} [WritePeer σ] {output : Fd} {first watched : Watched σ 0} {start world : World}

/-- Since an earlier moment all that the calls of a destination took was written to a descriptor,
and pipes and pools of pipes were left alone. -/
structure Fills (output : Fd) (first : Watched σ 0) (start : World) (watched : Watched σ 0)
    (world : World) : Prop where
  sink : watched.sink = .descriptor output
  received : ∃ more, watched.calls = first.calls ++ more ∧
    world.kernel.received output =
      start.kernel.received output ++ more.flatMap SinkCall.taken
  continues : start.kernel.Continues world.kernel
  pipes : world.kernel.pipes = start.kernel.pipes
  pipePools : world.pipePools = start.pipePools

omit [WritePeer σ] in
theorem Fills.refl (sink : first.sink = .descriptor output) (start : World) :
    Fills output first start first start :=
  ⟨sink, ⟨[], (List.append_nil _).symm, (List.append_nil _).symm⟩, .refl _, rfl, rfl⟩

omit [WritePeer σ] in
theorem Fills.call (fills : Fills output first start watched world) {kernel : Kernel}
    (record : SinkCall)
    (received : kernel.received output = world.kernel.received output ++ record.taken)
    (continues : world.kernel.Continues kernel) (pipes : kernel.pipes = world.kernel.pipes) :
    Fills output first start (watched.answered (.descriptor output) record)
      { world with kernel } where
  sink := rfl
  received := by
    obtain ⟨more, grown, taken⟩ := fills.received
    refine ⟨more ++ [record], ?_, ?_⟩
    · rw [calls_answered, grown, List.append_assoc]
    · show kernel.received output = _
      rw [received, taken, List.flatMap_append, List.flatMap_singleton, List.append_assoc]
  continues := fills.continues.trans continues
  pipes := pipes.trans fills.pipes
  pipePools := fills.pipePools

theorem write_descriptor (sink : watched.sink = .descriptor output) (bytes : Bytes)
    (world : World) : watched.write bytes world =
      ⟨(world.kernel.write output bytes).1.mapError .system,
        watched.answered (.descriptor output)
          (.write none bytes ((world.kernel.write output bytes).1.mapError .system)),
        { world with kernel := (world.kernel.write output bytes).2 }⟩ := by
  rw [write, Watched.handshake?, sink]
  rfl

omit [WritePeer σ] in
theorem Fills.elsewhere {later : World} (fills : Fills output first start watched world)
    (elsewhere : World.Elsewhere world later) : Fills output first start watched later := by
  refine ⟨fills.sink, ?_, fills.continues.trans elsewhere.continues,
    elsewhere.pipes.trans fills.pipes, elsewhere.pipePools.trans fills.pipePools⟩
  obtain ⟨more, grown, taken⟩ := fills.received
  exact ⟨more, grown, (elsewhere.received output).trans taken⟩

/-- Every call of a descriptor keeps it, and so does whatever happens elsewhere. -/
theorem keeps_fills : Keeps (Fills output first start) where
  write := by
    intro watched world bytes fills
    rw [write_descriptor fills.sink]
    have pipes := world.kernel.pipes_write output bytes
    cases called : world.kernel.write output bytes with
    | mk answer kernel =>
      rw [called] at pipes
      cases answer with
      | ok count =>
        obtain ⟨-, -, -, carries⟩ := Kernel.write_made output 0 called
        have received := carries.received output
        rw [if_pos rfl] at received
        exact fills.call _ received carries.toMoves.continues pipes
      | error error =>
        obtain ⟨rfl, -⟩ := Kernel.write_failed called
        exact fills.call _ (List.append_nil _).symm (.tick _) pipes
  greet := by
    intro watched world fills
    rw [greet, fills.sink]
    exact fills.call (.greet (.ok ())) (List.append_nil _).symm (.refl _) rfl
  feed := by
    intro watched world bytes fills
    rw [feed, fills.sink]
    exact fills.call (.feed bytes (.ok 0)) (by simp [SinkCall.taken]) (.refl _) rfl
  spared := fun fills spared => fills.elsewhere spared.elsewhere

/-- A drain into a descriptor between two writes: the latest calls of the kernel, one for each stall
since the last progress, were refused writes. -/
structure Stalled (output : Fd) (start : Kernel) (patience : Nat) (watched : Watched σ 0)
    (kernel : Kernel) : Prop where
  sink : watched.sink = .descriptor output
  continues : start.Continues kernel
  stalls : ∃ earlier stalls, start.calls ≤ earlier ∧ earlier + stalls = kernel.calls ∧
    stalls + patience = stallLimit + 1 ∧
    ∀ stall < stalls, ∀ limit, kernel.verdict (earlier + stall) .write ≠ .grants limit

/-- A buffer that is drained into a descriptor is written out whole: a drain that runs out of
patience met more refused writes in a row than there are. -/
theorem drain_descriptor {input : Fd} {last : Nat} (counters : List Counter) {buffer : Buffer}
    (some : buffer.unread ≠ []) (sink : watched.sink = .descriptor output)
    (obliges : world.kernel.Obliges input output last) :
    ∃ total, (buffer.drain Watched.write counters watched world).result = .ok total := by
  have rule : Buffer.DrainRule Watched.write counters fun patience _ _ (watched : Watched σ 0)
      (now : World) => Stalled output world.kernel patience watched now.kernel := by
    constructor
    case stalled =>
      intro patience left _ watched now stalled some stall
      obtain ⟨earlier, stalls, after, sum, patient, refused⟩ := stalled.stalls
      rw [write_descriptor stalled.sink] at stall ⊢
      cases called : now.kernel.write output left with
      | mk answer kernel =>
        rw [called] at stall
        cases answer with
        | ok count =>
          obtain ⟨-, present, -⟩ := Kernel.write_made output 0 called
          exact absurd stall (present some)
        | error error =>
          obtain ⟨rfl, ruling, -⟩ := (obliges.continues stalled.continues).write_error called
          refine ⟨rfl, stalled.continues.trans (.tick _), earlier, stalls + 1, after, ?_,
            by omega, ?_⟩
          · show earlier + (stalls + 1) = now.kernel.calls + 1
            omega
          · intro stall within limit
            rcases Nat.lt_succ_iff_lt_or_eq.mp within with before | rfl
            · exact refused stall before limit
            · rw [sum]
              intro granted
              cases ruling.symm.trans granted
    case took =>
      intro patience left _ watched now less stalled some answer
      rw [write_descriptor stalled.sink] at answer ⊢
      cases called : now.kernel.write output left with
      | mk result kernel =>
        rw [called] at answer
        cases result with
        | error error => cases answer
        | ok count =>
          obtain ⟨-, -, -, carries⟩ := Kernel.write_made output 0 called
          have on := stalled.continues.trans carries.toMoves.continues
          exact ⟨rfl, on, kernel.calls, 0, on.calls, rfl, Nat.zero_add _,
            fun _ absurd => nomatch absurd⟩
    case refused =>
      intro patience left _ watched now fault stalled some answer hard
      rw [write_descriptor stalled.sink] at answer
      cases called : now.kernel.write output left with
      | mk result kernel =>
        rw [called] at answer
        cases result with
        | ok count => cases answer
        | error error =>
          cases answer
          obtain ⟨-, -, transient, -⟩ :=
            (obliges.continues stalled.continues).write_error called
          exact absurd transient (by rw [show error.kind.isTransient = false from hard]; simp)
  -- A drain that gave up met more stalls in a row than an obliging kernel has to give.
  have ends := rule.drain buffer watched world some
    ⟨sink, .refl _, world.kernel.calls, 0, Nat.le_refl _, rfl, Nat.zero_add _,
      fun _ absurd => nomatch absurd⟩
  cases result : (buffer.drain Watched.write counters watched world).result with
  | ok total => exact ⟨total, rfl⟩
  | error fault =>
    have stalled := (ends.error result).1
    obtain ⟨earlier, stalls, after, -, patient, refused⟩ := stalled.stalls
    obtain ⟨stall, within, limit, granted⟩ := obliges.patient earlier after
    rw [← stalled.continues.verdict] at granted
    exact absurd granted (refused stall (by omega) limit)

end Watched

end Conduit
