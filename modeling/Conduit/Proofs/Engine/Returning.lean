import Conduit.Proofs.Engine.Lending
import Conduit.Proofs.Rehearsal.Sample
import Conduit.Proofs.World.Ownership

set_option autoImplicit false

namespace Conduit

open Tenancy (Leads Path Whole givenBack takenFrom)

variable {ρ σ : Type} {depth : Nat}

/-- Both ends of a copy and the engine that has nothing yet, with other handles and buffers around
them. -/
def Engine.opening (sink : Sink σ depth) (source : Source ρ) (handles : Multiset SharedId)
    (buffers : Multiset Buffer) (world : World) : Tenancy :=
  ⟨world, .nothing, source.handles + sink.handles + handles,
    source.stocks + sink.stocks + buffers⟩

namespace Engine

variable [ReadPeer ρ] [WritePeer σ]

omit [ReadPeer ρ] [WritePeer σ] in
theorem opening_uncounted (sink : Sink σ depth) (source : Source ρ)
    (handles : Multiset SharedId) (buffers : Multiset Buffer) (world : World) :
    opening sink source handles buffers world =
      ((⟨.fresh sink.uncounted.1.2, 0, world⟩ : Course σ _).keeping source.uncounted.1 handles
        buffers).beside .nothing := by
  rw [opening, Course.keeping, Source.keeping, Source.handles_uncounted, Source.stocks_uncounted]
  show _ = Tenancy.mk _ _ (_ + (Multiset.ofList sink.uncounted.1.2.handles + _))
    (_ + (Multiset.ofList sink.uncounted.1.2.stocks + _))
  rw [Sink.handles_uncounted, Sink.stocks_uncounted, add_assoc, add_assoc]

/-- However a copy ends, no storage is lost.

At each step of the early phase the engine has no buffer of its allocator or one, and so it does all
along a path of steps through the whole copy. What went back to each pool on that path is what was
taken out of it for the engine, what the ends had to themselves, and each shared buffer on which
only the ends had handles. The pool kept these as far as there was room, and has no fewer idle
storages than before. A shared buffer with an owner outside the copy has its owners and its storage
still, and nothing is left behind all other handles. -/
theorem copy_gives_back {engine : Engine} {allowance : Allowance} {sink : Sink σ depth}
    {source : Source ρ} {world : World} {outcome : CopyOutcome} {handles : Multiset SharedId}
    {buffers : Multiset Buffer} (whole : (opening sink source handles buffers world).Whole)
    (ended : engine.copy allowance sink source world = some outcome) :
    let start := opening sink source handles buffers world
    let inside := world.within (source.handles + sink.handles) handles
      (source.stocks + sink.stocks)
    (∀ state, EarlyPath engine allowance.retries ⟨source.uncounted.2, sink.uncounted.2⟩
        ⟨.asking source.uncounted.1, ⟨.fresh sink.uncounted.1.2, 0, world⟩⟩ state →
      Lodged engine.buffers start handles buffers state) ∧
    (∃ deals, Path engine.buffers start deals ⟨outcome.world, .nothing, handles, buffers⟩ ∧
      ∀ pool < world.pools.next,
        let before := world.pools.get pool
        let after := outcome.world.pools.get pool
        after = deals.foldl (fun row deal => row.dealt pool deal) before ∧
        givenBack deals pool = takenFrom deals pool + inside pool ∧
        ∃ fresh ≤ takenFrom deals pool, after.idle.length =
          min before.maxRetained (before.idle.length + fresh + inside pool)) ∧
    (∀ pool < world.pools.next,
      (world.pools.get pool).idle.length ≤ (outcome.world.pools.get pool).idle.length) ∧
    (∀ handle ∈ handles, outcome.world.owners handle = handles.count handle ∧
      (outcome.world.shared handle).owner = (world.shared handle).owner) ∧
    (∀ handle ∉ handles, outcome.world.shared handle = .hollow) ∧
    Whole ⟨outcome.world, .nothing, handles, buffers⟩ := by
  intro start inside
  have begun : Leads engine.buffers start
      (((⟨.fresh sink.uncounted.1.2, 0, world⟩ : Course σ _).keeping source.uncounted.1 handles
        buffers).beside .nothing) := by
    rw [← opening_uncounted]
    exact .refl _ _
  obtain ⟨deals, path⟩ : Leads engine.buffers start
      ⟨outcome.world, .nothing, handles, buffers⟩ := by
    unfold copy at ended
    exact leads_copyCounted whole begun ended
  have late := path.whole whole
  have sound := whole.sound
  have lateSound := late.sound
  rw [opening, Tenancy.estate_nothing] at sound
  rw [Tenancy.estate_nothing] at lateSound
  have idle := fun pool (made : pool < world.pools.next) => path.idle whole made
  refine ⟨?_, ⟨deals, path, ?_⟩, ?_, ?_, ?_, late⟩
  · exact fun state early => early.lodged whole begun
  · intro pool made
    exact ⟨(path.pools whole).2 pool made, path.givenBack_eq whole pool, idle pool made⟩
  · intro pool made
    obtain ⟨fresh, _, count⟩ := idle pool made
    have few := (sound.stocked pool).few
    dsimp only at few
    omega
  · intro handle around
    have alive : handle ∈ source.handles + sink.handles + handles :=
      Multiset.mem_add.mpr (.inr around)
    have stays := (path.stays whole).2 handle (sound.made (Multiset.count_pos.mpr alive))
    rw [Tenancy.estate_nothing] at stays
    exact ⟨lateSound.owners handle, ((stays around).2 (whole.shared handle)).2.2⟩
  · exact fun handle none => lateSound.hollow handle (Multiset.count_eq_zero.mpr none)

end Engine

namespace Sample

open Session

def pooledEngine : Engine := ⟨⟨[0], 4, 4⟩, 0, false, 16⟩

/-- A world with two buffers of a pool, each of them shared. The first one has two owners. -/
def pooledWorld : World :=
  let first := (World.initial.addPool 4 2).takeBuffer 0 4
  let shared := (first.2.share (first.1.append [3])).2.retain 0
  let second := shared.takeBuffer 0 4
  (second.2.share (second.1.append [1, 2])).2

/-- Both buffers in front of a reader. -/
def pooledSource : Source RehearsedReader :=
  .cached (some 1) none (.cached (some 0) none (.peer ⟨1, [.deliver [4, 5]], .ended⟩))

/-- A writer that fails when it is offered bytes for the third time. -/
def failing : Sink RehearsedWriter 0 :=
  .peer ⟨2, [.all, .all, .fail (.plain .brokenPipe)], .all, none, none, .none⟩

/-- The second owner of the first buffer is outside the copy. -/
theorem pooled_reached : Reached (⟨pooledWorld, .source pooledSource ::ₘ .handle 0 ::ₘ 0⟩ :
    Session RehearsedReader) := by
  let blank : Buffer := .ofStorage [0, 0, 0, 0] 4 0
  have frames (bytes : Bytes) (fits : bytes.length ≤ blank.freeLen) :
      blank.Frames (blank.append bytes) :=
    (Buffer.Puts.append blank bytes fits).frames ⟨by decide, by decide⟩
  have pool : Reached (⟨World.initial.addPool 4 2, 0⟩ : Session RehearsedReader) :=
    .step .start (.addPool 4 2)
  have taken := Reached.step pool (.take 0 4)
  have shared := Reached.step (.step taken (.change (frames [3] (by decide)))) (.share _)
  have retaken := Reached.step (.step shared (.retain 0)) (.take 0 4)
  have both := Reached.step (.step retaken (.change (frames [1, 2] (by decide)))) (.share _)
  let live : Source RehearsedReader := .peer ⟨1, [.deliver [4, 5]], .ended⟩
  have bare : live.handles = [] := rfl
  have opened : Reached (⟨pooledWorld, .source live ::ₘ
      (Holding.all [1, 0] + .handle 0 ::ₘ 0)⟩ : Session RehearsedReader) :=
    .step both (.openSource bare rfl)
  exact .step opened (.cacheAll live [1, 0])

theorem pooled_whole : (Engine.opening failing pooledSource {0} 0 pooledWorld).Whole := by
  refine ⟨pooled_reached.history.1, ?_, ?_, nofun⟩
  · exact fun buffer none => absurd none (Multiset.notMem_zero buffer)
  · intro handle
    match handle with
    | 0 => exact ⟨by decide, by decide⟩
    | 1 => exact ⟨by decide, by decide⟩
    | _ + 2 => exact ⟨Nat.le_refl _, Nat.le_refl _⟩

/-- The copy fails after three bytes. The storage behind the first handle stays where it is, that
behind the second one is back. -/
theorem copy_gives_back_pooled :
    (Engine.opening failing pooledSource {0} 0 pooledWorld).Whole ∧
    ∃ outcome, pooledEngine.copy allowance failing pooledSource pooledWorld = some outcome ∧
      (∃ cause, outcome.result = .error ⟨3, cause⟩) ∧
      (pooledWorld.pools.get 0).idle.length < (outcome.world.pools.get 0).idle.length ∧
      outcome.world.owners 0 = 1 ∧ (outcome.world.shared 0).owner = some 0 ∧
      outcome.world.shared 1 = .hollow := by
  have failed : (pooledEngine.copy allowance failing pooledSource pooledWorld).map
      (fun outcome => outcome.result.mapError CopyFault.copied) = some (.error 3) := by cbv
  obtain ⟨outcome, ended, three⟩ := Option.map_eq_some_iff.mp failed
  obtain ⟨_, ⟨_, _, pools⟩, _, outside, gone, _⟩ := Engine.copy_gives_back pooled_whole ended
  obtain ⟨_, _, fresh, _, idle⟩ := pools 0 (by decide)
  have inside : pooledWorld.within (pooledSource.handles + failing.handles) {0}
      (pooledSource.stocks + failing.stocks) 0 = 1 := by decide
  have room : (pooledWorld.pools.get 0).maxRetained = 2 := by decide
  obtain ⟨owners, owner⟩ := outside 0 (by decide)
  refine ⟨pooled_whole, outcome, ended, ?_, ?_, owners, owner, gone 1 (by decide)⟩
  · cases result : outcome.result with
    | ok total =>
      rw [result] at three
      cases three
    | error fault =>
      rw [result] at three
      have copied : fault.copied = 3 := Except.error.inj three
      exact ⟨fault.cause, by rw [← copied]⟩
  · have none : (pooledWorld.pools.get 0).idle.length = 0 := by decide
    omega

end Sample

end Conduit
