import Conduit.Proofs.Source.Layers
import Conduit.Proofs.World.Estate

set_option autoImplicit false

namespace Conduit

open Estate

theorem Buffer.claim_consume (buffer : Buffer) (count : Nat) :
    (buffer.consume count).claim = buffer.claim := by
  have takes := Takes.consume buffer count
  rw [claim, claim, takes.owner, takes.storage]

namespace Estate

namespace Lets

variable {world later : World} {handle : SharedId} {handles : Multiset SharedId}
  {buffers : Multiset Buffer}

theorem still (sound : Sound ⟨world, handles, buffers⟩) (pools : later.pools = world.pools)
    (cells : later.cells = world.cells) :
    Lets ⟨world, handles, buffers⟩ ⟨later, handles, buffers⟩ [] := by
  have same : ∀ handle, later.shared handle = world.shared handle := by
    intro handle
    rw [World.shared, cells, World.shared]
  apply quiet sound pools
  · rw [cells]
  · intro handle
    rw [World.owners, cells]
    exact sound.owners handle
  · exact fun handle => Nat.le_refl _
  · exact fun handle => id
  · exact fun handle => congrArg Buffer.claim (same handle)
  · exact fun handle _ => same handle
  · rfl

theorem refl {estate : Estate} (sound : estate.Sound) : Lets estate estate [] :=
  still sound rfl rfl

theorem setShared (sound : Sound ⟨world, handles, buffers⟩) (alive : handle ∈ handles)
    {buffer : Buffer} (same : buffer.claim = (world.shared handle).claim) :
    Lets ⟨world, handles, buffers⟩ ⟨world.setShared handle buffer, handles, buffers⟩ [] := by
  have made : handle < world.cells.next := sound.made (Multiset.count_pos.mpr alive)
  have shared : ∀ other, (world.setShared handle buffer).shared other =
      if other = handle then buffer else world.shared other :=
    fun other => World.shared_put _ _ _ _
  apply quiet sound (show (world.setShared handle buffer).pools = world.pools from rfl)
  · exact Table.next_put _ _ _ made
  · exact fun other => (world.owners_setShared handle other buffer).trans (sound.owners other)
  · exact fun other => Nat.le_refl _
  · exact fun other => id
  · intro other
    rw [shared]
    split
    · rename_i equal
      rw [equal]
      exact same
    · rfl
  · intro other gone
    rw [shared, if_neg]
    rintro rfl
    exact Multiset.count_eq_zero.mp gone alive
  · rfl

theorem readShared (sound : Sound ⟨world, handles, buffers⟩) (alive : handle ∈ handles)
    (wanted : Nat) :
    Lets ⟨world, handles, buffers⟩ ⟨(world.readShared handle wanted).2, handles, buffers⟩ [] :=
  setShared sound alive (Buffer.claim_consume _ wanted)

theorem passed (sound : Sound ⟨world, handle ::ₘ handles, buffers⟩) (wanted : Nat) :
    ∃ back, Lets ⟨world, handle ::ₘ handles, buffers⟩
      ⟨(world.readShared handle wanted).2.release handle, handles, buffers⟩ back := by
  have read := readShared sound (Multiset.mem_cons_self _ _) wanted
  obtain ⟨back, lets⟩ := release read.sound
  exact ⟨_, read.trans lets⟩

end Lets

end Estate

namespace Source

variable {ρ : Type}

def stocks : Source ρ → List Buffer
  | .peer _ => []
  | .descriptor _ => []
  | .buffer stock => [stock]
  | .cached _ _ inner => inner.stocks
  | .counted _ _ inner => inner.stocks
  | .plain inner => inner.stocks

def keeping (source : Source ρ) (handles : Multiset SharedId) (buffers : Multiset Buffer)
    (world : World) : Estate :=
  ⟨world, source.handles + handles, source.stocks + buffers⟩

theorem keeping_cached (handle : SharedId) (deferred : Option IoFault) (inner : Source ρ)
    (handles : Multiset SharedId) (buffers : Multiset Buffer) (world : World) :
    (cached (some handle) deferred inner).keeping handles buffers world =
      ⟨world, handle ::ₘ (inner.handles + handles), inner.stocks + buffers⟩ := by
  rw [keeping, Source.handles, stocks, ← Multiset.cons_coe, Multiset.cons_add]

/-- A layer's handle may count as one of those around what lies beneath it. -/
theorem keeping_beneath (handle : SharedId) (deferred : Option IoFault) (inner : Source ρ)
    (handles : Multiset SharedId) (buffers : Multiset Buffer) (world : World) :
    (cached (some handle) deferred inner).keeping handles buffers world =
      inner.keeping (handle ::ₘ handles) buffers world := by
  rw [keeping_cached, keeping, Multiset.add_cons]

theorem keeping_buffer (stock : Buffer) (handles : Multiset SharedId) (buffers : Multiset Buffer)
    (world : World) :
    (buffer stock : Source ρ).keeping handles buffers world =
      ⟨world, handles, stock ::ₘ buffers⟩ := by
  rw [keeping, Source.handles, stocks, ← Multiset.cons_coe, Multiset.cons_add, Multiset.coe_nil,
    Multiset.coe_nil, zero_add, zero_add]

theorem keeping_nothing {source : Source ρ} (unshared : source.handles = [])
    (none : source.stocks = []) (handles : Multiset SharedId) (buffers : Multiset Buffer)
    (world : World) : source.keeping handles buffers world = ⟨world, handles, buffers⟩ := by
  rw [keeping, unshared, none, Multiset.coe_nil, Multiset.coe_nil, zero_add, zero_add]

theorem Reads.lets [ReadPeer ρ] {source : Source ρ} {wanted : Nat} {world : World}
    {reading : Called (Source ρ) Bytes} (reads : Reads source wanted world reading)
    (handles : Multiset SharedId) (buffers : Multiset Buffer)
    (sound : (source.keeping handles buffers world).Sound) :
    ∃ back, Lets (source.keeping handles buffers world)
      (reading.after.keeping handles buffers reading.world) back := by
  induction reads generalizing handles buffers with
  | peer | descriptor => exact ⟨[], .still sound rfl rfl⟩
  | buffer stock wanted world =>
    rw [keeping_buffer] at sound ⊢
    rw [keeping_buffer]
    refine ⟨[], .quiet sound rfl rfl sound.owners (fun _ => Nat.le_refl _) (fun _ => id)
      (fun _ => rfl) (fun _ _ => rfl) ?_⟩
    rw [Multiset.filterMap_cons, Multiset.filterMap_cons, stock.claim_consume]
  | deferred layer fault inner wanted world =>
    cases layer <;> exact ⟨[], .refl sound⟩
  | nothing => exact ⟨[], .refl sound⟩
  | through _ ih => exact ih handles buffers sound
  | part =>
    rw [keeping_cached] at sound ⊢
    rw [keeping_cached]
    exact ⟨[], .readShared sound (Multiset.mem_cons_self _ _) _⟩
  | whole =>
    rw [keeping_cached] at sound ⊢
    exact Lets.passed sound _
  | joined fewer reads success ih =>
    rw [keeping_cached] at sound ⊢
    obtain ⟨first, passes⟩ := Lets.passed sound _
    obtain ⟨second, lets⟩ := ih handles buffers passes.sound
    exact ⟨_, passes.trans lets⟩
  | kept fewer some reads failed ih =>
    rw [keeping_cached] at sound ⊢
    obtain ⟨first, passes⟩ := Lets.passed sound _
    obtain ⟨second, lets⟩ := ih handles buffers passes.sound
    exact ⟨_, passes.trans lets⟩
  | failed empty reads failed ih =>
    rw [keeping_cached] at sound ⊢
    obtain ⟨first, passes⟩ := Lets.passed sound _
    obtain ⟨second, lets⟩ := ih handles buffers passes.sound
    exact ⟨_, passes.trans lets⟩
  | @counted counters total inner wanted world beneath bytes reads success ih =>
    obtain ⟨back, lets⟩ := ih handles buffers sound
    exact ⟨_, lets.trans (.still lets.sound rfl rfl)⟩
  | uncounted reads failed ih => exact ih handles buffers sound
  | plain reads ih => exact ih handles buffers sound

theorem lets_drop (source : Source ρ) (handles : Multiset SharedId) (buffers : Multiset Buffer)
    (world : World) (sound : (source.keeping handles buffers world).Sound) :
    ∃ back, Lets (source.keeping handles buffers world) ⟨source.drop world, handles, buffers⟩
      back := by
  induction source generalizing handles world with
  | peer | descriptor =>
    rw [keeping_nothing rfl rfl] at sound ⊢
    exact ⟨[], .refl sound⟩
  | buffer stock =>
    rw [keeping_buffer] at sound ⊢
    exact ⟨_, .drop sound⟩
  | cached layer deferred inner ih =>
    cases layer with
    | none => exact ih handles world sound
    | some handle =>
      -- The layer still holds its handle while what lies beneath is dropped.
      rw [keeping_beneath] at sound ⊢
      obtain ⟨first, drops⟩ := ih _ world sound
      obtain ⟨second, lets⟩ := Lets.release drops.sound
      exact ⟨_, drops.trans lets⟩
  | counted counters total inner ih => exact ih handles world sound
  | plain inner ih => exact ih handles world sound

theorem lets_cache (source : Source ρ) (handle : SharedId) (handles : Multiset SharedId)
    (buffers : Multiset Buffer) (world : World)
    (sound : (source.keeping (handle ::ₘ handles) buffers world).Sound) :
    ∃ back, Lets (source.keeping (handle ::ₘ handles) buffers world)
      ((source.cache handle world).1.keeping handles buffers (source.cache handle world).2)
      back := by
  rw [cache]
  split
  · rw [keeping, Multiset.add_cons] at sound ⊢
    exact Lets.release sound
  · rw [keeping_beneath]
    exact ⟨[], .refl sound⟩

theorem lets_cacheAll (source : Source ρ) (handles : List SharedId)
    (others : Multiset SharedId) (buffers : Multiset Buffer) (world : World)
    (sound : (source.keeping (handles + others) buffers world).Sound) :
    ∃ back, Lets (source.keeping (handles + others) buffers world)
      ((source.cacheAll handles world).1.keeping others buffers (source.cacheAll handles world).2)
      back := by
  induction handles generalizing others with
  | nil =>
    rw [Multiset.coe_nil, zero_add] at sound ⊢
    exact ⟨[], .refl sound⟩
  | cons handle rest ih =>
    have order : ((handle :: rest : List SharedId) : Multiset SharedId) + others =
        rest + (handle ::ₘ others) := by
      rw [← Multiset.cons_coe, Multiset.cons_add, Multiset.add_cons]
    rw [order] at sound ⊢
    -- The last buffer goes in front first; until then this handle is one of the others.
    obtain ⟨first, caches⟩ := ih _ sound
    obtain ⟨second, lets⟩ := lets_cache _ handle others buffers _ caches.sound
    exact ⟨_, caches.trans lets⟩

theorem lets_pickAll (source : Source ρ) (handles : Multiset SharedId)
    (buffers : Multiset Buffer) (world : World)
    (sound : (source.keeping handles buffers world).Sound) :
    let picked := source.pickAll world
    ∃ back, Lets (source.keeping handles buffers world)
      (picked.1.keeping (picked.2.1 + handles) buffers picked.2.2) back := by
  induction source generalizing handles world with
  | peer | descriptor | buffer | counted | plain =>
    dsimp only [pickAll]
    rw [Multiset.coe_nil, zero_add]
    exact ⟨[], .refl sound⟩
  | cached layer deferred inner ih =>
    cases deferred with
    | some fault =>
      dsimp only [pickAll]
      rw [Multiset.coe_nil, zero_add]
      exact ⟨[], .refl sound⟩
    | none =>
      cases layer with
      | none => exact ih handles world sound
      | some handle =>
        rw [pickAll]
        split
        · rw [keeping_cached] at sound ⊢
          obtain ⟨first, releases⟩ := Lets.release sound
          obtain ⟨second, lets⟩ := ih handles _ releases.sound
          exact ⟨_, releases.trans lets⟩
        · rw [keeping_beneath] at sound ⊢
          dsimp only
          rw [← Multiset.cons_coe, Multiset.cons_add, ← Multiset.add_cons]
          exact ih _ world sound

/-- The outermost layer comes off together with its handle. -/
theorem keeping_pick (source : Source ρ) (handles : Multiset SharedId) (buffers : Multiset Buffer)
    (world : World) :
    source.pick.1.keeping (source.pick.2.toList + handles) buffers world =
      source.keeping handles buffers world := by
  induction source with
  | peer | descriptor | buffer | counted | plain =>
    dsimp only [pick, Option.toList]
    rw [Multiset.coe_nil, zero_add]
  | cached layer deferred inner ih =>
    cases deferred with
    | some fault =>
      dsimp only [pick, Option.toList]
      rw [Multiset.coe_nil, zero_add]
    | none =>
      cases layer with
      | none => exact ih
      | some handle =>
        rw [keeping_beneath]
        dsimp only [pick, Option.toList]
        rw [← Multiset.cons_coe, Multiset.coe_nil, Multiset.cons_add, zero_add]

@[simp] theorem stocks_uncounted (source : Source ρ) :
    source.uncounted.1.stocks = source.stocks := by
  induction source with
  | peer | descriptor | buffer | cached | plain => rfl
  | counted _ _ _ ih => exact ih

theorem keeping_count (source : Source ρ) (counters : List Counter)
    (handles : Multiset SharedId) (buffers : Multiset Buffer) (world : World) :
    (source.count counters).keeping handles buffers world =
      source.keeping handles buffers world := by
  rw [count]
  split
  · rfl
  · show source.uncounted.1.keeping handles buffers world = _
    rw [keeping, handles_uncounted, stocks_uncounted, keeping]

end Source

end Conduit
