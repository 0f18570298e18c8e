import Conduit.Proofs.Peer.Conduct
import Conduit.Proofs.World.Views
import Conduit.Source.Basic

set_option autoImplicit false

namespace Conduit

namespace Source

variable {ρ : Type} [ReadPeer ρ]

/-- A read of a source, with the source and the world after it. -/
inductive Reads : Source ρ → Nat → World → Called (Source ρ) Bytes → Prop where
  | peer (reader : ρ) (wanted : Nat) (world : World) :
    Reads (.peer reader) wanted world
      ⟨ReadPeer.answer reader wanted, .peer (ReadPeer.after reader wanted),
        world.record
          (.read (ReadPeer.id reader) wanted (ReadPeer.answer reader wanted))⟩
  | descriptor (fd : Fd) (wanted : Nat) (world : World) :
    Reads (.descriptor fd) wanted world
      ⟨(world.kernel.read fd wanted).1.mapError .system, .descriptor fd,
        { world with kernel := (world.kernel.read fd wanted).2 }⟩
  | buffer (stock : Buffer) (wanted : Nat) (world : World) :
    Reads (.buffer stock) wanted world
      ⟨.ok (stock.unread.take wanted), .buffer (stock.consume wanted), world⟩
  | deferred (layer : Option SharedId) (fault : IoFault) (inner : Source ρ) (wanted : Nat)
    (world : World) :
    Reads (.cached layer (some fault) inner) wanted world
      ⟨.error fault, .cached layer none inner, world⟩
  | nothing (layer : Option SharedId) (inner : Source ρ) (world : World) :
    Reads (.cached layer none inner) 0 world ⟨.ok [], .cached layer none inner, world⟩
  | through {inner : Source ρ} {wanted : Nat} {world : World} {beneath : Called (Source ρ) Bytes}
    (reads : Reads inner (wanted + 1) world beneath) :
    Reads (.cached none none inner) (wanted + 1) world
      ⟨beneath.answer, .cached none none beneath.after, beneath.world⟩
  | part {handle : SharedId} {inner : Source ρ} {wanted : Nat} {world : World}
    (more : wanted + 1 < (world.stores.held handle).length) :
    Reads (.cached (some handle) none inner) (wanted + 1) world
      ⟨.ok ((world.stores.held handle).take (wanted + 1)), .cached (some handle) none inner,
        (world.readShared handle (wanted + 1)).2⟩
  /-- A layer has just what is wanted. -/
  | whole {handle : SharedId} {inner : Source ρ} {wanted : Nat} {world : World}
    (exact : (world.stores.held handle).length = wanted + 1) :
    Reads (.cached (some handle) none inner) (wanted + 1) world
      ⟨.ok (world.stores.held handle), .cached none none inner,
        (world.readShared handle (wanted + 1)).2.release handle⟩
  | joined {handle : SharedId} {inner : Source ρ} {wanted : Nat} {world : World}
    {beneath : Called (Source ρ) Bytes} {tail : Bytes}
    (fewer : (world.stores.held handle).length < wanted + 1)
    (reads : Reads inner (wanted + 1 - (world.stores.held handle).length)
      ((world.readShared handle (wanted + 1)).2.release handle) beneath)
    (success : beneath.answer = .ok tail) :
    Reads (.cached (some handle) none inner) (wanted + 1) world
      ⟨.ok (world.stores.held handle ++ tail), .cached none none beneath.after, beneath.world⟩
  /-- The read beneath a layer fails after cached bytes. -/
  | kept {handle : SharedId} {inner : Source ρ} {wanted : Nat} {world : World}
    {beneath : Called (Source ρ) Bytes} {fault : IoFault}
    (fewer : (world.stores.held handle).length < wanted + 1)
    (some : world.stores.held handle ≠ [])
    (reads : Reads inner (wanted + 1 - (world.stores.held handle).length)
      ((world.readShared handle (wanted + 1)).2.release handle) beneath)
    (failed : beneath.answer = .error fault) :
    Reads (.cached (.some handle) none inner) (wanted + 1) world
      ⟨.ok (world.stores.held handle),
        .cached none (if fault.isTransient then none else .some fault) beneath.after,
        beneath.world⟩
  /-- The read beneath a layer fails, and nothing was cached. -/
  | failed {handle : SharedId} {inner : Source ρ} {wanted : Nat} {world : World}
    {beneath : Called (Source ρ) Bytes} {fault : IoFault}
    (empty : world.stores.held handle = [])
    (reads : Reads inner (wanted + 1)
      ((world.readShared handle (wanted + 1)).2.release handle) beneath)
    (failed : beneath.answer = .error fault) :
    Reads (.cached (some handle) none inner) (wanted + 1) world
      ⟨.error fault, .cached none none beneath.after, beneath.world⟩
  | counted {counters : List Counter} {total : Nat} {inner : Source ρ} {wanted : Nat}
    {world : World} {beneath : Called (Source ρ) Bytes} {bytes : Bytes}
    (reads : Reads inner wanted world beneath) (success : beneath.answer = .ok bytes) :
    Reads (.counted counters total inner) wanted world
      ⟨.ok bytes, .counted counters (total + bytes.length) beneath.after,
        beneath.world.count counters bytes.length⟩
  | uncounted {counters : List Counter} {total : Nat} {inner : Source ρ} {wanted : Nat}
    {world : World} {beneath : Called (Source ρ) Bytes} {fault : IoFault}
    (reads : Reads inner wanted world beneath) (failed : beneath.answer = .error fault) :
    Reads (.counted counters total inner) wanted world
      ⟨.error fault, .counted counters total beneath.after, beneath.world⟩
  | plain {inner : Source ρ} {wanted : Nat} {world : World} {beneath : Called (Source ρ) Bytes}
    (reads : Reads inner wanted world beneath) :
    Reads (.plain inner) wanted world ⟨beneath.answer, .plain beneath.after, beneath.world⟩

/-- What a property of worlds has to outlast to hold after every read. -/
structure ReadRule (Kept : World → Prop) : Prop where
  heard : ∀ {world peer wanted answer}, Kept world → Kept (world.record (.read peer wanted answer))
  delivered : ∀ {world : World} {fd wanted}, Kept world →
    Kept { world with kernel := (world.kernel.read fd wanted).2 }
  /-- Bytes are taken from a shared buffer. -/
  shared : ∀ {world handle buffer}, Kept world → Kept (world.setShared handle buffer)
  released : ∀ {world handle}, Kept world → Kept (world.release handle)
  counted : ∀ {world counters bytes}, Kept world → Kept (world.count counters bytes)

theorem Reads.keeps {Kept : World → Prop} (rule : ReadRule Kept) {source : Source ρ} {wanted : Nat}
    {world : World} {reading : Called (Source ρ) Bytes}
    (reads : Reads source wanted world reading) (kept : Kept world) : Kept reading.world := by
  induction reads with
  | peer => exact rule.heard kept
  | descriptor => exact rule.delivered kept
  | buffer | deferred | nothing => exact kept
  | through _ ih => exact ih kept
  | part => exact rule.shared kept
  | whole => exact rule.released (rule.shared kept)
  | joined _ _ _ ih => exact ih (rule.released (rule.shared kept))
  | kept _ _ _ _ ih => exact ih (rule.released (rule.shared kept))
  | failed _ _ _ ih => exact ih (rule.released (rule.shared kept))
  | counted _ _ ih => exact rule.counted (ih kept)
  | uncounted _ _ ih => exact ih kept
  | plain _ ih => exact ih kept

theorem read_part {handle : SharedId} {inner : Source ρ} {wanted : Nat} {world : World}
    (more : wanted + 1 < (world.stores.held handle).length) :
    (cached (some handle) none inner).read (wanted + 1) world =
      ⟨.ok ((world.stores.held handle).take (wanted + 1)), .cached (some handle) none inner,
        (world.readShared handle (wanted + 1)).2⟩ := by
  have left : ((world.readShared handle (wanted + 1)).2.shared handle).isEmpty = false := by
    have held := congrArg (fun stores => stores.held handle)
      (World.stores_readShared world handle (wanted + 1))
    simp only [Stores.held_refilled_same] at held
    simp only [World.stores] at held more
    rw [Buffer.isEmpty, held, List.isEmpty_eq_false_iff, ne_eq, List.drop_eq_nil_iff]
    omega
  have full : ((world.stores.held handle).take (wanted + 1)).length = wanted + 1 := by
    rw [List.length_take]
    omega
  simp only [read, World.readShared_fst, left, full, if_true, Bool.false_eq_true, if_false]

/-- A layer over a buffer with no more than is wanted: it lets the buffer go. -/
theorem isEmpty_readShared {handle : SharedId} {wanted : Nat} {world : World}
    (fits : (world.stores.held handle).length ≤ wanted) :
    ((world.readShared handle wanted).2.shared handle).isEmpty = true := by
  have held := congrArg (fun stores => stores.held handle)
    (World.stores_readShared world handle wanted)
  simp only [Stores.held_refilled_same] at held
  simp only [World.stores] at held fits
  rw [Buffer.isEmpty, held, List.isEmpty_iff, List.drop_eq_nil_iff]
  exact fits

theorem reads_held (handle : SharedId) (inner : Source ρ) (wanted : Nat) (world : World)
    (beneath : ∀ wanted world, Reads inner wanted world (inner.read wanted world)) :
    Reads (.cached (some handle) none inner) (wanted + 1) world
      ((cached (some handle) none inner).read (wanted + 1) world) := by
  by_cases more : wanted + 1 < (world.stores.held handle).length
  · rw [read_part more]
    exact .part more
  · have fits : (world.stores.held handle).length ≤ wanted + 1 := by omega
    have drained := isEmpty_readShared fits
    have head : (world.stores.held handle).take (wanted + 1) = world.stores.held handle :=
      List.take_of_length_le fits
    simp only [read, World.readShared_fst, drained, if_true, head]
    by_cases exact : (world.stores.held handle).length = wanted + 1
    · rw [if_pos exact]
      exact .whole exact
    · rw [if_neg exact]
      have fewer : (world.stores.held handle).length < wanted + 1 := by omega
      have reads := beneath (wanted + 1 - (world.stores.held handle).length)
        ((world.readShared handle (wanted + 1)).2.release handle)
      split
      · rename_i tail success
        exact .joined fewer reads success
      · rename_i fault failed
        by_cases empty : world.stores.held handle = []
        · simp only [empty, List.isEmpty_nil, if_true, List.length_nil, Nat.sub_zero]
            at failed reads ⊢
          exact .failed empty reads failed
        · simp only [List.isEmpty_iff, empty, if_false]
          exact .kept fewer empty reads failed

theorem reads_read (source : Source ρ) (wanted : Nat) (world : World) :
    Reads source wanted world (source.read wanted world) := by
  induction source generalizing wanted world with
  | peer reader => exact .peer reader wanted world
  | descriptor fd => exact .descriptor fd wanted world
  | buffer stock => exact .buffer stock wanted world
  | cached layer deferred inner ih =>
    cases deferred with
    | some fault =>
      rw [read]
      exact .deferred layer fault inner wanted world
    | none =>
      cases wanted with
      | zero =>
        rw [read]
        exact .nothing layer inner world
      | succ wanted =>
        cases layer with
        | none => exact .through (ih (wanted + 1) world)
        | some handle => exact reads_held handle inner wanted world ih
  | counted counters total inner ih =>
    simp only [read]
    split
    · rename_i bytes success
      exact .counted (ih wanted world) success
    · rename_i fault failed
      exact .uncounted (ih wanted world) failed
  | plain inner ih => exact .plain (ih wanted world)

end Source

namespace World

/-- A buffer read out and let go leaves its handle with nothing. -/
theorem stores_readShared_release (world : World) (handle : SharedId) (wanted : Nat)
    (fits : (world.stores.held handle).length ≤ wanted) :
    ((world.readShared handle wanted).2.release handle).stores =
      world.stores.emptied handle := by
  have left : (world.readShared handle wanted).2.stores = world.stores.emptied handle := by
    rw [stores_readShared, List.drop_eq_nil_of_le fits, Stores.emptied]
  have empty : (world.readShared handle wanted).2.stores.held handle = [] := by
    rw [left, Stores.emptied, Stores.held_refilled_same]
  rw [stores_release _ _ empty, left]

end World

end Conduit
