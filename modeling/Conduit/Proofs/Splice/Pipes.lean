import Conduit.Proofs.Splice.Passage
import Conduit.Splice.PipePool

set_option autoImplicit false

namespace Conduit

/-- No row was made yet under the next number. -/
theorem Table.get_next {α : Type} [Inhabited α] (table : Table α) :
    table.get table.next = default := by
  simp [get, next]

namespace World

/-- Every idle pipe exists, is empty, is believed to be empty, and is idle only once. -/
structure PipesIdle (world : World) : Prop where
  believed : ∀ pool, ∀ pipe ∈ (world.pipePool pool).idle, pipe.pending = 0
  empty : ∀ pool, ∀ pipe ∈ (world.pipePool pool).idle, world.kernel.held pipe.id = []
  made : ∀ pool, ∀ pipe ∈ (world.pipePool pool).idle, pipe.id < world.kernel.pipes.next
  once : ∀ pool, ((world.pipePool pool).idle.map Pipe.id).Nodup
  apart : ∀ pool other, other ≠ pool → ∀ pipe ∈ (world.pipePool pool).idle,
    ∀ twin ∈ (world.pipePool other).idle, twin.id ≠ pipe.id

/-- A pipe exists and does not lie idle. -/
structure Lends (world : World) (pipe : PipeId) : Prop where
  made : pipe < world.kernel.pipes.next
  away : ∀ pool, ∀ idle ∈ (world.pipePool pool).idle, idle.id ≠ pipe

theorem PipesIdle.of_idle_nil {world : World}
    (none : ∀ pool, (world.pipePool pool).idle = []) : PipesIdle world where
  believed := by simp [none]
  empty := by simp [none]
  made := by simp [none]
  once := by simp [none]
  apart := by simp [none]

section Frame

variable {world later : World} {pipe : PipeId}

theorem PipesIdle.frame (idle : PipesIdle world) (pools : later.pipePools = world.pipePools)
    (held : ∀ pool, ∀ pipe ∈ (world.pipePool pool).idle,
      later.kernel.held pipe.id = world.kernel.held pipe.id)
    (next : world.kernel.pipes.next ≤ later.kernel.pipes.next) : PipesIdle later := by
  have same : later.pipePool = world.pipePool := by
    funext pool
    rw [pipePool, pipePool, pools]
  constructor
  case believed =>
    rw [same]
    exact idle.believed
  case empty =>
    rw [same]
    intro pool pipe member
    rw [held pool pipe member]
    exact idle.empty pool pipe member
  case made =>
    rw [same]
    intro pool pipe member
    exact Nat.lt_of_lt_of_le (idle.made pool pipe member) next
  case once =>
    rw [same]
    exact idle.once
  case apart =>
    rw [same]
    exact idle.apart

theorem Lends.frame (lends : Lends world pipe) (pools : later.pipePools = world.pipePools)
    (next : world.kernel.pipes.next ≤ later.kernel.pipes.next) : Lends later pipe where
  made := Nat.lt_of_lt_of_le lends.made next
  away := by
    intro pool
    rw [pipePool, pools]
    exact lends.away pool

end Frame

section Put

variable {world : World} {pool : PipePoolId} {row : PipePool}

theorem pipePool_put (other : PipePoolId) :
    ({ world with pipePools := world.pipePools.put pool row } : World).pipePool other =
      if other = pool then row else world.pipePool other :=
  Table.get_put _ _ _ _

theorem PipesIdle.give_up (idle : PipesIdle world)
    (fewer : row.idle.Sublist (world.pipePool pool).idle) :
    PipesIdle { world with pipePools := world.pipePools.put pool row } := by
  have inside : ∀ other, ∀ pipe ∈ (({ world with
      pipePools := world.pipePools.put pool row } : World).pipePool other).idle,
      pipe ∈ (world.pipePool other).idle := by
    intro other pipe member
    rw [pipePool_put] at member
    split at member
    · rename_i same
      rw [same]
      exact fewer.subset member
    · exact member
  constructor
  case believed =>
    exact fun other pipe member => idle.believed other pipe (inside other pipe member)
  case empty => exact fun other pipe member => idle.empty other pipe (inside other pipe member)
  case made => exact fun other pipe member => idle.made other pipe (inside other pipe member)
  case once =>
    intro other
    rw [pipePool_put]
    split
    · exact (idle.once pool).sublist (fewer.map Pipe.id)
    · exact idle.once other
  case apart =>
    intro first second distinct pipe member twin present
    exact idle.apart first second distinct pipe (inside _ _ member) twin (inside _ _ present)

theorem PipesIdle.take_back (idle : PipesIdle world) {pipe : Pipe} (lends : Lends world pipe.id)
    (believed : pipe.pending = 0) (empty : world.kernel.held pipe.id = [])
    (more : row.idle = pipe :: (world.pipePool pool).idle) :
    PipesIdle { world with pipePools := world.pipePools.put pool row } := by
  have cases : ∀ other, ∀ each ∈ (({ world with
      pipePools := world.pipePools.put pool row } : World).pipePool other).idle,
      (other = pool ∧ each = pipe) ∨ each ∈ (world.pipePool other).idle := by
    intro other each member
    rw [pipePool_put] at member
    split at member
    · rename_i same
      rw [more] at member
      rcases List.mem_cons.mp member with new | old
      · exact .inl ⟨same, new⟩
      · rw [same]
        exact .inr old
    · exact .inr member
  constructor
  case believed =>
    intro other each member
    rcases cases other each member with ⟨-, rfl⟩ | old
    · exact believed
    · exact idle.believed other each old
  case empty =>
    intro other each member
    rcases cases other each member with ⟨-, rfl⟩ | old
    · exact empty
    · exact idle.empty other each old
  case made =>
    intro other each member
    rcases cases other each member with ⟨-, rfl⟩ | old
    · exact lends.made
    · exact idle.made other each old
  case once =>
    intro other
    rw [pipePool_put]
    split
    · rw [more, List.map_cons, List.nodup_cons]
      refine ⟨?_, idle.once pool⟩
      intro twice
      obtain ⟨twin, present, same⟩ := List.mem_map.mp twice
      exact lends.away pool twin present same
    · exact idle.once other
  case apart =>
    intro first second distinct each member twin present
    rcases cases first each member with ⟨isPool, rfl⟩ | old
    · rcases cases second twin present with ⟨alsoPool, -⟩ | known
      · exact absurd (alsoPool.trans isPool.symm) distinct
      · exact lends.away second twin known
    · rcases cases second twin present with ⟨-, rfl⟩ | known
      · exact Ne.symm (lends.away first each old)
      · exact idle.apart first second distinct each old twin known

end Put

/-- What making a pipe does: the pipe is empty and new, and the idle ones stay as they are. -/
structure Makes (world : World) (pool : PipePoolId) (pipe : Pipe) (later : World) : Prop where
  idle : PipesIdle world → PipesIdle later
  lends : PipesIdle world → Lends later pipe.id
  believed : pipe.pending = 0
  empty : later.kernel.held pipe.id = []

theorem held_addPipe (kernel : Kernel) (pipe : PipeId) :
    ({ kernel.tick with pipes := kernel.pipes.add [] } : Kernel).held pipe = kernel.held pipe := by
  rw [Kernel.held, Table.get_add]
  split
  · rename_i new
    rw [Kernel.held, new, Table.get_next]
    rfl
  · rfl

theorem openPipe_ok {world later : World} {pool : PipePoolId} {pipe : Pipe}
    (opened : world.openPipe pool = (.ok pipe, later)) : Makes world pool pipe later := by
  unfold openPipe Kernel.openPipe at opened
  split at opened
  · cases opened
  · rename_i id kernel made
    cases opened
    split at made
    · cases made
    split at made
    · cases made
    cases made
    have next : ({ world.kernel.tick with pipes := world.kernel.pipes.add [] } : Kernel).pipes.next
        = world.kernel.pipes.next + 1 := by
      simp [Table.next, Table.add]
    -- The new pipe is in the kernel before it is counted by its pool.
    have grown : PipesIdle world → PipesIdle { world with
        kernel := { world.kernel.tick with pipes := world.kernel.pipes.add [] } } := by
      intro idle
      refine idle.frame rfl (fun _ _ _ => held_addPipe _ _) ?_
      show _ ≤ Table.next _
      rw [next]
      exact Nat.le_succ _
    constructor
    case idle =>
      intro idle
      exact (grown idle).give_up (List.Sublist.refl _)
    case lends =>
      intro idle
      constructor
      case made =>
        show _ < Table.next _
        rw [next]
        exact Nat.lt_succ_self _
      case away =>
        intro other each member
        have old : each ∈ (world.pipePool other).idle := by
          rw [pipePool, Table.get_update] at member
          split at member
          · rename_i same
            rw [same]
            exact member
          · exact member
        exact Nat.ne_of_lt (idle.made other each old)
    case believed => rfl
    case empty =>
      rw [held_addPipe, Kernel.held, Table.get_next]
      rfl

theorem openPipe_error {world later : World} {pool : PipePoolId} {fault : IoFault}
    (opened : world.openPipe pool = (.error fault, later)) :
    later = { world with kernel := world.kernel.tick } := by
  unfold openPipe Kernel.openPipe at opened
  split at opened
  · rename_i error kernel failed
    cases opened
    split at failed
    · cases failed
      rfl
    · split at failed <;> cases failed
      rfl
  · cases opened

theorem checkoutPipe_ok {world later : World} {pool : PipePoolId} {pipe : Pipe}
    (taken : world.checkoutPipe pool = (.ok pipe, later)) (idle : PipesIdle world) :
    PipesIdle later ∧ Lends later pipe.id ∧ pipe.pending = 0 ∧
      later.kernel.held pipe.id = [] := by
  unfold checkoutPipe at taken
  dsimp only at taken
  split at taken
  · rename_i first rest stock
    cases taken
    have member : pipe ∈ (world.pipePool pool).idle := by
      rw [stock]
      exact List.mem_cons_self
    have fewer : rest.Sublist (world.pipePool pool).idle := by
      rw [stock]
      exact List.sublist_cons_self _ _
    refine ⟨idle.give_up fewer, ⟨idle.made pool pipe member, ?_⟩, idle.believed pool pipe member,
      idle.empty pool pipe member⟩
    intro other each present
    rw [pipePool_put] at present
    split at present
    · have once := idle.once pool
      rw [stock, List.map_cons, List.nodup_cons] at once
      intro same
      exact once.1 (same ▸ List.mem_map_of_mem present)
    · rename_i distinct
      exact idle.apart pool other distinct pipe member each present
  · split at taken
    · cases taken
    · rename_i made world opened
      cases taken
      have makes := openPipe_ok opened
      exact ⟨(makes.idle idle).frame rfl (fun _ _ _ => rfl) (Nat.le_refl _),
        (makes.lends idle).frame rfl (Nat.le_refl _), makes.believed, makes.empty⟩

theorem checkoutPipe_error {world later : World} {pool : PipePoolId} {fault : IoFault}
    (failed : world.checkoutPipe pool = (.error fault, later)) :
    later = { world with kernel := world.kernel.tick } := by
  unfold checkoutPipe at failed
  dsimp only at failed
  split at failed
  · cases failed
  · split at failed <;> cases failed
    rename_i opened
    exact openPipe_error opened

/-- A pipe goes back to the idle ones only when it is empty. -/
theorem PipesIdle.checkinPipe {world : World} (idle : PipesIdle world) (pool : PipePoolId)
    {pipe : Pipe} (lends : Lends world pipe.id)
    (covered : (world.kernel.held pipe.id).length ≤ pipe.pending) :
    PipesIdle (world.checkinPipe pool pipe) := by
  unfold World.checkinPipe
  dsimp only
  split
  · have gone : PipesIdle { world with
        pipePools := world.pipePools.put pool { world.pipePool pool with
          destroyed := (world.pipePool pool).destroyed + 1 } } :=
      idle.give_up (List.Sublist.refl _)
    exact gone.frame rfl (fun _ _ _ => rfl) (Nat.le_refl _)
  · rename_i clean
    have none : pipe.pending = 0 := Decidable.not_not.mp clean
    have empty : world.kernel.held pipe.id = [] := by
      rw [none] at covered
      exact List.length_eq_zero_iff.mp (Nat.le_zero.mp covered)
    split
    · exact idle.take_back lends none empty rfl
    · exact idle.give_up (List.Sublist.refl _)

theorem PipesIdle.prewarmLoop {world : World} (idle : PipesIdle world) (pool : PipePoolId)
    (missing added : Nat) : PipesIdle (world.prewarmLoop pool missing added).2 := by
  induction missing generalizing world added with
  | zero => exact idle
  | succ missing ih =>
    rw [World.prewarmLoop]
    split
    · rename_i later failed
      rw [openPipe_error failed]
      exact idle.frame rfl (fun _ _ _ => rfl) (Nat.le_refl _)
    · rename_i pipe later opened
      have makes := openPipe_ok opened
      exact ih ((makes.idle idle).take_back (makes.lends idle) makes.believed makes.empty rfl) _

theorem PipesIdle.prewarmPipes {world : World} (idle : PipesIdle world) (pool : PipePoolId)
    (wanted : Nat) : PipesIdle (world.prewarmPipes pool wanted).2 :=
  idle.prewarmLoop pool _ _

theorem PipesIdle.addPipePool {world : World} (idle : PipesIdle world) (maxIdle : Nat) :
    PipesIdle (world.addPipePool maxIdle) := by
  have same : ∀ pool, ((world.addPipePool maxIdle).pipePool pool).idle =
      (world.pipePool pool).idle := by
    intro pool
    rw [pipePool, World.addPipePool, Table.get_add]
    split
    · rename_i new
      rw [pipePool, new, Table.get_next]
      rfl
    · rfl
  constructor
  all_goals simp only [same]
  case believed => exact idle.believed
  case empty => exact idle.empty
  case made => exact idle.made
  case once => exact idle.once
  case apart => exact idle.apart

end World

end Conduit
