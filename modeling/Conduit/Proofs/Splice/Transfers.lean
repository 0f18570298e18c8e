import Conduit.Proofs.Splice.Accounts
import Mathlib.Logic.Relation

set_option autoImplicit false

namespace Conduit

/-- What a transfer did: it moved `drawn` out of its source and `given`, the first of these bytes,
into its destination, and counted what it gave. -/
structure SpliceOutcome.Balances (source destination : Fd) (counters : CounterSet)
    (maxChunk copied : Nat) (drawn given : Bytes) (world : World) (outcome : SpliceOutcome) :
    Prop where
  world : World.Splices source destination counters drawn given world outcome.world
  idle : outcome.world.PipesIdle
  order : given <+: drawn
  copied : outcome.copied = copied + given.length
  /-- Without a fault nothing is left behind. -/
  whole : ∀ spliced, outcome.result = .ok spliced → given = drawn
  ended : outcome.result = .ok .done → outcome.world.kernel.incoming source = []

/-- A transfer through empty pipes balances and leaves them empty. -/
theorem spliceCopy_balances {calls : Nat} {pool : PipePoolId} {source destination : Fd}
    {counters : CounterSet} {maxChunk copied : Nat} {world : World} {outcome : SpliceOutcome}
    (idle : world.PipesIdle)
    (ended : spliceCopy calls pool source destination counters maxChunk copied world =
      some outcome) :
    ∃ drawn given,
      outcome.Balances source destination counters maxChunk copied drawn given world := by
  unfold spliceCopy at ended
  split at ended
  · rename_i fault later failed
    cases ended
    have moved : World.Splices source destination counters [] [] world later :=
      World.checkoutPipe_splices failed
    refine ⟨[], [], moved.trans (.notice _ _), ?_, List.nil_prefix, rfl, fun _ _ => rfl,
      fun done => nomatch done⟩
    rw [World.checkoutPipe_error failed]
    exact idle.frame rfl (fun _ _ _ => rfl) (Nat.le_refl _)
  · rename_i pipe later taken
    obtain ⟨clean, lends, -, empty⟩ := World.checkoutPipe_ok taken idle
    have begun : World.Splices source destination counters [] [] world later :=
      World.checkoutPipe_splices taken
    split at ended
    · cases ended
    · rename_i result piping ends
      cases ended
      obtain ⟨passage, concludes⟩ := Piping.chunks_concludes ends empty
      have accounts := concludes.accounts
      have split : passage.drawn = passage.removed ++ piping.held := by
        have flow := accounts.held_eq
        rwa [show Piping.held ⟨pipe, copied, later⟩ = [] from empty, List.nil_append] at flow
      have back : World.Splices source destination counters [] [] piping.world
          (piping.world.checkinPipe pool piping.pipe) := World.checkinPipe_splices _ _ _
      have all := (begun.trans accounts.world).trans back
      simp only [List.nil_append, List.append_nil] at all
      refine ⟨passage.drawn, passage.given, all, ?_, ?_, accounts.copied, concludes.whole, ?_⟩
      · have others : piping.world.PipesIdle := by
          refine clean.frame accounts.pipePools ?_ accounts.kernel.made
          exact fun other each member =>
            accounts.kernel.others each.id (lends.away other each member)
        have lent : piping.world.Lends piping.pipe.id := by
          rw [accounts.pipe]
          exact lends.frame accounts.pipePools accounts.kernel.made
        exact others.checkinPipe pool lent concludes.covered
      · exact concludes.part.trans ⟨piping.held, split.symm⟩
      · intro done
        have rest := concludes.ended done (by omega)
        have same := back.kernel.incoming source
        rw [ite_self, List.nil_append, rest] at same
        exact same.symm

namespace World

/-- Something happened that may concern pipes: a transfer, with whatever ends and settings, or an
operation on a pool of pipes. Anything else leaves pipes and pools of pipes as they are. -/
inductive PipeUse : World → World → Prop where
  | transfer {calls : Nat} {pool : PipePoolId} {source destination : Fd} {counters : CounterSet}
      {maxChunk copied : Nat} {world : World} {outcome : SpliceOutcome}
      (ended : spliceCopy calls pool source destination counters maxChunk copied world =
        some outcome) : PipeUse world outcome.world
  | prewarm (world : World) (pool : PipePoolId) (wanted : Nat) :
      PipeUse world (world.prewarmPipes pool wanted).2
  | newPool (world : World) (maxIdle : Nat) : PipeUse world (world.addPipePool maxIdle)
  | elsewhere {world later : World} (pools : later.pipePools = world.pipePools)
      (pipes : later.kernel.pipes = world.kernel.pipes) : PipeUse world later

/-- One use of a pool leaves its idle pipes empty. -/
theorem PipeUse.idle {world later : World} (used : PipeUse world later) (idle : world.PipesIdle) :
    later.PipesIdle := by
  cases used with
  | transfer ended =>
    obtain ⟨drawn, given, balances⟩ := spliceCopy_balances idle ended
    exact balances.idle
  | prewarm => exact idle.prewarmPipes _ _
  | newPool => exact idle.addPipePool _
  | elsewhere pools pipes =>
    refine idle.frame pools (fun _ pipe _ => ?_) (Nat.le_of_eq (by rw [pipes]))
    rw [Kernel.held, Kernel.held, pipes]

theorem PipesIdle.uses {world later : World} (idle : world.PipesIdle)
    (used : Relation.ReflTransGen PipeUse world later) : later.PipesIdle := by
  induction used with
  | refl => exact idle
  | tail _ last ih => exact last.idle ih

end World

/-- After any history of pools of pipes every idle pipe is empty, and however the next transfer
ends, what reached its destination is the next bytes of its own source. Their number is what the
transfer adds to the copy and what it calls each counter with, and after a transfer without a fault
they are all that was taken from the source. -/
theorem spliceCopy_accounts {start world : World}
    (fresh : ∀ pool, (start.pipePool pool).idle = [])
    (history : Relation.ReflTransGen World.PipeUse start world) :
    (∀ pool, ∀ pipe ∈ (world.pipePool pool).idle, world.kernel.held pipe.id = []) ∧
      ∀ (calls : Nat) (pool : PipePoolId) (source destination : Fd) (counters : CounterSet)
        (maxChunk copied : Nat) (outcome : SpliceOutcome),
        spliceCopy calls pool source destination counters maxChunk copied world = some outcome →
        ∃ drawn given,
          (∀ fd, world.kernel.incoming fd =
            (if fd = source then drawn else []) ++ outcome.world.kernel.incoming fd) ∧
          (∀ fd, outcome.world.kernel.received fd =
            world.kernel.received fd ++ if fd = destination then given else []) ∧
          given <+: drawn ∧
          outcome.copied = copied + given.length ∧
          (∀ counter, outcome.world.tally counter = world.tally counter +
            (counters.read.count counter + counters.write.count counter) * given.length) ∧
          (∀ spliced, outcome.result = .ok spliced → given = drawn) ∧
          ∀ pool, ∀ pipe ∈ (outcome.world.pipePool pool).idle,
            outcome.world.kernel.held pipe.id = [] := by
  have idle : world.PipesIdle := (World.PipesIdle.of_idle_nil fresh).uses history
  refine ⟨idle.empty, ?_⟩
  intro calls pool source destination counters maxChunk copied outcome ended
  obtain ⟨drawn, given, balances⟩ := spliceCopy_balances idle ended
  exact ⟨drawn, given, balances.world.kernel.incoming, balances.world.kernel.received,
    balances.order, balances.copied, balances.world.tally, balances.whole, balances.idle.empty⟩

namespace Sample

/-- A kernel that moves two bytes at a time and breaks the second write out of a pipe. -/
def pipedKernel : Kernel where
  descriptors := ⟨[.delivering [1, 2, 3, 4, 5], .file [], .delivering [7, 8]]⟩
  pipes := .empty
  exhausted := false
  calls := 0
  verdict number call :=
    if number = 4 ∧ call = .spliceOut then .refuses .brokenPipe else .grants 2

def pipedWorld : World := { World.initial with kernel := pipedKernel }.addPipePool 2

/-- A transfer that ends with two bytes in its pipe. -/
def stranding : Option SpliceOutcome :=
  spliceCopy 20 0 0 1 ⟨[], [⟨"sent"⟩]⟩ 2 0 pipedWorld

/-- A transfer between other descriptors, in the world that the first one left. -/
def following : Option SpliceOutcome :=
  stranding.bind fun first => spliceCopy 20 0 2 1 ⟨[], [⟨"sent"⟩]⟩ 2 0 first.world

end Sample

/-- The pipe with the stranded bytes is not used again: the second transfer delivers two bytes of
its own. -/
theorem spliceCopy_accounts_sample :
    ∃ first second, Sample.stranding = some first ∧ Sample.following = some second ∧
      (∀ pool, ∀ pipe ∈ (first.world.pipePool pool).idle,
        first.world.kernel.held pipe.id = []) ∧
      ∃ drawn given, given.length = 2 ∧ given <+: drawn ∧
        second.world.kernel.received 1 = first.world.kernel.received 1 ++ given ∧
        [7, 8] = drawn ++ second.world.kernel.incoming 2 := by
  have ends : Sample.following.map
      (fun second => (second.copied, second.result.toOption.isSome)) = some (2, true) := by cbv
  have stays : Sample.stranding.map (fun first => first.world.kernel.incoming 2) =
      some [7, 8] := by cbv
  have fresh : ∀ pool, (Sample.pipedWorld.pipePool pool).idle = [] := by
    intro pool
    cases pool <;> rfl
  obtain ⟨second, again, counted⟩ := Option.map_eq_some_iff.mp ends
  obtain ⟨first, once, next⟩ := Option.bind_eq_some_iff.mp again
  rw [once, Option.map_some, Option.some.injEq] at stays
  obtain ⟨clean, transfers⟩ := spliceCopy_accounts fresh (.single (.transfer once))
  obtain ⟨drawn, given, took, gave, order, copied, -⟩ := transfers _ _ _ _ _ _ _ _ next
  have two : second.copied = 2 := (Prod.mk.inj counted).1
  refine ⟨first, second, once, again, clean, drawn, given, by omega, order, gave 1, ?_⟩
  rw [← stays]
  exact took 2

end Conduit
