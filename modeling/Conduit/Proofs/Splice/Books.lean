import Conduit.Proofs.Splice.Transfers
import Conduit.Settings.Basic
import Mathlib.Data.Multiset.ZeroCons

set_option autoImplicit false

namespace Conduit

namespace PipePool

variable (row : PipePool)

def lend : PipePool :=
  match row.idle with
  | [] => { row with created := row.created + 1 }
  | _ :: rest => { row with idle := rest, reused := row.reused + 1 }

/-- The row of a pool that gets a pipe back, and keeps it if it is empty and there is room. -/
def receive (pipe : Pipe) : PipePool :=
  if pipe.pending = 0 ∧ row.idle.length < row.maxIdle then
    { row with idle := pipe :: row.idle, recycled := row.recycled + 1 }
  else { row with destroyed := row.destroyed + 1 }

/-- The row of a pool for which pipes were made that nobody asked for yet, the last one first. -/
def stock (pipes : List Pipe) : PipePool :=
  { row with idle := pipes ++ row.idle, created := row.created + pipes.length }

@[simp] theorem stock_nil : row.stock [] = row := rfl

theorem stock_stock (first second : List Pipe) :
    (row.stock first).stock second = row.stock (second ++ first) := by
  simp only [stock, List.append_assoc, List.length_append, PipePool.mk.injEq, true_and, and_true]
  omega

@[simp] theorem length_idle_stock (pipes : List Pipe) :
    (row.stock pipes).idle.length = pipes.length + row.idle.length :=
  List.length_append

end PipePool

namespace World

variable {world middle later : World} {pool : PipePoolId}

theorem openPipe_counts {pipe : Pipe} (opened : world.openPipe pool = (.ok pipe, later)) :
    later.pipePools =
        world.pipePools.update pool (fun row => { row with created := row.created + 1 }) ∧
      later.kernel.pipes.next = world.kernel.pipes.next + 1 := by
  unfold openPipe Kernel.openPipe at opened
  split at opened
  · cases opened
  · rename_i id kernel made
    cases opened
    split at made
    · cases made
    split at made <;> cases made
    refine ⟨rfl, ?_⟩
    simp [Table.next, Table.add]

theorem checkoutPipe_lends {pipe : Pipe} (taken : world.checkoutPipe pool = (.ok pipe, later)) :
    later.pipePool pool = (world.pipePool pool).lend := by
  unfold checkoutPipe at taken
  dsimp only at taken
  rw [PipePool.lend]
  split
  · rename_i none
    rw [none] at taken
    dsimp only at taken
    split at taken <;> cases taken
    rename_i middle opened
    have rows := (openPipe_counts opened).1
    show middle.pipePools.get pool = _
    rw [rows, Table.get_update, if_pos rfl, pipePool]
  · rename_i first rest some
    rw [some] at taken
    cases taken
    exact Table.get_put_same world.pipePools pool _

theorem checkinPipe_receives (world : World) (pool : PipePoolId) (pipe : Pipe) :
    (world.checkinPipe pool pipe).pipePool pool = (world.pipePool pool).receive pipe := by
  rw [checkinPipe, PipePool.receive]
  by_cases clean : pipe.pending = 0
  · by_cases room : (world.pipePool pool).idle.length < (world.pipePool pool).maxIdle
    all_goals
      simp only [clean, room, ne_eq, not_true_eq_false, if_true, if_false, and_true, and_false]
      exact Table.get_put_same world.pipePools pool _
  · simp only [clean, ne_eq, not_false_eq_true, if_true, if_false, false_and]
    exact Table.get_put_same world.pipePools pool _

/-- Idle pipes were made for one pool, and the others stayed as they were. -/
structure Stocks (world : World) (pool : PipePoolId) (pipes : List Pipe) (later : World) :
    Prop where
  row : later.pipePool pool = (world.pipePool pool).stock pipes
  others : ∀ other, other ≠ pool → later.pipePool other = world.pipePool other
  made : later.kernel.pipes.next = world.kernel.pipes.next + pipes.length

namespace Stocks

theorem nothing (pipePools : later.pipePools = world.pipePools)
    (pipes : later.kernel.pipes = world.kernel.pipes) : Stocks world pool [] later where
  row := by rw [pipePool, pipePool, pipePools, PipePool.stock_nil]
  others := fun _ _ => by rw [pipePool, pipePool, pipePools]
  made := by rw [pipes, List.length_nil, Nat.add_zero]

theorem trans {first second : List Pipe} (front : Stocks world pool first middle)
    (back : Stocks middle pool second later) : Stocks world pool (second ++ first) later where
  row := by rw [back.row, front.row, PipePool.stock_stock]
  others := fun other apart => (back.others other apart).trans (front.others other apart)
  made := by
    rw [back.made, front.made, List.length_append]
    omega

/-- One more pipe is made, and put with the idle ones. -/
theorem one {pipe : Pipe} (opened : world.openPipe pool = (.ok pipe, later)) :
    Stocks world pool [pipe] { later with
      pipePools := later.pipePools.update pool
        fun row => { row with idle := pipe :: row.idle } } := by
  obtain ⟨rows, made⟩ := openPipe_counts opened
  refine ⟨?_, ?_, made⟩
  · rw [pipePool, Table.get_update, if_pos rfl, rows, Table.get_update, if_pos rfl]
    rfl
  · intro other apart
    rw [pipePool, Table.get_update, if_neg apart, rows, Table.get_update, if_neg apart]
    rfl

end Stocks

/-- However making pipes in advance ends, the pipes made until then stay. -/
theorem prewarmLoop_stocks (world : World) (pool : PipePoolId) (missing added : Nat) :
    ∃ pipes, Stocks world pool pipes (world.prewarmLoop pool missing added).2 ∧
      match (world.prewarmLoop pool missing added).1 with
      | .ok total => pipes.length = missing ∧ total = added + missing
      | .error _ => pipes.length < missing := by
  induction missing generalizing world added with
  | zero => exact ⟨[], .nothing rfl rfl, rfl, rfl⟩
  | succ missing ih =>
    rw [prewarmLoop]
    split
    · rename_i fault later failed
      rw [openPipe_error failed]
      exact ⟨[], .nothing rfl rfl, Nat.succ_pos missing⟩
    · rename_i pipe middle opened
      obtain ⟨pipes, stocks, ended⟩ := ih { middle with
        pipePools := middle.pipePools.update pool fun row => { row with idle := pipe :: row.idle } }
        (added + 1)
      refine ⟨pipes ++ [pipe], (Stocks.one opened).trans stocks, ?_⟩
      rw [List.length_append, List.length_singleton]
      revert ended
      split
      · rintro ⟨count, total⟩
        exact ⟨by omega, by omega⟩
      · exact Nat.succ_lt_succ

/-- What making pipes in advance does. Without a fault as many pipes lie idle as were asked for or
as the pool keeps, unless there were more, and the answer is how many were made. With a fault there
are too few, and those made until then stay. -/
structure Prewarms (world : World) (pool : PipePoolId) (wanted : Nat) (pipes : List Pipe)
    (result : Except IoFault Nat) (later : World) : Prop where
  stocks : Stocks world pool pipes later
  ok : ∀ added, result = .ok added →
    (world.pipePool pool).idle.length + added = (later.pipePool pool).idle.length ∧
      (later.pipePool pool).idle.length =
        max (world.pipePool pool).idle.length (min wanted (world.pipePool pool).maxIdle)
  failed : ∀ fault, result = .error fault →
    (later.pipePool pool).idle.length < min wanted (world.pipePool pool).maxIdle

theorem prewarmPipes_prewarms {wanted : Nat} {result : Except IoFault Nat}
    (ended : world.prewarmPipes pool wanted = (result, later)) :
    ∃ pipes, Prewarms world pool wanted pipes result later := by
  rw [prewarmPipes] at ended
  obtain ⟨pipes, stocks, ends⟩ := world.prewarmLoop_stocks pool
    (min wanted (world.pipePool pool).maxIdle - (world.pipePool pool).idle.length) 0
  rw [ended] at stocks ends
  have idle : (later.pipePool pool).idle.length =
      pipes.length + (world.pipePool pool).idle.length := by
    rw [stocks.row, PipePool.length_idle_stock]
  refine ⟨pipes, stocks, ?_, ?_⟩
  · rintro added rfl
    obtain ⟨count, total⟩ := ends
    omega
  · rintro fault rfl
    dsimp only at ends
    omega

theorem Prewarms.within {wanted : Nat} {pipes : List Pipe} {result : Except IoFault Nat}
    (prewarms : Prewarms world pool wanted pipes result later)
    (within : (world.pipePool pool).idle.length ≤ (world.pipePool pool).maxIdle) :
    (later.pipePool pool).idle.length ≤ (world.pipePool pool).maxIdle := by
  cases result with
  | ok added =>
    obtain ⟨-, full⟩ := prewarms.ok added rfl
    omega
  | error fault =>
    have few := prewarms.failed fault rfl
    omega

end World

/-- A pool of pipes at work. -/
structure PipeDesk where
  world : World
  /-- The pipes that are checked out. -/
  out : Multiset Pipe
  /-- Checkouts that were given a pipe. -/
  served : Nat
  /-- Pipes made in advance. -/
  prewarmed : Nat
  /-- Pipes that came back. -/
  returned : Nat

namespace PipeDesk

/-- A pool that was made just now. -/
def opened (settings : SpliceSettings) (world : World) : PipeDesk :=
  ⟨world.addPipePool settings.maxIdlePipes, 0, 0, 0, 0⟩

def lend (desk : PipeDesk) (pipe : Pipe) (world : World) : PipeDesk :=
  { desk with world, out := pipe ::ₘ desk.out, served := desk.served + 1 }

/-- A pool that got a pipe back while others stay out. -/
def takeBack (desk : PipeDesk) (pool : PipePoolId) (pipe : Pipe) (others : Multiset Pipe) :
    PipeDesk :=
  { desk with
    world := desk.world.checkinPipe pool pipe, out := others, returned := desk.returned + 1 }

/-- A pool for which pipes are made in advance, all of them or as many as can be made. -/
def prewarm (desk : PipeDesk) (pool : PipePoolId) (wanted : Nat) : PipeDesk :=
  let later := (desk.world.prewarmPipes pool wanted).2
  { desk with
    world := later
    prewarmed := desk.prewarmed + (later.kernel.pipes.next - desk.world.kernel.pipes.next) }

/-- What can happen to a pool of pipes. -/
inductive Step (pool : PipePoolId) : PipeDesk → PipeDesk → Prop where
  | checkout {desk : PipeDesk} {pipe : Pipe} {later : World}
    (taken : desk.world.checkoutPipe pool = (.ok pipe, later)) :
    Step pool desk (desk.lend pipe later)
  /-- No pipe lies idle and none can be made. -/
  | refused {desk : PipeDesk} {fault : IoFault} {later : World}
    (failed : desk.world.checkoutPipe pool = (.error fault, later)) :
    Step pool desk { desk with world := later }
  /-- Bytes go through a pipe that is checked out, and some may stay in it. -/
  | use {desk : PipeDesk} {pipe : Pipe} {others : Multiset Pipe} (pending : Nat)
    (lent : desk.out = pipe ::ₘ others) :
    Step pool desk { desk with out := { pipe with pending } ::ₘ others }
  | putBack {desk : PipeDesk} {pipe : Pipe} {others : Multiset Pipe}
    (lent : desk.out = pipe ::ₘ others) :
    Step pool desk (desk.takeBack pool pipe others)
  | prewarm (desk : PipeDesk) (wanted : Nat) : Step pool desk (desk.prewarm pool wanted)
  /-- Something happens that does not concern the pool. -/
  | elsewhere {desk : PipeDesk} {later : World}
    (same : later.pipePool pool = desk.world.pipePool pool) :
    Step pool desk { desk with world := later }

/-- The books agree with what happened. -/
structure Balanced (maxIdle : Nat) (pool : PipePoolId) (desk : PipeDesk) : Prop where
  limit : (desk.world.pipePool pool).maxIdle = maxIdle
  within : (desk.world.pipePool pool).idle.length ≤ maxIdle
  /-- Where the pipes are that were made. -/
  made : (desk.world.pipePool pool).created =
    (desk.world.pipePool pool).idle.length + desk.out.card + (desk.world.pipePool pool).destroyed
  /-- Where the pipes came from that were given out or made in advance. -/
  given : desk.served + desk.prewarmed =
    (desk.world.pipePool pool).created + (desk.world.pipePool pool).reused
  ended : (desk.world.pipePool pool).recycled + (desk.world.pipePool pool).destroyed =
    desk.returned

section Balanced

variable {maxIdle : Nat} {pool : PipePoolId} {desk : PipeDesk}

theorem balanced_opened (settings : SpliceSettings) (world : World) :
    Balanced settings.maxIdlePipes world.pipePools.next (opened settings world) := by
  have row : (opened settings world).world.pipePool world.pipePools.next =
      .new settings.maxIdlePipes := by
    rw [opened, World.addPipePool, World.pipePool, Table.get_add, if_pos rfl]
  constructor
  all_goals rw [row]
  case within => exact Nat.zero_le _
  all_goals rfl

theorem Balanced.of_row (balanced : Balanced maxIdle pool desk) {world : World}
    (same : world.pipePool pool = desk.world.pipePool pool) :
    Balanced maxIdle pool { desk with world } := by
  constructor
  all_goals simp only [same]
  case limit => exact balanced.limit
  case within => exact balanced.within
  case made => exact balanced.made
  case given => exact balanced.given
  case ended => exact balanced.ended

theorem Balanced.lend (balanced : Balanced maxIdle pool desk) {world : World} {pipe : Pipe}
    (row : world.pipePool pool = (desk.world.pipePool pool).lend) :
    Balanced maxIdle pool (desk.lend pipe world) := by
  obtain ⟨limit, within, made, given, ended⟩ := balanced
  rw [PipePool.lend] at row
  rw [PipeDesk.lend]
  cases idle : (desk.world.pipePool pool).idle with
  | nil =>
    simp only [idle, List.length_nil] at row within made
    constructor <;> simp only [row, List.length_nil, Multiset.card_cons] <;> omega
  | cons first rest =>
    simp only [idle, List.length_cons] at row within made
    constructor <;> simp only [row, Multiset.card_cons] <;> omega

theorem Balanced.takeBack (balanced : Balanced maxIdle pool desk) {pipe : Pipe}
    {others : Multiset Pipe} (lent : desk.out = pipe ::ₘ others) :
    Balanced maxIdle pool (desk.takeBack pool pipe others) := by
  obtain ⟨limit, within, made, given, ended⟩ := balanced
  rw [lent, Multiset.card_cons] at made
  have row := desk.world.checkinPipe_receives pool pipe
  rw [PipePool.receive] at row
  rw [PipeDesk.takeBack]
  split at row
  · constructor <;> simp only [row, List.length_cons] <;> omega
  · constructor <;> simp only [row] <;> omega

theorem Balanced.stock (balanced : Balanced maxIdle pool desk) {world : World} {pipes : List Pipe}
    (stocks : desk.world.Stocks pool pipes world)
    (room : (world.pipePool pool).idle.length ≤ maxIdle) :
    Balanced maxIdle pool { desk with
      world, prewarmed := desk.prewarmed + pipes.length } := by
  obtain ⟨limit, within, made, given, ended⟩ := balanced
  rw [stocks.row, PipePool.length_idle_stock] at room
  constructor <;> simp only [stocks.row, PipePool.stock, List.length_append] <;> omega

end Balanced

theorem Step.balanced {maxIdle : Nat} {pool : PipePoolId} {desk later : PipeDesk}
    (step : Step pool desk later) (balanced : Balanced maxIdle pool desk) :
    Balanced maxIdle pool later := by
  cases step with
  | checkout taken => exact balanced.lend (World.checkoutPipe_lends taken)
  | refused failed =>
    refine balanced.of_row ?_
    rw [World.checkoutPipe_error failed]
    rfl
  | use pending lent =>
    obtain ⟨limit, within, made, given, ended⟩ := balanced
    rw [lent, Multiset.card_cons] at made
    refine ⟨limit, within, ?_, given, ended⟩
    rw [Multiset.card_cons]
    exact made
  | putBack lent => exact balanced.takeBack lent
  | prewarm wanted =>
    obtain ⟨pipes, prewarms⟩ :=
      World.prewarmPipes_prewarms (Prod.eta (desk.world.prewarmPipes pool wanted)).symm
    rw [PipeDesk.prewarm, prewarms.stocks.made, Nat.add_sub_cancel_left]
    obtain rfl := balanced.limit
    exact balanced.stock prewarms.stocks (prewarms.within balanced.within)
  | elsewhere same => exact balanced.of_row same

theorem Balanced.run {maxIdle : Nat} {pool : PipePoolId} {desk later : PipeDesk}
    (balanced : Balanced maxIdle pool desk) (run : Relation.ReflTransGen (Step pool) desk later) :
    Balanced maxIdle pool later := by
  induction run with
  | refl => exact balanced
  | tail _ last ih => exact last.balanced ih

/-- A splice takes a pipe and gives it back, if it gets one at all. -/
theorem spliceCopy_runs {calls : Nat} {pool : PipePoolId} {source destination : Fd}
    {counters : CounterSet} {maxChunk copied : Nat} {desk : PipeDesk} {outcome : SpliceOutcome}
    (idle : desk.world.PipesIdle)
    (ended : spliceCopy calls pool source destination counters maxChunk copied desk.world =
      some outcome) :
    ∃ later, Relation.ReflTransGen (Step pool) desk later ∧ later.world = outcome.world ∧
      later.out = desk.out ∧ later.prewarmed = desk.prewarmed := by
  unfold spliceCopy at ended
  split at ended
  · rename_i fault world failed
    cases ended
    have asked : Step pool desk { desk with world } := .refused failed
    have noticed : Step pool { desk with world }
        { desk with world := world.notice (.fallback fault.message 0) } := .elsewhere rfl
    exact ⟨_, .tail (.single asked) noticed, rfl, rfl, rfl⟩
  · rename_i pipe world taken
    obtain ⟨-, -, -, empty⟩ := World.checkoutPipe_ok taken idle
    split at ended
    · cases ended
    · rename_i result piping ends
      cases ended
      obtain ⟨passage, concludes⟩ := Piping.chunks_concludes ends empty
      have accounts := concludes.accounts
      have used : Step pool (desk.lend pipe world) (desk.lend piping.pipe world) := by
        rw [show piping.pipe = ⟨pipe.id, piping.pipe.pending⟩ by rw [← accounts.pipe]]
        exact .use piping.pipe.pending rfl
      have moved : Step pool (desk.lend piping.pipe world) (desk.lend piping.pipe piping.world) :=
        .elsewhere (congrArg (Table.get · pool) accounts.pipePools)
      exact ⟨_, (((Relation.ReflTransGen.single (.checkout taken)).tail used).tail moved).tail
        (.putBack rfl), rfl, rfl, rfl⟩

end PipeDesk

/-- However pipes were checked out, used, put back and made in advance, with whatever failures in
between, the books of their pool balance: every pipe that was made lies idle, is checked out or was
given up, every pipe given out or made in advance was made or reused, and every pipe that came back
was kept or given up. No more lie idle than the pool keeps. A checkout that fails changes no pool,
and making pipes in advance counts and keeps those that it made, also when it fails; if it does not,
it fills the pool up to what was asked for and says how many pipes that took. -/
theorem pipe_books_balance (settings : SpliceSettings) (start : World) {desk : PipeDesk}
    (run : Relation.ReflTransGen (PipeDesk.Step start.pipePools.next) (.opened settings start)
      desk) :
    let pool := start.pipePools.next
    let row := desk.world.pipePool pool
    row.idle.length ≤ settings.maxIdlePipes ∧
      row.created = row.idle.length + desk.out.card + row.destroyed ∧
      desk.served + desk.prewarmed = row.created + row.reused ∧
      row.recycled + row.destroyed = desk.returned ∧
      (∀ fault later, desk.world.checkoutPipe pool = (.error fault, later) →
        later.pipePools = desk.world.pipePools ∧
          later.kernel.pipes = desk.world.kernel.pipes) ∧
      ∀ wanted result later, desk.world.prewarmPipes pool wanted = (result, later) →
        ∃ pipes, later.pipePool pool = row.stock pipes ∧
          (∀ other, other ≠ pool → later.pipePool other = desk.world.pipePool other) ∧
          later.kernel.pipes.next = desk.world.kernel.pipes.next + pipes.length ∧
          (∀ added, result = .ok added →
            row.idle.length + added = (later.pipePool pool).idle.length ∧
              (later.pipePool pool).idle.length =
                max row.idle.length (min wanted settings.maxIdlePipes)) ∧
          ∀ fault, result = .error fault →
            (later.pipePool pool).idle.length < min wanted settings.maxIdlePipes := by
  intro pool row
  have balanced := (PipeDesk.balanced_opened settings start).run run
  refine ⟨balanced.within, balanced.made, balanced.given, balanced.ended, ?_, ?_⟩
  · intro fault later failed
    rw [World.checkoutPipe_error failed]
    exact ⟨rfl, rfl⟩
  · intro wanted result later ended
    obtain ⟨pipes, stocks, ok, failed⟩ := World.prewarmPipes_prewarms ended
    rw [balanced.limit] at ok failed
    exact ⟨pipes, stocks.row, stocks.others, stocks.made, ok, failed⟩

namespace Sample

/-- Two pipes may lie idle. -/
def narrowSplicing : SpliceSettings := ⟨true, 65536, 65536, 2⟩

/-- A world in which the second pipe cannot be made. -/
def reluctantWorld : World :=
  { World.initial with kernel := { Kernel.generous with
    verdict number _ := if number = 1 then .refuses .tooManyOpenFiles else .grants 1 } }

/-- One pipe was made in advance, and then none could be made. -/
def warmDesk : PipeDesk := (PipeDesk.opened narrowSplicing reluctantWorld).prewarm 0 5

/-- The pipe was used, and came back with bytes in it. -/
def soiledDesk : PipeDesk :=
  (warmDesk.lend ⟨0, 0⟩ (warmDesk.world.checkoutPipe 0).2).takeBack 0 ⟨0, 3⟩ 0

end Sample

/-- The only pipe that was made is lost; then the pool is filled with two others. -/
theorem pipe_books_balance_sample :
    Relation.ReflTransGen (PipeDesk.Step 0)
        (.opened Sample.narrowSplicing Sample.reluctantWorld) Sample.soiledDesk ∧
      (Sample.soiledDesk.world.pipePool 0).created =
        0 + 0 + (Sample.soiledDesk.world.pipePool 0).destroyed ∧
      1 + 1 = (Sample.soiledDesk.world.pipePool 0).created +
        (Sample.soiledDesk.world.pipePool 0).reused ∧
      (Sample.soiledDesk.world.pipePool 0).recycled +
        (Sample.soiledDesk.world.pipePool 0).destroyed = 1 ∧
      (Sample.soiledDesk.world.prewarmPipes 0 5).1 = .ok 2 ∧
      ((Sample.soiledDesk.world.prewarmPipes 0 5).2.pipePool 0).idle.length = 2 := by
  have taken : Sample.warmDesk.world.checkoutPipe 0 =
      (.ok ⟨0, 0⟩, (Sample.warmDesk.world.checkoutPipe 0).2) := Prod.ext rfl rfl
  have out : (Sample.warmDesk.lend ⟨0, 0⟩ (Sample.warmDesk.world.checkoutPipe 0).2).out =
      ⟨0, 0⟩ ::ₘ 0 := rfl
  have used : PipeDesk.Step 0
      (Sample.warmDesk.lend ⟨0, 0⟩ (Sample.warmDesk.world.checkoutPipe 0).2)
      (Sample.warmDesk.lend ⟨0, 3⟩ (Sample.warmDesk.world.checkoutPipe 0).2) := .use 3 out
  have back : PipeDesk.Step 0
      (Sample.warmDesk.lend ⟨0, 3⟩ (Sample.warmDesk.world.checkoutPipe 0).2) Sample.soiledDesk :=
    .putBack rfl
  have run := (((Relation.ReflTransGen.single (.prewarm _ 5)).tail (.checkout taken)).tail
    used).tail back
  obtain ⟨-, made, given, ended, -, prewarms⟩ :=
    pipe_books_balance Sample.narrowSplicing Sample.reluctantWorld run
  have result : (Sample.soiledDesk.world.prewarmPipes 0 5).1 = .ok 2 := by rfl
  obtain ⟨_, -, -, -, full, -⟩ := prewarms 5 _ _ (Prod.ext result rfl)
  exact ⟨run, made, given, ended, result, (full 2 rfl).2⟩

end Conduit
