import Conduit.Proofs.Source.Replay

set_option autoImplicit false

namespace Conduit

namespace Source

open Layer

variable {ρ : Type}

/-- No cache layer lies outermost. -/
def Bare : Source ρ → Prop
  | .cached _ _ _ => False
  | _ => True

/-- Two sources are alike but for layers that were read out and wait with nothing, which the second
one lacks. -/
inductive Slims : Source ρ → Source ρ → Prop where
  | same (source : Source ρ) : Slims source source
  | idle {inner other : Source ρ} (slims : Slims inner other) :
    Slims (.cached none none inner) other
  | layer (buffer : Option SharedId) (deferred : Option IoFault) {inner other : Source ρ}
    (slims : Slims inner other) :
    Slims (.cached buffer deferred inner) (.cached buffer deferred other)

theorem pickAll_bare {live : Source ρ} (bare : live.Bare) (world : World) :
    live.pickAll world = (live, [], world) := by
  cases live with
  | cached => exact bare.elim
  | peer | descriptor | buffer | counted | plain => rfl

theorem pickAll_quiet {live : Source ρ} (bare : live.Bare) {layers : List Layer} (world : World)
    (filled : ∀ handle ∈ buffers layers, world.stores.held handle ≠ [])
    (quiet : faults layers = []) :
    (live.behind layers).pickAll world = (live, buffers layers, world) := by
  induction layers with
  | nil => exact pickAll_bare bare world
  | cons layer rest ih =>
    obtain ⟨buffer, deferred⟩ := layer
    obtain ⟨here, beneath⟩ := List.append_eq_nil_iff.mp quiet
    cases deferred with
    | some fault => cases here
    | none =>
      cases buffer with
      | none => exact ih filled beneath
      | some handle =>
        have still : ¬ (world.shared handle).isEmpty = true := by
          rw [Buffer.isEmpty, List.isEmpty_iff]
          exact filled handle List.mem_cons_self
        have others := ih (fun other inside => filled other (List.mem_cons_of_mem handle inside))
          beneath
        rw [behind, pickAll, if_neg still, others]
        rfl

/-- Idle layers vanish on the way to a fault that waits. -/
theorem pickAll_parked (live : Source ρ) {layers : List Layer} {fault : IoFault} (world : World)
    (empty : buffers layers = []) (parked : faults layers = [fault]) :
    ∃ rest, (live.behind layers).pickAll world =
        (live.behind (⟨none, some fault⟩ :: rest), [], world) ∧
      buffers rest = [] ∧ faults rest = [] ∧
      (live.behind layers).Slims (live.behind (⟨none, some fault⟩ :: rest)) := by
  induction layers with
  | nil => cases parked
  | cons layer rest ih =>
    obtain ⟨buffer, deferred⟩ := layer
    cases buffer with
    | some handle => cases empty
    | none =>
      cases deferred with
      | some waiting =>
        obtain ⟨rfl, quiet⟩ := List.cons.inj parked
        exact ⟨rest, rfl, empty, quiet, .same _⟩
      | none =>
        obtain ⟨others, picks, none, quiet, slims⟩ := ih empty parked
        exact ⟨others, picks, none, quiet, .idle slims⟩

theorem cacheAll_filled (source : Source ρ) {handles : List SharedId} (world : World)
    (filled : ∀ handle ∈ handles, world.stores.held handle ≠ []) :
    source.cacheAll handles world = (source.behind (full handles), world) := by
  induction handles with
  | nil => rfl
  | cons handle rest ih =>
    have still : ¬ (world.shared handle).isEmpty = true := by
      rw [Buffer.isEmpty, List.isEmpty_iff]
      exact filled handle List.mem_cons_self
    have step : source.cacheAll (handle :: rest) world =
        (source.cacheAll rest world).1.cache handle (source.cacheAll rest world).2 := rfl
    rw [step, ih fun other inside => filled other (List.mem_cons_of_mem handle inside), cache,
      if_neg still]
    rfl

theorem slims_full (live : Source ρ) {layers : List Layer} (quiet : faults layers = []) :
    (live.behind layers).Slims (live.behind (full (buffers layers))) := by
  induction layers with
  | nil => exact .same live
  | cons layer rest ih =>
    obtain ⟨buffer, deferred⟩ := layer
    obtain ⟨here, beneath⟩ := List.append_eq_nil_iff.mp quiet
    cases deferred with
    | some fault => cases here
    | none =>
      cases buffer with
      | none => exact .idle (ih beneath)
      | some handle => exact .layer _ _ (ih beneath)

variable [ReadPeer ρ]

theorem Bare.read {live : Source ρ} (bare : live.Bare) (wanted : Nat) (world : World) :
    (live.read wanted world).after.Bare := by
  cases live with
  | cached => exact bare.elim
  | counted counters total inner =>
    simp only [Source.read]
    split <;> trivial
  | peer | descriptor | buffer | plain => trivial

theorem Heard.bare {live last : Source ρ} {world later : World}
    {answers : List (Except IoFault Bytes)} (heard : live.Heard world answers last later)
    (bare : live.Bare) : last.Bare := by
  induction heard with
  | nothing => exact bare
  | call _ wanted _ ih => exact ih.read wanted _

/-- A read cannot tell whether there are idle layers. -/
theorem Slims.read {source other : Source ρ} (slims : source.Slims other) {wanted : Nat}
    (some : 0 < wanted) (world : World) :
    (source.read wanted world).answer = (other.read wanted world).answer ∧
      (source.read wanted world).world = (other.read wanted world).world ∧
      (source.read wanted world).after.Slims (other.read wanted world).after := by
  induction slims generalizing wanted world with
  | same source => exact ⟨rfl, rfl, .same _⟩
  | @idle inner other slims ih =>
    obtain ⟨answer, later, after⟩ := ih some world
    -- An idle layer answers a read of nothing by itself, so this needs that something is wanted.
    cases wanted with
    | zero => cases some
    | succ wanted => exact ⟨answer, later, .idle after⟩
  | @layer buffer deferred inner other slims ih =>
    cases deferred with
    | some fault =>
      rw [Source.read, Source.read]
      exact ⟨rfl, rfl, .layer _ _ slims⟩
    | none =>
      cases wanted with
      | zero => cases some
      | succ wanted =>
        cases buffer with
        | none =>
          obtain ⟨answer, later, after⟩ := ih some world
          exact ⟨answer, later, .layer _ _ after⟩
        | some handle =>
          by_cases more : wanted + 1 < (world.stores.held handle).length
          · rw [read_part more, read_part more]
            exact ⟨rfl, rfl, .layer _ _ slims⟩
          · have fits : (world.stores.held handle).length ≤ wanted + 1 := by omega
            rw [read_fits fits, read_fits fits]
            dsimp only
            split
            · exact ⟨rfl, rfl, .layer _ _ slims⟩
            · obtain ⟨answer, later, after⟩ :=
                ih (show 0 < wanted + 1 - (world.stores.held handle).length by omega)
                  ((world.readShared handle (wanted + 1)).2.release handle)
              rw [answer]
              split
              · exact ⟨rfl, later, .layer _ _ after⟩
              · split
                · exact ⟨rfl, later, .layer _ _ after⟩
                · exact ⟨rfl, later, .layer _ _ after⟩

theorem Slims.readEach {source other : Source ρ} (slims : source.Slims other) {sizes : List Nat}
    (some : ∀ wanted ∈ sizes, 0 < wanted) (world : World) :
    (source.readEach sizes world).answers = (other.readEach sizes world).answers ∧
      (source.readEach sizes world).world = (other.readEach sizes world).world := by
  induction sizes generalizing source other world with
  | nil => exact ⟨rfl, rfl⟩
  | cons wanted rest ih =>
    obtain ⟨answer, later, after⟩ := slims.read (some wanted List.mem_cons_self) world
    obtain ⟨answers, last⟩ :=
      ih after (fun size inside => some size (List.mem_cons_of_mem wanted inside))
        (other.read wanted world).world
    rw [Source.readEach, Source.readEach, later]
    exact ⟨by rw [answer, answers], last⟩

/-- What reads of a source show, whatever their sizes, are these signals and then what the live
source beneath it shows. -/
def Shows (source : Source ρ) (world : World) (signals : List Signal) (live : Source ρ) : Prop :=
  ∀ sizes, ∃ answers last layers,
    (source.readEach sizes world).after = last.behind layers ∧
    live.Heard world answers last (source.readEach sizes world).world ∧
    (source.readEach sizes world).answers.flatMap Signal.ofAnswer ++
        pending layers (source.readEach sizes world).world.stores =
      signals ++ answers.flatMap Signal.ofAnswer

theorem Stacked.shows {live : Source ρ} {layers : List Layer} {world : World}
    (stacked : live.Stacked layers world.stores) :
    (live.behind layers).Shows world (pending layers world.stores) live := by
  intro sizes
  obtain ⟨answers, last, kept, replays⟩ := live.replays_readEach layers sizes world stacked
  exact ⟨answers, last, kept, replays.after, replays.heard, replays.flow⟩

/-- A stack taken apart: what remains of it, and the buffers that came off. -/
structure Apart (live : Source ρ) (layers : List Layer) (world : World)
    (taken : Source ρ × List SharedId × World) (left : List Layer) : Prop where
  rest : taken.1 = live.behind left
  undisturbed : taken.2.2 = world
  picked : taken.2.1 = buffers layers
  drained : buffers left = []
  stacked : live.Stacked left world.stores
  flow : (taken.2.1.flatMap world.stores.held).map .byte ++ pending left world.stores =
    pending layers world.stores
  first : ∀ fault ∈ faults left, ∃ rest, left = ⟨none, some fault⟩ :: rest
  slims : (live.behind layers).Slims (taken.1.cacheAll taken.2.1 taken.2.2).1
  still : (taken.1.cacheAll taken.2.1 taken.2.2).2 = world

omit [ReadPeer ρ] in
/-- A stack in order comes apart into its buffers and, if a fault waits in it, the layers from there
on. -/
theorem Stacked.apart_pickAll {live : Source ρ} (bare : live.Bare) {layers : List Layer}
    {world : World} (stacked : live.Stacked layers world.stores) :
    ∃ left, live.Apart layers world ((live.behind layers).pickAll world) left := by
  have nothing : ∀ {α : Type} {P : α → Prop}, ∀ element ∈ [], P element :=
    fun _ inside => absurd inside List.not_mem_nil
  have drained : live.Stacked [] world.stores := ⟨List.nodup_nil, nothing, nothing, .inl rfl⟩
  rcases stacked.parked with quiet | ⟨fault, single, hard, empty⟩
  · rw [pickAll_quiet bare world stacked.filled quiet]
    have again := live.cacheAll_filled world stacked.filled
    refine ⟨[], rfl, rfl, rfl, rfl, drained, ?_, nothing, ?_, ?_⟩
    · rw [pending, pending, quiet]
      rfl
    · rw [again]
      exact live.slims_full quiet
    · rw [again]
  · obtain ⟨rest, picks, none, others, slims⟩ := live.pickAll_parked world empty single
    have bare : buffers (⟨.none, some fault⟩ :: rest) = [] := none
    have parked : faults (⟨.none, some fault⟩ :: rest) = [fault] := congrArg (fault :: ·) others
    rw [picks]
    refine ⟨⟨.none, some fault⟩ :: rest, rfl, rfl, empty.symm, bare, ⟨?_, ?_, ?_, ?_⟩, ?_, ?_,
      slims, rfl⟩
    · rw [bare]
      exact List.nodup_nil
    · rw [bare]
      exact nothing
    · rw [bare]
      exact nothing
    · exact .inr ⟨fault, parked, hard, bare⟩
    · rw [pending, pending, empty, bare, parked, single]
      rfl
    · rw [parked]
      intro other inside
      rw [List.mem_singleton.mp inside]
      exact ⟨rest, rfl⟩

/-- Buffers put in front of a live source come off again after any reads, and nothing is lost: what
the stack would still have shown are the bytes of the buffers that come off and what the rest shows.
No buffer comes off that was read out, no buffer stays, and a fault that waits is the first thing
that the rest shows. Putting the buffers back in front of the rest gives a stack that reads of at
least one byte cannot tell from the one before. Without reads in between, the live source comes back
and all buffers that had unread bytes. -/
theorem pickAll_restacks (live : Source ρ) (handles : List SharedId) (world : World)
    (bare : live.Bare) (distinct : handles.Nodup)
    (apart : ∀ handle ∈ handles, handle ∉ live.handles) (sizes : List Nat) :
    let stack := live.cacheAll handles world
    let readings := stack.1.readEach sizes stack.2
    let taken := readings.after.pickAll readings.world
    let again := taken.1.cacheAll taken.2.1 taken.2.2
    taken.2.2 = readings.world ∧
    (∀ handle ∈ taken.2.1, taken.2.2.stores.held handle ≠ []) ∧
    (∃ last left, last.Bare ∧ taken.1 = last.behind left ∧ buffers left = [] ∧
      ∃ signals, taken.1.Shows taken.2.2 signals last ∧
        readings.after.Shows readings.world
          ((taken.2.1.flatMap taken.2.2.stores.held).map .byte ++ signals) last ∧
        ∀ fault ∈ faults left, ∀ wanted,
          (taken.1.read wanted taken.2.2).answer = .error fault) ∧
    (∀ further, (∀ wanted ∈ further, 0 < wanted) →
      (again.1.readEach further again.2).answers =
          (readings.after.readEach further readings.world).answers ∧
        (again.1.readEach further again.2).world =
          (readings.after.readEach further readings.world).world) ∧
    (sizes = [] → taken.1 = live ∧ taken.2.1 = unread world.stores handles) := by
  intro stack readings taken again
  obtain ⟨layered, stores, _⟩ := live.cacheAll_layered handles world
  have order : live.Stacked (full (unread world.stores handles)) stack.2.stores := by
    rw [show stack.2.stores = _ from stores]
    exact live.stacked_unread handles world.stores distinct apart
  obtain ⟨answers, last, layers, replays⟩ := live.replays_readEach _ sizes stack.2 order
  rw [← show stack.1 = _ from layered] at replays
  have lastBare := replays.heard.bare bare
  obtain ⟨left, parts⟩ := replays.stacked.apart_pickAll lastBare
  rw [← replays.after] at parts
  have same : taken.2.2 = readings.world := parts.undisturbed
  refine ⟨same, ?_, ⟨last, left, lastBare, parts.rest, parts.drained,
    pending left readings.world.stores, ?_, ?_, ?_⟩, ?_, ?_⟩
  · intro handle inside
    rw [show taken.2.1 = _ from parts.picked] at inside
    rw [same]
    exact replays.stacked.filled handle inside
  · rw [same, show taken.1 = _ from parts.rest]
    exact parts.stacked.shows
  · rw [same, parts.flow, show readings.after = _ from replays.after]
    exact replays.stacked.shows
  · intro fault waits wanted
    obtain ⟨rest, found⟩ := parts.first fault waits
    rw [show taken.1 = _ from parts.rest, found, behind, read]
  · intro further some
    -- The two stacks differ in idle layers only.
    have slims := parts.slims
    rw [← replays.after] at slims
    obtain ⟨answers, later⟩ := slims.readEach some readings.world
    rw [show again.2 = _ from parts.still]
    exact ⟨answers.symm, later.symm⟩
  · rintro rfl
    have picks := pickAll_quiet bare stack.2 order.filled (faults_full _)
    rw [← show stack.1 = _ from layered, buffers_full] at picks
    rw [show taken = _ from picks]
    exact ⟨rfl, rfl⟩

/-- A stack of two buffers, taken apart after a read of one byte and put together again: the next
reads are the same, also where the reader is reset. -/
theorem pickAll_restacks_partway :
    (peer resetReader).Bare ∧ [0, 1].Nodup ∧
    (∀ handle ∈ [0, 1], handle ∉ (peer resetReader).handles) ∧
    (∀ wanted ∈ [5, 5, 5], 0 < wanted) ∧
    let stack := (peer resetReader).cacheAll [0, 1] stockedWorld
    let readings := stack.1.readEach [1] stack.2
    let taken := readings.after.pickAll readings.world
    let again := taken.1.cacheAll taken.2.1 taken.2.2
    taken.2.1 = [0, 1] ∧
    (again.1.readEach [5, 5, 5] again.2).answers =
      [.ok [2, 3], .error (.plain .connectionReset), .ok [4]] := by
  have bare : (peer resetReader).Bare := trivial
  have distinct : [0, 1].Nodup := by decide
  have apart : ∀ handle ∈ [0, 1], handle ∉ (peer resetReader).handles := fun _ _ => nofun
  have some : ∀ wanted ∈ [5, 5, 5], 0 < wanted := by decide
  refine ⟨bare, distinct, apart, some, rfl, ?_⟩
  obtain ⟨_, _, _, same, _⟩ :=
    pickAll_restacks (peer resetReader) [0, 1] stockedWorld bare distinct apart [1]
  exact (same [5, 5, 5] some).1

end Source

end Conduit
