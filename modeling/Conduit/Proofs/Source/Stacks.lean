import Conduit.Proofs.Source.Draws

set_option autoImplicit false

/- Stacks of cache layers over a live source. Reads keep a stack in order: each layer that still has
its buffer has unread bytes in it, and a fault waits only where no layer has a buffer any more.
`Source.replays_read` says what a single read of such a stack does: what it delivers and what is
still pending after it is what was pending before it and what the live source answered. -/
namespace Conduit

/-- What reads show for good: a byte, or a fault that no repeated call makes up for. -/
inductive Signal where
  | byte (byte : UInt8)
  | fault (fault : IoFault)

namespace Signal

/-- The signals of an answer. A transient fault is none, since the call may be made again. -/
def ofAnswer : Except IoFault Bytes → List Signal
  | .ok bytes => bytes.map .byte
  | .error cause => if cause.isTransient then [] else [.fault cause]

def byte? : Signal → Option UInt8
  | .byte value => some value
  | .fault _ => none

@[simp] theorem filterMap_byte? (bytes : Bytes) :
    (bytes.map Signal.byte).filterMap byte? = bytes := by
  rw [List.filterMap_map]
  exact List.filterMap_some

theorem filterMap_ofAnswer (answer : Except IoFault Bytes) :
    (ofAnswer answer).filterMap byte? = ReadPeer.brought answer := by
  cases answer with
  | ok bytes => exact filterMap_byte? bytes
  | error cause =>
    rw [ofAnswer]
    split <;> rfl

/-- The bytes among the signals of several answers are those that the answers bring. -/
theorem filterMap_ofAnswers (answers : List (Except IoFault Bytes)) :
    (answers.flatMap ofAnswer).filterMap byte? = answers.flatMap ReadPeer.brought := by
  induction answers with
  | nil => rfl
  | cons answer rest ih =>
    rw [List.flatMap_cons, List.filterMap_append, filterMap_ofAnswer, ih, List.flatMap_cons]

end Signal

structure Readings (ρ : Type) where
  answers : List (Except IoFault Bytes)
  after : Source ρ
  world : World

namespace Source

variable {ρ : Type}

/-- A cache layer: its buffer, until it is read out, and the fault that the next read reports. -/
structure Layer where
  buffer : Option SharedId
  deferred : Option IoFault

def behind (live : Source ρ) : List Layer → Source ρ
  | [] => live
  | layer :: rest => .cached layer.buffer layer.deferred (live.behind rest)

namespace Layer

/-- The buffers in layers, outermost first. -/
def buffers : List Layer → List SharedId
  | [] => []
  | layer :: rest => layer.buffer.toList ++ buffers rest

/-- The faults that wait in layers, outermost first. -/
def faults : List Layer → List IoFault
  | [] => []
  | layer :: rest => layer.deferred.toList ++ faults rest

def pending (layers : List Layer) (stores : Stores) : List Signal :=
  ((buffers layers).flatMap stores.held).map .byte ++ (faults layers).map .fault

end Layer

open Layer

/-- Cache layers over a live source as reads keep them. A layer lets go of its buffer as soon as
that is read out, and a fault waits only when every layer did so. -/
structure Stacked (live : Source ρ) (layers : List Layer) (stores : Stores) : Prop where
  distinct : (buffers layers).Nodup
  apart : ∀ handle ∈ buffers layers, handle ∉ live.handles
  filled : ∀ handle ∈ buffers layers, stores.held handle ≠ []
  parked : faults layers = [] ∨
    ∃ fault, faults layers = [fault] ∧ fault.isTransient = false ∧ buffers layers = []

/-- Something happened that a source has no part in. -/
structure Aside (source : Source ρ) (world later : World) : Prop where
  journal : later.journal = world.journal
  kernel : later.kernel = world.kernel
  cells : ∀ handle ∈ source.handles, later.cells.get handle = world.cells.get handle

namespace Aside

variable {source : Source ρ} {world middle later : World}

theorem refl (source : Source ρ) (world : World) : source.Aside world world :=
  ⟨rfl, rfl, fun _ _ => rfl⟩

theorem trans (first : source.Aside world middle) (second : source.Aside middle later) :
    source.Aside world later where
  journal := second.journal.trans first.journal
  kernel := second.kernel.trans first.kernel
  cells := fun handle inside => (second.cells handle inside).trans (first.cells handle inside)

theorem readShared (world : World) {handle : SharedId} (wanted : Nat)
    (outside : handle ∉ source.handles) :
    source.Aside world (world.readShared handle wanted).2 where
  journal := rfl
  kernel := rfl
  cells := by
    intro other inside
    apply Table.get_put_other
    intro same
    exact outside (same ▸ inside)

theorem release (world : World) {handle : SharedId} (outside : handle ∉ source.handles) :
    source.Aside world (world.release handle) := by
  have put : ∀ cell, source.Aside world { world with cells := world.cells.put handle cell } := by
    intro cell
    refine ⟨rfl, rfl, ?_⟩
    intro other inside
    apply Table.get_put_other
    intro same
    exact outside (same ▸ inside)
  refine ⟨World.journal_release world handle, ?_, ?_⟩
  · unfold World.release
    dsimp only
    split
    · exact World.kernel_freeBuffer _ _
    · rfl
  · unfold World.release
    dsimp only
    split
    · intro other inside
      rw [World.dropBuffer, World.cells_freeBuffer]
      exact (put _).cells other inside
    · exact (put _).cells

end Aside

variable [ReadPeer ρ]

def readEach : Source ρ → List Nat → World → Readings ρ
  | source, [], world => ⟨[], source, world⟩
  | source, wanted :: rest, world =>
    let reading := source.read wanted world
    let others := reading.after.readEach rest reading.world
    ⟨reading.answer :: others.answers, others.after, others.world⟩

/-- A source was read a number of times, with these answers, and had no part in anything else. -/
inductive Heard : Source ρ → World → List (Except IoFault Bytes) → Source ρ → World → Prop
  | nothing {source : Source ρ} {world later : World} (aside : source.Aside world later) :
    Heard source world [] source later
  | call {source last : Source ρ} {world between later : World}
    {answers : List (Except IoFault Bytes)} (heard : Heard source world answers last between)
    (wanted : Nat) (aside : (last.read wanted between).after.Aside
      (last.read wanted between).world later) :
    Heard source world (answers ++ [(last.read wanted between).answer])
      (last.read wanted between).after later

namespace Heard

variable {source middle last : Source ρ} {world between later : World}
  {answers further : List (Except IoFault Bytes)}

theorem read (source : Source ρ) (wanted : Nat) (world : World) :
    source.Heard world [(source.read wanted world).answer] (source.read wanted world).after
      (source.read wanted world).world :=
  .call (.nothing (.refl source world)) wanted (.refl _ _)

theorem later_aside (heard : source.Heard world answers last between)
    (aside : last.Aside between later) : source.Heard world answers last later := by
  cases heard with
  | nothing before => exact .nothing (before.trans aside)
  | call heard wanted before => exact .call heard wanted (before.trans aside)

theorem trans (first : source.Heard world answers middle between)
    (second : middle.Heard between further last later) :
    source.Heard world (answers ++ further) last later := by
  induction second with
  | nothing aside =>
    rw [List.append_nil]
    exact first.later_aside aside
  | call _ wanted aside ih =>
    rw [← List.append_assoc]
    exact .call (ih first) wanted aside

theorem earlier_aside (aside : source.Aside world between)
    (heard : source.Heard between answers last later) : source.Heard world answers last later :=
  (Heard.nothing aside).trans heard

end Heard

section

omit [ReadPeer ρ]

theorem handles_behind (live : Source ρ) (layers : List Layer) :
    (live.behind layers).handles = buffers layers ++ live.handles := by
  induction layers with
  | nil => rfl
  | cons layer rest ih =>
    cases layer with
    | mk buffer deferred =>
      cases buffer with
      | none => exact ih
      | some handle => exact congrArg (handle :: ·) ih

namespace Stacked

variable {live : Source ρ} {rest : List Layer} {handle : SharedId} {deferred : Option IoFault}
  {stores : Stores}

theorem through : live.Stacked (⟨none, none⟩ :: rest) stores ↔ live.Stacked rest stores :=
  ⟨fun ⟨distinct, apart, filled, parked⟩ => ⟨distinct, apart, filled, parked⟩,
    fun ⟨distinct, apart, filled, parked⟩ => ⟨distinct, apart, filled, parked⟩⟩

theorem alone (stacked : live.Stacked (⟨some handle, deferred⟩ :: rest) stores) :
    handle ∉ buffers rest :=
  (List.nodup_cons.mp stacked.distinct).1

theorem outside (stacked : live.Stacked (⟨some handle, deferred⟩ :: rest) stores) :
    handle ∉ (live.behind rest).handles := by
  rw [handles_behind, List.mem_append, not_or]
  exact ⟨stacked.alone, stacked.apart handle List.mem_cons_self⟩

theorem beneath (stacked : live.Stacked (⟨some handle, deferred⟩ :: rest) stores) :
    live.Stacked rest (stores.emptied handle) := by
  refine ⟨(List.nodup_cons.mp stacked.distinct).2, ?_, ?_, ?_⟩
  · exact fun other inside => stacked.apart other (List.mem_cons_of_mem handle inside)
  · intro other inside
    have apart : other ≠ handle := fun same => stacked.alone (same ▸ inside)
    rw [Stores.emptied, Stores.held_refilled_other _ _ _ _ apart]
    exact stacked.filled other (List.mem_cons_of_mem handle inside)
  · rcases stacked.parked with quiet | ⟨fault, _, _, none⟩
    · exact .inl (List.append_eq_nil_iff.mp quiet).2
    · cases none

end Stacked

namespace Layer

theorem pending_congr (layers : List Layer) {stores other : Stores}
    (same : ∀ handle ∈ buffers layers, stores.held handle = other.held handle) :
    pending layers stores = pending layers other := by
  have bytes : (buffers layers).flatMap stores.held = (buffers layers).flatMap other.held :=
    List.flatMap_congr same
  rw [pending, bytes, pending]

theorem pending_refilled (layers : List Layer) (stores : Stores) {handle : SharedId}
    (bytes : Bytes) (outside : handle ∉ buffers layers) :
    pending layers (stores.refilled handle bytes) = pending layers stores := by
  apply pending_congr
  intro other inside
  apply Stores.held_refilled_other
  intro same
  exact outside (same ▸ inside)

theorem pending_none (rest : List Layer) (stores : Stores) :
    pending (⟨none, none⟩ :: rest) stores = pending rest stores := rfl

theorem pending_some (handle : SharedId) (rest : List Layer) (stores : Stores) :
    pending (⟨some handle, none⟩ :: rest) stores =
      (stores.held handle).map .byte ++ pending rest stores := by
  simp only [pending, buffers, faults, Option.toList_some, Option.toList_none, List.cons_append,
    List.nil_append, List.flatMap_cons, List.map_append, List.append_assoc]

end Layer

end

theorem read_fits {handle : SharedId} {inner : Source ρ} {wanted : Nat} {world : World}
    (fits : (world.stores.held handle).length ≤ wanted + 1) :
    (cached (some handle) none inner).read (wanted + 1) world =
      let passed := (world.readShared handle (wanted + 1)).2.release handle
      if (world.stores.held handle).length = wanted + 1 then
        ⟨.ok (world.stores.held handle), .cached none none inner, passed⟩
      else
        let beneath := inner.read (wanted + 1 - (world.stores.held handle).length) passed
        match beneath.answer with
        | .ok tail => ⟨.ok (world.stores.held handle ++ tail), .cached none none beneath.after,
            beneath.world⟩
        | .error fault =>
          if (world.stores.held handle).isEmpty then
            ⟨.error fault, .cached none none beneath.after, beneath.world⟩
          else
            ⟨.ok (world.stores.held handle),
              .cached none (if fault.isTransient then none else some fault) beneath.after,
              beneath.world⟩ := by
  have head : (world.stores.held handle).take (wanted + 1) = world.stores.held handle :=
    List.take_of_length_le fits
  cases answer : (inner.read (wanted + 1 - (world.stores.held handle).length)
    ((world.readShared handle (wanted + 1)).2.release handle)).answer <;>
    simp only [read, World.readShared_fst, isEmpty_readShared fits, if_true, head, answer]

/-- What a read does to a stack in order. -/
structure Replays (live : Source ρ) (layers : List Layer) (world : World)
    (reading : Called (Source ρ) Bytes) (call : Option (Except IoFault Bytes)) (last : Source ρ)
    (kept : List Layer) : Prop where
  after : reading.after = last.behind kept
  heard : live.Heard world call.toList last reading.world
  stacked : last.Stacked kept reading.world.stores
  flow : Signal.ofAnswer reading.answer ++ pending kept reading.world.stores =
    pending layers world.stores ++ call.toList.flatMap Signal.ofAnswer
  /-- A buffer that is taken off was read out. -/
  spent : ∀ handle ∈ buffers layers, handle ∈ buffers kept ∨
    handle ∉ reading.after.handles ∧ reading.world.stores.held handle = []
  /-- A fault of the live source is left out only where bytes are delivered. -/
  noted : ∀ fault, call = some (.error fault) →
    reading.answer = .error fault ∨ ∃ bytes, reading.answer = .ok bytes ∧ bytes ≠ []
  failed : ∀ fault, reading.answer = .error fault → buffers layers = [] ∧ pending kept
    reading.world.stores = []

/-- Nothing lies in front of the live source. -/
theorem replays_live (live : Source ρ) (wanted : Nat) (world : World) :
    live.Replays [] world (live.read wanted world) (some (live.read wanted world).answer)
      (live.read wanted world).after [] where
  after := rfl
  heard := .read live wanted world
  stacked := ⟨List.nodup_nil, nofun, nofun, .inl rfl⟩
  flow := by simp [pending, buffers, faults]
  spent := nofun
  noted := fun _ same => .inl (Option.some.inj same)
  failed := fun _ _ => ⟨rfl, rfl⟩

section

variable {live : Source ρ} {rest : List Layer} {handle : SharedId} {wanted : Nat} {world : World}

theorem replays_deferred (buffer : Option SharedId) (fault : IoFault)
    (stacked : live.Stacked (⟨buffer, some fault⟩ :: rest) world.stores) :
    live.Replays (⟨buffer, some fault⟩ :: rest) world
      ⟨.error fault, .cached buffer none (live.behind rest), world⟩ none live
      (⟨buffer, none⟩ :: rest) := by
  rcases stacked.parked with quiet | ⟨only, same, hard, empty⟩
  · cases quiet
  · obtain ⟨rfl, quiet⟩ := List.cons.inj same
    have bare : buffers (⟨buffer, none⟩ :: rest) = [] := empty
    refine ⟨rfl, .nothing (.refl _ world), ⟨?_, ?_, ?_, .inl quiet⟩, ?_, ?_, nofun, ?_⟩
    · rw [bare]
      exact List.nodup_nil
    · rw [bare]
      exact fun _ absurd => nomatch absurd
    · rw [bare]
      exact fun _ absurd => nomatch absurd
    · simp only [Signal.ofAnswer, hard, pending, bare, empty, same]
      rw [show faults (⟨buffer, none⟩ :: rest) = [] from quiet]
      rfl
    · rw [empty]
      exact fun _ absurd => nomatch absurd
    · refine fun _ _ => ⟨empty, ?_⟩
      rw [pending, bare, show faults (⟨buffer, none⟩ :: rest) = [] from quiet]
      rfl

theorem replays_nothing {live : Source ρ} {rest : List Layer} {world : World}
    (buffer : Option SharedId) (stacked : live.Stacked (⟨buffer, none⟩ :: rest) world.stores) :
    live.Replays (⟨buffer, none⟩ :: rest) world
      ⟨.ok [], cached buffer none (live.behind rest), world⟩ none live
      (⟨buffer, none⟩ :: rest) where
  after := rfl
  heard := .nothing (.refl _ world)
  stacked := stacked
  flow := (List.append_nil _).symm
  spent := fun _ inside => .inl inside
  noted := by
    intro fault called
    cases called
  failed := by
    intro fault ok
    cases ok

theorem replays_part (stacked : live.Stacked (⟨some handle, none⟩ :: rest) world.stores)
    (more : wanted + 1 < (world.stores.held handle).length) :
    live.Replays (⟨some handle, none⟩ :: rest) world
      ⟨.ok ((world.stores.held handle).take (wanted + 1)),
        .cached (some handle) none (live.behind rest), (world.readShared handle (wanted + 1)).2⟩
      none live (⟨some handle, none⟩ :: rest) := by
  have apart := stacked.apart handle List.mem_cons_self
  refine ⟨rfl, .nothing (.readShared world _ apart), ⟨stacked.distinct, stacked.apart, ?_,
    stacked.parked⟩, ?_, fun _ inside => .inl inside, nofun, nofun⟩
  · intro other inside
    dsimp only
    rw [World.stores_readShared]
    by_cases same : other = handle
    · rw [same, Stores.held_refilled_same, ne_eq, List.drop_eq_nil_iff]
      omega
    · rw [Stores.held_refilled_other _ _ _ _ same]
      exact stacked.filled other inside
  · dsimp only
    rw [World.stores_readShared, pending_some, pending_some, Stores.held_refilled_same,
      pending_refilled _ _ _ stacked.alone, Signal.ofAnswer, ← List.append_assoc,
      ← List.map_append, List.take_append_drop]
    exact (List.append_nil _).symm

omit [ReadPeer ρ] in
theorem aside_passed (apart : handle ∉ live.handles) :
    live.Aside world ((world.readShared handle (wanted + 1)).2.release handle) :=
  (Aside.readShared world _ apart).trans (.release _ apart)

omit [ReadPeer ρ] in
theorem held_passed (fits : (world.stores.held handle).length ≤ wanted + 1) :
    ((world.readShared handle (wanted + 1)).2.release handle).stores.held handle = [] := by
  rw [World.stores_readShared_release world handle (wanted + 1) fits]
  exact Stores.held_refilled_same _ _ _

omit [ReadPeer ρ] in
theorem pending_passed (alone : handle ∉ buffers rest)
    (fits : (world.stores.held handle).length ≤ wanted + 1) :
    pending rest ((world.readShared handle (wanted + 1)).2.release handle).stores =
      pending rest world.stores := by
  rw [World.stores_readShared_release world handle (wanted + 1) fits]
  exact pending_refilled rest world.stores [] alone

omit [ReadPeer ρ] in
theorem stacked_passed (stacked : live.Stacked (⟨some handle, none⟩ :: rest) world.stores)
    (fits : (world.stores.held handle).length ≤ wanted + 1) :
    live.Stacked rest ((world.readShared handle (wanted + 1)).2.release handle).stores := by
  rw [World.stores_readShared_release world handle (wanted + 1) fits]
  exact stacked.beneath

theorem replays_whole (stacked : live.Stacked (⟨some handle, none⟩ :: rest) world.stores)
    (fits : (world.stores.held handle).length ≤ wanted + 1) :
    live.Replays (⟨some handle, none⟩ :: rest) world
      ⟨.ok (world.stores.held handle), .cached none none (live.behind rest),
        (world.readShared handle (wanted + 1)).2.release handle⟩
      none live (⟨none, none⟩ :: rest) := by
  refine ⟨rfl, .nothing (aside_passed (stacked.apart handle List.mem_cons_self)),
    Stacked.through.mpr (stacked_passed stacked fits), ?_, ?_, nofun, nofun⟩
  · dsimp only
    rw [pending_none, pending_passed stacked.alone fits, pending_some]
    exact (List.append_nil _).symm
  · intro other inside
    rcases List.mem_cons.mp inside with rfl | inside
    · exact .inr ⟨stacked.outside, held_passed fits⟩
    · exact .inl inside

variable {call : Option (Except IoFault Bytes)} {last : Source ρ} {kept : List Layer}

/-- A buffer that is read out stays so while what lies beneath it is read. -/
theorem spent_passed {beneath : Called (Source ρ) Bytes} {fewer : Nat}
    (stacked : live.Stacked (⟨some handle, none⟩ :: rest) world.stores)
    (fits : (world.stores.held handle).length ≤ wanted + 1)
    (reads : Reads (live.behind rest) fewer
      ((world.readShared handle (wanted + 1)).2.release handle) beneath)
    (spent : ∀ handle ∈ buffers rest, handle ∈ buffers kept ∨
      handle ∉ beneath.after.handles ∧ beneath.world.stores.held handle = []) :
    ∀ other ∈ buffers (⟨some handle, none⟩ :: rest), other ∈ buffers kept ∨
      other ∉ beneath.after.handles ∧ beneath.world.stores.held other = [] := by
  intro other inside
  rcases List.mem_cons.mp inside with rfl | inside
  · refine .inr ⟨fun within => stacked.outside (reads.handles_sublist.subset within), ?_⟩
    rw [reads.held other stacked.outside, held_passed fits]
  · exact spent other inside

theorem replays_joined {beneath : Called (Source ρ) Bytes} {fewer : Nat}
    (stacked : live.Stacked (⟨some handle, none⟩ :: rest) world.stores)
    (fits : (world.stores.held handle).length ≤ wanted + 1)
    (reads : Reads (live.behind rest) fewer
      ((world.readShared handle (wanted + 1)).2.release handle) beneath)
    (replays : live.Replays rest ((world.readShared handle (wanted + 1)).2.release handle) beneath
      call last kept)
    {tail : Bytes} (success : beneath.answer = .ok tail) :
    live.Replays (⟨some handle, none⟩ :: rest) world
      ⟨.ok (world.stores.held handle ++ tail), .cached none none beneath.after, beneath.world⟩
      call last (⟨none, none⟩ :: kept) := by
  have held := stacked.filled handle List.mem_cons_self
  have flow := replays.flow
  rw [pending_passed stacked.alone fits, success] at flow
  have spent := spent_passed stacked fits reads replays.spent
  refine ⟨congrArg (cached none none) replays.after,
    replays.heard.earlier_aside (aside_passed (stacked.apart handle List.mem_cons_self)),
    Stacked.through.mpr replays.stacked, ?_, spent, ?_, nofun⟩
  · dsimp only
    rw [pending_none, pending_some, List.append_assoc, ← flow, Signal.ofAnswer,
      Signal.ofAnswer, List.map_append, List.append_assoc]
  · exact fun _ _ => .inr ⟨_, rfl, List.append_ne_nil_of_left_ne_nil held tail⟩

/-- Cached bytes go out first, and a hard fault from beneath waits for the next read. -/
theorem replays_kept {beneath : Called (Source ρ) Bytes} {fewer : Nat}
    (stacked : live.Stacked (⟨some handle, none⟩ :: rest) world.stores)
    (fits : (world.stores.held handle).length ≤ wanted + 1)
    (reads : Reads (live.behind rest) fewer
      ((world.readShared handle (wanted + 1)).2.release handle) beneath)
    (replays : live.Replays rest ((world.readShared handle (wanted + 1)).2.release handle) beneath
      call last kept)
    {fault : IoFault} (failed : beneath.answer = .error fault) :
    live.Replays (⟨some handle, none⟩ :: rest) world
      ⟨.ok (world.stores.held handle),
        .cached none (if fault.isTransient then none else some fault) beneath.after,
        beneath.world⟩ call last
      (⟨none, if fault.isTransient then none else some fault⟩ :: kept) := by
  have held := stacked.filled handle List.mem_cons_self
  have flow := replays.flow
  rw [pending_passed stacked.alone fits, failed] at flow
  have spent := spent_passed stacked fits reads replays.spent
  have nothing := (replays.failed fault failed).2
  obtain ⟨empty, quiet⟩ : buffers kept = [] ∧ faults kept = [] := by
    obtain ⟨bytes, faults⟩ := List.append_eq_nil_iff.mp nothing
    refine ⟨?_, List.map_eq_nil_iff.mp faults⟩
    rw [List.map_eq_nil_iff, List.flatMap_eq_nil_iff] at bytes
    rw [List.eq_nil_iff_forall_not_mem]
    exact fun other inside => replays.stacked.filled other inside (bytes other inside)
  refine ⟨congrArg (cached none _) replays.after,
    replays.heard.earlier_aside (aside_passed (stacked.apart handle List.mem_cons_self)),
    ⟨replays.stacked.distinct, replays.stacked.apart, replays.stacked.filled, ?_⟩, ?_,
    spent, ?_, nofun⟩
  · cases transient : fault.isTransient with
    | true => exact .inl quiet
    | false => exact .inr ⟨fault, congrArg (fault :: ·) quiet, transient, empty⟩
  · dsimp only
    rw [pending_some, List.append_assoc, ← flow, nothing, Signal.ofAnswer, Signal.ofAnswer]
    simp only [pending, buffers, faults, empty, quiet]
    cases fault.isTransient <;> rfl
  · exact fun _ _ => .inr ⟨_, rfl, held⟩

end

/-- A read of a stack in order replays it, and makes at most one call of the live source. -/
theorem replays_read (live : Source ρ) (layers : List Layer) (wanted : Nat) (world : World)
    (stacked : live.Stacked layers world.stores) :
    ∃ call last kept,
      live.Replays layers world ((live.behind layers).read wanted world) call last kept := by
  induction layers generalizing wanted world with
  | nil => exact ⟨_, _, _, replays_live live wanted world⟩
  | cons layer rest ih =>
    obtain ⟨buffer, deferred⟩ := layer
    cases deferred with
    | some fault =>
      rw [behind, read]
      exact ⟨none, live, _, replays_deferred buffer fault stacked⟩
    | none =>
      cases wanted with
      | zero =>
        rw [behind, read]
        exact ⟨none, live, _, replays_nothing buffer stacked⟩
      | succ wanted =>
        cases buffer with
        | none =>
          obtain ⟨call, last, kept, replays⟩ := ih (wanted + 1) world (Stacked.through.mp stacked)
          exact ⟨call, last, ⟨none, none⟩ :: kept, congrArg (cached none none) replays.after,
            replays.heard, Stacked.through.mpr replays.stacked, replays.flow, replays.spent,
            replays.noted, replays.failed⟩
        | some handle =>
          dsimp only [behind]
          by_cases more : wanted + 1 < (world.stores.held handle).length
          · rw [read_part more]
            exact ⟨none, live, _, replays_part stacked more⟩
          · have fits : (world.stores.held handle).length ≤ wanted + 1 := by omega
            rw [read_fits fits]
            dsimp only
            split
            · exact ⟨none, live, _, replays_whole stacked fits⟩
            -- The layer lets go of its handle before what lies beneath is read.
            · have reads := (live.behind rest).reads_read
                (wanted + 1 - (world.stores.held handle).length)
                ((world.readShared handle (wanted + 1)).2.release handle)
              obtain ⟨call, last, kept, replays⟩ := ih _ _ (stacked_passed stacked fits)
              split
              · rename_i success
                exact ⟨call, last, _, replays_joined stacked fits reads replays success⟩
              · rename_i failed
                have held := stacked.filled handle List.mem_cons_self
                rw [if_neg (by rwa [List.isEmpty_iff])]
                exact ⟨call, last, _, replays_kept stacked fits reads replays failed⟩

/-- Several reads of a stack in order: what they answered in all and what is pending after them is
what was pending before them and what the live source answered. -/
structure ReplaysEach (live : Source ρ) (layers : List Layer) (world : World)
    (readings : Readings ρ) (answers : List (Except IoFault Bytes)) (last : Source ρ)
    (kept : List Layer) : Prop where
  after : readings.after = last.behind kept
  heard : live.Heard world answers last readings.world
  stacked : last.Stacked kept readings.world.stores
  flow : readings.answers.flatMap Signal.ofAnswer ++ pending kept readings.world.stores =
    pending layers world.stores ++ answers.flatMap Signal.ofAnswer
  spent : ∀ handle, (handle ∈ buffers layers ∨
      handle ∉ (live.behind layers).handles ∧ world.stores.held handle = []) →
    handle ∈ buffers kept ∨
      handle ∉ readings.after.handles ∧ readings.world.stores.held handle = []

theorem replays_readEach (live : Source ρ) (layers : List Layer) (sizes : List Nat)
    (world : World) (stacked : live.Stacked layers world.stores) :
    ∃ answers last kept,
      live.ReplaysEach layers world ((live.behind layers).readEach sizes world) answers last
        kept := by
  induction sizes generalizing live layers world with
  | nil =>
    exact ⟨[], live, layers, rfl, .nothing (.refl _ world), stacked, (List.append_nil _).symm,
      fun _ spent => spent⟩
  | cons wanted rest ih =>
    have reads := (live.behind layers).reads_read wanted world
    obtain ⟨call, last, kept, replays⟩ := live.replays_read layers wanted world stacked
    obtain ⟨answers, final, still, others⟩ := ih last kept _ replays.stacked
    rw [← replays.after] at others
    refine ⟨call.toList ++ answers, final, still, others.after, replays.heard.trans others.heard,
      others.stacked, ?_, ?_⟩
    · rw [readEach, List.flatMap_cons, List.append_assoc, others.flow, ← List.append_assoc,
        replays.flow, List.append_assoc, ← List.flatMap_append]
    · intro handle spent
      apply others.spent
      rw [← replays.after]
      rcases spent with inside | ⟨outside, empty⟩
      · exact replays.spent handle inside
      · refine .inr ⟨fun within => outside (reads.handles_sublist.subset within), ?_⟩
        rw [reads.held handle outside, empty]

section

omit [ReadPeer ρ]

/-- The buffers with unread bytes. -/
def unread (stores : Stores) (handles : List SharedId) : List SharedId :=
  handles.filter fun handle => !(stores.held handle).isEmpty

theorem mem_unread {stores : Stores} {handles : List SharedId} {handle : SharedId} :
    handle ∈ unread stores handles ↔ handle ∈ handles ∧ stores.held handle ≠ [] := by
  simp [unread]

theorem flatMap_unread (stores : Stores) (handles : List SharedId) :
    (unread stores handles).flatMap stores.held = handles.flatMap stores.held := by
  induction handles with
  | nil => rfl
  | cons handle rest ih =>
    unfold unread at ih ⊢
    rw [List.filter_cons]
    cases held : stores.held handle with
    | nil => simpa [held] using ih
    | cons first more => simpa [held] using ih

def Layer.full (handles : List SharedId) : List Layer :=
  handles.map fun handle => ⟨some handle, none⟩

@[simp] theorem Layer.buffers_full (handles : List SharedId) :
    buffers (full handles) = handles := by
  induction handles with
  | nil => rfl
  | cons handle rest ih => exact congrArg (handle :: ·) ih

@[simp] theorem Layer.faults_full (handles : List SharedId) : faults (full handles) = [] := by
  induction handles with
  | nil => rfl
  | cons handle rest ih => exact ih

/-- Putting buffers in front of a source makes a layer for each one with unread bytes, and lets the
others go. -/
theorem cacheAll_layered (source : Source ρ) (handles : List SharedId) (world : World) :
    (source.cacheAll handles world).1 = source.behind (full (unread world.stores handles)) ∧
      (source.cacheAll handles world).2.stores = world.stores ∧
      (source.cacheAll handles world).2.journal = world.journal := by
  induction handles with
  | nil => exact ⟨rfl, rfl, rfl⟩
  | cons handle rest ih =>
    obtain ⟨layered, stores, journal⟩ := ih
    have step : source.cacheAll (handle :: rest) world =
        (source.cacheAll rest world).1.cache handle (source.cacheAll rest world).2 := rfl
    have held : ((source.cacheAll rest world).2.shared handle).unread = world.stores.held handle :=
      congrArg (fun stores => stores.held handle) stores
    rw [step]
    unfold cache
    cases empty : (world.stores.held handle).isEmpty with
    | true =>
      rw [if_pos (by rw [Buffer.isEmpty, held, empty])]
      rw [List.isEmpty_iff] at empty
      refine ⟨?_, ?_, ?_⟩
      · simpa [unread, empty] using layered
      · rw [World.stores_release _ _ (held.trans empty), stores]
      · rw [World.journal_release, journal]
    | false =>
      rw [if_neg (by rw [Buffer.isEmpty, held, empty]; exact Bool.false_ne_true)]
      refine ⟨?_, stores, journal⟩
      simp only [unread, List.filter_cons, empty, Bool.not_false, if_true] at layered ⊢
      exact congrArg (Source.cached (some handle) none) layered

theorem stacked_unread (live : Source ρ) (handles : List SharedId) (stores : Stores)
    (distinct : handles.Nodup) (apart : ∀ handle ∈ handles, handle ∉ live.handles) :
    live.Stacked (full (unread stores handles)) stores := by
  refine ⟨?_, ?_, ?_, .inl (faults_full _)⟩
  · rw [buffers_full]
    exact distinct.filter _
  · intro handle inside
    rw [buffers_full, mem_unread] at inside
    exact apart handle inside.1
  · intro handle inside
    rw [buffers_full, mem_unread] at inside
    exact inside.2

theorem pending_unread (handles : List SharedId) (stores : Stores) :
    pending (full (unread stores handles)) stores = (handles.flatMap stores.held).map .byte := by
  rw [pending, buffers_full, faults_full, flatMap_unread, List.map_nil, List.append_nil]

end

end Source

end Conduit
