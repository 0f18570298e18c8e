import Conduit.Proofs.Buffer.Cursors
import Conduit.Proofs.Transfer.Pouring
import Conduit.Proofs.World.Pools
import Conduit.Rehearsal

set_option autoImplicit false

namespace Conduit

namespace Buffer

/-- An operation on a buffer. -/
inductive Op (ρ τ : Type) where
  | write (bytes : Bytes)
  | writeByte (byte : UInt8)
  | writeAll (bytes : Bytes)
  /-- Puts bytes into the free region without a commit. -/
  | stash (bytes : Bytes)
  | commit (count : Nat)
  | read (wanted : Nat)
  | readByte
  | peek (count : Nat)
  | discard (count : Nat)
  | truncate (count : Nat)
  | resize (size : Nat)
  | reset
  | free
  | fill (source : Source ρ)
  | fillOnce (counters : List Counter) (source : Source ρ)
  | fillExactly (wanted : Nat) (source : Source ρ)
  | drain (counters : List Counter) (sink : τ)
  | drainOnce (sink : τ)

/-- What an operation gives back. -/
inductive Answer where
  | done
  | count (count : Nat)
  | bytes (bytes : Bytes)

/-- The far end of an operation. -/
inductive Endpoint (ρ τ : Type) where
  | absent
  | source (source : Source ρ)
  | sink (sink : τ)

/-- An operation that came to an end. -/
structure Performed (ρ τ : Type) where
  result : Except BufferFault Answer
  buffer : Buffer
  endpoint : Endpoint ρ τ
  world : World

namespace Op

variable {ρ τ : Type}

/-- The far end of an operation before it. -/
def endpoint : Op ρ τ → Endpoint ρ τ
  | .fill source => .source source
  | .fillOnce _ source => .source source
  | .fillExactly _ source => .source source
  | .drain _ sink => .sink sink
  | .drainOnce sink => .sink sink
  | _ => .absent

/-- The fault with which a buffer refuses an operation, for want of room or of unread bytes. -/
def refusal (buffer : Buffer) : Op ρ τ → Option BufferFault
  | .write bytes => if bytes ≠ [] ∧ buffer.freeLen = 0 then some .shortBuffer else none
  | .writeByte _ => if buffer.freeLen = 0 then some .shortBuffer else none
  | .writeAll bytes => if buffer.freeLen < bytes.length then some .shortBuffer else none
  | .commit count => if buffer.freeLen < count then some .overflow else none
  | .readByte => if buffer.unread = [] then some .endOfStream else none
  | .peek count =>
    if count = 0 ∨ count ≤ buffer.unread.length then none
    else if buffer.unread = [] then some .endOfStream else some .overflow
  | .discard _ => if buffer.unread = [] then some .endOfStream else none
  | .resize size => if buffer.capacity < size then some .overflow else none
  | .fill _ => if buffer.freeLen = 0 then some .shortBuffer else none
  | .fillOnce _ _ => if buffer.freeLen = 0 then some .shortBuffer else none
  | .fillExactly wanted _ => if buffer.freeLen < wanted then some .shortBuffer else none
  | .drain _ _ => if buffer.unread = [] then some .endOfStream else none
  | .drainOnce _ => if buffer.unread = [] then some .endOfStream else none
  | _ => none

variable [ReadPeer ρ]

/-- Does an operation. One that has to be made again and again has no outcome. -/
def perform (retries : Nat) (send : Writing τ) (buffer : Buffer) (world : World) :
    Op ρ τ → Option (Performed ρ τ)
  | .write bytes =>
    let (result, after) := buffer.write bytes
    some ⟨(result.mapError IoFault.toBuffer).map .count, after, .absent, world⟩
  | .writeByte byte =>
    let (result, after) := buffer.writeByte byte
    some ⟨result.map fun _ => .done, after, .absent, world⟩
  | .writeAll bytes =>
    let (result, after) := buffer.writeAll bytes
    some ⟨result.map .count, after, .absent, world⟩
  | .stash bytes => some ⟨.ok .done, buffer.stash bytes, .absent, world⟩
  | .commit count =>
    match buffer.commit count with
    | .ok after => some ⟨.ok .done, after, .absent, world⟩
    | .error fault => some ⟨.error fault, buffer, .absent, world⟩
  | .read wanted =>
    let (bytes, after) := buffer.read wanted
    some ⟨.ok (.bytes bytes), after, .absent, world⟩
  | .readByte =>
    let (result, after) := buffer.readByte
    some ⟨result.map fun byte => .bytes [byte], after, .absent, world⟩
  | .peek count => some ⟨(buffer.peek count).map .bytes, buffer, .absent, world⟩
  | .discard count =>
    let (result, after) := buffer.discard count
    some ⟨result.map .count, after, .absent, world⟩
  | .truncate count => some ⟨.ok .done, buffer.truncate count, .absent, world⟩
  | .resize size =>
    match buffer.resize size with
    | .ok after => some ⟨.ok .done, after, .absent, world⟩
    | .error fault => some ⟨.error fault, buffer, .absent, world⟩
  | .reset => some ⟨.ok .done, buffer.reset, .absent, world⟩
  | .free =>
    let (after, world) := world.freeBuffer buffer
    some ⟨.ok .done, after, .absent, world⟩
  | .fill source =>
    let filled := buffer.fill source world
    some ⟨filled.result.map .count, filled.buffer, .source filled.source, filled.world⟩
  | .fillOnce counters source =>
    (buffer.fillOnce retries counters source world).map fun filled =>
      ⟨filled.result.map .count, filled.buffer, .source filled.source, filled.world⟩
  | .fillExactly wanted source =>
    (buffer.fillExactly retries source world wanted).map fun filled =>
      ⟨filled.result.map .count, filled.buffer, .source filled.source, filled.world⟩
  | .drain counters sink =>
    let drained := buffer.drain send counters sink world
    some ⟨drained.result.map .count, drained.buffer, .sink drained.sink, drained.world⟩
  | .drainOnce sink =>
    (buffer.drainOnce retries send sink world).map fun drained =>
      ⟨drained.result.map .count, drained.buffer, .sink drained.sink, drained.world⟩

/-- What an operation does to the queue of unread bytes when the buffer does not refuse it. -/
def Acts (send : Writing τ) (buffer : Buffer) (world : World) (done : Performed ρ τ) :
    Op ρ τ → Prop
  | .write bytes => done.result = .ok (.count (min bytes.length buffer.freeLen)) ∧
      buffer.Puts done.buffer (bytes.take buffer.freeLen)
  | .writeByte byte => done.result = .ok .done ∧ buffer.Puts done.buffer [byte]
  | .writeAll bytes => done.result = .ok (.count bytes.length) ∧ buffer.Puts done.buffer bytes
  | .stash bytes => done.result = .ok .done ∧ buffer.Stashes done.buffer bytes
  | .commit count => done.result = .ok .done ∧
      buffer.Puts done.buffer (buffer.freeRegion.take count) ∧
      (buffer.freeRegion.take count).length = count
  | .read wanted => done.result = .ok (.bytes (buffer.unread.take wanted)) ∧
      buffer.Takes done.buffer wanted
  | .readByte => ∃ byte, done.result = .ok (.bytes [byte]) ∧
      buffer.unread = byte :: done.buffer.unread ∧ buffer.Takes done.buffer 1
  | .peek count => done.result = .ok (.bytes (buffer.unread.take count)) ∧
      count ≤ buffer.unread.length ∧ done.buffer = buffer
  | .discard count => done.result = .ok (.count (min count buffer.unread.length)) ∧
      buffer.Takes done.buffer count
  | .truncate count => done.result = .ok .done ∧ buffer.Trims done.buffer count buffer.size ∧
      done.buffer.readAt = buffer.readAt
  | .resize size => done.result = .ok .done ∧
      buffer.Trims done.buffer (size - buffer.readAt) size ∧
      done.buffer.writeAt = min buffer.writeAt size
  | .reset => done.result = .ok .done ∧ buffer.Trims done.buffer 0 buffer.size ∧
      done.buffer.freeLen = buffer.size
  | .free => done.result = .ok .done ∧ done.buffer.unread = [] ∧ done.buffer.size = 0 ∧
      done.buffer.capacity = 0
  | .fill source => ∃ bytes last, done.endpoint = .source last ∧
      buffer.Pours source world bytes done.buffer last done.world ∧
      buffer.Puts done.buffer bytes ∧
      ∀ answer, done.result = .ok answer → answer = .count bytes.length
  | .fillOnce counters source => ∃ bytes last later, done.endpoint = .source last ∧
      buffer.Pours source world bytes done.buffer last later ∧
      done.world = later.count counters bytes.length ∧
      buffer.Puts done.buffer bytes ∧
      ∀ answer, done.result = .ok answer → answer = .count bytes.length
  | .fillExactly wanted source => ∃ bytes last, done.endpoint = .source last ∧
      buffer.Pours source world bytes done.buffer last done.world ∧
      buffer.Puts done.buffer bytes ∧ bytes.length ≤ wanted ∧
      ∀ answer, done.result = .ok answer → answer = .count wanted ∧ bytes.length = wanted
  | .drain counters sink => ∃ taken last, done.endpoint = .sink last ∧
      Hands send counters buffer.unread sink world taken last done.world ∧
      buffer.Takes done.buffer taken ∧
      ∀ answer, done.result = .ok answer →
        answer = .count buffer.unread.length ∧ done.buffer.unread = []
  | .drainOnce sink => ∃ taken last, done.endpoint = .sink last ∧
      Hands send [] buffer.unread sink world taken last done.world ∧
      buffer.Takes done.buffer taken ∧
      ∀ answer, done.result = .ok answer → answer = .count (min taken buffer.unread.length)

/-- An operation goes on for ever: its endpoint is interrupted each time that it is called again. -/
def Stuck (retries : Nat) (send : Writing τ) (buffer : Buffer) (world : World) : Op ρ τ → Prop
  | .fillOnce _ source =>
    Interrupted (fun last later => last.read buffer.freeLen later) (retries + 1) source world
  | .fillExactly _ source => ∃ sizes wanted,
      Interrupted (fun last later => last.read wanted later) (retries + 1)
        (source.readEach sizes world).after (source.readEach sizes world).world
  | .drainOnce sink =>
    Interrupted (fun last later => send last buffer.unread later) (retries + 1) sink world
  | _ => False

section

variable {retries : Nat} {send : Writing τ} {buffer : Buffer} {world : World}
  {done : Performed ρ τ}

-- Every lemma below opens both definitions at one operation.
attribute [local simp] perform refusal

theorem acts_write {bytes : Bytes}
    (accepts : refusal buffer (.write bytes : Op ρ τ) = none)
    (ended : perform retries send buffer world (.write bytes : Op ρ τ) = some done) :
    Acts send buffer world done (.write bytes) := by
  simp only [perform, Option.some.injEq] at ended
  subst ended
  have puts := Puts.append_fitting buffer bytes
  cases bytes with
  | nil =>
    rw [Buffer.append_nil] at puts
    refine ⟨?_, puts⟩
    simp [Buffer.write, Except.mapError, Except.map]
  | cons first rest =>
    have roomy : ¬ buffer.isFull = true := by
      simpa [refusal, isFull] using accepts
    simp only [Buffer.write, List.isEmpty_cons, Bool.false_eq_true, if_false, roomy]
    exact ⟨rfl, puts⟩

theorem acts_writeByte {byte : UInt8}
    (accepts : refusal buffer (.writeByte byte : Op ρ τ) = none)
    (ended : perform retries send buffer world (.writeByte byte : Op ρ τ) = some done) :
    Acts send buffer world done (.writeByte byte) := by
  simp only [perform, Option.some.injEq] at ended
  subst ended
  have room : buffer.freeLen ≠ 0 := by simpa [refusal] using accepts
  have roomy : ¬ buffer.isFull = true := by simpa [isFull] using room
  simp only [Buffer.writeByte, roomy, if_false, Bool.false_eq_true]
  refine ⟨rfl, .append buffer [byte] ?_⟩
  rw [List.length_singleton]
  omega

theorem acts_writeAll {bytes : Bytes}
    (accepts : refusal buffer (.writeAll bytes : Op ρ τ) = none)
    (ended : perform retries send buffer world (.writeAll bytes : Op ρ τ) = some done) :
    Acts send buffer world done (.writeAll bytes) := by
  simp only [perform, Option.some.injEq] at ended
  subst ended
  have fits : ¬ buffer.freeLen < bytes.length := by simpa [refusal] using accepts
  simp only [Buffer.writeAll, fits, if_false]
  exact ⟨rfl, .append buffer bytes (Nat.not_lt.mp fits)⟩

theorem acts_commit (sound : buffer.Sound) {count : Nat}
    (accepts : refusal buffer (.commit count : Op ρ τ) = none)
    (ended : perform retries send buffer world (.commit count : Op ρ τ) = some done) :
    Acts send buffer world done (.commit count) := by
  have fits : ¬ buffer.freeLen < count := by simpa [refusal] using accepts
  simp only [perform, Buffer.commit, fits, if_false, Option.some.injEq] at ended
  subst ended
  have region : buffer.freeRegion.take count = buffer.spare.take count := by
    rw [freeRegion, List.take_take, Nat.min_eq_left (Nat.not_lt.mp fits)]
  have length : (buffer.spare.take count).length = count := by
    have write := sound.write_le_size
    have size := sound.size_le_capacity
    rw [List.length_take]
    rw [freeLen] at fits
    simp only [writeAt, capacity] at write size fits
    omega
  rw [Acts, region]
  refine ⟨rfl, ?_, length⟩
  have puts := Puts.append buffer (buffer.spare.take count) (by omega)
  rw [Buffer.append, List.take_of_length_le (by omega), length] at puts
  exact puts

theorem acts_read (wanted : Nat)
    (ended : perform retries send buffer world (.read wanted : Op ρ τ) = some done) :
    Acts send buffer world done (.read wanted) := by
  simp only [perform, Option.some.injEq] at ended
  subst ended
  exact ⟨rfl, .consume buffer wanted⟩

theorem acts_readByte (accepts : refusal buffer (.readByte : Op ρ τ) = none)
    (ended : perform retries send buffer world (.readByte : Op ρ τ) = some done) :
    Acts send buffer world done .readByte := by
  have some : buffer.unread ≠ [] := by simpa [refusal] using accepts
  simp only [perform, Option.some.injEq] at ended
  subst ended
  obtain ⟨byte, rest, unread⟩ := List.exists_cons_of_ne_nil some
  have takes := Takes.consume buffer 1
  simp only [Buffer.readByte, unread]
  exact ⟨byte, rfl, by simp [Buffer.consume, unread], takes⟩

theorem acts_peek {count : Nat} (accepts : refusal buffer (.peek count : Op ρ τ) = none)
    (ended : perform retries send buffer world (.peek count : Op ρ τ) = some done) :
    Acts send buffer world done (.peek count) := by
  simp only [perform, Option.some.injEq] at ended
  subst ended
  have within : count = 0 ∨ count ≤ buffer.unread.length := by
    by_contra beyond
    simp only [refusal, if_neg beyond] at accepts
    split at accepts <;> cases accepts
  refine ⟨?_, by omega, rfl⟩
  by_cases zero : count = 0
  · simp only [Buffer.peek, zero, if_true, List.take_zero]
    rfl
  · have enough : ¬ buffer.unread.length < count := by omega
    have some : ¬ buffer.isEmpty = true := by
      rw [isEmpty, List.isEmpty_iff_length_eq_zero]
      omega
    simp only [Buffer.peek, zero, enough, some, if_false, Bool.false_eq_true]
    rfl

theorem acts_discard {count : Nat} (accepts : refusal buffer (.discard count : Op ρ τ) = none)
    (ended : perform retries send buffer world (.discard count : Op ρ τ) = some done) :
    Acts send buffer world done (.discard count) := by
  have some : ¬ buffer.isEmpty = true := by
    rw [isEmpty, List.isEmpty_iff]
    simpa [refusal] using accepts
  simp only [perform, Buffer.discard, some, if_false, Bool.false_eq_true, Option.some.injEq]
    at ended
  subst ended
  exact ⟨rfl, .consume buffer count⟩

theorem acts_truncate (count : Nat)
    (ended : perform retries send buffer world (.truncate count : Op ρ τ) = some done) :
    Acts send buffer world done (.truncate count) := by
  simp only [perform, Option.some.injEq] at ended
  subst ended
  exact ⟨rfl, .truncate buffer count, rfl⟩

theorem acts_resize {size : Nat} (accepts : refusal buffer (.resize size : Op ρ τ) = none)
    (ended : perform retries send buffer world (.resize size : Op ρ τ) = some done) :
    Acts send buffer world done (.resize size) := by
  have fits : ¬ buffer.capacity < size := by simpa [refusal] using accepts
  simp only [perform, Buffer.resize, fits, if_false, Option.some.injEq] at ended
  subst ended
  refine ⟨rfl, .resize buffer size, ?_⟩
  have within := buffer.writeAt_le_capacity
  have length := buffer.length_storage
  simp only [writeAt, cutAt, List.length_reverse, List.length_take, List.length_drop, length]
    at within ⊢
  omega

theorem acts_reset (ended : perform retries send buffer world (.reset : Op ρ τ) = some done) :
    Acts send buffer world done .reset := by
  simp only [perform, Option.some.injEq] at ended
  subst ended
  exact ⟨rfl, .reset buffer, rfl⟩

theorem acts_free (sound : buffer.Sound)
    (ended : perform retries send buffer world (.free : Op ρ τ) = some done) :
    Acts send buffer world done .free := by
  simp only [perform, Option.some.injEq] at ended
  subst ended
  have write := sound.write_le_size
  have size := sound.size_le_capacity
  simp only [World.freeBuffer, Buffer.free]
  by_cases none : buffer.capacity = 0
  · rw [if_pos none]
    rw [writeAt] at write
    have empty : buffer.unread.length = 0 := by omega
    have sized : buffer.size = 0 := by omega
    exact ⟨rfl, List.length_eq_zero_iff.mp empty, sized, none⟩
  · rw [if_neg none]
    cases buffer.owner <;> exact ⟨rfl, rfl, rfl, rfl⟩

theorem counted {result : Except BufferFault Nat} {answer : Answer}
    (ok : result.map Answer.count = .ok answer) :
    ∃ count, result = .ok count ∧ answer = .count count := by
  cases result with
  | error => cases ok
  | ok count =>
    cases ok
    exact ⟨count, rfl, rfl⟩

theorem acts_fill {source : Source ρ} (accepts : refusal buffer (.fill source : Op ρ τ) = none)
    (ended : perform retries send buffer world (.fill source : Op ρ τ) = some done) :
    Acts send buffer world done (.fill source) := by
  have roomy : ¬ buffer.isFull = true := by simpa [refusal, isFull] using accepts
  simp only [perform, Buffer.fill, roomy, if_false, Bool.false_eq_true, Option.some.injEq] at ended
  subst ended
  obtain ⟨bytes, pours, counts⟩ := buffer.fillLoop_pours source world stallLimit 0
  refine ⟨bytes, _, rfl, pours, pours.puts, ?_⟩
  intro answer ok
  obtain ⟨count, result, rfl⟩ := counted ok
  rw [counts count result, Nat.zero_add]

theorem acts_fillOnce {counters : List Counter} {source : Source ρ}
    (accepts : refusal buffer (.fillOnce counters source : Op ρ τ) = none) :
    match perform retries send buffer world (.fillOnce counters source : Op ρ τ) with
    | none => Stuck retries send buffer world (.fillOnce counters source : Op ρ τ)
    | some done => Acts send buffer world done (.fillOnce counters source) := by
  have roomy : ¬ buffer.isFull = true := by simpa [refusal, isFull] using accepts
  have pours := buffer.fillOnceLoop_pours counters source world retries
  simp only [perform, Buffer.fillOnce, roomy, if_false, Bool.false_eq_true]
  cases loop : buffer.fillOnceLoop counters source world retries with
  | none =>
    rw [loop] at pours
    exact pours
  | some filled =>
    rw [loop] at pours
    obtain ⟨bytes, later, pours, counted, counts⟩ := pours
    refine ⟨bytes, _, later, rfl, pours, counted, pours.puts, ?_⟩
    intro answer ok
    obtain ⟨count, result, rfl⟩ := Op.counted ok
    rw [counts count result]

theorem acts_fillExactly {wanted : Nat} {source : Source ρ}
    (accepts : refusal buffer (.fillExactly wanted source : Op ρ τ) = none) :
    match perform retries send buffer world (.fillExactly wanted source : Op ρ τ) with
    | none => Stuck retries send buffer world (.fillExactly wanted source : Op ρ τ)
    | some done => Acts send buffer world done (.fillExactly wanted source) := by
  have room : ¬ buffer.freeLen < wanted := by simpa [refusal] using accepts
  have pours := buffer.fillExactlyLoop_pours retries source world wanted wanted retries
    (Nat.not_lt.mp room)
  simp only [perform, Buffer.fillExactly, room, if_false]
  cases loop : buffer.fillExactlyLoop retries source world wanted wanted retries with
  | none =>
    rw [loop] at pours
    rcases pours with stuck | stuck
    · exact ⟨[], wanted, stuck⟩
    · exact stuck
  | some filled =>
    rw [loop] at pours
    obtain ⟨bytes, pours, within, counts, _⟩ := pours
    refine ⟨bytes, _, rfl, pours, pours.puts, within, ?_⟩
    intro answer ok
    obtain ⟨count, result, rfl⟩ := Op.counted ok
    obtain ⟨rfl, all⟩ := counts count result
    exact ⟨rfl, all⟩

theorem acts_drain {counters : List Counter} {sink : τ}
    (accepts : refusal buffer (.drain counters sink : Op ρ τ) = none)
    (ended : perform retries send buffer world (.drain counters sink : Op ρ τ) = some done) :
    Acts send buffer world done (.drain counters sink) := by
  have some : buffer.unread ≠ [] := by simpa [refusal] using accepts
  simp only [perform, Option.some.injEq] at ended
  subst ended
  obtain ⟨taken, hands, takes, counts⟩ := buffer.drain_hands send counters sink world some
  refine ⟨taken, _, rfl, hands, takes, ?_⟩
  intro answer ok
  obtain ⟨count, result, rfl⟩ := Op.counted ok
  obtain ⟨rfl, empty⟩ := counts count result
  exact ⟨rfl, empty⟩

theorem acts_drainOnce {sink : τ} (accepts : refusal buffer (.drainOnce sink : Op ρ τ) = none) :
    match perform retries send buffer world (.drainOnce sink : Op ρ τ) with
    | none => Stuck retries send buffer world (.drainOnce sink : Op ρ τ)
    | some done => Acts send buffer world done (.drainOnce sink : Op ρ τ) := by
  have some : buffer.unread ≠ [] := by simpa [refusal] using accepts
  have hands := buffer.drainOnceLoop_hands send sink world retries some
  have left : ¬ buffer.isEmpty = true := by rwa [isEmpty, List.isEmpty_iff]
  simp only [perform, Buffer.drainOnce, left, if_false, Bool.false_eq_true]
  cases loop : buffer.drainOnceLoop send sink world retries with
  | none =>
    rw [loop] at hands
    exact hands
  | some drained =>
    rw [loop] at hands
    obtain ⟨taken, hands, takes, counts⟩ := hands
    refine ⟨taken, _, rfl, hands, takes, ?_⟩
    intro answer ok
    obtain ⟨count, result, rfl⟩ := Op.counted ok
    rw [counts count result]

/-- What becomes of an operation that the buffer does not refuse. -/
def Outcome (retries : Nat) (send : Writing τ) (buffer : Buffer) (world : World) (op : Op ρ τ) :
    Option (Performed ρ τ) → Prop
  | none => op.Stuck retries send buffer world
  | some done => op.Acts send buffer world done

theorem Outcome.of_some {op : Op ρ τ} {result : Option (Performed ρ τ)}
    (ends : result.isSome = true)
    (acts : ∀ done, result = some done → op.Acts send buffer world done) :
    op.Outcome retries send buffer world result := by
  cases result with
  | none => cases ends
  | some done => exact acts done rfl

theorem acts (sound : buffer.Sound) (op : Op ρ τ) (accepts : op.refusal buffer = none) :
    op.Outcome retries send buffer world (op.perform retries send buffer world) := by
  cases op with
  | write bytes => exact .of_some rfl fun _ => acts_write accepts
  | writeByte byte => exact .of_some rfl fun _ => acts_writeByte accepts
  | writeAll bytes => exact .of_some rfl fun _ => acts_writeAll accepts
  | stash bytes =>
    refine .of_some rfl fun done ended => ?_
    simp only [perform, Option.some.injEq] at ended
    subst ended
    exact ⟨rfl, .stash buffer sound bytes⟩
  | commit count =>
    refine .of_some ?_ fun _ => acts_commit sound accepts
    rw [perform]
    split <;> rfl
  | read wanted => exact .of_some rfl fun _ => acts_read wanted
  | readByte => exact .of_some rfl fun _ => acts_readByte accepts
  | peek count => exact .of_some rfl fun _ => acts_peek accepts
  | discard count => exact .of_some rfl fun _ => acts_discard accepts
  | truncate count => exact .of_some rfl fun _ => acts_truncate count
  | resize size =>
    refine .of_some ?_ fun _ => acts_resize accepts
    rw [perform]
    split <;> rfl
  | reset => exact .of_some rfl fun _ => acts_reset
  | free => exact .of_some rfl fun _ => acts_free sound
  | fill source => exact .of_some rfl fun _ => acts_fill accepts
  | fillOnce counters source => exact acts_fillOnce accepts
  | fillExactly wanted source => exact acts_fillExactly accepts
  | drain counters sink => exact .of_some rfl fun _ => acts_drain accepts
  | drainOnce sink => exact acts_drainOnce accepts

/-- A buffer that refuses an operation stays as it is, and so does the far end. -/
theorem perform_refused (retries : Nat) (send : Writing τ) (buffer : Buffer) (world : World)
    (op : Op ρ τ) {fault : BufferFault} (refuses : op.refusal buffer = some fault) :
    op.perform retries send buffer world = some ⟨.error fault, buffer, op.endpoint, world⟩ := by
  cases op with
  | write bytes =>
    simp only [refusal, Option.ite_none_right_eq_some, Option.some.injEq] at refuses
    obtain ⟨⟨some, full⟩, rfl⟩ := refuses
    simp [perform, Buffer.write, isFull, some, full, BufferFault.toIo, IoFault.toBuffer,
      Except.mapError, Except.map, endpoint]
  | writeByte byte =>
    simp only [refusal, Option.ite_none_right_eq_some, Option.some.injEq] at refuses
    obtain ⟨full, rfl⟩ := refuses
    simp [perform, Buffer.writeByte, isFull, full, Except.map, endpoint]
  | writeAll bytes =>
    simp only [refusal, Option.ite_none_right_eq_some, Option.some.injEq] at refuses
    obtain ⟨short, rfl⟩ := refuses
    simp [perform, Buffer.writeAll, short, Except.map, endpoint]
  | commit count =>
    simp only [refusal, Option.ite_none_right_eq_some, Option.some.injEq] at refuses
    obtain ⟨beyond, rfl⟩ := refuses
    simp [perform, Buffer.commit, beyond, endpoint]
  | readByte =>
    simp only [refusal, Option.ite_none_right_eq_some, Option.some.injEq] at refuses
    obtain ⟨empty, rfl⟩ := refuses
    simp [perform, Buffer.readByte, empty, Except.map, endpoint]
  | peek count =>
    simp only [refusal, Option.ite_none_left_eq_some, not_or] at refuses
    obtain ⟨⟨some, more⟩, refuses⟩ := refuses
    by_cases empty : buffer.unread = []
    · rw [if_pos empty, Option.some.injEq] at refuses
      subst refuses
      simp [perform, Buffer.peek, some, isEmpty, empty, Except.map, endpoint]
    · rw [if_neg empty, Option.some.injEq] at refuses
      subst refuses
      have beyond : buffer.unread.length < count := by omega
      simp [perform, Buffer.peek, some, isEmpty, empty, beyond, Except.map, endpoint]
  | discard count =>
    simp only [refusal, Option.ite_none_right_eq_some, Option.some.injEq] at refuses
    obtain ⟨empty, rfl⟩ := refuses
    simp [perform, Buffer.discard, isEmpty, empty, Except.map, endpoint]
  | resize size =>
    simp only [refusal, Option.ite_none_right_eq_some, Option.some.injEq] at refuses
    obtain ⟨beyond, rfl⟩ := refuses
    simp [perform, Buffer.resize, beyond, endpoint]
  | fill source =>
    simp only [refusal, Option.ite_none_right_eq_some, Option.some.injEq] at refuses
    obtain ⟨full, rfl⟩ := refuses
    simp [perform, Buffer.fill, isFull, full, Except.map, endpoint]
  | fillOnce counters source =>
    simp only [refusal, Option.ite_none_right_eq_some, Option.some.injEq] at refuses
    obtain ⟨full, rfl⟩ := refuses
    simp [perform, Buffer.fillOnce, isFull, full, Except.map, endpoint]
  | fillExactly wanted source =>
    simp only [refusal, Option.ite_none_right_eq_some, Option.some.injEq] at refuses
    obtain ⟨short, rfl⟩ := refuses
    simp [perform, Buffer.fillExactly, short, Except.map, endpoint]
  | drain counters sink =>
    simp only [refusal, Option.ite_none_right_eq_some, Option.some.injEq] at refuses
    obtain ⟨empty, rfl⟩ := refuses
    simp [perform, Buffer.drain, isEmpty, empty, Except.map, endpoint]
  | drainOnce sink =>
    simp only [refusal, Option.ite_none_right_eq_some, Option.some.injEq] at refuses
    obtain ⟨empty, rfl⟩ := refuses
    simp [perform, Buffer.drainOnce, isEmpty, empty, Except.map, endpoint]
  | stash | read | truncate | reset | free => cases refuses

/-- The storage of a buffer changes in the free region only, unless the buffer is freed. -/
theorem Acts.frames (sound : buffer.Sound) {op : Op ρ τ} (acts : op.Acts send buffer world done)
    (kept : op ≠ .free) : buffer.Frames done.buffer := by
  cases op with
  | write bytes => exact acts.2.frames sound
  | writeByte byte => exact acts.2.frames sound
  | writeAll bytes => exact acts.2.frames sound
  | stash bytes => exact acts.2.frames
  | commit count => exact acts.2.1.frames sound
  | read wanted => exact acts.2.frames
  | readByte =>
    obtain ⟨_, _, _, takes⟩ := acts
    exact takes.frames
  | peek count =>
    rw [acts.2.2]
    exact (Takes.refl buffer).frames
  | discard count => exact acts.2.frames
  | truncate count => exact acts.2.1.frames
  | resize size => exact acts.2.1.frames
  | reset => exact acts.2.1.frames
  | free => exact absurd rfl kept
  | fill source =>
    obtain ⟨_, _, _, _, puts, _⟩ := acts
    exact puts.frames sound
  | fillOnce counters source =>
    obtain ⟨_, _, _, _, _, _, puts, _⟩ := acts
    exact puts.frames sound
  | fillExactly wanted source =>
    obtain ⟨_, _, _, _, puts, _⟩ := acts
    exact puts.frames sound
  | drain counters sink =>
    obtain ⟨_, _, _, _, takes, _⟩ := acts
    exact takes.frames
  | drainOnce sink =>
    obtain ⟨_, _, _, _, takes, _⟩ := acts
    exact takes.frames

/-- An operation that the buffer does not refuse keeps the cursors in order. -/
theorem Acts.sound (sound : buffer.Sound) {op : Op ρ τ} (accepts : op.refusal buffer = none)
    (acts : op.Acts send buffer world done) : done.buffer.Sound := by
  cases op with
  | write bytes => exact acts.2.sound sound
  | writeByte byte => exact acts.2.sound sound
  | writeAll bytes => exact acts.2.sound sound
  | stash bytes => exact acts.2.sound sound
  | commit count => exact acts.2.1.sound sound
  | read wanted => exact acts.2.sound sound
  | readByte =>
    obtain ⟨_, _, _, takes⟩ := acts
    exact takes.sound sound
  | peek count =>
    rw [acts.2.2]
    exact sound
  | discard count => exact acts.2.sound sound
  | truncate count => exact acts.2.1.sound (acts.2.1.within sound) sound.size_le_capacity
  | resize size =>
    have fits : ¬ buffer.capacity < size := by simpa [refusal] using accepts
    apply acts.2.1.sound
    · rw [acts.2.2]
      exact Nat.min_le_right _ _
    · exact Nat.not_lt.mp fits
  | reset => exact acts.2.1.sound (acts.2.1.within sound) sound.size_le_capacity
  | free =>
    obtain ⟨_, _, size, capacity⟩ := acts
    constructor
    · rw [size, ← capacity]
      exact done.buffer.writeAt_le_capacity
    · rw [size]
      exact Nat.zero_le _
  | fill source =>
    obtain ⟨_, _, _, _, puts, _⟩ := acts
    exact puts.sound sound
  | fillOnce counters source =>
    obtain ⟨_, _, _, _, _, _, puts, _⟩ := acts
    exact puts.sound sound
  | fillExactly wanted source =>
    obtain ⟨_, _, _, _, puts, _⟩ := acts
    exact puts.sound sound
  | drain counters sink =>
    obtain ⟨_, _, _, _, takes, _⟩ := acts
    exact takes.sound sound
  | drainOnce sink =>
    obtain ⟨_, _, _, _, takes, _⟩ := acts
    exact takes.sound sound

end

end Op

/-- A buffer as it is made: of zeros, of bytes, or from a pool. -/
inductive Made : Buffer → Prop where
  | zeroed (size : Nat) : Made (.zeroed size)
  | ofBytes (bytes : Bytes) : Made (.ofBytes bytes)
  | pooled (world : World) (pool : PoolId) (size : Nat) (used : (world.pools.get pool).Used) :
    Made (world.takeBuffer pool size).1

theorem sound_zeroed (size : Nat) : (zeroed size).Sound :=
  ⟨Nat.zero_le _, by simp [zeroed, capacity]⟩

theorem sound_ofStorage {storage : Bytes} {size : Nat} (pool : PoolId)
    (fits : size ≤ storage.length) : (ofStorage storage size pool).Sound := by
  refine ⟨Nat.zero_le _, ?_⟩
  simp only [ofStorage, capacity, List.length_nil, Nat.zero_add]
  exact fits

theorem sound_takeBuffer {world : World} {pool : PoolId}
    (stocked : (world.pools.get pool).Stocked) (size : Nat) :
    (world.takeBuffer pool size).1.Sound := by
  unfold World.takeBuffer
  dsimp only
  split
  · rename_i serves
    have within : size ≤ (world.pools.get pool).size := by
      simp only [Pool.serves, Bool.and_eq_true, decide_eq_true_eq] at serves
      exact serves.2
    split
    · rename_i storage rest idle
      have length := stocked.fit storage (by rw [idle]; exact List.mem_cons_self)
      exact sound_ofStorage pool (length ▸ within)
    · exact sound_ofStorage pool (by rwa [List.length_replicate])
  · exact sound_zeroed size

theorem Made.sound {buffer : Buffer} (made : Made buffer) : buffer.Sound := by
  cases made with
  | zeroed size => exact sound_zeroed size
  | ofBytes bytes => exact ⟨by simp [Buffer.ofBytes, writeAt], by simp [Buffer.ofBytes, capacity]⟩
  | pooled world pool size used => exact sound_takeBuffer used.stocked size

/-- A buffer after any number of operations, each of them in any world. -/
inductive Reached (ρ : Type) [ReadPeer ρ] {τ : Type} (send : Writing τ) : Buffer → Prop where
  | made {buffer : Buffer} (made : Made buffer) : Reached ρ send buffer
  | step {buffer : Buffer} (reached : Reached ρ send buffer) (retries : Nat) (op : Op ρ τ)
    (world : World) {done : Performed ρ τ}
    (ended : op.perform retries send buffer world = some done) : Reached ρ send done.buffer

section

variable {ρ : Type} [ReadPeer ρ] {τ : Type} {send : Writing τ} {buffer : Buffer}

theorem Reached.sound (reached : Reached ρ send buffer) : buffer.Sound := by
  induction reached with
  | made made => exact made.sound
  | @step buffer _ retries op world done ended sound =>
    cases refuses : op.refusal buffer with
    | some fault =>
      rw [op.perform_refused retries send buffer world refuses, Option.some.injEq] at ended
      rw [← ended]
      exact sound
    | none =>
      have outcome : op.Outcome retries send buffer world _ := Op.acts sound op refuses
      rw [ended] at outcome
      exact outcome.sound sound refuses

/-- A buffer is a bounded queue, whatever was done to it. Its cursors are in order and mark off the
unread bytes and the free region in the storage. An operation that it refuses, for want of room or
of unread bytes, changes neither buffer nor endpoint nor world; any other one acts on the unread
bytes as on a queue and touches the storage in the free region only, unless it frees the buffer or
its endpoint keeps it waiting. -/
theorem reached_queue (reached : Reached ρ send buffer) :
    buffer.readAt ≤ buffer.writeAt ∧ buffer.writeAt ≤ buffer.size ∧
    buffer.size ≤ buffer.capacity ∧ buffer.storage.length = buffer.capacity ∧
    buffer.unread = (buffer.storage.take buffer.writeAt).drop buffer.readAt ∧
    buffer.freeRegion = (buffer.storage.take buffer.size).drop buffer.writeAt ∧
    ∀ (retries : Nat) (world : World) (op : Op ρ τ),
      match op.refusal buffer with
      | some fault => op.perform retries send buffer world =
          some ⟨.error fault, buffer, op.endpoint, world⟩
      | none => match op.perform retries send buffer world with
        | none => op.Stuck retries send buffer world
        | some done => op.Acts send buffer world done ∧ done.buffer.Sound ∧
            (op ≠ .free → buffer.Frames done.buffer) := by
  have sound := reached.sound
  refine ⟨buffer.readAt_le_writeAt, sound.write_le_size, sound.size_le_capacity,
    buffer.length_storage, buffer.unread_eq, buffer.freeRegion_eq, ?_⟩
  intro retries world op
  split
  · rename_i fault refuses
    exact op.perform_refused retries send buffer world refuses
  · rename_i accepts
    have outcome : op.Outcome retries send buffer world _ := Op.acts sound op accepts
    split
    · rename_i stuck
      rw [stuck] at outcome
      exact outcome
    · rename_i done ended
      rw [ended] at outcome
      exact ⟨outcome, outcome.sound sound accepts, outcome.frames sound⟩

end

/-- A buffer of four bytes that took three and gave one has room for one more. -/
theorem reached_queue_partway :
    let send : Writing Unit := fun sink bytes world => ⟨.ok bytes.length, sink, world⟩
    let buffer := ((zeroed 4).append [1, 2, 3]).consume 1
    Reached RehearsedReader send buffer ∧
      buffer.unread = (buffer.storage.take buffer.writeAt).drop buffer.readAt ∧
      (Op.commit 2 : Op RehearsedReader Unit).perform 0 send buffer .initial =
        some ⟨.error .overflow, buffer, .absent, .initial⟩ ∧
      buffer.Puts (buffer.write [7, 8]).2 [7] := by
  intro send buffer
  have full : Reached RehearsedReader send ((zeroed 4).append [1, 2, 3]) :=
    .step (.made (.zeroed 4)) 0 (.write [1, 2, 3]) .initial rfl
  have reached : Reached RehearsedReader send buffer := .step full 0 (.read 1) .initial rfl
  obtain ⟨_, _, _, _, unread, _, operations⟩ := reached_queue reached
  exact ⟨reached, unread, operations 0 .initial (.commit 2),
    (operations 0 .initial (.write [7, 8])).1.2⟩

end Buffer

end Conduit
