import Conduit.Proofs.Source.Layers
import Conduit.Proofs.World.Obliging

set_option autoImplicit false

namespace Conduit

namespace ReadPeer

variable {ρ : Type} [ReadPeer ρ]

/-- A reader that is asked again and again for so many bytes answers at last. -/
inductive Heeds (wanted : Nat) : ρ → Prop where
  | now {reader : ρ} (settled : Buffer.Settled (answer reader wanted)) : Heeds wanted reader
  | later {reader : ρ} (next : Heeds wanted (after reader wanted)) : Heeds wanted reader

/-- Whatever is asked of a reader, it gives at most so many bytes and answers at last. -/
structure Ends (reader : ρ) (most : Nat) : Prop where
  bounded : ∀ given later, Run reader given later → given.length ≤ most
  heeds : ∀ given later wanted, Run reader given later → 0 < wanted → Heeds wanted later

variable {reader : ρ} {most wanted : Nat}

/-- What a read brings counts against what the reader may still give. -/
theorem Ends.read (ends : Ends reader most) (some : 0 < wanted) :
    ∃ less, less + (brought (answer reader wanted)).length ≤ most ∧
      Ends (after reader wanted) less := by
  have once := Run.one reader some
  have fits := ends.bounded _ _ once
  refine ⟨most - (brought (answer reader wanted)).length, by omega, ?_, ?_⟩
  · intro given later run
    have both := ends.bounded _ _ (once.trans run)
    rw [List.length_append] at both
    omega
  · exact fun given later wanted run => ends.heeds _ _ wanted (once.trans run)

/-- A reader with a stream to give answers at last. -/
theorem Streams.heeds {stream : Bytes} {patience : Nat}
    (streams : Streams reader stream patience) (some : 0 < wanted) : Heeds wanted reader := by
  induction patience using Nat.strongRecOn generalizing reader with
  | ind patience ih =>
    cases answer : ReadPeer.answer reader wanted with
    | ok bytes => exact .now fun fault absurd => nomatch answer.symm.trans absurd
    | error fault =>
      obtain ⟨_, fewer, fits, on⟩ := streams.error some answer
      exact .later (ih fewer fits on)

theorem Streams.ends {stream : Bytes} {patience : Nat}
    (streams : Streams reader stream patience) : Ends reader stream.length where
  bounded := by
    intro given later run
    obtain ⟨rest, _, split, _⟩ := streams.run run
    rw [split, List.length_append]
    exact Nat.le_add_right _ _
  heeds := by
    intro given later wanted run some
    obtain ⟨rest, fewer, _, on⟩ := streams.run run
    exact on.heeds some

end ReadPeer

namespace Kernel

/-- The call with this number is interrupted, if it is a read of this descriptor. -/
def Interrupts (kernel : Kernel) (fd : Fd) (number : Nat) : Prop :=
  match kernel.verdict number .read with
  | .refuses error => error.kind = .interrupted
  | .grants _ => ∃ error, (kernel.descriptors.get fd).readError = some error ∧
      error.kind = .interrupted

/-- A descriptor that is read again and again answers at last, however many calls there were. -/
def Heeds (kernel : Kernel) (fd : Fd) : Prop :=
  ∀ number, ∃ later, number ≤ later ∧ ¬ kernel.Interrupts fd later

variable {kernel later : Kernel} {fd : Fd}

theorem Continues.interrupts (on : kernel.Continues later) (number : Nat) :
    later.Interrupts fd number ↔ kernel.Interrupts fd number := by
  have same : (later.descriptors.get fd).readError = (kernel.descriptors.get fd).readError :=
    congrArg (·.readError) (on.conduct fd)
  rw [Interrupts, Interrupts, on.verdict, same]

theorem Continues.heeds (on : kernel.Continues later) (heeds : kernel.Heeds fd) :
    later.Heeds fd := by
  intro number
  obtain ⟨last, reached, answered⟩ := heeds number
  exact ⟨last, reached, fun again => answered ((on.interrupts last).mp again)⟩

theorem readBlock_settled {limit : Nat} {error : SystemError}
    (granted : kernel.verdict kernel.calls .read = .grants limit)
    (answered : ¬ kernel.Interrupts fd kernel.calls)
    (blocked : readBlock (kernel.descriptors.get fd) = some error) : error.kind ≠ .interrupted := by
  rw [Interrupts, granted] at answered
  unfold readBlock at blocked
  split at blocked
  · rename_i reason fails
    cases blocked
    exact fun interrupted => answered ⟨error, fails, interrupted⟩
  · split at blocked
    · cases blocked
      decide
    · cases blocked

theorem read_settled (wanted : Nat) (answered : ¬ kernel.Interrupts fd kernel.calls) :
    Buffer.Settled ((kernel.read fd wanted).1.mapError .system) := by
  have hard {error : SystemError} (other : error.kind ≠ .interrupted) :
      Buffer.Settled (.error (.system error)) := by
    rintro fault same
    cases same
    exact beq_eq_false_iff_ne.mpr other
  unfold read
  cases ruled : kernel.ruling .read with
  | refuses error =>
    rw [ruling] at ruled
    rw [Interrupts, ruled] at answered
    exact hard answered
  | grants limit =>
    cases blocked : readBlock (kernel.descriptors.get fd) with
    | none =>
      intro fault failed
      simp only [blocked, Except.mapError] at failed
      cases failed
    | some error =>
      simp only [blocked, Except.mapError]
      exact hard (readBlock_settled ruled answered blocked)

theorem calls_read (kernel : Kernel) (fd : Fd) (wanted : Nat) :
    (kernel.read fd wanted).2.calls = kernel.calls + 1 := by
  unfold read
  dsimp only
  split <;> rfl

end Kernel

/-- The kernel has no part in a buffer that is read out and let go. -/
theorem World.continues_readShared_release (world : World) (handle : SharedId) (wanted : Nat) :
    world.kernel.Continues ((world.readShared handle wanted).2.release handle).kernel :=
  ((world.elsewhere_setShared handle _).trans (World.elsewhere_release _ handle)).continues

namespace Source

variable {ρ : Type} [ReadPeer ρ]

/-- The live end of a source gives at most so many bytes, and answers at last. -/
def Ends : Source ρ → Kernel → Nat → Prop
  | .peer reader, _, most => ReadPeer.Ends reader most
  | .descriptor fd, kernel, _ => kernel.Heeds fd
  | .buffer _, _, _ => True
  | .cached _ _ inner, kernel, most => inner.Ends kernel most
  | .counted _ _ inner, kernel, most => inner.Ends kernel most
  | .plain inner, kernel, most => inner.Ends kernel most

/-- A source delivers at most so many bytes, those in stock and those that its live end still gives,
and is not interrupted for ever. -/
def Finite (source : Source ρ) (world : World) (bytes : Nat) : Prop :=
  ∃ most, source.Ends world.kernel most ∧ (source.stock world.stores).length + most ≤ bytes

theorem Ends.continues {source : Source ρ} {kernel later : Kernel} {most : Nat}
    (ends : source.Ends kernel most) (on : kernel.Continues later) : source.Ends later most := by
  induction source with
  | peer | buffer => exact ends
  | descriptor fd => exact on.heeds ends
  | cached _ _ _ ih => exact ih ends
  | counted _ _ _ ih => exact ih ends
  | plain _ ih => exact ih ends

theorem Gives.ends {source : Source ρ} {tail : Bytes} {patience : Nat}
    (gives : source.Gives tail patience) (kernel : Kernel) : source.Ends kernel tail.length := by
  induction source with
  | peer reader => exact ReadPeer.Streams.ends gives
  | descriptor fd => exact absurd gives id
  | buffer stock => trivial
  | cached _ _ _ ih => exact ih gives.2
  | counted _ _ _ ih => exact ih gives
  | plain _ ih => exact ih gives

namespace Reads

variable {source : Source ρ} {wanted : Nat} {world : World} {reading : Called (Source ρ) Bytes}

/-- What the live end gave in a read counts against what it may still give. -/
theorem ends (reads : Reads source wanted world reading) (some : 0 < wanted) {most : Nat}
    (ends : source.Ends world.kernel most) :
    ∃ less, less + reading.world.obtained.length ≤ most + world.obtained.length ∧
      reading.after.Ends reading.world.kernel less := by
  have passed (world : World) (handle : SharedId) (wanted : Nat) :
      ((world.readShared handle wanted).2.release handle).obtained = world.obtained :=
    World.obtained_of_journal_eq (by simp)
  have on := World.continues_readShared_release
  induction reads with
  | peer reader wanted world =>
    obtain ⟨less, fits, again⟩ := ReadPeer.Ends.read ends some
    refine ⟨less, ?_, again⟩
    rw [World.obtained_record, List.length_append]
    cases answer : ReadPeer.answer reader wanted with
    | ok bytes =>
      rw [answer] at fits
      simp only [Event.obtained, ReadPeer.brought] at fits ⊢
      omega
    | error fault =>
      rw [answer] at fits
      simp only [Event.obtained, ReadPeer.brought, List.length_nil] at fits ⊢
      omega
  | descriptor fd wanted world =>
    exact ⟨most, Nat.le_refl _, (world.elsewhere_kernelRead fd wanted).continues.heeds ends⟩
  | buffer | deferred | nothing | part => exact ⟨most, Nat.le_refl _, ends⟩
  | whole _ => exact ⟨most, Nat.le_of_eq (by rw [passed]), ends.continues (on _ _ _)⟩
  | through _ ih => exact ih some ends
  | joined fewer _ _ ih =>
    have beneath := ih (by omega) (ends.continues (on _ _ _))
    rwa [passed] at beneath
  | kept fewer _ _ _ ih =>
    have beneath := ih (by omega) (ends.continues (on _ _ _))
    rwa [passed] at beneath
  | failed _ _ _ ih =>
    have beneath := ih some (ends.continues (on _ _ _))
    rwa [passed] at beneath
  | counted _ _ ih =>
    simp only [World.obtained_count]
    exact ih some ends
  | uncounted _ _ ih => exact ih some ends
  | plain _ ih => exact ih some ends

/-- What a read brings counts against what its source delivers. -/
theorem finite (reads : Reads source wanted world reading) (some : 0 < wanted) {bytes : Nat}
    (finite : source.Finite world bytes) :
    ∃ left, left + (ReadPeer.brought reading.answer).length ≤ bytes ∧
      reading.after.Finite reading.world left := by
  obtain ⟨most, ends, fits⟩ := finite
  obtain ⟨less, fewer, again⟩ := reads.ends some ends
  obtain ⟨gained, heard, flow, _⟩ := reads.account some
  have lengths := congrArg List.length flow
  rw [heard, List.length_append] at fewer
  rw [List.length_append, List.length_append] at lengths
  exact ⟨_, by omega, less, again, Nat.le_refl _⟩

end Reads

/-- A source that is read again and again for so many bytes answers at last. -/
inductive Heeds (wanted : Nat) : Source ρ → World → Prop where
  | now {source : Source ρ} {world : World}
    (settled : Buffer.Settled (source.read wanted world).answer) : Heeds wanted source world
  | later {source : Source ρ} {world : World}
    (next : Heeds wanted (source.read wanted world).after (source.read wanted world).world) :
    Heeds wanted source world

namespace Heeds

variable {wanted : Nat} {source : Source ρ} {world : World}

theorem peer {reader : ρ} (heeds : ReadPeer.Heeds wanted reader) (world : World) :
    Heeds wanted (.peer reader) world := by
  induction heeds generalizing world with
  | now settled => exact .now settled
  | later _ ih => exact .later (ih _)

theorem descriptor {fd : Fd} {last : Nat} (more : Nat) (reached : world.kernel.calls + more = last)
    (answered : ¬ world.kernel.Interrupts fd last) :
    Heeds wanted (.descriptor fd : Source ρ) world := by
  induction more generalizing world with
  | zero =>
    rw [← reached] at answered
    exact .now (Kernel.read_settled wanted answered)
  | succ more ih =>
    have on := (world.elsewhere_kernelRead fd wanted).continues
    apply Heeds.later
    apply ih
    · rw [← reached]
      exact (congrArg (· + more) (world.kernel.calls_read fd wanted)).trans (by omega)
    · exact fun again => answered ((on.interrupts last).mp again)

/-- A layer that is read out answers when what lies beneath does. -/
theorem through {inner : Source ρ} (heeds : Heeds (wanted + 1) inner world) :
    Heeds (wanted + 1) (.cached none none inner) world := by
  induction heeds with
  | now settled => exact .now settled
  | later _ ih => exact .later ih

theorem counted {inner : Source ρ} (heeds : Heeds wanted inner world) (counters : List Counter)
    (total : Nat) : Heeds wanted (.counted counters total inner) world := by
  induction heeds with
  | @now inner world settled =>
    apply Heeds.now
    intro fault failed
    simp only [Source.read] at failed
    split at failed
    · cases failed
    · rename_i cause beneath
      cases failed
      exact settled fault beneath
  | @later inner world _ ih =>
    cases answer : (inner.read wanted world).answer with
    | ok bytes =>
      apply Heeds.now
      intro fault failed
      simp [Source.read, answer] at failed
    | error fault =>
      apply Heeds.later
      simp only [Source.read, answer]
      exact ih

theorem plain {inner : Source ρ} (heeds : Heeds wanted inner world) :
    Heeds wanted (.plain inner) world := by
  induction heeds with
  | now settled => exact .now settled
  | later _ ih => exact .later ih

end Heeds

/-- A read of a layer over an empty buffer is one of what lies beneath. -/
theorem read_hollow {handle : SharedId} (inner : Source ρ) {wanted : Nat} {world : World}
    (empty : world.stores.held handle = []) :
    let beneath := inner.read (wanted + 1)
      ((world.readShared handle (wanted + 1)).2.release handle)
    (cached (some handle) none inner).read (wanted + 1) world =
      ⟨beneath.answer, .cached none none beneath.after, beneath.world⟩ := by
  have drained : ((world.readShared handle (wanted + 1)).2.shared handle).isEmpty = true :=
    isEmpty_readShared (by simp [empty])
  simp only [read, World.readShared_fst, drained, empty, if_true, List.take_nil, List.length_nil,
    Nat.sub_zero, List.isEmpty_nil, List.nil_append]
  split
  · rename_i absurd
    omega
  · split <;> simp_all

/-- A layer over a buffer with bytes in it answers at once. -/
theorem settled_held {handle : SharedId} (inner : Source ρ) (wanted : Nat) {world : World}
    (some : world.stores.held handle ≠ []) :
    Buffer.Settled ((cached (.some handle) none inner).read (wanted + 1) world).answer := by
  have reads := reads_read (cached (.some handle) none inner) (wanted + 1) world
  generalize (cached (.some handle) none inner).read (wanted + 1) world = reading at reads
  cases reads with
  | part | whole | joined | kept => exact fun fault absurd => nomatch absurd
  | failed empty => exact absurd empty some

/-- A source whose live end answers at last does so itself. -/
theorem Ends.heeds {source : Source ρ} {wanted most : Nat} {world : World} (some : 0 < wanted)
    (ends : source.Ends world.kernel most) : source.Heeds wanted world := by
  induction source generalizing world with
  | peer reader =>
    exact .peer (ReadPeer.Ends.heeds ends [] reader wanted (.still reader) some) world
  | descriptor fd =>
    obtain ⟨last, reached, answered⟩ := ends world.kernel.calls
    exact .descriptor (last - world.kernel.calls) (by omega) answered
  | buffer stock => exact .now fun fault absurd => nomatch absurd
  | cached layer deferred inner ih =>
    obtain ⟨less, rfl⟩ : ∃ less, wanted = less + 1 := ⟨wanted - 1, by omega⟩
    have bare : (cached layer none inner).Heeds (less + 1) world := by
      cases layer with
      | none => exact (ih ends).through
      | some handle =>
        by_cases empty : world.stores.held handle = []
        · have beneath := ih
            (Ends.continues ends (world.continues_readShared_release handle (less + 1)))
          cases beneath with
          | now settled =>
            apply Heeds.now
            rw [read_hollow inner empty]
            exact settled
          | later next =>
            apply Heeds.later
            rw [read_hollow inner empty]
            exact next.through
        · exact .now (settled_held inner less empty)
    cases deferred with
    | none => exact bare
    | some fault => exact .later bare
  | counted counters total inner ih => exact (ih ends).counted counters total
  | plain inner ih => exact (ih ends).plain

/-- What lies beneath the layer that is picked off ends like the whole. -/
theorem Ends.pick {source : Source ρ} {kernel : Kernel} {most : Nat}
    (ends : source.Ends kernel most) : (putBack source.pick).Ends kernel most := by
  induction source with
  | peer | descriptor | buffer | counted | plain => exact ends
  | cached layer deferred inner ih =>
    cases deferred with
    | some fault => exact ends
    | none =>
      cases layer with
      | none => exact ih ends
      | some handle => exact ends

namespace Finite

variable {source rest : Source ρ} {world after : World} {bytes : Nat}

theorem mono {more : Nat} (finite : source.Finite world bytes) (fits : bytes ≤ more) :
    source.Finite world more := by
  obtain ⟨most, ends, within⟩ := finite
  exact ⟨most, ends, by omega⟩

/-- What touches neither buffers nor descriptors makes no difference. -/
theorem still (finite : source.Finite world bytes) (stores : after.stores = world.stores)
    (on : world.kernel.Continues after.kernel) : source.Finite after bytes := by
  obtain ⟨most, ends, fits⟩ := finite
  rw [← stores] at fits
  exact ⟨most, ends.continues on, fits⟩

theorem noted (finite : source.Finite world bytes) (journal : Journal) :
    source.Finite { world with journal } bytes :=
  finite.still rfl (.refl _)

/-- What is drawn out of the stock counts against what is delivered. -/
theorem draws {taken : Bytes} (finite : source.Finite world bytes)
    (draws : source.Draws world taken [] rest after)
    (kept : ∀ most, source.Ends world.kernel most → rest.Ends after.kernel most) :
    ∃ left, left + taken.length ≤ bytes ∧ rest.Finite after left := by
  obtain ⟨most, ends, fits⟩ := finite
  have lengths := congrArg List.length draws.flow
  rw [List.append_nil, List.length_append] at lengths
  exact ⟨_, by omega, most, kept most ends, Nat.le_refl _⟩

theorem pick {cached : Option SharedId} (finite : source.Finite world bytes)
    (picked : source.pick = (rest, cached)) : (putBack (rest, cached)).Finite world bytes := by
  obtain ⟨most, ends, fits⟩ := finite
  rw [← (alike_pick source).stock] at fits
  rw [← picked]
  exact ⟨most, ends.pick, fits⟩

/-- A layer whose buffer holds nothing is let go. -/
theorem release {handle : SharedId} (finite : (cached (some handle) none rest).Finite world bytes)
    (empty : world.stores.held handle = []) : rest.Finite (world.release handle) bytes := by
  have kept (most : Nat) (ends : rest.Ends world.kernel most) :
      rest.Ends (world.release handle).kernel most :=
    ends.continues (world.elsewhere_release handle).continues
  obtain ⟨left, fits, again⟩ := finite.draws (draws_release handle rest world empty) kept
  exact again.mono fits

theorem consume {handle : SharedId} {taken : Bytes} (buffer : Buffer)
    (finite : (cached (some handle) none rest).Finite world bytes)
    (held : world.stores.held handle = taken ++ buffer.unread) :
    ∃ left, left + taken.length ≤ bytes ∧
      (cached (some handle) none rest).Finite (world.setShared handle buffer) left :=
  finite.draws (draws_consume handle rest world buffer taken held) fun _ => id

/-- Bytes that were read are put back in front, in a new shared buffer. -/
theorem share (finite : rest.Finite world bytes) (buffer : Buffer) :
    (cached (some (world.share buffer).1) none rest).Finite (world.share buffer).2
      (buffer.unread.length + bytes) := by
  obtain ⟨most, ends, fits⟩ := finite
  refine ⟨most, Ends.continues ends (world.elsewhere_share buffer).continues, ?_⟩
  have inFront : (world.share buffer).2.stores.held (world.share buffer).1 = buffer.unread := by
    rw [World.stores_share]
    exact Stores.held_refilled_same _ _ _
  have beneath : (world.share buffer).2.stores.emptied (world.share buffer).1 = world.stores := by
    rw [World.stores_share, Stores.emptied]
    exact (Stores.refilled_twice _ _ _ _).trans
      (Stores.emptied_of_empty _ _ (World.held_next world))
  rw [stock, inFront, beneath, List.length_append]
  omega

end Finite

end Source

end Conduit
