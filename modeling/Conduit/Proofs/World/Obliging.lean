import Conduit.Proofs.World.Elsewhere

set_option autoImplicit false

namespace Conduit

/-- A refused call is made again, or splicing is given up for it; nothing else is refused, but for
new pipes. -/
def KernelCall.Excuses (error : SystemError) : KernelCall → Prop
  | .openPipe => True
  | .spliceIn => error.kind.isTransient = true ∨ error.isRejection = true
  | .spliceOut => error.kind.isTransient = true ∨ error.isRejection = true
  | .readPipe => error.kind = .interrupted
  | .read => error.kind = .interrupted
  | .write => error.kind.isTransient = true
  | .wait => False

namespace Kernel

/-- A kernel went on: what descriptors do is the same as before, and so are the verdicts. -/
structure Continues (kernel later : Kernel) : Prop where
  conduct : ∀ fd,
    (later.descriptors.get fd).conduct = (kernel.descriptors.get fd).conduct
  verdict : later.verdict = kernel.verdict
  calls : kernel.calls ≤ later.calls

section Continues

variable {source destination : Fd} {kernel middle later : Kernel}

theorem Continues.refl (kernel : Kernel) : Continues kernel kernel :=
  ⟨fun _ => rfl, rfl, Nat.le_refl _⟩

theorem Continues.trans (front : Continues kernel middle) (back : Continues middle later) :
    Continues kernel later :=
  ⟨fun fd => (back.conduct fd).trans (front.conduct fd), back.verdict.trans front.verdict,
    Nat.le_trans front.calls back.calls⟩

theorem Continues.tick (kernel : Kernel) : Continues kernel kernel.tick :=
  ⟨fun _ => rfl, rfl, Nat.le_succ _⟩

theorem Moves.continues {drawn given : Bytes}
    (moves : Moves source destination drawn given kernel later) : Continues kernel later :=
  ⟨moves.conduct, moves.verdict, moves.calls⟩

end Continues

/-- From now on a kernel obliges a copy from one descriptor to another. Both of them block and work,
every refusal is excused, from call number `last` on no call is put off, and no more than
`stallLimit` plain writes in a row are. -/
structure Obliges (input output : Fd) (last : Nat) (kernel : Kernel) : Prop where
  readable : (kernel.descriptors.get input).readError = none
  ends : (kernel.descriptors.get input).staysOpen = false
  writable : (kernel.descriptors.get output).writeError = none
  accepting : (kernel.descriptors.get output).obstacle = none
  excused : ∀ number call error, kernel.calls ≤ number →
    kernel.verdict number call = .refuses error → call.Excuses error
  settles : ∀ number call error, kernel.calls ≤ number → last ≤ number →
    kernel.verdict number call = .refuses error → error.kind.isTransient = false
  patient : ∀ number, kernel.calls ≤ number → ∃ stalls ≤ stallLimit, ∃ limit,
    kernel.verdict (number + stalls) .write = .grants limit

namespace Obliges

variable {input output : Fd} {last : Nat} {kernel later : Kernel}

theorem continues (obliges : kernel.Obliges input output last) (on : kernel.Continues later) :
    later.Obliges input output last where
  readable := (congrArg Descriptor.readError (on.conduct input)).trans obliges.readable
  ends := (congrArg Descriptor.staysOpen (on.conduct input)).trans obliges.ends
  writable := (congrArg Descriptor.writeError (on.conduct output)).trans obliges.writable
  accepting := (congrArg Descriptor.obstacle (on.conduct output)).trans obliges.accepting
  excused := by
    rw [on.verdict]
    exact fun number call error after =>
      obliges.excused number call error (Nat.le_trans on.calls after)
  settles := by
    rw [on.verdict]
    exact fun number call error after =>
      obliges.settles number call error (Nat.le_trans on.calls after)
  patient := by
    rw [on.verdict]
    exact fun number after => obliges.patient number (Nat.le_trans on.calls after)

theorem tick (obliges : kernel.Obliges input output last) : kernel.tick.Obliges input output last :=
  obliges.continues (.tick kernel)

/-- The descriptors have nothing against a call. -/
theorem readBlock_eq (obliges : kernel.Obliges input output last) :
    readBlock (kernel.descriptors.get input) = none := by
  simp [readBlock, obliges.readable, obliges.ends]

theorem writeBlock_eq (obliges : kernel.Obliges input output last) (offered : Nat) :
    writeBlock (kernel.descriptors.get output) offered = none := by
  simp [writeBlock, obliges.writable, obliges.accepting]

theorem early (obliges : kernel.Obliges input output last) {call : KernelCall}
    {error : SystemError} (refused : kernel.ruling call = .refuses error)
    (transient : error.kind.isTransient = true) : kernel.calls < last := by
  by_contra late
  have settled := obliges.settles _ _ _ (Nat.le_refl _) (Nat.le_of_not_lt late) refused
  rw [transient] at settled
  cases settled

theorem rejected (obliges : kernel.Obliges input output last) {call : KernelCall}
    {error : SystemError} (refused : kernel.ruling call = .refuses error)
    (splices : call = .spliceIn ∨ call = .spliceOut) (hard : error.kind.isTransient = false) :
    error.isRejection = true := by
  have excuse := obliges.excused _ _ _ (Nat.le_refl _) refused
  have either : error.kind.isTransient = true ∨ error.isRejection = true := by
    obtain rfl | rfl := splices
    · exact excuse
    · exact excuse
  exact either.resolve_left (by rw [hard]; exact Bool.false_ne_true)

theorem spliceIn_error (obliges : kernel.Obliges input output last) {pipe : PipeId} {wanted : Nat}
    {error : SystemError} (failed : kernel.spliceIn input pipe wanted = (.error error, later)) :
    later = kernel.tick ∧ (error.kind.isTransient = true → kernel.calls < last) ∧
      (error.kind.isTransient = false → error.isRejection = true) := by
  obtain ⟨ticked, refused | blocked⟩ := spliceIn_failed failed
  · exact ⟨ticked, obliges.early refused, obliges.rejected refused (.inl rfl)⟩
  · rw [obliges.readBlock_eq] at blocked
    cases blocked

theorem spliceOut_error (obliges : kernel.Obliges input output last) {pipe : PipeId} {wanted : Nat}
    {error : SystemError} (failed : kernel.spliceOut pipe output wanted = (.error error, later)) :
    later = kernel.tick ∧ (error.kind.isTransient = true → kernel.calls < last) ∧
      (error.kind.isTransient = false → error.isRejection = true) := by
  obtain ⟨ticked, refused | invalid | blocked⟩ := spliceOut_failed failed
  · exact ⟨ticked, obliges.early refused, obliges.rejected refused (.inr rfl)⟩
  · rw [invalid]
    exact ⟨ticked, fun transient => (nomatch transient), fun _ => rfl⟩
  · rw [obliges.writeBlock_eq] at blocked
    cases blocked

theorem readPipe_error (obliges : kernel.Obliges input output last) {pipe : PipeId} {wanted : Nat}
    {error : SystemError} (failed : kernel.readPipe pipe wanted = (.error error, later)) :
    later = kernel.tick ∧ error.kind = .interrupted ∧ kernel.calls < last := by
  obtain ⟨ticked, refused⟩ := readPipe_failed failed
  have interrupted : error.kind = .interrupted := obliges.excused _ _ _ (Nat.le_refl _) refused
  exact ⟨ticked, interrupted, obliges.early refused (by rw [interrupted]; rfl)⟩

theorem read_error (obliges : kernel.Obliges input output last) {wanted : Nat}
    {error : SystemError} (failed : kernel.read input wanted = (.error error, later)) :
    later = kernel.tick ∧ error.kind = .interrupted ∧ kernel.calls < last := by
  obtain ⟨ticked, refused | blocked⟩ := read_failed failed
  · have interrupted : error.kind = .interrupted := obliges.excused _ _ _ (Nat.le_refl _) refused
    exact ⟨ticked, interrupted, obliges.early refused (by rw [interrupted]; rfl)⟩
  · rw [obliges.readBlock_eq] at blocked
    cases blocked

theorem write_error (obliges : kernel.Obliges input output last) {bytes : Bytes}
    {error : SystemError} (failed : kernel.write output bytes = (.error error, later)) :
    later = kernel.tick ∧ kernel.ruling .write = .refuses error ∧
      error.kind.isTransient = true ∧ kernel.calls < last := by
  obtain ⟨ticked, refused | blocked⟩ := write_failed failed
  · have transient : error.kind.isTransient = true :=
      obliges.excused _ _ _ (Nat.le_refl _) refused
    exact ⟨ticked, refused, transient, obliges.early refused transient⟩
  · rw [obliges.writeBlock_eq] at blocked
    cases blocked

/-- A wait ends with a descriptor that is ready. -/
theorem wait_eq (obliges : kernel.Obliges input output last) :
    kernel.wait none = (.ok (), kernel.tick) := by
  unfold wait
  cases ruled : kernel.ruling .wait with
  | refuses error => exact absurd ruled fun refused => obliges.excused _ _ _ (Nat.le_refl _) refused
  | grants limit => simp

theorem waitReadable_eq (obliges : kernel.Obliges input output last) :
    kernel.waitReadable input = (.ok (), kernel.tick) := by
  rw [waitReadable, obliges.readBlock_eq]
  exact obliges.wait_eq

theorem waitWritable_eq (obliges : kernel.Obliges input output last) :
    kernel.waitWritable output = (.ok (), kernel.tick) := by
  rw [waitWritable, obliges.writeBlock_eq]
  exact obliges.wait_eq

end Obliges

end Kernel

theorem World.Elsewhere.continues {world later : World} (elsewhere : World.Elsewhere world later) :
    world.kernel.Continues later.kernel :=
  ⟨elsewhere.conduct, elsewhere.verdict, elsewhere.calls⟩

end Conduit
