import Conduit.Proofs.World.Views

set_option autoImplicit false

namespace Conduit

/-- How a descriptor behaves, whatever went through it. -/
def Descriptor.conduct (descriptor : Descriptor) : Descriptor :=
  { descriptor with incoming := [], pieces := [] }

/-- Bytes on their way from a source through a pipe to a destination. -/
structure Passage where
  /-- Taken from the source into the pipe. -/
  drawn : Bytes
  /-- Taken out of the pipe. -/
  removed : Bytes
  /-- Written to the destination. -/
  given : Bytes

namespace Passage

def still : Passage := ⟨[], [], []⟩

def andThen (first second : Passage) : Passage :=
  ⟨first.drawn ++ second.drawn, first.removed ++ second.removed, first.given ++ second.given⟩

@[simp] theorem still_andThen (passage : Passage) : still.andThen passage = passage := rfl

@[simp] theorem andThen_still (passage : Passage) : passage.andThen still = passage := by
  simp [andThen, still]

end Passage

namespace Kernel

/-- The bytes that a descriptor still delivers. -/
def incoming (kernel : Kernel) (fd : Fd) : Bytes := (kernel.descriptors.get fd).incoming

/-- The bytes written to a descriptor, in order. -/
def received (kernel : Kernel) (fd : Fd) : Bytes := (kernel.descriptors.get fd).received

def held (kernel : Kernel) (pipe : PipeId) : Bytes := kernel.pipes.get pipe

/-- A kernel came out of another by calls that took `drawn` from a source and gave `given` to a
destination. What descriptors do is the same as before, and so are the verdicts. -/
structure Moves (source destination : Fd) (drawn given : Bytes) (kernel later : Kernel) :
    Prop where
  incoming : ∀ fd, kernel.incoming fd = (if fd = source then drawn else []) ++ later.incoming fd
  received : ∀ fd,
    later.received fd = kernel.received fd ++ if fd = destination then given else []
  conduct : ∀ fd,
    (later.descriptors.get fd).conduct = (kernel.descriptors.get fd).conduct
  verdict : later.verdict = kernel.verdict
  calls : kernel.calls ≤ later.calls

/-- A kernel came out of another by calls that moved bytes between a source, a pipe and a
destination, and left all other pipes alone. -/
structure Carries (source destination : Fd) (pipe : PipeId) (passage : Passage)
    (kernel later : Kernel) : Prop extends
    Moves source destination passage.drawn passage.given kernel later where
  held : kernel.held pipe ++ passage.drawn = passage.removed ++ later.held pipe
  others : ∀ other, other ≠ pipe → later.held other = kernel.held other
  made : kernel.pipes.next ≤ later.pipes.next

section Moves

variable {source destination : Fd} {kernel middle later : Kernel}

theorem Moves.of_eq (descriptors : later.descriptors = kernel.descriptors)
    (verdict : later.verdict = kernel.verdict) (calls : kernel.calls ≤ later.calls) :
    Moves source destination [] [] kernel later where
  incoming := fun fd => by simp [Kernel.incoming, descriptors]
  received := fun fd => by simp [Kernel.received, descriptors]
  conduct := fun fd => by rw [descriptors]
  verdict := verdict
  calls := calls

theorem Moves.receive {fd : Fd} {bytes : Bytes}
    (put : later.descriptors =
      kernel.descriptors.put fd ((kernel.descriptors.get fd).receive bytes))
    (verdict : later.verdict = kernel.verdict) (calls : kernel.calls ≤ later.calls) :
    Moves source fd [] bytes kernel later := by
  refine ⟨?incoming, ?received, ?conduct, verdict, calls⟩
  all_goals
    intro other
    simp only [Kernel.incoming, Kernel.received, put, Table.get_put]
    by_cases same : other = fd
    · simp [same, Descriptor.receive, Descriptor.conduct, Descriptor.received]
    · simp [same]

theorem Moves.deliver {fd : Fd} {moved : Bytes}
    (first : kernel.incoming fd = moved ++ (kernel.incoming fd).drop moved.length)
    (put : later.descriptors =
      kernel.descriptors.put fd ((kernel.descriptors.get fd).deliver moved.length))
    (verdict : later.verdict = kernel.verdict) (calls : kernel.calls ≤ later.calls) :
    Moves fd destination moved [] kernel later := by
  refine ⟨?incoming, ?received, ?conduct, verdict, calls⟩
  case incoming =>
    intro other
    simp only [Kernel.incoming, put, Table.get_put]
    split
    · rename_i same
      rw [same]
      exact first
    · rfl
  all_goals
    intro other
    simp only [Kernel.received, put, Table.get_put]
    split
    · rename_i same
      rw [same]
      simp [Descriptor.deliver, Descriptor.conduct, Descriptor.received]
    · simp

theorem Moves.trans {drawn given further more : Bytes}
    (front : Moves source destination drawn given kernel middle)
    (back : Moves source destination further more middle later) :
    Moves source destination (drawn ++ further) (given ++ more) kernel later where
  incoming := by
    intro fd
    rw [front.incoming fd, back.incoming fd]
    by_cases same : fd = source <;> simp [same]
  received := by
    intro fd
    rw [back.received fd, front.received fd]
    by_cases same : fd = destination <;> simp [same]
  conduct := fun fd => (back.conduct fd).trans (front.conduct fd)
  verdict := back.verdict.trans front.verdict
  calls := Nat.le_trans front.calls back.calls

end Moves

section Carries

variable {source destination : Fd} {pipe : PipeId} {kernel middle later : Kernel}

theorem Carries.refl (source destination : Fd) (pipe : PipeId) (kernel : Kernel) :
    Carries source destination pipe .still kernel kernel where
  toMoves := .of_eq rfl rfl (Nat.le_refl _)
  held := List.append_nil _
  others := fun _ _ => rfl
  made := Nat.le_refl _

theorem Carries.trans {first second : Passage}
    (front : Carries source destination pipe first kernel middle)
    (back : Carries source destination pipe second middle later) :
    Carries source destination pipe (first.andThen second) kernel later where
  toMoves := front.toMoves.trans back.toMoves
  held := by
    rw [Passage.andThen, ← List.append_assoc, front.held, List.append_assoc, back.held,
      List.append_assoc]
  others := fun other apart => (back.others other apart).trans (front.others other apart)
  made := Nat.le_trans front.made back.made

theorem Carries.tick (source destination : Fd) (pipe : PipeId) (kernel : Kernel) :
    Carries source destination pipe .still kernel kernel.tick :=
  { Carries.refl source destination pipe kernel with calls := Nat.le_succ _ }

end Carries

theorem granted_le (limit count : Nat) : granted limit count ≤ count := Nat.min_le_left _ _

theorem granted_pos {limit count : Nat} (some : count ≠ 0) : granted limit count ≠ 0 := by
  unfold granted
  omega

theorem take_granted {bytes moved : Bytes} {limit count : Nat}
    (first : moved = bytes.take (granted limit count)) :
    bytes = moved ++ bytes.drop moved.length ∧ moved.length ≤ count ∧
      (bytes ≠ [] → count ≠ 0 → moved ≠ []) := by
  have short : moved.length ≤ granted limit count := by
    rw [first]
    exact List.length_take_le _ _
  have whole : moved = bytes.take moved.length := by
    rw [first, List.length_take, ← List.take_eq_take_min]
  refine ⟨?_, Nat.le_trans short (granted_le limit count), ?_⟩
  · conv_lhs => rw [← List.take_append_drop moved.length bytes]
    rw [← whole]
  · intro present some blank
    rw [blank, eq_comm, List.take_eq_nil_iff] at first
    exact first.elim (granted_pos some) present

section Calls

variable {pipe : PipeId} {kernel later : Kernel}

theorem spliceIn_failed {fd : Fd} {wanted : Nat} {error : SystemError}
    (failed : kernel.spliceIn fd pipe wanted = (.error error, later)) :
    later = kernel.tick ∧ (kernel.ruling .spliceIn = .refuses error ∨
      readBlock (kernel.descriptors.get fd) = some error) := by
  unfold spliceIn at failed
  cases ruled : kernel.ruling .spliceIn with
  | refuses reason =>
    simp only [ruled] at failed
    cases failed
    exact ⟨rfl, .inl rfl⟩
  | grants limit =>
    cases blocked : readBlock (kernel.descriptors.get fd) with
    | none => simp [ruled, blocked] at failed
    | some reason =>
      simp only [ruled, blocked] at failed
      cases failed
      exact ⟨rfl, .inr rfl⟩

theorem spliceOut_failed {fd : Fd} {wanted : Nat} {error : SystemError}
    (failed : kernel.spliceOut pipe fd wanted = (.error error, later)) :
    later = kernel.tick ∧ (kernel.ruling .spliceOut = .refuses error ∨ error = .invalidArgument ∨
      writeBlock (kernel.descriptors.get fd) wanted = some error) := by
  unfold spliceOut at failed
  dsimp only at failed
  split at failed
  · cases failed
    rename_i ruled
    exact ⟨rfl, .inl ruled⟩
  · split at failed
    · cases failed
      exact ⟨rfl, .inr (.inl rfl)⟩
    · split at failed <;> cases failed
      rename_i blocked
      exact ⟨rfl, .inr (.inr blocked)⟩

theorem readPipe_failed {wanted : Nat} {error : SystemError}
    (failed : kernel.readPipe pipe wanted = (.error error, later)) :
    later = kernel.tick ∧ kernel.ruling .readPipe = .refuses error := by
  unfold readPipe at failed
  dsimp only at failed
  split at failed <;> cases failed
  rename_i ruled
  exact ⟨rfl, ruled⟩

theorem write_failed {fd : Fd} {bytes : Bytes} {error : SystemError}
    (failed : kernel.write fd bytes = (.error error, later)) :
    later = kernel.tick ∧ (kernel.ruling .write = .refuses error ∨
      writeBlock (kernel.descriptors.get fd) bytes.length = some error) := by
  unfold write at failed
  cases ruled : kernel.ruling .write with
  | refuses reason =>
    simp only [ruled] at failed
    cases failed
    exact ⟨rfl, .inl rfl⟩
  | grants limit =>
    cases blocked : writeBlock (kernel.descriptors.get fd) bytes.length with
    | none => simp [ruled, blocked] at failed
    | some reason =>
      simp only [ruled, blocked] at failed
      cases failed
      exact ⟨rfl, .inr rfl⟩

theorem read_failed {fd : Fd} {wanted : Nat} {error : SystemError}
    (failed : kernel.read fd wanted = (.error error, later)) :
    later = kernel.tick ∧ (kernel.ruling .read = .refuses error ∨
      readBlock (kernel.descriptors.get fd) = some error) := by
  unfold read at failed
  cases ruled : kernel.ruling .read with
  | refuses reason =>
    simp only [ruled] at failed
    cases failed
    exact ⟨rfl, .inl rfl⟩
  | grants limit =>
    cases blocked : readBlock (kernel.descriptors.get fd) with
    | none => simp [ruled, blocked] at failed
    | some reason =>
      simp only [ruled, blocked] at failed
      cases failed
      exact ⟨rfl, .inr rfl⟩

theorem waited {block : Option SystemError} {answer : Except IoFault Unit}
    (answered : kernel.wait block = (answer, later)) : later = kernel.tick := by
  unfold wait at answered
  split at answered <;> cases answered <;> rfl

theorem spliceIn_made {source : Fd} (destination : Fd) {wanted count : Nat}
    (made : kernel.spliceIn source pipe wanted = (.ok count, later)) :
    ∃ moved, count = moved.length ∧ count ≤ wanted ∧
      (kernel.incoming source ≠ [] → wanted ≠ 0 → moved ≠ []) ∧
      later.calls = kernel.calls + 1 ∧
      kernel.Carries source destination pipe ⟨moved, [], []⟩ later := by
  unfold spliceIn at made
  dsimp only at made
  split at made <;> cases made
  rename_i limit _ _
  obtain ⟨first, within, some⟩ :=
    take_granted (rfl : (kernel.incoming source).take (granted limit wanted) = _)
  refine ⟨_, rfl, within, some, rfl, .deliver first rfl rfl (Nat.le_succ _), ?_, ?_,
    Table.next_le_put _ _ _⟩
  · simp [held]
  · exact fun other apart => Table.get_put_other _ _ _ _ apart

theorem spliceOut_made (source : Fd) {destination : Fd} {wanted count : Nat}
    (made : kernel.spliceOut pipe destination wanted = (.ok count, later)) :
    ∃ moved, count = moved.length ∧ count ≤ wanted ∧
      (kernel.held pipe ≠ [] → wanted ≠ 0 → moved ≠ []) ∧
      later.calls = kernel.calls + 1 ∧
      kernel.Carries source destination pipe ⟨[], moved, moved⟩ later := by
  unfold spliceOut at made
  dsimp only at made
  split at made
  · cases made
  split at made
  · cases made
  split at made <;> cases made
  rename_i limit _ _ _ _
  obtain ⟨first, within, some⟩ :=
    take_granted (rfl : (kernel.held pipe).take (granted limit wanted) = _)
  refine ⟨_, rfl, within, some, rfl, .receive rfl rfl (Nat.le_succ _), ?_, ?_,
    Table.next_le_put _ _ _⟩
  · simp only [held, Table.get_put_same, List.append_nil]
    exact first
  · exact fun other apart => Table.get_put_other _ _ _ _ apart

theorem readPipe_made (source destination : Fd) {wanted : Nat} {bytes : Bytes}
    (made : kernel.readPipe pipe wanted = (.ok bytes, later)) :
    bytes.length ≤ wanted ∧ (kernel.held pipe ≠ [] → wanted ≠ 0 → bytes ≠ []) ∧
      later.calls = kernel.calls + 1 ∧
      kernel.Carries source destination pipe ⟨[], bytes, []⟩ later := by
  unfold readPipe at made
  dsimp only at made
  split at made <;> cases made
  rename_i limit _
  obtain ⟨first, within, some⟩ :=
    take_granted (rfl : (kernel.held pipe).take (granted limit wanted) = _)
  refine ⟨within, some, rfl, .of_eq rfl rfl (Nat.le_succ _), ?_, ?_, Table.next_le_put _ _ _⟩
  · simp only [held, Table.get_put_same, List.append_nil]
    exact first
  · exact fun other apart => Table.get_put_other _ _ _ _ apart

theorem write_made (source : Fd) {destination : Fd} (pipe : PipeId) {bytes : Bytes} {count : Nat}
    (made : kernel.write destination bytes = (.ok count, later)) :
    count ≤ bytes.length ∧ (bytes ≠ [] → count ≠ 0) ∧ later.calls = kernel.calls + 1 ∧
      kernel.Carries source destination pipe ⟨[], [], bytes.take count⟩ later := by
  unfold write at made
  dsimp only at made
  split at made <;> cases made
  rename_i limit _ _
  obtain ⟨-, within, some⟩ := take_granted (rfl : bytes.take (granted limit bytes.length) = _)
  have whole : bytes.take (bytes.take (granted limit bytes.length)).length =
      bytes.take (granted limit bytes.length) := by
    rw [List.length_take, ← List.take_eq_take_min]
  refine ⟨within, ?_, rfl, ?_⟩
  · intro present none
    exact some present (mt List.length_eq_zero_iff.mp present) (List.length_eq_zero_iff.mp none)
  · rw [whole]
    exact ⟨.receive rfl rfl (Nat.le_succ _), List.append_nil _, fun _ _ => rfl, Nat.le_refl _⟩

end Calls

end Kernel

end Conduit
