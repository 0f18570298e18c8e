import Conduit.Proofs.Splice.Passage
import Conduit.Splice.Transfer

set_option autoImplicit false

namespace Conduit

namespace Piping

def held (piping : Piping) : Bytes := piping.world.kernel.held piping.pipe.id

/-- A splice came from one state to another by calls of the kernel alone. -/
structure Carries (source destination : Fd) (passage : Passage) (piping later : Piping) :
    Prop where
  kernel : piping.world.kernel.Carries source destination piping.pipe.id passage
    later.world.kernel
  pools : later.world.pools = piping.world.pools
  cells : later.world.cells = piping.world.cells
  pipePools : later.world.pipePools = piping.world.pipePools
  journal : later.world.journal = piping.world.journal
  pipe : later.pipe.id = piping.pipe.id
  copied : later.copied = piping.copied + passage.given.length

section Carries

variable {source destination : Fd} {piping middle later : Piping} {passage first second : Passage}

theorem Carries.refl (source destination : Fd) (piping : Piping) :
    Carries source destination .still piping piping :=
  ⟨.refl _ _ _ _, rfl, rfl, rfl, rfl, rfl, rfl⟩

theorem Carries.trans (front : piping.Carries source destination first middle)
    (back : middle.Carries source destination second later) :
    piping.Carries source destination (first.andThen second) later where
  kernel := by
    have after := back.kernel
    rw [front.pipe] at after
    exact front.kernel.trans after
  pools := back.pools.trans front.pools
  cells := back.cells.trans front.cells
  pipePools := back.pipePools.trans front.pipePools
  journal := back.journal.trans front.journal
  pipe := back.pipe.trans front.pipe
  copied := by
    rw [back.copied, front.copied, Passage.andThen, List.length_append]
    omega

/-- A call that failed leaves everything as it is. -/
theorem Carries.tick (source destination : Fd) (piping : Piping) :
    piping.Carries source destination .still (piping.withKernel piping.world.kernel.tick) :=
  ⟨.tick _ _ _ _, rfl, rfl, rfl, rfl, rfl, rfl⟩

theorem Carries.held_eq (carries : piping.Carries source destination passage later) :
    piping.held ++ passage.drawn = passage.removed ++ later.held := by
  have flow := carries.kernel.held
  rw [← carries.pipe] at flow
  rw [held, held, ← carries.pipe]
  exact flow

/-- Nothing came in, so the pipe holds what was not taken out. -/
theorem Carries.held_split {removed given : Bytes}
    (carries : piping.Carries source destination ⟨[], removed, given⟩ later) :
    piping.held = removed ++ later.held := by
  have flow := carries.held_eq
  rwa [List.append_nil] at flow

end Carries

variable {source destination : Fd}

/-- What taking bytes in comes to: `moved` went from the source into the pipe. -/
structure TakesIn (source destination : Fd) (wanted : Nat) (moved : Bytes) (piping : Piping)
    (step : PipeStep Nat) : Prop where
  carries : piping.Carries source destination ⟨moved, [], []⟩ step.after
  ok : ∀ count, step.result = .ok count →
    count = moved.length ∧ step.after.pipe.pending = count ∧
      (piping.world.kernel.incoming source ≠ [] → wanted ≠ 0 → moved ≠ [])
  error : ∀ fault, step.result = .error fault → moved = [] ∧ step.after.pipe = piping.pipe

section TakesIn

variable {wanted : Nat} {moved : Bytes} {piping : Piping} {step : PipeStep Nat}

/-- A failed call before it makes no difference. -/
theorem TakesIn.late
    (takes : TakesIn source destination wanted moved
      (piping.withKernel piping.world.kernel.tick) step) :
    TakesIn source destination wanted moved piping step where
  carries := (Carries.tick source destination piping).trans takes.carries
  ok := takes.ok
  error := takes.error

theorem TakesIn.stop (fault : IoFault) {later : Piping}
    (same : piping.Carries source destination .still later) (pipe : later.pipe = piping.pipe) :
    TakesIn source destination wanted [] piping ⟨.error fault, later⟩ where
  carries := same
  ok := fun _ result => nomatch result
  error := fun _ _ => ⟨rfl, pipe⟩

/-- What was taken into an empty pipe is all that it holds, and is believed to be. -/
theorem TakesIn.fills (takes : TakesIn source destination wanted moved piping step)
    (empty : piping.held = []) {count : Nat} (success : step.result = .ok count) :
    step.after.held = moved ∧ step.after.pipe.pending = step.after.held.length := by
  obtain ⟨counted, believed, -⟩ := takes.ok count success
  have flow := takes.carries.held_eq
  rw [empty, List.nil_append, List.nil_append] at flow
  exact ⟨flow.symm, by rw [← flow, ← counted, believed]⟩

theorem takeIn_takes (destination : Fd) {calls : Nat}
    (ends : takeIn source wanted calls piping = some step) :
    ∃ moved, TakesIn source destination wanted moved piping step := by
  induction calls generalizing piping with
  | zero => cases ends
  | succ calls ih =>
    rw [takeIn] at ends
    split at ends
    · rename_i count kernel called
      cases ends
      obtain ⟨moved, counted, -, some, -, carries⟩ :=
        Kernel.spliceIn_made destination called
      refine ⟨moved, ⟨carries, rfl, rfl, rfl, rfl, rfl, rfl⟩, ?_, fun _ result => nomatch result⟩
      intro found result
      cases result
      exact ⟨counted, rfl, some⟩
    · rename_i error kernel called
      obtain ⟨ticked, -⟩ := Kernel.spliceIn_failed called
      subst ticked
      split at ends
      · obtain ⟨moved, takes⟩ := ih ends
        exact ⟨moved, takes.late⟩
      · split at ends
        all_goals
          rename_i answered
          cases Kernel.waited answered
        · cases ends
          have twice := (Carries.tick source destination piping).trans
            (Carries.tick source destination (piping.withKernel piping.world.kernel.tick))
          exact ⟨[], .stop _ twice rfl⟩
        · obtain ⟨moved, takes⟩ := ih ends
          have once : TakesIn source destination wanted moved
              (piping.withKernel piping.world.kernel.tick) step := takes.late
          exact ⟨moved, once.late⟩
      · cases ends
        exact ⟨[], .stop _ (Carries.tick source destination piping) rfl⟩

end TakesIn

/-- What giving bytes out comes to: `moved` went from the pipe to the destination. -/
structure GivesOut (source destination : Fd) (moved : Bytes) (piping : Piping)
    (step : PipeStep Unit) : Prop where
  carries : piping.Carries source destination ⟨[], moved, moved⟩ step.after
  pending : step.after.pipe.pending = step.after.held.length
  ok : step.result = .ok () → step.after.pipe.pending = 0

section GivesOut

variable {moved : Bytes} {piping : Piping} {step : PipeStep Unit}

theorem GivesOut.after {first : Bytes} {middle : Piping}
    (front : piping.Carries source destination ⟨[], first, first⟩ middle)
    (gives : GivesOut source destination moved middle step) :
    GivesOut source destination (first ++ moved) piping step where
  carries := front.trans gives.carries
  pending := gives.pending
  ok := gives.ok

theorem GivesOut.late
    (gives : GivesOut source destination moved (piping.withKernel piping.world.kernel.tick) step) :
    GivesOut source destination moved piping step :=
  gives.after (Carries.tick source destination piping)

theorem GivesOut.stop (fault : IoFault) {later : Piping}
    (same : piping.Carries source destination .still later)
    (pending : later.pipe.pending = later.held.length) :
    GivesOut source destination [] piping ⟨.error fault, later⟩ :=
  ⟨same, pending, fun result => nomatch result⟩

theorem GivesOut.drained (gives : GivesOut source destination moved piping step)
    (success : step.result = .ok ()) : step.after.held = [] :=
  List.length_eq_zero_iff.mp (gives.pending.symm.trans (gives.ok success))

/-- A call that is made moves the first bytes of the pipe, and some where there are some. -/
theorem spliceOut_carries (source : Fd) {kernel : Kernel} {count : Nat}
    (called : piping.world.kernel.spliceOut piping.pipe.id destination piping.pipe.pending =
      (.ok count, kernel))
    (right : piping.pipe.pending = piping.held.length) :
    count ≤ piping.pipe.pending ∧ (piping.pipe.pending ≠ 0 → count ≠ 0) ∧
      ((piping.withKernel kernel).moved count).pipe.pending =
        ((piping.withKernel kernel).moved count).held.length ∧
      ∃ moved, piping.Carries source destination ⟨[], moved, moved⟩
        ((piping.withKernel kernel).moved count) := by
  obtain ⟨moved, counted, within, present, -, carries⟩ := Kernel.spliceOut_made source called
  have step : piping.Carries source destination ⟨[], moved, moved⟩
      ((piping.withKernel kernel).moved count) :=
    ⟨carries, rfl, rfl, rfl, rfl, rfl, by rw [← counted]; rfl⟩
  have split := congrArg List.length step.held_split
  rw [List.length_append, ← counted, ← right] at split
  refine ⟨within, ?_, ?_, moved, step⟩
  · intro some none
    have holds : piping.held ≠ [] := fun empty => some (right.trans (congrArg _ empty))
    exact present holds some (List.length_eq_zero_iff.mp (counted.symm.trans none))
  · show piping.pipe.pending - count = _
    omega

/-- What is believed to be in the pipe stays right however giving out ends. -/
theorem giveOut_gives (source : Fd) {calls : Nat}
    (ends : giveOut destination calls piping = some step)
    (right : piping.pipe.pending = piping.held.length) :
    ∃ moved, GivesOut source destination moved piping step := by
  induction calls generalizing piping with
  | zero => cases ends
  | succ calls ih =>
    rw [giveOut] at ends
    split at ends
    · rename_i none
      cases ends
      exact ⟨[], .refl source destination piping, right, fun _ => none⟩
    · rename_i some
      split at ends
      · rename_i kernel called
        obtain ⟨-, present, -⟩ := spliceOut_carries source called right
        exact absurd rfl (present some)
      · rename_i less kernel called
        obtain ⟨within, -, still, moved, carries⟩ := spliceOut_carries source called right
        rw [Nat.min_eq_left within] at ends
        obtain ⟨others, gives⟩ := ih ends still
        exact ⟨moved ++ others, gives.after carries⟩
      · rename_i error kernel called
        obtain ⟨ticked, -⟩ := Kernel.spliceOut_failed called
        subst ticked
        split at ends
        · obtain ⟨moved, gives⟩ := ih ends right
          exact ⟨moved, gives.late⟩
        · split at ends
          all_goals
            rename_i answered
            cases Kernel.waited answered
          · cases ends
            have twice := (Carries.tick source destination piping).trans
              (Carries.tick source destination (piping.withKernel piping.world.kernel.tick))
            exact ⟨[], .stop _ twice right⟩
          · obtain ⟨moved, gives⟩ := ih ends right
            have once : GivesOut source destination moved
                (piping.withKernel piping.world.kernel.tick) step := gives.late
            exact ⟨moved, once.late⟩
        · cases ends
          exact ⟨[], .stop _ (Carries.tick source destination piping) right⟩

end GivesOut

/-- What reading out of the pipe comes to: `bytes` left it. -/
structure ReadsOut (source destination : Fd) (wanted : Nat) (bytes : Bytes) (piping : Piping)
    (step : PipeStep Bytes) : Prop where
  carries : piping.Carries source destination ⟨[], bytes, []⟩ step.after
  pipe : step.after.pipe = piping.pipe
  ok : ∀ found, step.result = .ok found →
    bytes = found ∧ found.length ≤ wanted ∧ (piping.held ≠ [] → wanted ≠ 0 → found ≠ [])
  error : ∀ fault, step.result = .error fault → bytes = []

theorem readOut_reads (source destination : Fd) {wanted calls : Nat} {piping : Piping}
    {step : PipeStep Bytes}
    (ends : readOut wanted calls piping = some step) :
    ∃ bytes, ReadsOut source destination wanted bytes piping step := by
  induction calls generalizing piping with
  | zero => cases ends
  | succ calls ih =>
    rw [readOut] at ends
    split at ends
    · rename_i bytes kernel called
      cases ends
      obtain ⟨within, some, -, carries⟩ :=
        Kernel.readPipe_made source destination called
      refine ⟨bytes, ⟨carries, rfl, rfl, rfl, rfl, rfl, rfl⟩, rfl, ?_,
        fun _ result => nomatch result⟩
      intro found result
      cases result
      exact ⟨rfl, within, some⟩
    · rename_i error kernel called
      obtain ⟨ticked, -⟩ := Kernel.readPipe_failed called
      subst ticked
      have tick := Carries.tick source destination piping
      split at ends
      · obtain ⟨bytes, reads⟩ := ih ends
        exact ⟨bytes, tick.trans reads.carries, reads.pipe, reads.ok, reads.error⟩
      · cases ends
        exact ⟨[], tick, rfl, (fun _ result => nomatch result), fun _ _ => rfl⟩

/-- What writing bytes out comes to: `moved`, the first of them, reached the destination. -/
structure WritesOut (source destination : Fd) (bytes moved : Bytes) (piping : Piping)
    (step : PipeStep Unit) : Prop where
  carries : piping.Carries source destination ⟨[], [], moved⟩ step.after
  pipe : step.after.pipe = piping.pipe
  part : moved <+: bytes
  ok : step.result = .ok () → moved = bytes

section WritesOut

variable {bytes moved : Bytes} {piping : Piping} {step : PipeStep Unit}

theorem WritesOut.late
    (writes : WritesOut source destination bytes moved
      (piping.withKernel piping.world.kernel.tick) step) :
    WritesOut source destination bytes moved piping step :=
  ⟨(Carries.tick source destination piping).trans writes.carries, writes.pipe, writes.part,
    writes.ok⟩

theorem WritesOut.stop (fault : IoFault) {later : Piping}
    (same : piping.Carries source destination .still later) (pipe : later.pipe = piping.pipe) :
    WritesOut source destination bytes [] piping ⟨.error fault, later⟩ :=
  ⟨same, pipe, List.nil_prefix, fun result => nomatch result⟩

theorem writeOut_writes (source : Fd) {calls : Nat}
    (ends : writeOut destination calls bytes piping = some step) :
    ∃ moved, WritesOut source destination bytes moved piping step := by
  induction calls generalizing bytes piping with
  | zero => cases ends
  | succ calls ih =>
    rw [writeOut] at ends
    split at ends
    · rename_i none
      cases ends
      exact ⟨[], .refl source destination piping, rfl, List.nil_prefix,
        fun _ => (List.isEmpty_iff.mp none).symm⟩
    · split at ends
      · rename_i kernel called
        cases ends
        obtain ⟨-, -, -, carries⟩ :=
          Kernel.write_made source piping.pipe.id called
        rw [List.take_zero] at carries
        exact ⟨[], .stop _ ⟨carries, rfl, rfl, rfl, rfl, rfl, rfl⟩ rfl⟩
      · rename_i less kernel called
        obtain ⟨within, -, -, carries⟩ :=
          Kernel.write_made source piping.pipe.id called
        have first : piping.Carries source destination ⟨[], [], bytes.take (less + 1)⟩
            { piping.withKernel kernel with copied := piping.copied + (less + 1) } :=
          ⟨carries, rfl, rfl, rfl, rfl, rfl, by rw [List.length_take, Nat.min_eq_left within]⟩
        obtain ⟨moved, writes⟩ := ih ends
        refine ⟨bytes.take (less + 1) ++ moved, first.trans writes.carries, writes.pipe, ?_, ?_⟩
        · conv_rhs => rw [← List.take_append_drop (less + 1) bytes]
          exact (List.prefix_append_right_inj _).mpr writes.part
        · intro result
          rw [writes.ok result, List.take_append_drop]
      · rename_i error kernel called
        obtain ⟨ticked, -⟩ := Kernel.write_failed called
        subst ticked
        split at ends
        · obtain ⟨moved, writes⟩ := ih ends
          exact ⟨moved, writes.late⟩
        · split at ends
          all_goals
            rename_i answered
            cases Kernel.waited answered
          · cases ends
            have twice := (Carries.tick source destination piping).trans
              (Carries.tick source destination (piping.withKernel piping.world.kernel.tick))
            exact ⟨[], .stop _ twice rfl⟩
          · obtain ⟨moved, writes⟩ := ih ends
            have once : WritesOut source destination bytes moved
                (piping.withKernel piping.world.kernel.tick) step := writes.late
            exact ⟨moved, once.late⟩
        · cases ends
          exact ⟨[], .stop _ (Carries.tick source destination piping) rfl⟩

end WritesOut

/-- What a rescue comes to: `removed` left the pipe, and `given`, the first of it, reached the
destination. The pipe is never believed to hold less than it does. -/
structure Rescues (source destination : Fd) (removed given : Bytes) (piping : Piping)
    (step : PipeStep Unit) : Prop where
  carries : piping.Carries source destination ⟨[], removed, given⟩ step.after
  part : given <+: removed
  pending : step.after.held.length ≤ step.after.pipe.pending
  ok : step.result = .ok () → given = removed ∧ step.after.pipe.pending = 0

theorem rescue_rescues (source : Fd) {scratch calls : Nat} {piping : Piping} {step : PipeStep Unit}
    (ends : rescue destination scratch calls piping = some step)
    (right : piping.pipe.pending = piping.held.length)
    (roomy : scratch ≠ 0 ∨ piping.pipe.pending = 0) :
    ∃ removed given, Rescues source destination removed given piping step := by
  induction calls generalizing piping with
  | zero => cases ends
  | succ calls ih =>
    rw [rescue] at ends
    split at ends
    · rename_i none
      cases ends
      exact ⟨[], [], .refl source destination piping, List.nil_prefix, Nat.le_of_eq right.symm,
        fun _ => ⟨rfl, none⟩⟩
    · rename_i some
      split at ends
      · cases ends
      · rename_i fault later read
        cases ends
        obtain ⟨bytes, reads⟩ := readOut_reads source destination read
        have carries := reads.carries
        rw [reads.error fault rfl] at carries
        have kept : piping.held = later.held := carries.held_split
        have pipe : later.pipe = piping.pipe := reads.pipe
        exact ⟨[], [], carries, List.nil_prefix, Nat.le_of_eq (by rw [← kept, pipe, right]),
          fun result => nomatch result⟩
      · -- The pipe holds bytes, so that reading it gives some.
        rename_i later read
        obtain ⟨bytes, reads⟩ := readOut_reads source destination read
        obtain ⟨-, -, present⟩ := reads.ok [] rfl
        have holds : piping.held ≠ [] := by
          intro none
          rw [none] at right
          exact some right
        have wants : min piping.pipe.pending scratch ≠ 0 := by omega
        exact absurd rfl (present holds wants)
      · rename_i first rest middle read
        obtain ⟨bytes, reads⟩ := readOut_reads source destination read
        obtain ⟨rfl, -, -⟩ := reads.ok _ rfl
        have split : piping.held = (first :: rest) ++ middle.held := reads.carries.held_split
        have counted := congrArg List.length split
        rw [List.length_append, List.length_cons, ← right] at counted
        have believed : middle.pipe = piping.pipe := reads.pipe
        split at ends
        · cases ends
        · rename_i fault later wrote
          cases ends
          obtain ⟨moved, writes⟩ :=
            writeOut_writes source wrote
          have kept : middle.held = later.held := writes.carries.held_split
          have pipe : later.pipe = middle.pipe := writes.pipe
          have carries := reads.carries.trans writes.carries
          simp only [Passage.andThen, List.append_nil, List.nil_append] at carries
          refine ⟨first :: rest, moved, carries, writes.part, ?_, fun result => nomatch result⟩
          rw [← kept, pipe, believed]
          omega
        · rename_i later wrote
          obtain ⟨moved, writes⟩ :=
            writeOut_writes source wrote
          have whole : moved = first :: rest := writes.ok rfl
          subst whole
          have kept : middle.held = later.held := writes.carries.held_split
          have pipe : later.pipe = middle.pipe := writes.pipe
          have carries := reads.carries.trans writes.carries
          simp only [Passage.andThen, List.append_nil, List.nil_append] at carries
          have settled : piping.Carries source destination
              ⟨[], first :: rest, first :: rest⟩
              { later with pipe := { later.pipe with
                  pending := later.pipe.pending - (rest.length + 1) } } :=
            { carries with }
          have believes : later.pipe.pending - (rest.length + 1) = later.held.length := by
            rw [← kept, pipe, believed]
            omega
          -- What was written is taken off the account, which is right again for the next round.
          have room : scratch ≠ 0 ∨ later.pipe.pending - (rest.length + 1) = 0 := by omega
          obtain ⟨removed, given, rescues⟩ := ih ends believes room
          refine ⟨(first :: rest) ++ removed, (first :: rest) ++ given,
            settled.trans rescues.carries, ?_, rescues.pending, ?_⟩
          · exact (List.prefix_append_right_inj _).mpr rescues.part
          · intro result
            exact ⟨by rw [(rescues.ok result).1], (rescues.ok result).2⟩

end Piping

end Conduit
