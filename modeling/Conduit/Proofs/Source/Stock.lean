import Conduit.Proofs.Source.Reads

set_option autoImplicit false

namespace Conduit

namespace Source

variable {ρ : Type}

/-- The bytes that lie ready in a source. A layer's buffer is read out before what lies beneath, so
beneath it the same buffer holds nothing. -/
def stock : Source ρ → Stores → Bytes
  | .peer _, _ => []
  | .descriptor fd, stores => stores.incoming fd
  | .buffer stock, _ => stock.unread
  | .cached none _ inner, stores => inner.stock stores
  | .cached (some handle) _ inner, stores =>
    stores.held handle ++ inner.stock (stores.emptied handle)
  | .counted _ _ inner, stores => inner.stock stores
  | .plain inner, stores => inner.stock stores

/-- The live reader at the far end, if there is one. -/
def live? : Source ρ → Option ρ
  | .peer reader => some reader
  | .descriptor _ => none
  | .buffer _ => none
  | .cached _ _ inner => inner.live?
  | .counted _ _ inner => inner.live?
  | .plain inner => inner.live?

/-- The descriptor at the far end, unless a plain layer hides it. -/
def far? : Source ρ → Option Fd
  | .peer _ => none
  | .descriptor fd => some fd
  | .buffer _ => none
  | .cached _ _ inner => inner.far?
  | .counted _ _ inner => inner.far?
  | .plain _ => none

/-- The shared buffers of a source, outermost first. -/
def handles : Source ρ → List SharedId
  | .peer _ => []
  | .descriptor _ => []
  | .buffer _ => []
  | .cached none _ inner => inner.handles
  | .cached (some handle) _ inner => handle :: inner.handles
  | .counted _ _ inner => inner.handles
  | .plain inner => inner.handles

/-- No fault that waits in a layer, or that the live reader reports, passes for an end of the
stream, and the live reader's end lasts. -/
def Orderly [ReadPeer ρ] : Source ρ → Prop
  | .peer reader => ReadPeer.Orderly reader
  | .descriptor _ => True
  | .buffer _ => True
  | .cached _ deferred inner => (∀ fault ∈ deferred, ¬ fault.EndsStream) ∧ inner.Orderly
  | .counted _ _ inner => inner.Orderly
  | .plain inner => inner.Orderly

theorem held_emptied_congr (inner : Source ρ) (handle : SharedId) (stores other : Stores)
    (held : ∀ member ∈ handle :: inner.handles, stores.held member = other.held member) :
    ∀ member ∈ inner.handles,
      (stores.emptied handle).held member = (other.emptied handle).held member := by
  intro member inside
  by_cases same : member = handle
  · rw [same, Stores.emptied, Stores.emptied, Stores.held_refilled_same,
      Stores.held_refilled_same]
  · rw [Stores.emptied, Stores.emptied, Stores.held_refilled_other _ _ _ _ same,
      Stores.held_refilled_other _ _ _ _ same]
    exact held member (List.mem_cons_of_mem handle inside)

/-- The live reader, if there is one, has just this stream to give, with at most so many
interruptions, and no layer holds a fault back. A descriptor gives no such promise. -/
def Gives [ReadPeer ρ] : Source ρ → Bytes → Nat → Prop
  | .peer reader, tail, interruptions => ReadPeer.Streams reader tail interruptions
  | .descriptor _, _, _ => False
  | .buffer _, tail, _ => tail = []
  | .cached _ deferred inner, tail, interruptions =>
    deferred = none ∧ inner.Gives tail interruptions
  | .counted _ _ inner, tail, interruptions => inner.Gives tail interruptions
  | .plain inner, tail, interruptions => inner.Gives tail interruptions

/-- Nothing is in stock, and the live reader will give nothing more. -/
def Ended [ReadPeer ρ] (source : Source ρ) (stores : Stores) : Prop :=
  source.stock stores = [] ∧ ∀ reader, source.live? = some reader → ReadPeer.Spent reader

/-- The stock depends only on the buffers and descriptors that the source has. -/
theorem stock_congr (source : Source ρ) (stores other : Stores)
    (held : ∀ handle ∈ source.handles, stores.held handle = other.held handle)
    (incoming : stores.incoming = other.incoming) : source.stock stores = source.stock other := by
  induction source generalizing stores other with
  | peer reader => rfl
  | descriptor fd => rw [stock, stock, incoming]
  | buffer stock => rfl
  | cached layer deferred inner ih =>
    cases layer with
    | none => exact ih stores other held incoming
    | some handle =>
      rw [stock, stock, held handle List.mem_cons_self,
        ih _ _ (held_emptied_congr inner handle stores other held) incoming]
  | counted counters total inner ih => exact ih stores other held incoming
  | plain inner ih => exact ih stores other held incoming

/-- What lies beneath an outer layer is the end of the stock. -/
theorem stock_cached (layer : Option SharedId) (deferred : Option IoFault) (inner : Source ρ)
    (stores : Stores) :
    (cached layer deferred inner).stock stores = (cached layer none inner).stock stores := by
  cases layer <;> rfl

variable [ReadPeer ρ]

namespace Reads

variable {source : Source ρ} {wanted : Nat} {world : World} {reading : Called (Source ρ) Bytes}

/-- What a read delivers and what is in stock after it is what was in stock before it, and then what
the live reader gave. -/
theorem account (reads : Reads source wanted world reading) (some : 0 < wanted) :
    ∃ gained, reading.world.obtained = world.obtained ++ gained ∧
      source.stock world.stores ++ gained =
        ReadPeer.brought reading.answer ++ reading.after.stock reading.world.stores ∧
      ∀ reader, source.live? = .some reader →
        ∃ later, reading.after.live? = .some later ∧ ReadPeer.Run reader gained later := by
  -- A layer that was read out lets go of its buffer before what lies beneath is read, so the stock
  -- beneath is counted without that buffer.
  induction reads with
  | peer reader wanted world =>
    refine ⟨ReadPeer.brought (ReadPeer.answer reader wanted), ?_, ?_, ?_⟩
    · rw [World.obtained_record]
      cases ReadPeer.answer reader wanted <;> rfl
    · simp [stock]
    · rintro other found
      cases found
      exact ⟨_, rfl, .one reader some⟩
  | descriptor fd wanted world =>
    refine ⟨[], by simp [World.obtained], ?_, by simp [live?]⟩
    simp only [stock, World.stores, Kernel.read]
    split
    · simp [Except.mapError, ReadPeer.brought, Kernel.tick]
    · simp [Except.mapError, ReadPeer.brought, Kernel.tick]
    · rename_i limit _ _
      simp only [Except.mapError, ReadPeer.brought, Descriptor.deliver, Table.get_put_same,
        List.append_nil, List.length_take]
      rcases Nat.le_total (Kernel.granted limit wanted)
        (world.kernel.descriptors.get fd).incoming.length with within | beyond
      · rw [Nat.min_eq_left within, List.take_append_drop]
      · rw [Nat.min_eq_right beyond, List.drop_length, List.take_of_length_le beyond,
          List.append_nil]
  | buffer stock wanted world =>
    exact ⟨[], by simp, by simp [Source.stock, Buffer.consume, ReadPeer.brought], by simp [live?]⟩
  | deferred layer fault inner wanted world =>
    refine ⟨[], by simp, ?_, fun reader found => ⟨reader, found, .still reader⟩⟩
    rw [stock_cached, List.append_nil]
    rfl
  | nothing layer inner world =>
    refine ⟨[], by simp, by simp [ReadPeer.brought], ?_⟩
    exact fun reader found => ⟨reader, found, .still reader⟩
  | through reads ih => exact ih some
  | @part handle inner wanted world more =>
    refine ⟨[], by simp [World.obtained], ?_, fun reader found => ⟨reader, found, .still reader⟩⟩
    simp only [stock, World.stores_readShared, Stores.held_refilled_same, Stores.emptied,
      Stores.refilled_twice, ReadPeer.brought, List.append_nil]
    rw [← List.append_assoc, List.take_append_drop]
  | @whole handle inner wanted world exact =>
    refine ⟨[], by simp [World.obtained], ?_, fun reader found => ⟨reader, found, .still reader⟩⟩
    rw [World.stores_readShared_release _ _ _ (by omega), List.append_nil]
    rfl
  | @joined handle inner wanted world beneath tail fewer reads success ih =>
    obtain ⟨gained, heard, flow, live⟩ := ih (by omega)
    refine ⟨gained, ?_, ?_, live⟩
    · rw [heard]
      exact congrArg (· ++ gained) (World.obtained_of_journal_eq (by simp))
    · rw [World.stores_readShared_release _ _ _ (by omega), success] at flow
      show world.stores.held handle ++ inner.stock (world.stores.emptied handle) ++ gained =
        world.stores.held handle ++ tail ++ beneath.after.stock beneath.world.stores
      rw [List.append_assoc, flow, List.append_assoc]
      rfl
  | @kept handle inner wanted world beneath fault fewer some reads failed ih =>
    obtain ⟨gained, heard, flow, live⟩ := ih (by omega)
    refine ⟨gained, ?_, ?_, live⟩
    · rw [heard]
      exact congrArg (· ++ gained) (World.obtained_of_journal_eq (by simp))
    · rw [World.stores_readShared_release _ _ _ (by omega), failed] at flow
      show world.stores.held handle ++ inner.stock (world.stores.emptied handle) ++ gained =
        world.stores.held handle ++ beneath.after.stock beneath.world.stores
      rw [List.append_assoc, flow]
      rfl
  | @failed handle inner wanted world beneath fault empty reads failed ih =>
    obtain ⟨gained, heard, flow, live⟩ := ih (by omega)
    refine ⟨gained, ?_, ?_, live⟩
    · rw [heard]
      exact congrArg (· ++ gained) (World.obtained_of_journal_eq (by simp))
    · rw [World.stores_readShared_release _ _ _ (by simp [empty]), failed] at flow
      show world.stores.held handle ++ inner.stock (world.stores.emptied handle) ++ gained =
        beneath.after.stock beneath.world.stores
      rw [empty, List.nil_append, flow]
      rfl
  | counted reads success ih =>
    obtain ⟨gained, heard, flow, live⟩ := ih some
    rw [success] at flow
    exact ⟨gained, by rw [World.obtained_count, heard], flow, live⟩
  | uncounted reads failed ih =>
    obtain ⟨gained, heard, flow, live⟩ := ih some
    rw [failed] at flow
    exact ⟨gained, heard, flow, live⟩
  | plain reads ih => exact ih some

theorem length_flow (reads : Reads source wanted world reading) (some : 0 < wanted) (gained : Bytes)
    (heard : reading.world.obtained = world.obtained ++ gained) :
    (source.stock world.stores).length + gained.length =
      (ReadPeer.brought reading.answer).length +
        (reading.after.stock reading.world.stores).length := by
  obtain ⟨given, reheard, flow, _⟩ := reads.account some
  have same : given = gained := List.append_cancel_left (reheard.symm.trans heard)
  rw [same] at flow
  rw [← List.length_append, flow, List.length_append]

theorem length_le (reads : Reads source wanted world reading) :
    (ReadPeer.brought reading.answer).length ≤ wanted := by
  induction reads with
  | peer reader wanted world =>
    unfold ReadPeer.answer
    cases (ReadPeer.read reader wanted).1 with
    | ok bytes =>
      simp only [Except.map, ReadPeer.brought, List.length_take]
      omega
    | error fault => exact Nat.zero_le wanted
  | descriptor fd wanted world =>
    simp only [Kernel.read]
    split
    · exact Nat.zero_le wanted
    · exact Nat.zero_le wanted
    · simp only [Except.mapError, ReadPeer.brought, List.length_take, Kernel.granted]
      omega
  | buffer stock wanted world =>
    simp only [ReadPeer.brought, List.length_take]
    omega
  | deferred layer fault inner wanted world => exact Nat.zero_le wanted
  | nothing layer inner world => exact Nat.le_refl 0
  | through reads ih => exact ih
  | part more =>
    simp only [ReadPeer.brought, List.length_take]
    omega
  | whole exact => exact Nat.le_of_eq exact
  | joined fewer reads success ih =>
    rw [success] at ih
    simp only [ReadPeer.brought, List.length_append] at ih ⊢
    omega
  | kept fewer some reads failed ih => exact Nat.le_of_lt fewer
  | failed empty reads failed ih => exact Nat.zero_le _
  | counted reads success ih => rwa [success] at ih
  | uncounted reads failed ih => exact Nat.zero_le _
  | plain reads ih => exact ih

/-- A read for some bytes that brings none leaves nothing in stock, and no live reader that has more
to give. -/
theorem ended (reads : Reads source wanted world reading) (some : 0 < wanted)
    (none : reading.answer = .ok []) :
    reading.after.stock reading.world.stores = [] ∧ (source.Orderly →
      ∀ reader, reading.after.live? = .some reader → ReadPeer.Spent reader) := by
  induction reads with
  | peer reader wanted world =>
    refine ⟨rfl, ?_⟩
    rintro orderly later found
    cases found
    exact ReadPeer.Orderly.lasting orderly _ reader wanted (.still reader) some none
  | descriptor fd wanted world =>
    refine ⟨?_, by simp [live?]⟩
    simp only [stock, World.stores, Kernel.read] at none ⊢
    split at none
    · simp [Except.mapError] at none
    · simp [Except.mapError] at none
    · simp only [Except.mapError, Except.ok.injEq, List.take_eq_nil_iff, Kernel.granted] at none
      simp only [Table.get_put_same, Descriptor.deliver, List.drop_eq_nil_iff]
      rcases none with zero | nothing
      · omega
      · simp [nothing]
  | buffer stock wanted world =>
    refine ⟨?_, by simp [live?]⟩
    simp only [Except.ok.injEq, List.take_eq_nil_iff] at none
    rcases none with zero | nothing
    · omega
    · simp [Source.stock, Buffer.consume, nothing]
  | deferred layer fault inner wanted world => cases none
  | nothing layer inner world => exact absurd some (Nat.lt_irrefl 0)
  | through reads ih => exact ⟨(ih some none).1, fun orderly => (ih some none).2 orderly.2⟩
  | @part handle inner wanted world more =>
    simp only [Except.ok.injEq, List.take_eq_nil_iff] at none
    rcases none with zero | nothing
    · omega
    · simp [nothing] at more
  | @whole handle inner wanted world exact =>
    simp only [Except.ok.injEq] at none
    simp [none] at exact
  | @joined handle inner wanted world beneath tail fewer reads success ih =>
    simp only [Except.ok.injEq, List.append_eq_nil_iff] at none
    have finished := ih (by omega) (by rw [success, none.2])
    exact ⟨finished.1, fun orderly => finished.2 orderly.2⟩
  | kept fewer cached reads failed ih =>
    simp only [Except.ok.injEq] at none
    exact absurd none cached
  | failed empty reads failed ih => cases none
  | counted reads success ih => exact ih some (success.trans none)
  | uncounted reads failed ih => cases none
  | plain reads ih => exact ih some none

/-- A read's fault is no end of the stream, and neither is one that it leaves to the next read. -/
theorem orderly (reads : Reads source wanted world reading) (some : 0 < wanted)
    (orderly : source.Orderly) : reading.after.Orderly ∧ ∀ fault, reading.answer = .error fault →
      fault.isInterrupted = false → ¬ fault.EndsStream := by
  induction reads with
  | peer reader wanted world =>
    exact ⟨orderly.run (.one reader some),
      fun fault => orderly.candid _ reader wanted fault (.still reader) some⟩
  | descriptor fd wanted world =>
    refine ⟨trivial, ?_⟩
    intro fault failed _
    cases answer : (world.kernel.read fd wanted).1 with
    | ok bytes => simp [answer, Except.mapError] at failed
    | error error =>
      simp only [answer, Except.mapError, Except.error.injEq] at failed
      exact failed ▸ IoFault.not_endsStream_system error
  | buffer stock wanted world => exact ⟨trivial, by simp⟩
  | deferred layer fault inner wanted world =>
    refine ⟨⟨by simp, orderly.2⟩, ?_⟩
    rintro other same _
    cases same
    exact orderly.1 fault rfl
  | nothing layer inner world => exact ⟨orderly, by simp⟩
  | through reads ih => exact ⟨⟨by simp, (ih some orderly.2).1⟩, (ih some orderly.2).2⟩
  | part more => exact ⟨orderly, by simp⟩
  | whole exact => exact ⟨⟨by simp, orderly.2⟩, by simp⟩
  | joined fewer reads success ih => exact ⟨⟨by simp, (ih (by omega) orderly.2).1⟩, by simp⟩
  | kept fewer cached reads failed ih =>
    have beneath := ih (by omega) orderly.2
    refine ⟨⟨?_, beneath.1⟩, by simp⟩
    intro fault waiting
    split at waiting
    · simp at waiting
    · rename_i hard
      cases waiting
      exact beneath.2 _ failed (eq_false_of_ne_true fun interrupted =>
        hard (IoFault.isTransient_of_isInterrupted interrupted))
  | failed empty reads failed ih =>
    refine ⟨⟨by simp, (ih some orderly.2).1⟩, ?_⟩
    intro fault same
    exact (ih some orderly.2).2 fault (failed.trans same)
  | counted reads success ih => exact ⟨(ih some orderly).1, by simp⟩
  | uncounted reads failed ih =>
    refine ⟨(ih some orderly).1, ?_⟩
    intro fault same
    exact (ih some orderly).2 fault (failed.trans same)
  | plain reads ih => exact ih some orderly

/-- A read keeps what lies at the far end where it is. -/
theorem far (reads : Reads source wanted world reading) : reading.after.far? = source.far? := by
  induction reads with
  | peer | descriptor | buffer | deferred | nothing | part | whole | plain => rfl
  | through _ ih => exact ih
  | joined _ _ _ ih => exact ih
  | kept _ _ _ _ ih => exact ih
  | failed _ _ _ ih => exact ih
  | counted _ _ ih => exact ih
  | uncounted _ _ ih => exact ih

/-- A read adds no shared buffer to a source. -/
theorem handles_sublist (reads : Reads source wanted world reading) :
    reading.after.handles.Sublist source.handles := by
  induction reads with
  | peer | descriptor | buffer | nothing | part => exact List.Sublist.refl _
  | deferred layer fault inner wanted world => cases layer <;> exact List.Sublist.refl _
  | whole _ => exact List.sublist_cons_self _ _
  | through _ ih => exact ih
  | joined _ _ _ ih => exact ih.cons _
  | kept _ _ _ _ ih => exact ih.cons _
  | failed _ _ _ ih => exact ih.cons _
  | counted _ _ ih => exact ih
  | uncounted _ _ ih => exact ih
  | plain _ ih => exact ih

/-- What the live reader has still to give is what it had, less what it gave in the read. A read
that fails was interrupted, and one that brings nothing finds the live reader at its end. -/
theorem supplies (reads : Reads source wanted world reading) (some : 0 < wanted) {tail : Bytes}
    {patience : Nat} (gives : source.Gives tail patience) :
    ∃ rest fewer, reading.after.Gives rest fewer ∧ fewer ≤ patience ∧
      world.obtained ++ tail = reading.world.obtained ++ rest ∧
      (∀ fault, reading.answer = .error fault →
        fault.isInterrupted = true ∧ fewer < patience) ∧
      (reading.answer = .ok [] → rest = []) := by
  have passed (world : World) (handle : SharedId) (wanted : Nat) :
      ((world.readShared handle wanted).2.release handle).obtained = world.obtained :=
    World.obtained_of_journal_eq (by simp)
  induction reads with
  | peer reader wanted world =>
    cases answer : ReadPeer.answer reader wanted with
    | ok bytes =>
      obtain ⟨last, rest, fewer, split, fits, on⟩ := ReadPeer.Streams.ok gives some answer
      refine ⟨rest, fewer, on, fits, ?_, by simp, ?_⟩
      · rw [World.obtained_record, split, ← List.append_assoc]
        rfl
      · intro none
        simp only [Except.ok.injEq] at none
        rw [none, last none] at split
        exact split.symm
    | error fault =>
      obtain ⟨interrupted, fewer, fits, on⟩ := ReadPeer.Streams.error gives some answer
      refine ⟨tail, fewer, on, Nat.le_of_lt fits, ?_, ?_, by simp⟩
      · rw [World.obtained_record]
        exact congrArg (· ++ tail) (List.append_nil _).symm
      · rintro other same
        cases same
        exact ⟨interrupted, fits⟩
  | descriptor fd wanted world => exact absurd gives id
  | buffer stock wanted world =>
    exact ⟨tail, patience, gives, Nat.le_refl _, rfl, by simp, fun _ => gives⟩
  | deferred layer fault inner wanted world => exact absurd gives.1 (by simp)
  | nothing layer inner world => exact absurd some (Nat.lt_irrefl 0)
  | through reads ih =>
    obtain ⟨rest, fewer, on, fits, sum, failed, dry⟩ := ih some gives.2
    exact ⟨rest, fewer, ⟨rfl, on⟩, fits, sum, failed, dry⟩
  | @part handle inner wanted world more =>
    refine ⟨tail, patience, gives, Nat.le_refl _, ?_, by simp, ?_⟩
    · rw [World.obtained_of_journal_eq (World.journal_readShared world handle (wanted + 1))]
    · intro none
      simp only [Except.ok.injEq, List.take_eq_nil_iff] at none
      rcases none with zero | nothing
      · omega
      · simp [nothing] at more
  | @whole handle inner wanted world exact =>
    refine ⟨tail, patience, ⟨rfl, gives.2⟩, Nat.le_refl _, by rw [passed], by simp, ?_⟩
    intro none
    simp only [Except.ok.injEq] at none
    simp [none] at exact
  | @joined handle inner wanted world beneath bytes short reads success ih =>
    obtain ⟨rest, fewer, on, fits, sum, failed, dry⟩ := ih (by omega) gives.2
    rw [passed] at sum
    refine ⟨rest, fewer, ⟨rfl, on⟩, fits, sum, by simp, ?_⟩
    intro none
    simp only [Except.ok.injEq, List.append_eq_nil_iff] at none
    exact dry (by rw [success, none.2])
  | @kept handle inner wanted world beneath fault short cached reads fails ih =>
    obtain ⟨rest, fewer, on, fits, sum, failed, dry⟩ := ih (by omega) gives.2
    rw [passed] at sum
    have transient := IoFault.isTransient_of_isInterrupted (failed fault fails).1
    refine ⟨rest, fewer, ⟨by rw [transient]; rfl, on⟩, fits, sum, by simp, ?_⟩
    intro none
    simp only [Except.ok.injEq] at none
    exact absurd none cached
  | @failed handle inner wanted world beneath fault empty reads fails ih =>
    obtain ⟨rest, fewer, on, fits, sum, failed, dry⟩ := ih (by omega) gives.2
    rw [passed] at sum
    refine ⟨rest, fewer, ⟨rfl, on⟩, fits, sum, ?_, by simp⟩
    rintro other same
    cases same
    exact failed fault fails
  | @counted counters total inner wanted world beneath bytes reads success ih =>
    obtain ⟨rest, fewer, on, fits, sum, failed, dry⟩ := ih some gives
    refine ⟨rest, fewer, on, fits, by rw [World.obtained_count, sum], by simp, ?_⟩
    exact fun none => dry (success.trans none)
  | @uncounted counters total inner wanted world beneath fault reads fails ih =>
    obtain ⟨rest, fewer, on, fits, sum, failed, dry⟩ := ih some gives
    refine ⟨rest, fewer, on, fits, sum, ?_, by simp⟩
    rintro other same
    cases same
    exact failed fault fails
  | plain reads ih => exact ih some gives

end Reads

namespace Gives

variable {source : Source ρ} {tail : Bytes} {patience : Nat}

theorem orderly (gives : source.Gives tail patience) : source.Orderly := by
  induction source with
  | peer reader => exact ReadPeer.Streams.orderly gives
  | descriptor fd => exact absurd gives id
  | buffer stock => trivial
  | cached layer deferred inner ih => exact ⟨by simp [gives.1], ih gives.2⟩
  | counted counters total inner ih => exact ih gives
  | plain inner ih => exact ih gives

variable {wanted : Nat} {world : World}

/-- A read that succeeds brings the next bytes of the stock and the stream, and none only at their
end. -/
theorem read_ok {bytes : Bytes} (gives : source.Gives tail patience) (some : 0 < wanted)
    (success : (source.read wanted world).answer = .ok bytes) :
    (bytes = [] → source.stock world.stores ++ tail = []) ∧ ∃ rest fewer,
      (source.read wanted world).after.Gives rest fewer ∧ fewer ≤ patience ∧
      source.stock world.stores ++ tail = bytes ++
        ((source.read wanted world).after.stock (source.read wanted world).world.stores ++
          rest) := by
  have reads := source.reads_read wanted world
  obtain ⟨gained, heard, flow, _⟩ := reads.account some
  obtain ⟨rest, fewer, on, within, sum, _, dry⟩ := reads.supplies some gives
  rw [heard, List.append_assoc, List.append_cancel_left_eq] at sum
  rw [success, ReadPeer.brought] at flow
  refine ⟨?_, rest, fewer, on, within, ?_⟩
  · rintro rfl
    rw [(reads.ended some success).1, List.append_nil] at flow
    have none := List.append_eq_nil_iff.mp flow
    rw [none.1, sum, none.2, dry success]
    rfl
  · rw [sum, ← List.append_assoc, flow, List.append_assoc]

theorem read_error {fault : IoFault} (gives : source.Gives tail patience) (some : 0 < wanted)
    (failed : (source.read wanted world).answer = .error fault) :
    fault.isInterrupted = true ∧ ∃ rest fewer,
      (source.read wanted world).after.Gives rest fewer ∧ fewer < patience ∧
      source.stock world.stores ++ tail =
        (source.read wanted world).after.stock (source.read wanted world).world.stores ++
          rest := by
  have reads := source.reads_read wanted world
  obtain ⟨gained, heard, flow, _⟩ := reads.account some
  obtain ⟨rest, fewer, on, _, sum, fails, _⟩ := reads.supplies some gives
  rw [heard, List.append_assoc, List.append_cancel_left_eq] at sum
  rw [failed, ReadPeer.brought, List.nil_append] at flow
  obtain ⟨interrupted, within⟩ := fails fault failed
  refine ⟨interrupted, rest, fewer, on, within, ?_⟩
  rw [sum, ← List.append_assoc, flow]

end Gives

end Source

end Conduit
