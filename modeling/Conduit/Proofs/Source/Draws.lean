import Conduit.Proofs.Source.Stock

set_option autoImplicit false

namespace Conduit

namespace Source

variable {ρ : Type}

/-- How often a counter is registered in the layers of a source. -/
def registered (counter : Counter) : Source ρ → Nat
  | .peer _ => 0
  | .descriptor _ => 0
  | .buffer _ => 0
  | .cached _ _ inner => inner.registered counter
  | .counted counters _ inner => counters.count counter + inner.registered counter
  | .plain inner => inner.registered counter

/-- How much the layers of a source will add to a counter for what lies in stock beneath them. -/
def due (counter : Counter) : Source ρ → Stores → Nat
  | .peer _, _ => 0
  | .descriptor _, _ => 0
  | .buffer _, _ => 0
  | .cached none _ inner, stores => inner.due counter stores
  | .cached (some handle) _ inner, stores => inner.due counter (stores.emptied handle)
  | .counted counters _ inner, stores =>
    counters.count counter * (inner.stock stores).length + inner.due counter stores
  | .plain inner, stores => inner.due counter stores

theorem due_cached (counter : Counter) (layer : Option SharedId) (deferred : Option IoFault)
    (inner : Source ρ) (stores : Stores) :
    (cached layer deferred inner).due counter stores =
      (cached layer none inner).due counter stores := by
  cases layer <;> rfl

/-- What is due depends only on the buffers and descriptors that the source has. -/
theorem due_congr (counter : Counter) (source : Source ρ) (stores other : Stores)
    (held : ∀ handle ∈ source.handles, stores.held handle = other.held handle)
    (incoming : stores.incoming = other.incoming) :
    source.due counter stores = source.due counter other := by
  induction source generalizing stores other with
  | peer | descriptor | buffer => rfl
  | cached layer deferred inner ih =>
    cases layer with
    | none => exact ih stores other held incoming
    | some handle =>
      exact ih _ _ (held_emptied_congr inner handle stores other held) incoming
  | counted counters total inner ih =>
    rw [due, due, ih stores other held incoming, stock_congr inner stores other held incoming]
  | plain inner ih => exact ih stores other held incoming

theorem due_eq_zero (counter : Counter) (source : Source ρ) (stores : Stores)
    (absent : source.registered counter = 0) : source.due counter stores = 0 := by
  induction source generalizing stores with
  | peer | descriptor | buffer => rfl
  | cached layer deferred inner ih =>
    cases layer with
    | none => exact ih stores absent
    | some handle => exact ih _ absent
  | counted counters total inner ih =>
    rw [registered, Nat.add_eq_zero_iff] at absent
    rw [due, absent.1, Nat.zero_mul, ih stores absent.2]
  | plain inner ih => exact ih stores absent

theorem due_of_stock_eq_nil (counter : Counter) (source : Source ρ) (stores : Stores)
    (empty : source.stock stores = []) : source.due counter stores = 0 := by
  induction source generalizing stores with
  | peer | descriptor | buffer => rfl
  | cached layer deferred inner ih =>
    cases layer with
    | none => exact ih stores empty
    | some handle => exact ih _ (List.append_eq_nil_iff.mp empty).2
  | counted counters total inner ih =>
    rw [stock] at empty
    rw [due, empty, ih stores empty, List.length_nil, Nat.mul_zero]
  | plain inner ih => exact ih stores empty

variable [ReadPeer ρ]

namespace Reads

variable {source : Source ρ} {wanted : Nat} {world : World} {reading : Called (Source ρ) Bytes}

theorem emptyCalls (reads : Reads source wanted world reading) :
    reading.world.emptyCalls = world.emptyCalls := by
  induction reads with
  | peer reader wanted world => simp [World.emptyCalls, World.record, Event.isEmptyCall]
  | descriptor | buffer | deferred | nothing | part => rfl
  | whole => exact World.emptyCalls_of_journal_eq (by simp)
  | through _ ih => exact ih
  | joined _ _ _ ih => exact ih.trans (World.emptyCalls_of_journal_eq (by simp))
  | kept _ _ _ _ ih => exact ih.trans (World.emptyCalls_of_journal_eq (by simp))
  | failed _ _ _ ih => exact ih.trans (World.emptyCalls_of_journal_eq (by simp))
  | counted _ _ ih => rw [World.emptyCalls_count, ih]
  | uncounted _ _ ih => exact ih
  | plain _ ih => exact ih

theorem made (reads : Reads source wanted world reading) :
    world.cells.next ≤ reading.world.cells.next := by
  have passed (world : World) (handle : SharedId) (wanted : Nat) : world.cells.next ≤
      ((world.readShared handle wanted).2.release handle).cells.next :=
    Nat.le_trans (World.next_le_setShared world handle _) (World.next_le_release _ handle)
  induction reads with
  | peer | descriptor | buffer | deferred | nothing => exact Nat.le_refl _
  | part => exact World.next_le_setShared _ _ _
  | whole => exact passed _ _ _
  | through _ ih => exact ih
  | joined _ _ _ ih => exact Nat.le_trans (passed _ _ _) ih
  | kept _ _ _ _ ih => exact Nat.le_trans (passed _ _ _) ih
  | failed _ _ _ ih => exact Nat.le_trans (passed _ _ _) ih
  | counted _ _ ih => exact ih
  | uncounted _ _ ih => exact ih
  | plain _ ih => exact ih

theorem held (reads : Reads source wanted world reading) (other : SharedId)
    (outside : other ∉ source.handles) :
    reading.world.stores.held other = world.stores.held other := by
  have passed (world : World) (handle : SharedId) (wanted : Nat) (apart : other ≠ handle) :
      ((world.readShared handle wanted).2.release handle).stores.held other =
        world.stores.held other := by
    rw [World.held_release_other _ _ _ apart, World.stores_readShared,
      Stores.held_refilled_other _ _ _ _ apart]
  induction reads with
  | peer | descriptor | buffer | deferred | nothing => rfl
  | part =>
    simp only [handles, List.mem_cons, not_or] at outside
    rw [World.stores_readShared, Stores.held_refilled_other _ _ _ _ outside.1]
  | whole =>
    simp only [handles, List.mem_cons, not_or] at outside
    exact passed _ _ _ outside.1
  | through _ ih => exact ih outside
  | joined _ _ _ ih =>
    simp only [handles, List.mem_cons, not_or] at outside
    exact (ih outside.2).trans (passed _ _ _ outside.1)
  | kept _ _ _ _ ih =>
    simp only [handles, List.mem_cons, not_or] at outside
    exact (ih outside.2).trans (passed _ _ _ outside.1)
  | failed _ _ _ ih =>
    simp only [handles, List.mem_cons, not_or] at outside
    exact (ih outside.2).trans (passed _ _ _ outside.1)
  | counted _ _ ih => exact ih outside
  | uncounted _ _ ih => exact ih outside
  | plain _ ih => exact ih outside

theorem registered_eq (reads : Reads source wanted world reading) (counter : Counter) :
    reading.after.registered counter = source.registered counter := by
  induction reads with
  | peer | descriptor | buffer | deferred | nothing | part | whole => rfl
  | through _ ih => exact ih
  | joined _ _ _ ih => exact ih
  | kept _ _ _ _ ih => exact ih
  | failed _ _ _ ih => exact ih
  | counted _ _ ih => exact congrArg (_ + ·) ih
  | uncounted _ _ ih => exact congrArg (_ + ·) ih
  | plain _ ih => exact ih

/-- What a read adds to a counter was due before it, or came from the live reader. -/
theorem books (reads : Reads source wanted world reading) (some : 0 < wanted) (counter : Counter)
    (gained : Bytes)
    (heard : reading.world.obtained = world.obtained ++ gained) :
    ∃ own, reading.world.tally counter = world.tally counter + own ∧
      own + reading.after.due counter reading.world.stores =
        source.due counter world.stores + source.registered counter * gained.length := by
  induction reads with
  | peer reader wanted world => exact ⟨0, by simp [Event.tally], by simp [due, registered]⟩
  | descriptor fd wanted world => exact ⟨0, rfl, by simp [due, registered]⟩
  | buffer stock wanted world => exact ⟨0, rfl, by simp [due, registered]⟩
  | deferred layer fault inner wanted world =>
    have none : gained = [] := by simpa using heard
    refine ⟨0, rfl, ?_⟩
    rw [none, due_cached counter layer (.some fault)]
    simp
  | nothing layer inner world =>
    have none : gained = [] := by simpa using heard
    exact ⟨0, rfl, by simp [none]⟩
  | through _ ih => exact ih some heard
  | @part handle inner wanted world more =>
    have same : (world.readShared handle (wanted + 1)).2.obtained = world.obtained :=
      World.obtained_of_journal_eq (by simp)
    have none : gained = [] := by
      rw [same] at heard
      simpa using heard
    refine ⟨0, rfl, ?_⟩
    simp [none, due, World.stores_readShared, Stores.emptied]
  | @whole handle inner wanted world exact =>
    have same : ((world.readShared handle (wanted + 1)).2.release handle).obtained =
        world.obtained := World.obtained_of_journal_eq (by simp)
    have none : gained = [] := by
      rw [same] at heard
      simpa using heard
    refine ⟨0, World.tally_of_journal_eq (by simp) counter, ?_⟩
    simp only [none, due, World.stores_readShared_release _ _ _ (Nat.le_of_eq exact),
      List.length_nil, Nat.mul_zero, Nat.zero_add, Nat.add_zero]
  | @joined handle inner wanted world beneath tail fewer reads success ih =>
    obtain ⟨own, called, settled⟩ := ih (by omega)
      (heard.trans (congrArg (· ++ gained) (World.obtained_of_journal_eq (by simp)).symm))
    rw [World.stores_readShared_release _ _ _ (Nat.le_of_lt fewer)] at settled
    refine ⟨own, ?_, settled⟩
    exact called.trans (congrArg (· + own) (World.tally_of_journal_eq (by simp) counter))
  | @kept handle inner wanted world beneath fault fewer cached reads failed ih =>
    obtain ⟨own, called, settled⟩ := ih (by omega)
      (heard.trans (congrArg (· ++ gained) (World.obtained_of_journal_eq (by simp)).symm))
    rw [World.stores_readShared_release _ _ _ (Nat.le_of_lt fewer)] at settled
    refine ⟨own, ?_, settled⟩
    exact called.trans (congrArg (· + own) (World.tally_of_journal_eq (by simp) counter))
  | @failed handle inner wanted world beneath fault empty reads failed ih =>
    obtain ⟨own, called, settled⟩ := ih (by omega)
      (heard.trans (congrArg (· ++ gained) (World.obtained_of_journal_eq (by simp)).symm))
    rw [World.stores_readShared_release _ _ _ (by simp [empty])] at settled
    refine ⟨own, ?_, settled⟩
    exact called.trans (congrArg (· + own) (World.tally_of_journal_eq (by simp) counter))
  | @counted counters total inner wanted world beneath bytes reads success ih =>
    rw [World.obtained_count] at heard
    obtain ⟨own, called, settled⟩ := ih some heard
    -- What this layer calls for the bytes read is what it no longer owes for the stock, and what
    -- it owes for the bytes the live reader gave.
    have flow := reads.length_flow some gained heard
    rw [success] at flow
    refine ⟨own + counters.count counter * bytes.length, ?_, ?_⟩
    · rw [World.tally_count, called]
      omega
    · have spread := congrArg (counters.count counter * ·) flow
      simp only [ReadPeer.brought, Nat.mul_add] at spread
      simp only [due, registered, Nat.add_mul, World.stores_count]
      omega
  | @uncounted counters total inner wanted world beneath fault reads failed ih =>
    obtain ⟨own, called, settled⟩ := ih some heard
    have flow := reads.length_flow some gained heard
    rw [failed] at flow
    refine ⟨own, called, ?_⟩
    have spread := congrArg (counters.count counter * ·) flow
    simp only [ReadPeer.brought, List.length_nil, Nat.mul_add, Nat.mul_zero] at spread
    simp only [due, registered, Nat.add_mul]
    omega
  | plain _ ih => exact ih some heard

end Reads

/-- What reads that brought some bytes did to a source and its world, while the live reader gave
others. -/
structure Draws (source : Source ρ) (world : World) (bytes gained : Bytes) (later : Source ρ)
    (after : World) : Prop where
  heard : after.obtained = world.obtained ++ gained
  flow : source.stock world.stores ++ gained = bytes ++ later.stock after.stores
  live : ∀ reader, source.live? = some reader →
    ∃ last, later.live? = some last ∧ ReadPeer.Run reader gained last
  /-- A live reader with a stream to give has the rest of it left. -/
  supply : ∀ tail patience, source.Gives tail patience →
    ∃ rest fewer, tail = gained ++ rest ∧ fewer ≤ patience ∧ later.Gives rest fewer
  books : ∀ counter, ∃ own, after.tally counter = world.tally counter + own ∧
    own + later.due counter after.stores =
      source.due counter world.stores + source.registered counter * gained.length
  registered : ∀ counter, later.registered counter = source.registered counter
  quiet : after.emptyCalls = world.emptyCalls
  orderly : source.Orderly → later.Orderly
  far : later.far? = source.far?
  /-- The source gets no shared buffer, but for new ones. -/
  handles : ∀ handle ∈ later.handles, handle ∈ source.handles ∨ world.cells.next ≤ handle
  held : ∀ handle, handle ∉ source.handles → handle < world.cells.next →
    after.stores.held handle = world.stores.held handle
  made : world.cells.next ≤ after.cells.next

namespace Draws

variable {source middle later : Source ρ} {world between after : World}
  {early late earlier further : Bytes}

theorem trans (first : Draws source world early earlier middle between)
    (second : Draws middle between late further later after) :
    Draws source world (early ++ late) (earlier ++ further) later after where
  heard := by rw [second.heard, first.heard, List.append_assoc]
  flow := by
    rw [← List.append_assoc, first.flow, List.append_assoc, second.flow, List.append_assoc]
  live := by
    intro reader found
    obtain ⟨mid, kept, front⟩ := first.live reader found
    obtain ⟨last, rekept, back⟩ := second.live mid kept
    exact ⟨last, rekept, front.trans back⟩
  supply := by
    intro tail patience gives
    obtain ⟨middle, fewer, split, fits, on⟩ := first.supply tail patience gives
    obtain ⟨rest, fewest, resplit, refits, further⟩ := second.supply middle fewer on
    refine ⟨rest, fewest, ?_, Nat.le_trans refits fits, further⟩
    rw [split, resplit, List.append_assoc]
  books := by
    intro counter
    obtain ⟨own, called, settled⟩ := first.books counter
    obtain ⟨more, recalled, resettled⟩ := second.books counter
    refine ⟨own + more, by omega, ?_⟩
    rw [first.registered counter] at resettled
    rw [List.length_append, Nat.mul_add]
    omega
  registered := fun counter => (second.registered counter).trans (first.registered counter)
  quiet := second.quiet.trans first.quiet
  orderly := fun orderly => second.orderly (first.orderly orderly)
  far := second.far.trans first.far
  handles := by
    intro handle inside
    rcases second.handles handle inside with kept | new
    · exact first.handles handle kept
    · exact .inr (Nat.le_trans first.made new)
  held := by
    intro handle outside old
    have still : handle ∉ middle.handles := by
      intro inside
      rcases first.handles handle inside with kept | new
      · exact outside kept
      · exact Nat.not_lt_of_le new old
    rw [second.held handle still (Nat.lt_of_lt_of_le old first.made),
      first.held handle outside old]
  made := Nat.le_trans first.made second.made

/-- Nothing is drawn while the world does not move. -/
theorem still (source : Source ρ) {world after : World} (unmoved : World.Unmoved world after) :
    Draws source world [] [] source after where
  heard := by rw [unmoved.obtained, List.append_nil]
  flow := by rw [unmoved.stores, List.append_nil, List.nil_append]
  live := fun reader found => ⟨reader, found, .still reader⟩
  supply := fun tail patience gives => ⟨tail, patience, rfl, Nat.le_refl _, gives⟩
  books := fun counter => ⟨0, unmoved.tally counter, by simp [unmoved.stores]⟩
  registered := fun _ => rfl
  quiet := unmoved.emptyCalls
  orderly := id
  far := rfl
  handles := fun _ inside => .inl inside
  held := fun _ _ _ => by rw [unmoved.stores]
  made := unmoved.made

theorem read (source : Source ρ) {wanted : Nat} (some : 0 < wanted) (world : World) :
    ∃ gained, Draws source world (ReadPeer.brought (source.read wanted world).answer) gained
      (source.read wanted world).after (source.read wanted world).world := by
  have reads := reads_read source wanted world
  obtain ⟨gained, heard, flow, live⟩ := reads.account some
  refine ⟨gained, heard, flow, live, ?_, fun counter => reads.books some counter gained heard,
    reads.registered_eq, reads.emptyCalls, fun orderly => (reads.orderly some orderly).1, reads.far,
    fun handle inside => .inl (reads.handles_sublist.subset inside),
    fun handle outside _ => reads.held handle outside, reads.made⟩
  intro tail patience gives
  obtain ⟨rest, fewer, on, fits, sum, _, _⟩ := reads.supplies some gives
  rw [heard, List.append_assoc] at sum
  exact ⟨rest, fewer, List.append_cancel_left sum, fits, on⟩

end Draws

end Source

end Conduit
