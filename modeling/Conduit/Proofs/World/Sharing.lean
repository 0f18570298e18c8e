import Conduit.Closing
import Conduit.Proofs.Buffer.Queue
import Conduit.Proofs.World.Ownership
import Conduit.Proofs.World.Tenancy

set_option autoImplicit false

namespace Conduit

open Estate

namespace Buffer

/-- Unread bytes went away at the front, which is consuming them, and at the back, which is cutting
them off; others came in behind those that stayed. -/
def Sheds (before after : Bytes) (consumed cut : Prop) : Prop :=
  ∃ taken kept lost added, before = taken ++ (kept ++ lost) ∧ after = kept ++ added ∧
    (taken ≠ [] → consumed) ∧ (lost ≠ [] → cut)

namespace Sheds

variable {before : Bytes} {consumed cut : Prop}

theorem puts (before bytes : Bytes) : Sheds before (before ++ bytes) consumed cut :=
  ⟨[], before, [], bytes, by rw [List.append_nil, List.nil_append], rfl, absurd rfl, absurd rfl⟩

theorem refl (bytes : Bytes) : Sheds bytes bytes consumed cut := by
  have none : Sheds bytes (bytes ++ []) consumed cut := puts bytes []
  rwa [List.append_nil] at none

theorem takes (consumes : consumed) (count : Nat) :
    Sheds before (before.drop count) consumed cut := by
  refine ⟨before.take count, before.drop count, [], [], ?_, ?_, fun _ => consumes, absurd rfl⟩
  · rw [List.append_nil, List.take_append_drop]
  · rw [List.append_nil]

theorem trims (cuts : cut) (count : Nat) : Sheds before (before.take count) consumed cut := by
  refine ⟨[], before.take count, before.drop count, [], ?_, ?_, absurd rfl, fun _ => cuts⟩
  · rw [List.nil_append, List.take_append_drop]
  · rw [List.append_nil]

end Sheds

namespace Op

variable {ρ τ : Type}

/-- The operation hands unread bytes out, or skips them. -/
def Consumes : Op ρ τ → Prop
  | .read _ | .readByte | .discard _ | .drain _ _ | .drainOnce _ => True
  | _ => False

/-- The operation may cut off the last unread bytes. -/
def Cuts : Op ρ τ → Prop
  | .truncate _ | .resize _ | .reset => True
  | _ => False

/-- What an operation leaves of a buffer: nothing if it frees it, and else its storage, with all
unread bytes that it does not consume or cut off. -/
structure Leaves (op : Op ρ τ) (before after : Buffer) : Prop where
  spares : op ≠ .free →
    before.Frames after ∧ Sheds before.unread after.unread op.Consumes op.Cuts
  frees : op = .free → after.capacity = 0 ∧ after.unread = []

variable [ReadPeer ρ] {retries : Nat} {send : Writing τ} {buffer : Buffer} {world : World}
  {done : Performed ρ τ} {op : Op ρ τ}

/-- An operation loses unread bytes only by consuming them or by cutting them off. -/
theorem Acts.sheds (acts : op.Acts send buffer world done) (kept : op ≠ .free) :
    Sheds buffer.unread done.buffer.unread op.Consumes op.Cuts := by
  cases op with
  | write bytes | writeByte byte | writeAll bytes =>
    rw [acts.2.unread]
    exact .puts _ _
  | stash bytes =>
    rw [acts.2.unread]
    exact .refl _
  | commit count =>
    rw [acts.2.1.unread]
    exact .puts _ _
  | read wanted | discard count =>
    rw [acts.2.unread]
    exact .takes trivial _
  | readByte =>
    obtain ⟨_, _, _, takes⟩ := acts
    rw [takes.unread]
    exact .takes trivial _
  | peek count =>
    rw [acts.2.2]
    exact .refl _
  | truncate count | resize size | reset =>
    rw [acts.2.1.unread]
    exact .trims trivial _
  | free => exact absurd rfl kept
  | fill source | fillExactly wanted source =>
    obtain ⟨_, _, _, _, puts, _⟩ := acts
    rw [puts.unread]
    exact .puts _ _
  | fillOnce counters source =>
    obtain ⟨_, _, _, _, _, _, puts, _⟩ := acts
    rw [puts.unread]
    exact .puts _ _
  | drain counters sink | drainOnce sink =>
    obtain ⟨_, _, _, _, takes, _⟩ := acts
    rw [takes.unread]
    exact .takes trivial _

/-- What an operation that came to an end leaves of its buffer, refused or not. -/
theorem perform_leaves (sound : buffer.Sound)
    (ended : op.perform retries send buffer world = some done) :
    done.buffer.Sound ∧ op.Leaves buffer done.buffer := by
  cases refuses : op.refusal buffer with
  | some fault =>
    rw [op.perform_refused retries send buffer world refuses, Option.some.injEq] at ended
    subst ended
    refine ⟨sound, fun _ => ⟨(Takes.refl buffer).frames, .refl _⟩, ?_⟩
    rintro rfl
    cases refuses
  | none =>
    have outcome : op.Outcome retries send buffer world _ := Op.acts sound op refuses
    rw [ended] at outcome
    refine ⟨outcome.sound sound refuses, ?_, ?_⟩
    · exact fun kept => ⟨outcome.frames sound kept, outcome.sheds kept⟩
    · rintro rfl
      obtain ⟨_, unread, _, capacity⟩ := outcome
      exact ⟨capacity, unread⟩

end Op

/-- A read took the first unread bytes, which are among those that it brought. -/
def Sips (before after : Buffer) (bytes : Bytes) : Prop :=
  ∃ count, before.Takes after count ∧ before.unread.take count <:+: bytes

namespace Sips

variable {before middle after : Buffer} {bytes more : Bytes}

theorem refl (buffer : Buffer) (bytes : Bytes) : buffer.Sips buffer bytes :=
  ⟨0, .refl buffer, List.nil_infix⟩

/-- What was read out gives nothing to a later read, and what was left alone all that it brought. -/
theorem behind (first : middle = before ∨ before.Sips middle bytes ∧ middle.unread = [])
    (second : middle.Sips after more) : before.Sips after (bytes ++ more) := by
  obtain ⟨late, takes, inside⟩ := second
  rcases first with rfl | ⟨⟨early, drains, within⟩, empty⟩
  · exact ⟨late, takes, inside.trans (List.suffix_append bytes more).isInfix⟩
  · have all : before.unread.drop early = [] := drains.unread.symm.trans empty
    refine ⟨early, ⟨?_, takes.storage.trans drains.storage, takes.write.trans drains.write,
      takes.size.trans drains.size, takes.owner.trans drains.owner⟩,
      within.trans (List.prefix_append bytes more).isInfix⟩
    rw [takes.unread, empty, all, List.drop_nil]

end Sips

end Buffer

/-- No handle comes to life, and what is behind those that stay alive changes in this way only. -/
structure World.Carries (rel : Buffer → Buffer → Prop) (world later : World) : Prop where
  next : world.cells.next ≤ later.cells.next
  kept : ∀ handle, later.owners handle ≠ 0 →
    world.owners handle ≠ 0 ∧ rel (world.shared handle) (later.shared handle)

namespace World.Carries

variable {world middle later : World} {rel first second : Buffer → Buffer → Prop}

theorem of_cells (refl : ∀ buffer, rel buffer buffer) (cells : later.cells = world.cells) :
    world.Carries rel later := by
  refine ⟨Nat.le_of_eq (congrArg Table.next cells.symm), fun handle alive => ?_⟩
  rw [World.owners, cells] at alive
  rw [World.shared, World.shared, cells]
  exact ⟨alive, refl _⟩

theorem trans (early : world.Carries first middle) (late : middle.Carries second later)
    (joins : ∀ {before between after}, first before between → second between after →
      rel before after) : world.Carries rel later := by
  refine ⟨early.next.trans late.next, fun handle alive => ?_⟩
  obtain ⟨between, second⟩ := late.kept handle alive
  obtain ⟨before, first⟩ := early.kept handle between
  exact ⟨before, joins first second⟩

theorem setShared (refl : ∀ buffer, rel buffer buffer) {handle : SharedId} {buffer : Buffer}
    (change : rel (world.shared handle) buffer) :
    world.Carries rel (world.setShared handle buffer) := by
  refine ⟨world.next_le_setShared handle buffer, fun other alive => ?_⟩
  rw [World.owners_setShared] at alive
  refine ⟨alive, ?_⟩
  rw [World.shared_setShared]
  split
  · rename_i same
    rw [same]
    exact change
  · exact refl _

/-- A handle that is let go of leaves all others as they are, those on the same buffer included. -/
theorem release (world : World) (handle : SharedId) :
    world.Carries Eq (world.release handle) := by
  refine ⟨world.next_le_release handle, fun other alive => ?_⟩
  have owners : (world.release handle).owners other =
      if other = handle then world.owners handle - 1 else world.owners other := by
    rw [World.release]
    split
    · rename_i only
      rw [World.owners, World.dropBuffer, World.cells_freeBuffer]
      refine (World.owners_put world handle other default).trans ?_
      split
      · rw [World.owners, only]
        rfl
      · rfl
    · exact World.owners_put _ _ _ _
  rw [owners] at alive
  rw [World.shared_release]
  by_cases same : other = handle
  · subst same
    rw [if_pos rfl] at alive
    refine ⟨by omega, ?_⟩
    rw [if_neg]
    rintro ⟨_, last⟩
    omega
  · rw [if_neg same] at alive
    rw [if_neg fun both => same both.1]
    exact ⟨alive, rfl⟩

/-- One more handle leaves what is behind it as it is, and gives no life to what had none. -/
theorem retain {handle : SharedId} (owned : world.owners handle ≠ 0) :
    world.Carries Eq (world.retain handle) := by
  refine ⟨Table.next_le_put _ _ _, fun other alive => ?_⟩
  have owners : (world.retain handle).owners other =
      if other = handle then world.owners handle + 1 else world.owners other :=
    World.owners_put _ _ _ _
  have same : (world.retain handle).shared other =
      if other = handle then world.shared handle else world.shared other :=
    World.shared_put _ _ _ _
  rw [owners] at alive
  rw [same]
  by_cases equal : other = handle
  · subst equal
    rw [if_pos rfl]
    exact ⟨owned, rfl⟩
  · rw [if_neg equal] at alive ⊢
    exact ⟨alive, rfl⟩

/-- A handle that is spent for its buffer leaves all others as they are. -/
theorem takeShared {handle : SharedId} {buffer : Buffer}
    (given : world.takeShared handle = some (buffer, later)) : world.Carries Eq later := by
  rw [World.takeShared] at given
  split at given
  · cases given
    refine ⟨Table.next_le_put _ _ _, fun other alive => ?_⟩
    rw [World.owners_put] at alive
    rw [World.shared_put]
    by_cases equal : other = handle
    · rw [if_pos equal] at alive
      exact absurd rfl alive
    · rw [if_neg equal] at alive ⊢
      exact ⟨alive, rfl⟩
  · cases given

/-- A buffer is read to its end, and a handle on it is let go of. -/
theorem passed (world : World) {handle : SharedId} {wanted : Nat}
    (fits : (world.stores.held handle).length ≤ wanted) :
    world.Carries (fun before after => after = before ∨
        before.Sips after (world.stores.held handle) ∧ after.unread = [])
      ((world.readShared handle wanted).2.release handle) := by
  have read : world.Carries (fun before after => after = before ∨
      before.Sips after (world.stores.held handle) ∧ after.unread = [])
      (world.readShared handle wanted).2 := by
    refine setShared (fun _ => .inl rfl) (.inr ⟨⟨wanted, .consume _ wanted, ?_⟩, ?_⟩)
    · exact (List.take_prefix _ _).isInfix
    · exact List.drop_eq_nil_of_le fits
  refine read.trans (release _ handle) ?_
  rintro _ _ _ sips rfl
  exact sips

end World.Carries

namespace Source

variable {ρ : Type}

/-- A read takes of each shared buffer that stays alive only bytes that it brings. -/
theorem Reads.carries [ReadPeer ρ] {source : Source ρ} {wanted : Nat} {world : World}
    {reading : Called (Source ρ) Bytes} (reads : Reads source wanted world reading) :
    world.Carries (fun before after => before.Sips after (ReadPeer.brought reading.answer))
      reading.world := by
  have still : ∀ {world later : World} (bytes : Bytes), later.cells = world.cells →
      world.Carries (fun before after => before.Sips after bytes) later :=
    fun bytes cells => .of_cells (fun buffer => .refl buffer bytes) cells
  -- A layer that was read out gave its bytes first, and what lies beneath it gave the others.
  have joins : ∀ {world later : World} {handle : SharedId} {wanted : Nat} {more : Bytes},
      (world.stores.held handle).length ≤ wanted →
      ((world.readShared handle wanted).2.release handle).Carries
        (fun before after => before.Sips after more) later →
      world.Carries (fun before after => before.Sips after (world.stores.held handle ++ more))
        later :=
    fun fits beneath => (World.Carries.passed _ fits).trans beneath Buffer.Sips.behind
  induction reads with
  | peer | descriptor | buffer | deferred | nothing => exact still _ rfl
  | through _ ih => exact ih
  | @part handle inner wanted world more =>
    refine .setShared (fun buffer => .refl buffer _) ⟨wanted + 1, .consume _ _, ?_⟩
    exact List.infix_rfl
  | whole exact =>
    have alone := joins (Nat.le_of_eq exact) (still [] rfl)
    rwa [List.append_nil] at alone
  | joined fewer reads success ih =>
    rw [success] at ih
    exact joins (Nat.le_of_lt fewer) ih
  | kept fewer some reads failed ih =>
    rw [failed] at ih
    have alone := joins (Nat.le_of_lt fewer) ih
    rwa [ReadPeer.brought, List.append_nil] at alone
  | @failed handle inner wanted world beneath fault empty reads failed ih =>
    rw [failed] at ih
    have fits : (world.stores.held handle).length ≤ wanted + 1 := by
      rw [empty]
      exact Nat.zero_le _
    have alone := joins fits ih
    rwa [empty] at alone
  | counted reads success ih =>
    rw [success] at ih
    refine ih.trans (.of_cells (fun _ => rfl) rfl) ?_
    rintro _ _ _ sips rfl
    exact sips
  | uncounted reads failed ih =>
    rw [failed] at ih
    exact ih
  | plain reads ih => exact ih

variable {world later : World}

theorem carries_trans {middle : World} (early : world.Carries Eq middle)
    (late : middle.Carries Eq later) : world.Carries Eq later :=
  early.trans late Eq.trans

theorem carries_cache (source : Source ρ) (handle : SharedId) (world : World) :
    world.Carries Eq (source.cache handle world).2 := by
  rw [cache]
  split
  · exact .release world handle
  · exact .of_cells (fun _ => rfl) rfl

theorem carries_cacheAll (source : Source ρ) (handles : List SharedId) (world : World) :
    world.Carries Eq (source.cacheAll handles world).2 := by
  induction handles with
  | nil => exact .of_cells (fun _ => rfl) rfl
  | cons handle rest ih => exact carries_trans ih (carries_cache _ handle _)

theorem carries_pickAll (source : Source ρ) (world : World) :
    world.Carries Eq (source.pickAll world).2.2 := by
  fun_induction pickAll source world with
  | case2 _ _ _ _ ih => exact carries_trans (.release _ _) ih
  | case3 _ _ _ _ _ _ _ picked ih =>
    rw [picked] at ih
    exact ih
  | case4 _ _ ih => exact ih
  | case1 | case5 => exact .of_cells (fun _ => rfl) rfl

theorem carries_drop (source : Source ρ) (world : World) :
    world.Carries Eq (source.drop world) := by
  induction source generalizing world with
  | peer | descriptor => exact .of_cells (fun _ => rfl) rfl
  | buffer stock => exact .of_cells (fun _ => rfl) (world.cells_freeBuffer stock)
  | cached layer deferred inner ih =>
    cases layer with
    | none => exact ih world
    | some handle => exact carries_trans (ih world) (.release _ handle)
  | counted counters total inner ih => exact ih world
  | plain inner ih => exact ih world

end Source

/-- What a program does, as far as shared buffers see it. -/
inductive Deed (ρ τ : Type) where
  /-- An operation of the buffer behind a handle, which is locked for it. -/
  | lock (handle : SharedId) (op : Buffer.Op ρ τ)
  /-- A read of a source, with its answer. -/
  | read (answer : Except IoFault Bytes)
  | other

namespace Deed

variable {ρ τ : Type} {deed : Deed ρ τ} {handle : SharedId} {before after : Buffer}

/-- What a deed leaves of a shared buffer that stays alive. -/
def Leaves (handle : SharedId) (before after : Buffer) : Deed ρ τ → Prop
  | .lock own op => (own = handle → op.Leaves before after) ∧ (own ≠ handle → after = before)
  | .read answer => before.Sips after (ReadPeer.brought answer)
  | .other => after = before

/-- Which storages a deed takes out of pools and hands back to them. -/
def Hands (before after : Estate) : Deed ρ τ → Prop
  | .lock handle op =>
    (op = .free → HandsBack before.world.pools after.world.pools
      (before.world.shared handle).claim.toList) ∧
    (op ≠ .free → after.world.pools = before.world.pools)
  | _ => ∃ deal, before.Settles after deal

/-- Only freeing a shared buffer parts it from its storage. -/
theorem Leaves.storage (leaves : deed.Leaves handle before after) :
    (deed = .lock handle .free → after.capacity = 0) ∧
      (deed ≠ .lock handle .free →
        after.capacity = before.capacity ∧ after.owner = before.owner) := by
  cases deed with
  | other =>
    have same : after = before := leaves
    rw [same]
    exact ⟨nofun, fun _ => ⟨rfl, rfl⟩⟩
  | read answer =>
    obtain ⟨_, takes, _⟩ := leaves
    exact ⟨nofun, fun _ => ⟨takes.frames.capacity, takes.owner⟩⟩
  | lock own op =>
    by_cases same : own = handle
    · subst same
      have left := leaves.1 rfl
      refine ⟨?_, ?_⟩
      · rintro ⟨⟩
        exact (left.frees rfl).1
      · intro other
        have kept : op ≠ .free := by
          rintro rfl
          exact other rfl
        exact ⟨(left.spares kept).1.capacity, (left.spares kept).1.owner⟩
    · rw [leaves.2 same]
      refine ⟨?_, fun _ => ⟨rfl, rfl⟩⟩
      rintro ⟨⟩
      exact absurd rfl same

end Deed

namespace Session

variable {ρ τ : Type} [ReadPeer ρ] {retries : Nat} {send : Writing τ}

/-- One deed of a program. Steps that leave shared buffers alone are those of `Step`; an operation
through a handle may be any one of a buffer. One whose far end has shared buffers or storages of
pools behind it is several deeds, such as reads of a source and writes of what they brought. -/
inductive Use (retries : Nat) (send : Writing τ) : Session ρ → Deed ρ τ → Session ρ → Prop where
  | aside {before after : Session ρ} {taken stray : List PoolId}
    (step : Step before after taken stray) (cells : after.world.cells = before.world.cells) :
    Use retries send before .other after
  /-- A buffer with its cursors in order becomes a shared one. -/
  | share {world : World} {rest : Multiset (Holding ρ)} {buffer : Buffer} (sound : buffer.Sound) :
    Use retries send ⟨world, .buffer buffer ::ₘ rest⟩ .other
      ⟨(world.share buffer).2, .handle (world.share buffer).1 ::ₘ rest⟩
  | retain {world : World} {rest : Multiset (Holding ρ)} (handle : SharedId) :
    Use retries send ⟨world, .handle handle ::ₘ rest⟩ .other
      ⟨world.retain handle, .handle handle ::ₘ .handle handle ::ₘ rest⟩
  | release {world : World} {rest : Multiset (Holding ρ)} (handle : SharedId) :
    Use retries send ⟨world, .handle handle ::ₘ rest⟩ .other ⟨world.release handle, rest⟩
  | unshare {world later : World} {rest : Multiset (Holding ρ)} {handle : SharedId}
    {buffer : Buffer} (given : world.takeShared handle = some (buffer, later)) :
    Use retries send ⟨world, .handle handle ::ₘ rest⟩ .other ⟨later, .buffer buffer ::ₘ rest⟩
  | cache {world : World} {rest : Multiset (Holding ρ)} (source : Source ρ) (handle : SharedId) :
    Use retries send ⟨world, .source source ::ₘ .handle handle ::ₘ rest⟩ .other
      ⟨(source.cache handle world).2, .source (source.cache handle world).1 ::ₘ rest⟩
  | cacheAll {world : World} {rest : Multiset (Holding ρ)} (source : Source ρ)
    (shared : List SharedId) :
    Use retries send ⟨world, .source source ::ₘ (Holding.all shared + rest)⟩ .other
      ⟨(source.cacheAll shared world).2, .source (source.cacheAll shared world).1 ::ₘ rest⟩
  | read {world : World} {rest : Multiset (Holding ρ)} (source : Source ρ) (wanted : Nat) :
    Use retries send ⟨world, .source source ::ₘ rest⟩ (.read (source.read wanted world).answer)
      ⟨(source.read wanted world).world, .source (source.read wanted world).after ::ₘ rest⟩
  | pickAll {world : World} {rest : Multiset (Holding ρ)} (source : Source ρ) :
    Use retries send ⟨world, .source source ::ₘ rest⟩ .other
      ⟨(source.pickAll world).2.2, .source (source.pickAll world).1 ::ₘ
        (Holding.all (source.pickAll world).2.1 + rest)⟩
  | dropSource {world : World} {rest : Multiset (Holding ρ)} (source : Source ρ) :
    Use retries send ⟨world, .source source ::ₘ rest⟩ .other ⟨source.drop world, rest⟩
  | lock {world : World} {rest : Multiset (Holding ρ)} {handle : SharedId} {op : Buffer.Op ρ τ}
    {done : Buffer.Performed ρ τ}
    (ended : op.perform retries send (world.shared handle) world = some done)
    (apart : op ≠ .free → done.world.pools = world.pools ∧ done.world.cells = world.cells) :
    Use retries send ⟨world, .handle handle ::ₘ rest⟩ (.lock handle op)
      ⟨done.world.setShared handle done.buffer, .handle handle ::ₘ rest⟩

theorem Use.close {world later : World} {rest : Multiset (Holding ρ)} {handle : SharedId}
    {freed : Buffer}
    (closed : (Closable.buffer (world.shared handle)).close world =
      ⟨.ok (), .buffer freed, later⟩) :
    Use retries send ⟨world, .handle handle ::ₘ rest⟩ (.lock handle .free)
      ⟨later.setShared handle freed, .handle handle ::ₘ rest⟩ := by
  have ended : (.free : Buffer.Op ρ τ).perform retries send (world.shared handle) world =
      some ⟨.ok .done, freed, .absent, later⟩ := by
    cases closed
    rfl
  exact .lock ended (absurd rfl)

/-- Several deeds, the last one first. -/
inductive Uses (retries : Nat) (send : Writing τ) :
    Session ρ → List (Deed ρ τ) → Session ρ → Prop where
  | nil (session : Session ρ) : Uses retries send session [] session
  | cons {before middle after : Session ρ} {deeds : List (Deed ρ τ)} {deed : Deed ρ τ}
    (uses : Uses retries send before deeds middle) (use : Use retries send middle deed after) :
    Uses retries send before (deed :: deeds) after

/-- Every owner is counted, and the cursors of every shared buffer are in order. -/
structure Whole (session : Session ρ) : Prop where
  sound : session.estate.Sound
  shared : ∀ handle, (session.world.shared handle).Sound

omit [ReadPeer ρ] in
theorem Whole.owned {session : Session ρ} (whole : session.Whole) {handle : SharedId}
    (alive : 0 < session.estate.live handle) : session.world.owners handle ≠ 0 := by
  rw [show session.world.owners handle = _ from whole.sound.owners handle]
  exact Nat.ne_of_gt alive

section

variable {world : World} {rest : Multiset (Holding ρ)} {handle : SharedId} {op : Buffer.Op ρ τ}
  {done : Buffer.Performed ρ τ}

/-- An operation that frees nothing leaves the buffer behind its handle over its storage. -/
theorem settles_lock (whole : (mk world (.handle handle ::ₘ rest)).Whole)
    (ended : op.perform retries send (world.shared handle) world = some done)
    (pools : done.world.pools = world.pools) (cells : done.world.cells = world.cells)
    (kept : op ≠ .free) :
    (mk (done.world.setShared handle done.buffer) (.handle handle ::ₘ rest)).estate.Sound := by
  have sound := whole.sound
  have frames := ((Buffer.Op.perform_leaves (whole.shared handle) ended).2.spares kept).1
  rw [estate_handle] at sound ⊢
  have still := (Lets.still sound pools cells).sound
  have same : done.world.shared handle = world.shared handle := by
    rw [World.shared, cells, World.shared]
  exact (Settles.setShared still (by rwa [same])).sound

omit [ReadPeer ρ] in
/-- Freeing a shared buffer hands its storage back, whoever else owns it. -/
theorem settles_free (sound : (mk world (.handle handle ::ₘ rest)).estate.Sound) :
    HandsBack world.pools (world.freeBuffer (world.shared handle)).2.pools
        (world.shared handle).claim.toList ∧
      (mk ((world.freeBuffer (world.shared handle)).2.setShared handle
        (world.freeBuffer (world.shared handle)).1) (.handle handle ::ₘ rest)).estate.Sound := by
  have fits : world.Fits (world.shared handle) := sound.shared handle
  obtain ⟨hands, unowned⟩ := World.freeBuffer_handsBack fits
  have cells := world.cells_freeBuffer (world.shared handle)
  rw [estate_handle] at sound ⊢
  -- What is behind the handle after it has no claim to any storage.
  have shared : ∀ other, ((world.freeBuffer (world.shared handle)).2.setShared handle
      (world.freeBuffer (world.shared handle)).1).shared other =
      if other = handle then (world.freeBuffer (world.shared handle)).1
      else world.shared other := by
    intro other
    rw [World.shared_setShared]
    split
    · rfl
    · exact world.shared_dropBuffer _ other
  refine ⟨hands, ?_, ?_, ?_, ?_, ?_⟩
  · apply hands.stocked sound.stocked
    intro each member
    exact fits.length_claim (Option.mem_toList.mp member)
  · intro other
    refine (World.owners_setShared _ _ _ _).trans ?_
    rw [World.owners, cells]
    exact sound.owners other
  · exact fun buffer member => (sound.fits buffer member).handsBack hands
  · intro other
    show World.Fits _ (World.shared _ other)
    rw [shared]
    split
    · exact World.fits_of_unowned _ unowned
    · exact (sound.shared other).handsBack hands
  · intro other dead
    have apart : other ≠ handle := by
      rintro rfl
      exact absurd dead (Multiset.count_ne_zero.mpr (Multiset.mem_cons_self _ _))
    show World.shared _ other = _
    rw [shared, if_neg apart]
    exact sound.hollow other dead

end

variable {before middle after : Session ρ} {deed : Deed ρ τ} {deeds : List (Deed ρ τ)}

/-- Without an operation through a handle a deed is a step. -/
theorem Use.step (use : Use retries send before deed after)
    (unlocked : ∀ handle op, deed ≠ .lock handle op) :
    ∃ taken stray, Step before after taken stray := by
  cases use with
  | aside step => exact ⟨_, _, step⟩
  | share => exact ⟨_, _, .share _⟩
  | retain handle => exact ⟨_, _, .retain handle⟩
  | release handle => exact ⟨_, _, .release handle⟩
  | unshare given => exact ⟨_, _, .unshare given⟩
  | cache source handle => exact ⟨_, _, .cache source handle⟩
  | cacheAll source shared => exact ⟨_, _, .cacheAll source shared⟩
  | read source wanted => exact ⟨_, _, .read source wanted⟩
  | pickAll source => exact ⟨_, _, .pickAll source⟩
  | dropSource source => exact ⟨_, _, .dropSource source⟩
  | lock => exact absurd rfl (unlocked _ _)

/-- Every deed accounts for the storages that it moves. -/
theorem Use.hands (use : Use retries send before deed after) (whole : before.Whole) :
    after.estate.Sound ∧ deed.Hands before.estate after.estate := by
  have plain : (∀ handle op, deed ≠ .lock handle op) →
      ∃ deal, before.estate.Settles after.estate deal := by
    intro unlocked
    obtain ⟨taken, stray, step⟩ := use.step unlocked
    obtain ⟨back, settles⟩ := step.settles whole.sound
    exact ⟨_, settles⟩
  cases deed with
  | other | read =>
    obtain ⟨deal, settles⟩ := plain nofun
    exact ⟨settles.sound, deal, settles⟩
  | lock handle op =>
    cases use with
    | @lock world rest _ _ done ended apart =>
      by_cases freed : op = .free
      · subst freed
        rw [Buffer.Op.perform, Option.some.injEq] at ended
        subst ended
        obtain ⟨hands, sound⟩ := settles_free whole.sound
        exact ⟨sound, fun _ => hands, absurd rfl⟩
      · obtain ⟨pools, cells⟩ := apart freed
        exact ⟨settles_lock whole ended pools cells freed, fun free => absurd free freed,
          fun _ => pools⟩

/-- What a deed does to shared buffers. No handle that was there once comes back to life. -/
structure Keeps (deed : Deed ρ τ) (world later : World) : Prop where
  next : world.cells.next ≤ later.cells.next
  sound : ∀ handle, later.owners handle ≠ 0 → (later.shared handle).Sound
  kept : ∀ handle < world.cells.next, later.owners handle ≠ 0 →
    world.owners handle ≠ 0 ∧ deed.Leaves handle (world.shared handle) (later.shared handle)

omit [ReadPeer ρ] in
/-- Shared buffers are left alone. -/
theorem Keeps.still {world later : World} (sound : ∀ handle, (world.shared handle).Sound)
    (carries : world.Carries Eq later) : Keeps (.other : Deed ρ τ) world later := by
  refine ⟨carries.next, fun handle alive => ?_, fun handle _ alive => ?_⟩
  · rw [← (carries.kept handle alive).2]
    exact sound handle
  · exact ⟨(carries.kept handle alive).1, (carries.kept handle alive).2.symm⟩

/-- An operation on a shared buffer leaves all others alone. -/
theorem Keeps.lock {world : World} {handle : SharedId} {op : Buffer.Op ρ τ}
    {done : Buffer.Performed ρ τ} (shared : ∀ handle, (world.shared handle).Sound)
    (ended : op.perform retries send (world.shared handle) world = some done)
    (apart : op ≠ .free → done.world.cells = world.cells) :
    Keeps (.lock handle op) world (done.world.setShared handle done.buffer) := by
  obtain ⟨sound, leaves⟩ := Buffer.Op.perform_leaves (shared handle) ended
  have cells : done.world.cells = world.cells := by
    by_cases freed : op = .free
    · subst freed
      rw [Buffer.Op.perform, Option.some.injEq] at ended
      subst ended
      exact world.cells_freeBuffer _
    · exact apart freed
  have owners : ∀ other, (done.world.setShared handle done.buffer).owners other =
      world.owners other := by
    intro other
    rw [World.owners_setShared, World.owners, cells, World.owners]
  have behind : ∀ other, (done.world.setShared handle done.buffer).shared other =
      if other = handle then done.buffer else world.shared other := by
    intro other
    rw [World.shared_setShared]
    split
    · rfl
    · rw [World.shared, cells, World.shared]
  refine ⟨?_, fun other _ => ?_, fun other _ alive => ⟨owners other ▸ alive, ?_⟩⟩
  · rw [← cells]
    exact done.world.next_le_setShared handle done.buffer
  · rw [behind]
    split
    · exact sound
    · exact shared other
  · rw [behind]
    by_cases equal : other = handle
    · subst equal
      rw [if_pos rfl]
      exact ⟨fun _ => leaves, absurd rfl⟩
    · rw [if_neg equal]
      exact ⟨fun same => absurd same.symm equal, fun _ => rfl⟩

/-- What is behind handles that stay alive is left as the deed says. -/
theorem Use.keeps (use : Use retries send before deed after) (whole : before.Whole) :
    Keeps deed before.world after.world := by
  have shared := whole.shared
  cases use with
  | aside step cells => exact .still shared (.of_cells (fun _ => rfl) cells)
  | @share world rest buffer sound =>
    refine ⟨?_, fun handle _ => ?_, fun handle made alive => ?_⟩
    · exact Nat.le_trans (Nat.le_succ _) (Nat.le_of_eq (Table.next_add _ _).symm)
    · rw [World.shared_share]
      split
      · exact sound
      · exact shared handle
    · have apart : handle ≠ world.cells.next := Nat.ne_of_lt made
      rw [World.owners_share, if_neg apart] at alive
      refine ⟨alive, ?_⟩
      rw [World.shared_share, if_neg apart]
      rfl
  | @retain world rest handle =>
    refine .still shared (.retain (whole.owned ?_))
    rw [live_handle]
    exact Nat.succ_pos _
  | release handle => exact .still shared (.release _ handle)
  | unshare given => exact .still shared (.takeShared given)
  | cache source handle => exact .still shared (source.carries_cache handle _)
  | cacheAll source handles => exact .still shared (source.carries_cacheAll handles _)
  | @read world rest source wanted =>
    have carries := (source.reads_read wanted world).carries
    refine ⟨carries.next, fun handle alive => ?_, fun handle _ alive => carries.kept handle alive⟩
    obtain ⟨_, _, takes, _⟩ := carries.kept handle alive
    exact takes.sound (shared handle)
  | pickAll source => exact .still shared (source.carries_pickAll _)
  | dropSource source => exact .still shared (source.carries_drop _)
  | lock ended apart => exact .lock shared ended fun kept => (apart kept).2

theorem Use.whole (use : Use retries send before deed after) (whole : before.Whole) :
    after.Whole := by
  have sound := (use.hands whole).1
  refine ⟨sound, fun handle => ?_⟩
  by_cases dead : after.world.owners handle = 0
  · have gone : after.estate.live handle = 0 := (sound.owners handle).symm.trans dead
    have left : after.world.shared handle = .hollow := sound.hollow handle gone
    rw [left]
    exact Buffer.sound_zeroed 0
  · exact (use.keeps whole).sound handle dead

omit [ReadPeer ρ] in
theorem whole_start : (⟨.initial, 0⟩ : Session ρ).Whole :=
  ⟨sound_start, fun _ => Buffer.sound_zeroed 0⟩

theorem Uses.whole (uses : Uses retries send before deeds after) (whole : before.Whole) :
    after.Whole := by
  induction uses with
  | nil => exact whole
  | cons _ use ih => exact use.whole ih

/-- A handle that is alive at the end was alive all along, and what is behind it is over its storage
still unless it was freed. -/
theorem Uses.keeps (uses : Uses retries send before deeds after) (whole : before.Whole) :
    before.world.cells.next ≤ after.world.cells.next ∧
      ∀ handle < before.world.cells.next, after.world.owners handle ≠ 0 →
        before.world.owners handle ≠ 0 ∧
        (.lock handle .free ∈ deeds → (after.world.shared handle).capacity = 0) ∧
        (.lock handle .free ∉ deeds →
          (after.world.shared handle).capacity = (before.world.shared handle).capacity ∧
          (after.world.shared handle).owner = (before.world.shared handle).owner) := by
  induction uses with
  | nil =>
    refine ⟨Nat.le_refl _, fun handle _ alive => ⟨alive, fun freed => ?_, fun _ => ⟨rfl, rfl⟩⟩⟩
    exact absurd freed List.not_mem_nil
  | @cons middle last deeds deed uses use ih =>
    obtain ⟨next, kept⟩ := ih
    have keeps := use.keeps (uses.whole whole)
    refine ⟨next.trans keeps.next, fun handle made alive => ?_⟩
    obtain ⟨between, leaves⟩ := keeps.kept handle (Nat.lt_of_lt_of_le made next) alive
    obtain ⟨living, spent, spared⟩ := kept handle made between
    obtain ⟨frees, spares⟩ := leaves.storage
    refine ⟨living, fun freed => ?_, fun unfreed => ?_⟩
    · by_cases now : deed = .lock handle .free
      · exact frees now
      · rw [(spares now).1]
        exact spent (List.mem_of_ne_of_mem (Ne.symm now) freed)
    · have now : deed ≠ .lock handle .free := fun same => unfreed (same ▸ List.mem_cons_self)
      obtain ⟨capacity, owner⟩ := spared fun early => unfreed (List.mem_cons_of_mem _ early)
      exact ⟨(spares now).1.trans capacity, (spares now).2.trans owner⟩

/-- A shared buffer that has an owner all along keeps its storage until it is freed through one of
its handles, and no other deed ever parts the two, whoever owns what. A deed on a shared buffer
leaves all others as they are, hands a storage back to its pool only if it frees the buffer, and
makes unread bytes go away only by consuming them or by cutting them off; a read through cache
layers takes only bytes that it brings. Whatever else a program does leaves shared buffers with an
owner as they are, and hands back only what has no owner left. -/
theorem uses_release {early late : List (Deed ρ τ)} {session after : Session ρ}
    (past : Uses retries send ⟨.initial, 0⟩ early session)
    (uses : Uses retries send session late after) :
    (∀ handle, 0 < session.estate.live handle → 0 < after.estate.live handle →
      (.lock handle .free ∈ late → (after.world.shared handle).capacity = 0) ∧
      (.lock handle .free ∉ late →
        (after.world.shared handle).capacity = (session.world.shared handle).capacity ∧
        (after.world.shared handle).owner = (session.world.shared handle).owner)) ∧
    ∀ deed later, Use retries send after deed later →
      deed.Hands after.estate later.estate ∧
      ∀ handle, 0 < after.estate.live handle → 0 < later.estate.live handle →
        deed.Leaves handle (after.world.shared handle) (later.world.shared handle) := by
  have whole := past.whole whole_start
  have ending := uses.whole whole
  refine ⟨fun handle first last => ?_, fun deed later use => ?_⟩
  · exact ((uses.keeps whole).2 handle (whole.sound.made first) (ending.owned last)).2
  · refine ⟨(use.hands ending).2, fun handle first last => ?_⟩
    exact ((use.keeps ending).kept handle (ending.sound.made first)
      ((use.whole ending).owned last)).2

/-- A sink that takes everything. -/
def greedySink : Writing Unit := fun sink bytes world => ⟨.ok bytes.length, sink, world⟩

/-- A buffer of a pool, with bytes in it and two handles on it. -/
def pairedSession : Session RehearsedReader :=
  let taken := (World.initial.addPool 4 1).takeBuffer 0 4
  ⟨(taken.2.share (taken.1.append [7, 8])).2.retain 0, .handle 0 ::ₘ .handle 0 ::ₘ 0⟩

/-- The buffer is freed through one of the handles. -/
def freedSession : Session RehearsedReader :=
  let world := pairedSession.world
  let freed := world.freeBuffer (world.shared 0)
  ⟨freed.2.setShared 0 freed.1, .handle 0 ::ₘ .handle 0 ::ₘ 0⟩

theorem uses_paired : Uses 0 greedySink (⟨.initial, 0⟩ : Session RehearsedReader)
    [.other, .other, .other, .other, .other] pairedSession := by
  let taken := (World.initial.addPool 4 1).takeBuffer 0 4
  have room : [7, 8].length ≤ taken.1.freeLen := by decide
  have sound : taken.1.Sound := ⟨by decide, by decide⟩
  have puts := Buffer.Puts.append taken.1 [7, 8] room
  have written : Uses 0 greedySink (⟨.initial, 0⟩ : Session RehearsedReader)
      [.other, .other, .other] ⟨taken.2, .buffer (taken.1.append [7, 8]) ::ₘ 0⟩ :=
    .cons (.cons (.cons (.nil _) (.aside (.addPool 4 1) rfl)) (.aside (.take 0 4) rfl))
      (.aside (.change (puts.frames sound)) rfl)
  exact .cons (.cons written (.share (puts.sound sound))) (.retain 0)

theorem use_freed :
    Use 0 greedySink pairedSession (.lock 0 .free : Deed RehearsedReader Unit) freedSession :=
  .close rfl

/-- The buffer loses its storage although both of its handles are alive, and any other operation
through one of them would have left its pool as it was. -/
theorem uses_release_paired :
    0 < pairedSession.estate.live 0 ∧ 0 < freedSession.estate.live 0 ∧
      (freedSession.world.shared 0).capacity = 0 ∧
      ∀ later, Use 0 greedySink pairedSession (.lock 0 (.read 1)) later →
        later.world.pools = pairedSession.world.pools := by
  have paired : 0 < pairedSession.estate.live 0 := by decide
  have freed : 0 < freedSession.estate.live 0 := by decide
  obtain ⟨storage, _⟩ := uses_release uses_paired (.cons (.nil _) use_freed)
  obtain ⟨_, next⟩ := uses_release uses_paired (.nil _)
  refine ⟨paired, freed, (storage 0 paired freed).1 (List.mem_singleton_self _), ?_⟩
  intro later use
  exact (next _ later use).1.2 nofun

/-- Freeing a shared buffer through one of two handles takes its storage and its unread bytes away
from the other one, and its pool has the storage back. -/
theorem free_parts_owners :
    Uses 0 greedySink (⟨.initial, 0⟩ : Session RehearsedReader)
        [.other, .other, .other, .other, .other] pairedSession ∧
      Use 0 greedySink pairedSession (.lock 0 .free : Deed RehearsedReader Unit) freedSession ∧
      (pairedSession.world.owners 0 = 2 ∧ (pairedSession.world.shared 0).capacity = 4 ∧
        (pairedSession.world.shared 0).unread = [7, 8] ∧
        (pairedSession.world.pools.get 0).idle = []) ∧
      freedSession.world.owners 0 = 2 ∧ (freedSession.world.shared 0).capacity = 0 ∧
        (freedSession.world.shared 0).unread = [] ∧
        (freedSession.world.pools.get 0).idle = [[7, 8, 0, 0]] :=
  ⟨uses_paired, use_freed, by decide, by decide⟩

end Session

end Conduit
