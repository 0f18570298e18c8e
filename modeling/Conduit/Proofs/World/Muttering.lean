import Conduit.Proofs.Source.Layers
import Conduit.Proofs.Transfer.Draining
import Conduit.Proofs.Transfer.Filling

set_option autoImplicit false

namespace Conduit

def Notice.Minor (notice : Notice) : Prop :=
  notice.subsystem = .splice ∨ notice.subsystem = .pool

def Event.Murmur : Event → Prop
  | .noticed notice => notice.Minor
  | _ => True

namespace World

/-- These notices were given, in this order, among other records. -/
def Reports (world : World) (told : List Notice) (later : World) : Prop :=
  ∃ events, later.journal.events = world.journal.events ++ events ∧
    events.filterMap Event.notice? = told

namespace Reports

variable {world middle later : World} {told first second : List Notice}

theorem refl (world : World) : Reports world [] world := ⟨[], by simp, rfl⟩

theorem trans (front : Reports world first middle) (back : Reports middle second later) :
    Reports world (first ++ second) later := by
  obtain ⟨early, grown, rfl⟩ := front
  obtain ⟨late, regrown, rfl⟩ := back
  exact ⟨early ++ late, by rw [regrown, grown, List.append_assoc], List.filterMap_append⟩

theorem notice (reports : Reports world told later) (notice : Notice) :
    Reports world (told ++ [notice]) (later.notice notice) :=
  reports.trans ⟨[.noticed notice], later.journal.events_record _, rfl⟩

theorem still (reports : Reports world told middle) (same : later.journal = middle.journal) :
    Reports world told later := by
  rwa [Reports, same]

/-- The notices given since an earlier world are read off the journal. -/
theorem since (reports : Reports world told later) :
    (later.journal.since world.journal.size).filterMap Event.notice? = told := by
  obtain ⟨events, grown, rfl⟩ := reports
  have latest : later.journal.latestFirst = events.reverse ++ world.journal.latestFirst := by
    rw [← List.reverse_inj, List.reverse_append, List.reverse_reverse]
    exact grown
  rw [Journal.since, Journal.size, Journal.size, latest, List.length_append,
    Nat.add_sub_cancel, List.take_left, List.reverse_reverse]

end Reports

/-- Nothing but minor notices was given. -/
def Mutters (world later : World) : Prop := Logs Event.Murmur world later

theorem Mutters.reports {world later : World} (mutters : Mutters world later) :
    ∃ told, Reports world told later ∧ ∀ notice ∈ told, notice.Minor := by
  obtain ⟨events, grown, murmurs⟩ := mutters
  refine ⟨_, ⟨events, grown, rfl⟩, fun notice told => ?_⟩
  obtain ⟨event, recorded, said⟩ := List.mem_filterMap.mp told
  cases event with
  | noticed _ =>
    cases said
    exact murmurs _ recorded
  | read | wrote | flushed | greeted | fed | pulling | pulled | closed | counted => cases said

variable (world : World)

theorem mutters_notice {notice : Notice} (minor : notice.Minor) :
    Mutters world (world.notice notice) :=
  .record (show Event.Murmur (.noticed notice) from minor) world

theorem mutters_count (counters : List Counter) (bytes : Nat) :
    Mutters world (world.count counters bytes) := by
  refine (logs_count world counters bytes).mono ?_
  rintro event ⟨counter, -, -, rfl⟩
  trivial

theorem mutters_countBoth (counters : CounterSet) (bytes : Nat) :
    Mutters world (world.countBoth counters bytes) :=
  (world.mutters_count counters.read bytes).trans (mutters_count _ counters.write bytes)

theorem mutters_alloc (allocator : Allocator) (size : Nat) :
    Mutters world (allocator.alloc size world).2 := by
  rcases allocator.alloc_world size world with ⟨pools, same⟩ | ⟨missing, same⟩
  · rw [same]
    exact .of_journal_eq rfl
  · rw [same]
    exact world.mutters_notice (.inr rfl)

end World

open World (Mutters)

section Reading

variable {ρ : Type} [ReadPeer ρ]

theorem Source.mutters_rule (start : World) : ReadRule (Mutters start) where
  heard := fun before => before.trans (.record trivial _)
  delivered := fun before => before.trans (.of_journal_eq rfl)
  shared := fun before => before.trans (.of_journal_eq rfl)
  released := fun before => before.trans (.of_journal_eq (World.journal_release _ _))
  counted := fun before => before.trans (World.mutters_count _ _ _)

theorem Source.mutters_read (source : Source ρ) (wanted : Nat) (world : World) :
    Mutters world (source.read wanted world).world :=
  (reads_read source wanted world).keeps (mutters_rule world) (.refl _ world)

theorem Buffer.mutters_fillOnce {retries : Nat} {counters : List Counter} {buffer : Buffer}
    {source : Source ρ} {world : World} {filled : Filled ρ}
    (ended : buffer.fillOnce retries counters source world = some filled) :
    Mutters world filled.world :=
  fillOnce_keeps (fun source wanted {now} before => before.trans (source.mutters_read wanted now))
    (fun _ {_} before => before.trans (World.mutters_count _ counters _)) ended (.refl _ world)

end Reading

theorem Buffer.mutters_drain {τ : Type} {write : Writing τ} (counters : List Counter)
    (buffer : Buffer) (sink : τ) (world : World)
    (mutters : ∀ sink bytes world, Mutters world (write sink bytes world).world) :
    Mutters world (buffer.drain write counters sink world).world := by
  by_cases none : buffer.unread = []
  · rw [drain_of_empty write counters sink world none]
    exact .refl _ world
  · have rule : DrainRule write counters fun _ _ _ _ now => Mutters world now := by
      refine .steady ?_ ?_
      · exact fun before _ _ =>
          (before.trans (mutters _ _ _)).trans (World.mutters_count _ counters _)
      · exact fun before _ _ => before.trans (mutters _ _ _)
    exact (rule.drain buffer sink world none (.refl _ world)).holds.choose_spec

end Conduit
