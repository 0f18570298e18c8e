import Conduit.Fault.Message
import Conduit.Proofs.Fault.Wording
import Mathlib.Data.List.Infix
import Mathlib.Data.List.Nodup

set_option autoImplicit false

namespace Conduit

namespace TransferFault

/-- The faults whose text differs from that of each fault before them. -/
def kept (faults : List TransferFault) : List TransferFault :=
  ((faults.zip faults.inits).filter fun each => each.1.message ∉ each.2.map message).map Prod.fst

theorem distinctFrom_eq (seen : List String) (faults : List TransferFault) :
    distinctFrom seen faults = ((faults.zip faults.inits).filter fun each =>
      each.1.message ∉ seen ++ each.2.map message).map Prod.fst := by
  induction faults generalizing seen with
  | nil => rfl
  | cons fault rest ih =>
    have later : ((rest.zip (rest.inits.map (fault :: ·))).filter fun each =>
          each.1.message ∉ seen ++ each.2.map message).map Prod.fst =
        ((rest.zip rest.inits).filter fun each =>
          each.1.message ∉ seen ++ fault.message :: each.2.map message).map Prod.fst := by
      rw [List.zip_map_right, List.filter_map, List.map_map]
      rfl
    rw [distinctFrom, List.inits_cons, List.zip_cons_cons, List.filter_cons]
    by_cases again : fault.message ∈ seen
    · simp only [again, if_true, List.map_nil, List.append_nil, not_true_eq_false, decide_false,
        Bool.false_eq_true, if_false, later, ih]
      congr 1
      refine List.filter_congr fun each _ => ?_
      have also : each.1.message = fault.message → each.1.message ∈ seen := fun same => same ▸ again
      simp only [List.mem_append, List.mem_cons, decide_eq_decide]
      tauto
    · simp only [again, if_false, List.map_nil, List.append_nil, not_false_eq_true, decide_true,
        if_true, later, ih, List.map_cons, List.append_assoc, List.singleton_append]

theorem distinct_eq_kept (faults : List TransferFault) : distinct faults = kept faults := by
  simp only [distinct, distinctFrom_eq, kept, List.nil_append]

theorem kept_sublist (faults : List TransferFault) : (kept faults).Sublist faults := by
  have firsts : (faults.zip faults.inits).map Prod.fst = faults :=
    List.map_fst_zip (by rw [List.length_inits]; omega)
  calc
    (kept faults).Sublist ((faults.zip faults.inits).map Prod.fst) := List.filter_sublist.map _
    _ = faults := firsts

/-- Faults that come later change nothing of what is kept of the earlier ones. -/
theorem distinctFrom_append (seen : List String) (front rest : List TransferFault) :
    distinctFrom seen (front ++ rest) = distinctFrom seen front ++
      distinctFrom (seen ++ (distinctFrom seen front).map message) rest := by
  induction front generalizing seen with
  | nil => simp [distinctFrom]
  | cons fault front ih =>
    simp only [List.cons_append, distinctFrom]
    split
    · exact ih seen
    · rw [ih]
      simp only [List.cons_append, List.map_cons, List.append_assoc, List.nil_append]

theorem kept_append (front rest : List TransferFault) :
    kept (front ++ rest) = kept front ++ distinctFrom ((kept front).map message) rest := by
  simp only [← distinct_eq_kept, distinct, distinctFrom_append, List.nil_append]

/-- Every fault reads like one that was seen or is kept. -/
theorem distinctFrom_covers (seen : List String) (faults : List TransferFault) :
    ∀ fault ∈ faults, fault.message ∈ seen ++ (distinctFrom seen faults).map message := by
  induction faults generalizing seen with
  | nil => exact nofun
  | cons fault rest ih =>
    rw [distinctFrom]
    split
    · rename_i again
      exact List.forall_mem_cons.mpr ⟨List.mem_append_left _ again, ih seen⟩
    · have later := ih (seen ++ [fault.message])
      rw [List.append_assoc] at later
      exact List.forall_mem_cons.mpr ⟨by simp, later⟩

theorem kept_covers (faults : List TransferFault) :
    ∀ fault ∈ faults, fault.message ∈ (kept faults).map message := by
  rw [← distinct_eq_kept]
  exact distinctFrom_covers [] faults

theorem kept_eq_nil_iff (faults : List TransferFault) : kept faults = [] ↔ faults = [] := by
  constructor
  · intro none
    rw [List.eq_nil_iff_forall_not_mem]
    intro fault inside
    have covered := kept_covers faults fault inside
    rw [none] at covered
    cases covered
  · rintro rfl
    rfl

theorem join_cases (faults : List TransferFault) :
    (faults = [] ∧ join faults = none) ∨
      (∃ fault, kept faults = [fault] ∧ join faults = some fault) ∨
      2 ≤ (kept faults).length ∧ join faults = some (.many (kept faults)) := by
  rw [join, distinct_eq_kept]
  match same : kept faults with
  | [] => exact .inl ⟨(kept_eq_nil_iff faults).mp same, rfl⟩
  | [fault] => exact .inr (.inl ⟨fault, rfl, rfl⟩)
  | fault :: next :: rest => exact .inr (.inr ⟨by simp, rfl⟩)

theorem join_eq_none_iff (faults : List TransferFault) : join faults = none ↔ faults = [] := by
  rcases join_cases faults with ⟨rfl, none⟩ | ⟨fault, one, joined⟩ | ⟨many, joined⟩
  · simp [none]
  · rw [joined, ← kept_eq_nil_iff, one]
    simp
  · rw [joined, ← kept_eq_nil_iff]
    exact ⟨nofun, fun none => absurd (none ▸ many) (by decide)⟩

/-- A joined fault says only that a stream ended when each kept one does. -/
theorem isEndOfStream_join {faults : List TransferFault} {joined : TransferFault}
    (joins : join faults = some joined) :
    joined.isEndOfStream = true ↔ ∀ fault ∈ kept faults, fault.isEndOfStream = true := by
  rcases join_cases faults with ⟨-, none⟩ | ⟨fault, one, same⟩ | ⟨several, same⟩
  · rw [none] at joins
    cases joins
  · rw [same, Option.some.injEq] at joins
    rw [one, ← joins]
    simp
  · rw [same, Option.some.injEq] at joins
    have some : kept faults ≠ [] := by
      rintro none
      rw [none] at several
      cases several
    rw [← joins, isEndOfStream_many]
    simp [some]

/-- What is not kept reads like a kept one that came before it. -/
theorem kept_before (front : List TransferFault) (fault : TransferFault)
    (rest : List TransferFault) :
    fault ∈ kept (front ++ fault :: rest) ∨
      ∃ other ∈ front, other ∈ kept (front ++ fault :: rest) ∧
        other.message = fault.message := by
  rw [kept_append, distinctFrom]
  split
  · rename_i again
    obtain ⟨other, inside, same⟩ := List.mem_map.mp again
    exact .inr ⟨other, (kept_sublist front).subset inside, List.mem_append_left _ inside, same⟩
  · exact .inl (List.mem_append_right _ List.mem_cons_self)

/-- The fault that others are joined to says only that a stream ended exactly when each of them does
that reads differently from all before it. So it does when all of them do, and a failure of another
kind is lost only if it reads like an end of stream before it. Among tidy faults none is lost. -/
theorem join_endOfStream (faults : List TransferFault) (some : faults ≠ []) :
    ∃ joined, join faults = .some joined ∧
      (joined.isEndOfStream = true ↔ ∀ fault ∈ kept faults, fault.isEndOfStream = true) ∧
      ((∀ fault ∈ faults, fault.isEndOfStream = true) → joined.isEndOfStream = true) ∧
      (joined.isEndOfStream = true → ∀ front fault rest, faults = front ++ fault :: rest →
        fault.isEndOfStream = true ∨
          ∃ other ∈ front, other.isEndOfStream = true ∧ other.message = fault.message) ∧
      ((∀ fault ∈ faults, fault.Tidy) →
        (joined.isEndOfStream = true ↔ ∀ fault ∈ faults, fault.isEndOfStream = true)) := by
  obtain ⟨joined, joins⟩ := Option.ne_none_iff_exists'.mp (mt (join_eq_none_iff faults).mp some)
  have ends := isEndOfStream_join joins
  have all : (∀ fault ∈ faults, fault.isEndOfStream = true) → joined.isEndOfStream = true :=
    fun all => ends.mpr fun fault inside => all fault ((kept_sublist faults).subset inside)
  have lost : joined.isEndOfStream = true → ∀ front fault rest, faults = front ++ fault :: rest →
      fault.isEndOfStream = true ∨
        ∃ other ∈ front, other.isEndOfStream = true ∧ other.message = fault.message := by
    rintro ended front fault rest rfl
    rcases kept_before front fault rest with inside | ⟨other, before, inside, same⟩
    · exact .inl (ends.mp ended fault inside)
    · exact .inr ⟨other, before, ends.mp ended other inside, same⟩
  refine ⟨joined, joins, ends, all, lost, fun tidy => ⟨fun ended fault inside => ?_, all⟩⟩
  obtain ⟨front, rest, rfl⟩ := List.append_of_mem inside
  rcases lost ended front fault rest rfl with already | ⟨other, before, ended, same⟩
  · exact already
  · have also : other ∈ front ++ fault :: rest := List.mem_append_left _ before
    rwa [isEndOfStream_of_message (tidy fault inside) (tidy other also) same.symm]

/-- Two ends of a stream within stages, the second one said twice, join to the end of a stream; with
a short buffer among them they do not. -/
theorem join_endOfStream_staged :
    let ended : TransferFault := .stage Stage.flush (.buffer .endOfStream)
    let cached : TransferFault := .stage Stage.writeCache (.many [.buffer .endOfStream])
    (∃ joined, join [ended, cached, cached] = some joined ∧ joined.isEndOfStream = true) ∧
      ∃ joined, join [ended, .buffer .shortBuffer] = some joined ∧
        joined.isEndOfStream = false := by
  intro ended cached
  constructor
  · obtain ⟨joined, joins, -, all, -⟩ :=
      join_endOfStream [ended, cached, cached] (List.cons_ne_nil _ _)
    refine ⟨joined, joins, all ?_⟩
    simp [ended, cached, isEndOfStream, allEndOfStream, BufferFault.isEndOfStream]
  · obtain ⟨joined, joins, -, -, -, tidy⟩ :=
      join_endOfStream [ended, .buffer .shortBuffer] (List.cons_ne_nil _ _)
    refine ⟨joined, joins, ?_⟩
    have exactly := tidy (by simp [ended, Tidy, Stage.flush])
    simpa [ended, isEndOfStream, BufferFault.isEndOfStream] using exactly

/-- A failure whose message is that of an end of stream is lost behind one. -/
theorem join_endOfStream_forged :
    let ended : TransferFault := .buffer .endOfStream
    let forged : TransferFault := .io (.custom .other (.text "end of stream"))
    join [ended, forged] = some ended ∧ ended.isEndOfStream = true ∧
      ¬ ∀ fault ∈ [ended, forged], fault.isEndOfStream = true := by
  intro ended forged
  have alike : forged.message ∈ [ended.message] := by decide
  refine ⟨?_, by simp [ended, isEndOfStream, BufferFault.isEndOfStream], ?_⟩
  · simp [join, distinct, distinctFrom, alike]
  · simp [forged, isEndOfStream]

end TransferFault

end Conduit
