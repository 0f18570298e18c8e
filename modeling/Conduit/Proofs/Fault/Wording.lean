import Conduit.Fault.Message
import Mathlib.Data.List.Basic
import Mathlib.Data.List.Infix

set_option autoImplicit false

namespace Conduit

namespace Wording

def ending : List Char := BufferFault.endOfStream.message.toList

/-- What parts the lines of a text. -/
def lineBreak : List Char := [';', '\n']

def Ends (text : List Char) : Prop :=
  ∀ front back, text = front ++ back → back = [] ∨ lineBreak <+: back → ending <:+ front

variable {text first second label : List Char}

theorem Ends.suffix (ends : Ends text) : ending <:+ text :=
  ends text [] (List.append_nil text).symm (.inl rfl)

theorem ends_ending : Ends ending := by
  intro front back same stops
  rcases stops with rfl | ⟨rest, rfl⟩
  · rw [List.append_nil] at same
    exact same ▸ List.suffix_rfl
  · have inside : '\n' ∈ ending := by
      rw [same]
      simp [lineBreak]
    exact absurd inside (by decide)

/-- The ending lies behind any character that it lacks. -/
theorem suffix_of_append {mark : Char} (absent : mark ∉ ending)
    (ends : ending <:+ first ++ mark :: second) : ending <:+ second := by
  obtain ⟨rest, same⟩ := ends
  rcases List.append_eq_append_iff.mp same with ⟨within, -, tail⟩ | ⟨within, -, tail⟩
  · rw [tail] at absent
    exact absurd (List.mem_append_right _ List.mem_cons_self) absent
  · cases within with
    | nil =>
      rw [List.nil_append] at tail
      rw [← tail] at absent
      exact absurd List.mem_cons_self absent
    | cons _ within => exact ⟨within, (List.cons.inj tail).2.symm⟩

/-- Behind a label that closes with a colon only the rest of the text can have the ending. -/
theorem suffix_of_label (ends : ending <:+ label ++ ':' :: ' ' :: text) : ending <:+ text := by
  have behind := suffix_of_append (by decide) ends
  rcases List.suffix_cons_iff.mp behind with whole | within
  · have first : ending.head? = some ' ' := congrArg List.head? whole
    exact absurd first (by decide)
  · exact within

/-- A break at the start of two parts lies in the first one, unless that is too short. -/
theorem break_append (broken : lineBreak <+: first ++ second) :
    first = [] ∨ (first = [';'] ∧ second.head? = some '\n') ∨ lineBreak <+: first := by
  obtain ⟨rest, same⟩ := broken
  match first with
  | [] => exact .inl rfl
  | [mark] =>
    simp only [lineBreak, List.cons_append, List.nil_append, List.cons.injEq] at same
    obtain ⟨rfl, rfl⟩ := same
    exact .inr (.inl ⟨rfl, rfl⟩)
  | mark :: next :: first =>
    simp only [lineBreak, List.cons_append, List.nil_append, List.cons.injEq] at same
    obtain ⟨rfl, rfl, -⟩ := same
    exact .inr (.inr ⟨first, rfl⟩)

theorem Ends.labelled (ends : Ends text) (line : '\n' ∉ label) :
    Ends (label ++ ':' :: ' ' :: text) := by
  intro front back same stops
  rw [show label ++ ':' :: ' ' :: text = (label ++ [':', ' ']) ++ text by simp] at same
  rcases List.append_eq_append_iff.mp same with ⟨within, rfl, rest⟩ | ⟨within, cut, rfl⟩
  · exact (ends _ back rest stops).trans (List.suffix_append _ _)
  -- Otherwise the text is cut within the label, where no line ends, or right behind it.
  by_cases behind : within = []
  · subst behind
    exact (ends [] text rfl stops).trans List.nil_suffix
  rcases stops with none | broken
  · exact absurd (List.append_eq_nil_iff.mp none).1 behind
  · exfalso
    rcases break_append broken with none | ⟨rfl, -⟩ | ⟨rest, rfl⟩
    · exact behind none
    · have last := congrArg List.getLast? cut
      simp at last
    · have inside : '\n' ∈ label ++ [':', ' '] := by
        rw [cut]
        simp [lineBreak]
      simp [line] at inside

theorem ends_of_labelled (ends : Ends (label ++ ':' :: ' ' :: text)) : Ends text := by
  intro front back same stops
  have behind : label ++ ':' :: ' ' :: text = (label ++ ':' :: ' ' :: front) ++ back := by
    simp [same]
  exact suffix_of_label (ends _ back behind stops)

/-- Lines that are put together all have the ending when those of each part have. -/
theorem ends_lines_iff :
    Ends (first ++ (lineBreak ++ second)) ↔ Ends first ∧ Ends second := by
  constructor
  · intro ends
    constructor
    · intro front back same stops
      refine ends front (back ++ (lineBreak ++ second)) (by simp [same]) (.inr ?_)
      rcases stops with rfl | stops
      · exact List.prefix_append _ _
      · exact stops.trans (List.prefix_append _ _)
    · intro front back same stops
      have parts : first ++ (lineBreak ++ second) =
          ((first ++ [';']) ++ '\n' :: front) ++ back := by
        simp [lineBreak, same]
      exact suffix_of_append (by decide) (ends _ back parts stops)
  · rintro ⟨one, other⟩ front back same stops
    rcases List.append_eq_append_iff.mp same with ⟨within, rfl, rest⟩ | ⟨within, rfl, rfl⟩
    · -- The cut is behind the first part: at the break, within it, or behind it.
      match within with
      | [] =>
        rw [List.append_nil]
        exact one.suffix
      | [mark] =>
        simp only [lineBreak, List.cons_append, List.nil_append, List.cons.injEq] at rest
        obtain ⟨-, rfl⟩ := rest
        rcases stops with none | ⟨after, broken⟩
        · cases none
        · cases broken
      | mark :: next :: within =>
        simp only [lineBreak, List.cons_append, List.nil_append, List.cons.injEq] at rest
        obtain ⟨rfl, rfl, rest⟩ := rest
        refine (other within back rest stops).trans ?_
        rw [show first ++ ';' :: '\n' :: within = (first ++ [';', '\n']) ++ within by simp]
        exact List.suffix_append _ _
    · -- The cut is within the first part.
      rcases stops with none | broken
      · exact absurd (List.append_eq_nil_iff.mp (List.append_eq_nil_iff.mp none).2).1 (by decide)
      rcases break_append broken with rfl | ⟨-, head⟩ | broken
      · exact one front [] rfl (.inl rfl)
      · cases head
      · exact one front within rfl (.inr broken)

end Wording

/-- Its text does not end as that of a stream that ended. -/
def IoFault.Tidy (fault : IoFault) : Prop := ¬ Wording.ending <:+ fault.message.toList

namespace TransferFault

/-- Its stages have names of one line, and no message of a reader or writer ends as the text of a
stream that ended. -/
def Tidy : TransferFault → Prop
  | .buffer (.io fault) => fault.Tidy
  | .buffer _ => True
  | .io fault => fault.Tidy
  | .stage tag fault => '\n' ∉ tag.toList ∧ fault.Tidy
  | .many faults => ∀ fault ∈ faults, fault.Tidy

/-- What holds of the leaves and goes on to stages and to several faults holds of every fault. -/
theorem byParts {holds : TransferFault → Prop} (buffer : ∀ fault, holds (.buffer fault))
    (io : ∀ fault, holds (.io fault)) (stage : ∀ tag fault, holds fault → holds (.stage tag fault))
    (many : ∀ faults, (∀ fault ∈ faults, holds fault) → holds (.many faults)) :
    ∀ fault, holds fault
  | .buffer fault => buffer fault
  | .io fault => io fault
  | .stage tag fault => stage tag fault (byParts buffer io stage many fault)
  | .many faults => many faults fun fault _ => byParts buffer io stage many fault

open Wording

theorem toList_message_stage (tag : String) (fault : TransferFault) :
    (stage tag fault).message.toList =
      (tag.toList ++ [' ']) ++ ':' :: ' ' :: fault.message.toList := by
  rw [message, String.toList_append, String.toList_append]
  simp

theorem toList_message_io (fault : IoFault) :
    (buffer (.io fault)).message.toList =
      "I/O error".toList ++ ':' :: ' ' :: fault.message.toList := by
  rw [message, BufferFault.message, String.toList_append]
  rfl

theorem ends_listing (faults : List TransferFault) :
    Ends (listing faults).toList ↔
      faults ≠ [] ∧ ∀ fault ∈ faults, Ends fault.message.toList := by
  induction faults with
  | nil =>
    rw [listing]
    exact ⟨fun ends => absurd ends.suffix (by decide), fun all => absurd rfl all.1⟩
  | cons fault rest ih =>
    cases rest with
    | nil => simp [listing]
    | cons next rest =>
      rw [listing, String.toList_append, String.toList_append, List.append_assoc]
      show Ends (fault.message.toList ++ (lineBreak ++ (listing (next :: rest)).toList)) ↔ _
      rw [ends_lines_iff, ih]
      simp

/-- Every line of a tidy fault's text ends as that of a stream that ended just when the fault says
no more. -/
theorem ends_message_iff (fault : TransferFault) (tidy : fault.Tidy) :
    Ends fault.message.toList ↔ fault.isEndOfStream = true := by
  induction fault using byParts with
  | buffer fault =>
    cases fault with
    | endOfStream => exact ⟨fun _ => by rw [isEndOfStream]; rfl, fun _ => ends_ending⟩
    | io fault =>
      rw [Tidy] at tidy
      rw [toList_message_io, isEndOfStream]
      exact iff_of_false (fun ends => tidy (suffix_of_label ends.suffix)) Bool.false_ne_true
    | _ =>
      rw [message, isEndOfStream]
      exact iff_of_false (fun ends => absurd ends.suffix (by decide)) Bool.false_ne_true
  | io fault =>
    rw [Tidy] at tidy
    rw [message, isEndOfStream]
    exact iff_of_false (fun ends => tidy ends.suffix) Bool.false_ne_true
  | stage tag fault ih =>
    rw [Tidy] at tidy
    rw [toList_message_stage, isEndOfStream, ← ih tidy.2]
    exact ⟨ends_of_labelled, fun ends => ends.labelled (by simp [tidy.1])⟩
  | many faults ih =>
    rw [Tidy] at tidy
    rw [message, ends_listing, isEndOfStream_many]
    simp only [Bool.and_eq_true, List.all_eq_true, Bool.not_eq_true', List.isEmpty_eq_false_iff]
    exact and_congr_right fun _ => forall₂_congr fun fault inside =>
      ih fault inside (tidy fault inside)

/-- Of tidy faults that read alike, either both say only that a stream ended or neither does. -/
theorem isEndOfStream_of_message {fault other : TransferFault} (tidy : fault.Tidy)
    (also : other.Tidy) (alike : fault.message = other.message) :
    fault.isEndOfStream = other.isEndOfStream := by
  rw [Bool.eq_iff_iff, ← ends_message_iff fault tidy, ← ends_message_iff other also, alike]

end TransferFault

end Conduit
