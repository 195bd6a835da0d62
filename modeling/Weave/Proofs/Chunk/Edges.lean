import Weave.Proofs.Chunk.Continuation
import Weave.Proofs.Text.Lines

/-!
# Empty lines at the edges

An empty line before or behind all lines of a text is code, whatever stands beside it. So
it either lengthens a run of code by an empty text, which is trimmed, or it is a run of its
own, which has no text and goes. The chunks are those of the other lines, and so are their
flags, which are told by the chunks alone.
-/
namespace Weave.Chunk
namespace Segmentation

theorem inRun_nil : InRun .code [] :=
  ⟨rfl, rfl⟩

theorem tidied_nil_cons (k : Kind) (xs : List Text) :
    tidied [(k, [] :: xs)] = tidied [(k, xs)] := by
  have ha : ([] :: xs).any (fun x => !x.isEmpty) = xs.any fun x => !x.isEmpty := rfl
  simp only [tidied, List.filter_cons, List.filter_nil, ha]
  split <;> rfl

theorem tidied_concat_nil (k : Kind) (xs : List Text) :
    tidied [(k, xs ++ [[]])] = tidied [(k, xs)] := by
  have hd : ((xs ++ [[]]).dropWhile List.isEmpty).rdropWhile List.isEmpty =
      (xs.dropWhile List.isEmpty).rdropWhile List.isEmpty := by
    rw [List.dropWhile_append]
    split
    · rename_i h
      rw [List.isEmpty_iff.1 h]
      rfl
    · exact List.rdropWhile_concat_pos _ _ _ rfl
  have ha : (xs ++ [[]]).any (fun x => !x.isEmpty) = xs.any fun x => !x.isEmpty := by simp
  simp only [tidied, List.filter_cons, List.filter_nil, ha]
  split
  · simp only [List.map_cons, List.map_nil, hd]
  · rfl

/-- An empty line that is a run of its own leaves nothing. -/
theorem tidied_pieces_nil_cons {ls : List Text} (h : EndsRun .code ls) :
    tidied (pieces ([] :: ls)) = tidied (pieces ls) := by
  have hr : ∀ l ∈ [[]], InRun .code l := by simpa using inRun_nil
  exact tidied_pieces_append hr h

theorem segmentation_nil_cons (ls : List Text) : segmentation ([] :: ls) = segmentation ls := by
  unfold segmentation
  induction ls using run_induction with
  | nil => rfl
  | brk l ls hl _ => exact tidied_pieces_nil_cons (by simp [EndsRun, InRun, hl])
  | run k run rest hn hr he _ =>
      cases k with
      | prose =>
          obtain ⟨l, run, rfl⟩ := List.exists_cons_of_ne_nil hn
          refine tidied_pieces_nil_cons ?_
          have hk : kindOf l = .prose := (hr l List.mem_cons_self).2
          simp [EndsRun, InRun, hk]
      | code =>
          have hr' : ∀ l ∈ [] :: run, InRun .code l := List.forall_mem_cons.2 ⟨inRun_nil, hr⟩
          rw [← List.cons_append, tidied_pieces_append hr' he, tidied_pieces_append hr he,
            List.map_cons]
          congr 1
          exact tidied_nil_cons .code _

theorem segmentation_concat_nil (ls : List Text) :
    segmentation (ls ++ [[]]) = segmentation ls := by
  unfold segmentation
  induction ls using run_induction with
  | nil => rfl
  | brk l ls hl ih =>
      have hp : ∀ ls, pieces (l :: ls) = pieces ls := fun ls => pieces_append_break [] ls hl
      rw [List.cons_append, hp, hp, ih]
  | run k run rest hn hr he ih =>
      cases rest with
      | cons l rest =>
          have he' : EndsRun k (l :: rest ++ [[]]) := he
          rw [List.append_assoc, tidied_pieces_append hr he', tidied_pieces_append hr he, ih]
      | nil =>
          have halone : tidied (pieces run) = tidied [(k, run.map textOf)] := by
            simpa using tidied_pieces_append hr he
          rw [List.append_nil, halone]
          cases k with
          | prose =>
              have he' : EndsRun .prose [[]] := by simp [EndsRun, InRun, kindOf]
              rw [tidied_pieces_append hr he']
              exact List.append_nil _
          | code =>
              have hr' : ∀ l ∈ run ++ [[]], InRun .code l :=
                List.forall_mem_append.2 ⟨hr, by simpa using inRun_nil⟩
              have hlonger := tidied_pieces_append hr' he
              rw [List.append_nil, pieces_nil, tidied_nil, List.append_nil, List.map_append]
                at hlonger
              exact hlonger.trans (tidied_concat_nil .code _)

end Segmentation

open Segmentation

theorem ofText_eq_of_segmentation_eq {t t' : Text}
    (h : segmentation t.lines = segmentation t'.lines) : ofText t = ofText t' := by
  rw [ofText_eq_markContinued, h, ofText_eq_markContinued]

theorem ofText_newline_cons (t : Text) : ofText ('\n' :: t) = ofText t := by
  refine ofText_eq_of_segmentation_eq ?_
  rw [Text.lines_newline, segmentation_nil_cons]

theorem ofText_concat_newline {t : Text} (h : t.getLast? ≠ some '\r') :
    ofText (t ++ ['\n']) = ofText t := by
  refine ofText_eq_of_segmentation_eq ?_
  obtain hs | hs := Text.lines_concat_newline h
  · rw [hs]
  · rw [hs, segmentation_concat_nil]

end Weave.Chunk
