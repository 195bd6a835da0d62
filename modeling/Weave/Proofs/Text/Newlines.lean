import Weave.Proofs.Text.Occurrence

/-!
# Uniform newlines

Making newlines uniform works on each piece alone: an ended line loses one
carriage return before its newline, and an unfinished line stays as it is.
-/
namespace Weave.Text

/-- The line of a piece, without its newline and a carriage return before it. -/
def bareLine (piece : Text) : Text :=
  if piece.getLast? = some '\n' then
    if piece.dropLast.getLast? = some '\r' then piece.dropLast.dropLast else piece.dropLast
  else piece

theorem unifyNewlines_crlf (t : Text) :
    unifyNewlines ('\r' :: '\n' :: t) = '\n' :: unifyNewlines t :=
  replaceAll_occurrence _ (by decide) t

theorem unifyNewlines_cons {c : Char} {t : Text} (h : c = '\r' → t.head? ≠ some '\n') :
    unifyNewlines (c :: t) = c :: unifyNewlines t := by
  refine replaceAll_char _ (by decide) ?_
  rintro ⟨rest, hr⟩
  obtain ⟨rfl, rfl⟩ := List.cons.inj hr
  exact h rfl rfl

theorem unifyNewlines_append {a : Text} (ha : Ended a) (b : Text) :
    unifyNewlines (a ++ b) = unifyNewlines a ++ unifyNewlines b :=
  replaceAll_append (by decide) (by decide) _ ha b

theorem unifyNewlines_line {line : Text} (h : '\n' ∉ line) : unifyNewlines line = line :=
  replaceAll_eq_self _ (by decide) fun hi => h (hi.subset (by decide))

theorem bareLine_line {line : Text} (h : '\n' ∉ line) : bareLine line = line := by
  have hn : line.getLast? ≠ some '\n' := fun hl => h (List.mem_of_getLast? hl)
  rw [bareLine, if_neg hn]

theorem bareLine_ended_line (line : Text) : bareLine (line ++ ['\n']) =
    if line.getLast? = some '\r' then line.dropLast else line := by
  simp [bareLine]

theorem newline_not_mem_bareLine {line : Text} (h : '\n' ∉ line) :
    '\n' ∉ bareLine (line ++ ['\n']) := by
  rw [bareLine_ended_line]
  split
  · exact fun hm => h (List.dropLast_subset line hm)
  · exact h

theorem bareLine_isPrefix (piece : Text) : bareLine piece <+: piece := by
  unfold bareLine
  split
  · split
    · exact (List.dropLast_prefix _).trans (List.dropLast_prefix _)
    · exact List.dropLast_prefix _
  · exact List.prefix_rfl

theorem unifyNewlines_ended_line {line : Text} (h : '\n' ∉ line) :
    unifyNewlines (line ++ ['\n']) = bareLine (line ++ ['\n']) ++ ['\n'] := by
  rw [bareLine_ended_line]
  induction line with
  | nil => rfl
  | cons c line ih =>
      simp only [List.mem_cons, not_or] at h
      cases line with
      | nil =>
          by_cases hc : c = '\r'
          · subst hc
            exact unifyNewlines_crlf []
          · have hg : [c].getLast? ≠ some '\r' := by simpa using hc
            rw [List.singleton_append, unifyNewlines_cons fun hr => absurd hr hc, if_neg hg]
            rfl
      | cons d line =>
          have hd : d ≠ '\n' := fun hd => h.2 (hd ▸ List.mem_cons_self)
          have hi := ih h.2
          rw [List.cons_append, unifyNewlines_cons fun _ => by simpa using hd, hi,
            List.getLast?_cons_cons, List.dropLast_cons_cons]
          split <;> rfl

theorem ended_unifyNewlines {t : Text} (ht : Ended t) : Ended (unifyNewlines t) := by
  induction t using line_induction with
  | nil => exact ended_nil
  | last line hn hl => exact absurd (mem_of_ended hn ht) hl
  | line line rest hl ih =>
      rw [unifyNewlines_append (ended_line line), unifyNewlines_ended_line hl]
      exact (ended_line _).append (ih ht.of_append)

end Weave.Text
