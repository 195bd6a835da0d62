import Mathlib.Data.List.SplitBy
import Weave.FileTree.Basic

/-!
# Paths of files

A path whose last character is neither a slash nor a dot ends in the name of a file, so it
has a parent. A name that is joined to a directory is the last part of the path on its way.
-/
namespace Weave

theorem Text.splitOn_eq_splitOnP (sep : Char) (t : Text) :
    Text.splitOn sep t = List.splitOnP (· == sep) t := by
  induction t with
  | nil => rfl
  | cons c t ih =>
      rw [Text.splitOn, List.splitOnP_cons_eq_if_modifyHead, ih]
      obtain ⟨piece, more, hp⟩ := List.exists_cons_of_ne_nil (List.splitOnP_ne_nil (· == sep) t)
      by_cases hc : c = sep
      · simp [hc]
      · simp [hc, hp]

/-- A text is split as the library splits it. -/
theorem Text.splitOn_eq_splitOn (sep : Char) (t : Text) :
    Text.splitOn sep t = List.splitOn sep t := by
  rw [Text.splitOn_eq_splitOnP, List.splitOn_eq_splitOnP]

theorem Text.splitOn_ne_nil (sep : Char) (t : Text) : Text.splitOn sep t ≠ [] := by
  rw [Text.splitOn_eq_splitOnP]
  exact List.splitOnP_ne_nil _ t

theorem Text.splitOn_append_cons (sep : Char) (a b : Text) :
    Text.splitOn sep (a ++ sep :: b) = Text.splitOn sep a ++ Text.splitOn sep b := by
  simp only [Text.splitOn_eq_splitOnP]
  exact List.splitOnP_append_cons a b (beq_self_eq_true sep)

theorem Text.splitOn_line {sep : Char} {t : Text} (h : sep ∉ t) : Text.splitOn sep t = [t] := by
  rw [Text.splitOn_eq_splitOnP]
  exact List.splitOnP_eq_singleton fun c hc => by simpa using ne_of_mem_of_not_mem hc h

theorem Text.not_mem_of_mem_splitOn {sep : Char} {t piece : Text} (h : piece ∈ Text.splitOn sep t) :
    sep ∉ piece := by
  induction t generalizing piece with
  | nil => simp [List.mem_singleton.1 h]
  | cons c t ih =>
      rw [Text.splitOn] at h
      by_cases hc : c = sep
      · rw [if_pos hc] at h
        rcases List.mem_cons.1 h with rfl | h
        · simp
        · exact ih h
      · rw [if_neg hc] at h
        cases ht : Text.splitOn sep t with
        | nil =>
            rw [ht] at h
            rw [List.mem_singleton.1 h]
            simpa using Ne.symm hc
        | cons first more =>
            rw [ht] at h ih
            rcases List.mem_cons.1 h with rfl | h
            · simpa [Ne.symm hc] using ih (by simp)
            · exact ih (List.mem_cons_of_mem _ h)

theorem Text.isInfix_intercalate {sep piece : Text} {pieces : List Text} (h : piece ∈ pieces) :
    piece <:+: List.intercalate sep pieces := by
  induction pieces with
  | nil => cases h
  | cons first rest ih =>
      have hrest : piece ∈ rest → piece <:+: List.intercalate sep (first :: rest) := by
        intro hr
        obtain ⟨next, rest, rfl⟩ := List.exists_cons_of_ne_nil (List.ne_nil_of_mem hr)
        rw [List.intercalate_cons_cons]
        exact (ih hr).trans (List.suffix_append _ _).isInfix
      obtain rfl | hr := List.mem_cons.1 h
      · cases rest with
        | nil => simp [List.intercalate]
        | cons next rest =>
            rw [List.intercalate_cons_cons, List.append_assoc]
            exact (List.prefix_append _ _).isInfix
      · exact hrest hr

/-- A piece of a text stands in it. -/
theorem Text.isInfix_of_mem_splitOn {sep : Char} {t piece : Text}
    (h : piece ∈ Text.splitOn sep t) : piece <:+: t := by
  rw [Text.splitOn_eq_splitOn] at h
  have ht : List.intercalate [sep] (List.splitOn sep t) = t := List.intercalate_splitOn sep
  exact ht ▸ Text.isInfix_intercalate h

namespace Path

variable {p dir name : Path} {c : Char}

/-- The last piece of a path ends as the path does, unless that is at a slash. -/
theorem exists_splitOn_concat (hc : c ≠ '/') (p : Path) :
    ∃ pieces last, Text.splitOn '/' (p ++ [c]) = pieces ++ [last ++ [c]] := by
  by_cases hp : '/' ∈ p
  · obtain ⟨last, front, hr, hl⟩ := List.eq_append_cons_of_mem (List.mem_reverse.2 hp)
    obtain rfl : p = front.reverse ++ '/' :: last.reverse := by
      simpa using congrArg List.reverse hr
    have hlast : '/' ∉ last.reverse ++ [c] := by simpa [Ne.symm hc] using hl
    refine ⟨Text.splitOn '/' front.reverse, last.reverse, ?_⟩
    rw [List.append_assoc, List.cons_append, Text.splitOn_append_cons, Text.splitOn_line hlast]
  · exact ⟨[], p, Text.splitOn_line (by simpa [Ne.symm hc] using hp)⟩

theorem dropVoidTail_concat {part : Text} (h : isVoid part = false) (parts : List Text) :
    dropVoidTail (parts ++ [part]) = parts ++ [part] := by
  simp [dropVoidTail, h]

/-- What ends in a name has a parent. -/
theorem exists_parent (hs : c ≠ '/') (hd : c ≠ '.') (p : Path) :
    ∃ dir, Path.parent? (p ++ [c]) = some dir := by
  obtain ⟨pieces, last, hp⟩ := exists_splitOn_concat hs p
  have hv : isVoid (last ++ [c]) = false := by
    have hdot : last ++ [c] ≠ dot := fun h =>
      hd (Option.some.inj (List.getLast?_concat.symm.trans (congrArg List.getLast? h)))
    simpa [isVoid] using hdot
  rw [Path.parent?, hp]
  cases pieces with
  | nil => exact ⟨[], by simp [dropVoidTail]⟩
  | cons first rest =>
      obtain ⟨x, xs, hx⟩ := List.exists_cons_of_ne_nil (List.append_ne_nil_of_right_ne_nil rest
        (List.cons_ne_nil (last ++ [c]) []))
      have htail := dropVoidTail_concat hv rest
      rw [hx] at htail
      simp only [List.cons_append, hx, htail]
      split <;> exact ⟨_, rfl⟩

section Bytes

variable {a b : Path}

/-- Where a byte that is no part of a character stands in one of two paths, it stands in both
together. -/
theorem holdsByte_append_left (h : a.holdsByte = true) : holdsByte (a ++ b) = true := by
  fun_induction holdsByte a with
  | case1 c d rest ih =>
      rw [Bool.or_eq_true] at h
      rw [List.cons_append, List.cons_append, holdsByte, Bool.or_eq_true]
      exact h.imp_right ih
  | case2 => cases h

theorem holdsByte_cons {c : Char} (h : b.holdsByte = true) : holdsByte (c :: b) = true := by
  cases b with
  | nil => cases h
  | cons d rest => simp [holdsByte, h]

theorem holdsByte_append_right (h : b.holdsByte = true) : holdsByte (a ++ b) = true := by
  induction a with
  | nil => exact h
  | cons c a ih => exact holdsByte_cons ih

/-- Whatever stands in a text is one. -/
theorem isText_of_isInfix (h : a <:+: b) (hb : b.isText = true) : a.isText = true := by
  obtain ⟨front, back, rfl⟩ := h
  rw [isText, Bool.not_eq_true'] at hb ⊢
  by_contra ha
  rw [Bool.not_eq_false] at ha
  rw [holdsByte_append_left (holdsByte_append_right ha)] at hb
  cases hb

/-- Two paths that do not join to a byte. -/
def Apart (a b : Path) : Prop :=
  a.getLast? = some '\x00' → b.head?.bind Bytes.byteFor? = none

/-- A slash keeps what is before it apart from what is behind it. -/
theorem apart_slash (dir name : Path) :
    Apart dir ((if dir.getLast? = some '/' then [] else ['/']) ++ name) := by
  intro hnul
  rw [if_neg (by rw [hnul]; decide)]
  rfl

theorem Apart.tail {c : Char} (h : Apart (c :: a) b) : Apart a b := by
  intro ha
  refine h ?_
  cases a with
  | nil => cases ha
  | cons d a => rwa [List.getLast?_cons_cons]

theorem ofText_append (h : Apart a b) :
    Bytes.ofText (a ++ b) = Bytes.ofText a ++ Bytes.ofText b := by
  fun_induction Bytes.ofText a with
  | case1 => rfl
  | case2 c =>
      cases b with
      | nil => simp [Bytes.ofText]
      | cons d rest =>
          have hnone : (if c = '\x00' then Bytes.byteFor? d else none) = none := by
            by_cases hc : c = '\x00'
            · simpa [hc] using h (by simp [hc])
            · exact if_neg hc
          simp only [List.cons_append, List.nil_append, Bytes.ofText, hnone]
  | case3 c d rest x hx ih =>
      simp only [List.cons_append, Bytes.ofText, hx, ih h.tail.tail]
  | case4 c d rest hx ih =>
      simp only [List.cons_append, Bytes.ofText, hx]
      rw [← List.cons_append, ih h.tail, List.append_assoc]

theorem holdsNul_append_left (h : Apart a b) (ha : a.holdsNul = true) :
    holdsNul (a ++ b) = true := by
  fun_induction holdsNul a with
  | case1 => cases ha
  | case2 c =>
      obtain rfl : c = '\x00' := by simpa using ha
      cases b with
      | nil => rfl
      | cons d rest =>
          have hd : Bytes.byteFor? d = none := by simpa using h (by simp)
          simp [holdsNul, hd]
  | case3 d rest x hx ih => simpa [holdsNul, hx] using ih h.tail.tail ha
  | case4 d rest hx => simp [holdsNul, hx]
  | case5 c d rest hc ih => simpa [holdsNul, hc] using ih h.tail ha

end Bytes

theorem join_isSuffix (dir p : Path) : p <:+ join dir p := by
  rw [join]
  split
  · exact List.suffix_rfl
  · split
    · exact List.suffix_append dir p
    · exact (List.suffix_cons '/' p).trans (List.suffix_append dir _)

theorem isRooted_name (hs : '/' ∉ name) : isRooted name = false := by
  have hh : name.head? ≠ some '/' := fun hh => hs (List.mem_of_head? hh)
  simpa [isRooted] using hh

/-- A name is joined behind one slash, which may be the last of the directory's path. -/
theorem join_name (hdir : dir ≠ []) (hs : '/' ∉ name) :
    join dir name = dir ++ (if dir.getLast? = some '/' then [] else ['/']) ++ name := by
  rw [join, isRooted_name hs, if_neg (by simpa using hdir)]
  split <;> simp

theorem exists_join_name (hdir : dir ≠ []) (hs : '/' ∉ name) :
    ∃ front, (dir = front ++ ['/'] ∨ dir = front) ∧ join dir name = front ++ '/' :: name := by
  rw [join_name hdir hs]
  split
  · rename_i hl
    obtain ⟨front, rfl⟩ := List.getLast?_eq_some_iff.1 hl
    exact ⟨front, .inl rfl, by simp⟩
  · exact ⟨dir, .inr rfl, by simp⟩

/-- The name is a piece of its own behind those of the directory, of which an empty one at the end
is not counted. -/
theorem exists_splitOn_join (hdir : dir ≠ []) (hs : '/' ∉ name) :
    ∃ first rest ending, Text.splitOn '/' dir = first :: (rest ++ ending) ∧
      (∀ x ∈ ending, x = []) ∧ Text.splitOn '/' (join dir name) = first :: (rest ++ [name]) := by
  obtain ⟨front, hfront, hj⟩ := exists_join_name hdir hs
  have hne : Text.splitOn '/' front ≠ [] := Text.splitOn_ne_nil '/' front
  obtain ⟨first, rest, hp⟩ := List.exists_cons_of_ne_nil hne
  have hjoin : Text.splitOn '/' (join dir name) = first :: (rest ++ [name]) := by
    rw [hj, Text.splitOn_append_cons, hp, Text.splitOn_line hs]
    rfl
  obtain rfl | rfl := hfront
  · exact ⟨first, rest, [[]], by rw [Text.splitOn_append_cons, hp]; rfl, by simp, hjoin⟩
  · exact ⟨first, rest, [], by rw [hp, List.append_nil], by simp, hjoin⟩

end Path

namespace FileTree

variable {dir name : Path}

theorem partsOf_line (hn : name ≠ []) (hs : '/' ∉ name) : partsOf name = [name] := by
  rw [partsOf, Text.splitOn_line hs]
  simpa using hn

theorem partsOf_join (dir : Path) (hn : name ≠ []) (hs : '/' ∉ name) :
    partsOf (Path.join dir name) = partsOf dir ++ [name] := by
  by_cases hdir : dir = []
  · have hj : Path.join dir name = name := if_pos (by simp [hdir])
    rw [hj, partsOf_line hn hs, hdir]
    rfl
  · obtain ⟨first, rest, ending, hp, hempty, hj⟩ := Path.exists_splitOn_join hdir hs
    have hending : ending.filter (fun part => !part.isEmpty) = [] := by
      rw [List.filter_eq_nil_iff]
      intro x hx
      simp [hempty x hx]
    rw [partsOf, partsOf, hp, hj, ← List.cons_append, ← List.cons_append, List.filter_append,
      List.filter_append, hending, List.append_nil]
    simp [hn]

theorem getLast?_join (dir : Path) (hn : name ≠ []) (hs : '/' ∉ name) :
    (Path.join dir name).getLast? ≠ some '/' := by
  obtain ⟨front, hj⟩ := Path.join_isSuffix dir name
  rw [← hj, List.getLast?_append_of_ne_nil _ hn]
  exact fun hl => hs (List.mem_of_getLast? hl)

/-- The way of a path that ends in a name has its parts for steps. -/
theorem waySteps_join (dir : Path) (hn : name ≠ []) (hs : '/' ∉ name) :
    waySteps (Path.join dir name) = partsOf dir ++ [name] := by
  rw [waySteps, if_neg (getLast?_join dir hn hs), partsOf_join dir hn hs]

end FileTree

end Weave
