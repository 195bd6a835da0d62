import Weave.Proofs.Chunk.Segmentation

/-!
# Which code is continued

Marking goes forward with one bit about the code behind it and looks at the code
ahead. What it comes to is a relation between a chunk and its nearest code on
either side, which prose in between does not change. The same marks come from a
pass that never looks ahead and writes back to the code it left, which is
finished once the next code has been seen.
-/
namespace Weave.Chunk

/-- The first line begins with white space. -/
def OpensBlank (c : Chunk) : Prop :=
  ∃ x line rest, c.lines = (x :: line) :: rest ∧ Text.isBlank x = true

/-- The last line begins with white space. -/
def ClosesBlank (c : Chunk) : Prop :=
  ∃ rest x line, c.lines = rest ++ [x :: line] ∧ Text.isBlank x = true

/-- The nearest code in front of what comes next. -/
def LastCode (before : List Chunk) (p : Chunk) : Prop :=
  ∃ start between, before = start ++ p :: between ∧ p.isCode = true ∧
    ∀ q ∈ between, q.isProse = true

/-- The nearest code behind what came last. -/
def FirstCode (after : List Chunk) (n : Chunk) : Prop :=
  ∃ between rest, after = between ++ n :: rest ∧ n.isCode = true ∧
    ∀ q ∈ between, q.isProse = true

theorem isProse_iff (c : Chunk) : c.isProse = true ↔ c.isCode = false := by
  cases c <;> simp [isProse, isCode, kind]

theorem isIndented_iff (line : Text) :
    Text.isIndented line = true ↔ ∃ x rest, line = x :: rest ∧ Text.isBlank x = true := by
  cases line <;> simp [Text.isIndented]

theorem opensIndented_iff (c : Chunk) : c.opensIndented = true ↔ OpensBlank c := by
  unfold opensIndented firstLine? OpensBlank
  cases c.lines with
  | nil => simp
  | cons line rest => simp [isIndented_iff, and_assoc]

theorem closesIndented_iff (c : Chunk) : c.closesIndented = true ↔ ClosesBlank c := by
  unfold closesIndented lastLine? ClosesBlank
  induction c.lines using List.reverseRecOn with
  | nil => simp
  | append_singleton rest line _ =>
      rw [List.getLast?_concat, Option.any_some, isIndented_iff]
      constructor
      · rintro ⟨x, line, rfl, hx⟩
        exact ⟨rest, x, line, rfl, hx⟩
      · rintro ⟨rest', x, line', h, hx⟩
        exact ⟨x, line', (List.append_inj' h rfl).2 |> List.singleton_inj.1, hx⟩

theorem find?_isCode_iff (after : List Chunk) (n : Chunk) :
    after.find? isCode = some n ↔ FirstCode after n := by
  rw [List.find?_eq_some_iff_append]
  constructor
  · rintro ⟨hn, between, rest, h, hb⟩
    exact ⟨between, rest, h, hn, fun q hq => (isProse_iff q).2 (by simpa using hb q hq)⟩
  · rintro ⟨between, rest, h, hn, hb⟩
    exact ⟨hn, between, rest, h, fun q hq => by simp [(isProse_iff q).1 (hb q hq)]⟩

theorem firstCode_reverse (before : List Chunk) (p : Chunk) :
    FirstCode before.reverse p ↔ LastCode before p := by
  constructor
  · rintro ⟨between, start, h, hp, hb⟩
    refine ⟨start.reverse, between.reverse, ?_, hp, by simpa using hb⟩
    rw [← List.reverse_reverse before, h]
    simp
  · rintro ⟨start, between, rfl, hp, hb⟩
    exact ⟨between.reverse, start.reverse, by simp, hp, by simpa using hb⟩

/-- Whether the last code closes indented. Without code it is what was known
before. -/
def closesAfter (afterOpen : Bool) (before : List Chunk) : Bool :=
  ((before.reverse.find? isCode).map closesIndented).getD afterOpen

theorem closesAfter_prose (afterOpen : Bool) (ls : List Text) (before : List Chunk) :
    closesAfter afterOpen (prose ls :: before) = closesAfter afterOpen before := by
  have hp : isCode (prose ls) = false := rfl
  simp [closesAfter, List.find?_append, hp]

theorem closesAfter_code (afterOpen : Bool) {c : Chunk} (hc : c.isCode = true)
    (before : List Chunk) :
    closesAfter afterOpen (c :: before) = closesAfter c.closesIndented before := by
  unfold closesAfter
  rw [List.reverse_cons, List.find?_append]
  cases before.reverse.find? isCode <;> simp [hc]

theorem closesAfter_iff (before : List Chunk) :
    closesAfter false before = true ↔ ∃ p, LastCode before p ∧ ClosesBlank p := by
  simp only [← firstCode_reverse, ← find?_isCode_iff, ← closesIndented_iff]
  unfold closesAfter
  cases before.reverse.find? isCode <;> simp

theorem nextOpens_iff (after : List Chunk) :
    nextOpens after = true ↔ ∃ n, FirstCode after n ∧ OpensBlank n := by
  simp only [← find?_isCode_iff, ← opensIndented_iff]
  unfold nextOpens
  cases after.find? isCode <;> simp

@[simp]
theorem nextOpens_markContinued (afterOpen : Bool) (cs : List Chunk) :
    nextOpens (markContinued afterOpen cs) = nextOpens cs := by
  induction cs generalizing afterOpen with
  | nil => rfl
  | cons c cs ih =>
      cases c with
      | prose ls => exact ih afterOpen
      | code ls continued => rfl

/-- A flag says what the chunk and the code next to it say. -/
theorem isContinued_of_markContinued {afterOpen : Bool} {cs before after : List Chunk}
    {c : Chunk} (hcs : ∀ d ∈ cs, d.isContinued = false)
    (h : markContinued afterOpen cs = before ++ c :: after) (hc : c.isCode = true) :
    c.isContinued = (c.opensIndented || c.closesIndented || closesAfter afterOpen before ||
      nextOpens after) := by
  induction cs generalizing afterOpen before with
  | nil => simp [markContinued] at h
  | cons d cs ih =>
      have hrest : ∀ e ∈ cs, e.isContinued = false := fun e he => hcs e (by simp [he])
      cases d with
      | prose ls =>
          cases before with
          | nil =>
              obtain ⟨rfl, -⟩ := List.cons.inj h
              simp [isCode, kind] at hc
          | cons b before =>
              obtain ⟨rfl, ht⟩ := List.cons.inj h
              rw [ih hrest ht, closesAfter_prose]
      | code ls continued =>
          have hd : continued = false := hcs (code ls continued) (by simp)
          cases before with
          | nil =>
              obtain ⟨rfl, rfl⟩ := List.cons.inj h
              rw [nextOpens_markContinued, hd]
              rfl
          | cons b before =>
              obtain ⟨rfl, ht⟩ := List.cons.inj h
              rw [ih hrest ht, closesAfter_code afterOpen rfl]
              rfl

/-- Marks the first code of a list. -/
def markFirst (value : Bool) : List Chunk → List Chunk
  | [] => []
  | prose ls :: rest => prose ls :: markFirst value rest
  | code ls continued :: rest => code ls (continued || value) :: rest

/-- Marking without a look ahead. The chunks passed stand in reverse, and code
that opens indented marks the code passed last. -/
def markBack (passed : List Chunk) : List Chunk → List Chunk
  | [] => passed.reverse
  | prose ls :: rest => markBack (prose ls :: passed) rest
  | code ls continued :: rest =>
    let c := code ls continued
    let crosses := c.opensIndented || c.closesIndented ||
      (passed.find? isCode).any closesIndented
    markBack (code ls (continued || crosses) :: markFirst c.opensIndented passed) rest

@[simp]
theorem markFirst_false (cs : List Chunk) : markFirst false cs = cs := by
  induction cs with
  | nil => rfl
  | cons c cs ih => cases c <;> simp [markFirst, ih]

/-- Only the code passed last waits for a mark, and it gets the one that the
code to come says. -/
theorem markBack_eq (passed rest : List Chunk) :
    markBack passed rest = (markFirst (nextOpens rest) passed).reverse ++
      markContinued ((passed.find? isCode).any closesIndented) rest := by
  induction rest generalizing passed with
  | nil => simp [markBack, markContinued, nextOpens]
  | cons c rest ih =>
      cases c with
      | prose ls =>
          have hp : isCode (prose ls) = false := rfl
          have hn : nextOpens (prose ls :: rest) = nextOpens rest := rfl
          rw [markBack, ih, hn, markContinued, List.find?_cons_of_neg (by simp [hp])]
          simp [markFirst]
      | code ls continued =>
          have hn : nextOpens (code ls continued :: rest) =
              opensIndented (code ls continued) := rfl
          rw [markBack, ih, hn, markContinued, List.find?_cons_of_pos (by rfl)]
          simp only [markFirst, List.reverse_cons, List.append_assoc, List.singleton_append,
            Bool.or_assoc]
          rfl

/-- Looking ahead and writing back set the same marks. -/
theorem markBack_eq_markContinued (cs : List Chunk) : markBack [] cs = markContinued false cs := by
  rw [markBack_eq]
  rfl

@[simp]
theorem isContinued_empty (k : Kind) : (empty k).isContinued = false := by
  cases k <;> rfl

@[simp]
theorem isContinued_mapLines (f : List Text → List Text) (c : Chunk) :
    (c.mapLines f).isContinued = c.isContinued := by
  cases c <;> rfl

/-- Cutting sets no flag. -/
theorem isContinued_segment {c : Chunk} (hc : c.isContinued = false) (ls : List Text) :
    ∀ d ∈ segment c ls, d.isContinued = false := by
  induction ls generalizing c with
  | nil => simpa [segment] using hc
  | cons line ls ih =>
      rw [segment]
      split
      · exact List.forall_mem_cons.2 ⟨hc, ih (isContinued_empty _)⟩
      · split
        · exact ih (by simpa [push] using hc)
        · exact List.forall_mem_cons.2 ⟨hc, ih (by simp [push])⟩

theorem isContinued_tidy {cs : List Chunk} (h : ∀ c ∈ cs, c.isContinued = false) :
    ∀ d ∈ tidy cs, d.isContinued = false := by
  intro d hd
  obtain ⟨c, hc, rfl⟩ := List.mem_map.1 hd
  rw [trim, isContinued_mapLines]
  exact h c (List.mem_of_mem_filter hc)

/-- The marked chunks of a text had no flags. -/
theorem exists_markContinued_of_ofText (t : Text) :
    ∃ cs, ofText t = markContinued false cs ∧ ∀ c ∈ cs, c.isContinued = false := by
  unfold ofText
  split
  · exact ⟨[], rfl, by simp⟩
  · exact ⟨_, rfl, isContinued_tidy (isContinued_segment (isContinued_empty _) _)⟩

/-- A chunk told by its kind and its lines, with no flag. -/
def ofOutline (p : Kind × List Text) : Chunk :=
  (empty p.1).mapLines fun _ => p.2

theorem ofOutline_outline {c : Chunk} (h : c.isContinued = false) : ofOutline (outline c) = c := by
  cases c with
  | prose ls => rfl
  | code ls continued => exact congrArg (code ls) h.symm

/-- The chunks of a text are made of its lines, and their flags of the chunks. -/
theorem ofText_eq_markContinued (t : Text) :
    ofText t = markContinued false ((Segmentation.segmentation t.lines).map ofOutline) := by
  obtain ⟨cs, hm, hcs⟩ := exists_markContinued_of_ofText t
  have ho : cs.map outline = Segmentation.segmentation t.lines := by
    rw [← outline_ofText, hm, outline_markContinued]
  have hb : (cs.map outline).map ofOutline = cs := by
    rw [List.map_map]
    exact (List.map_congr_left fun c hc => ofOutline_outline (hcs c hc)).trans (List.map_id' cs)
  rw [hm, ← ho, hb]

theorem isContinued_iff {t : Text} {before after : List Chunk} {c : Chunk}
    (h : ofText t = before ++ c :: after) (hc : c.isCode = true) :
    c.isContinued = true ↔ OpensBlank c ∨ ClosesBlank c ∨
      (∃ p, LastCode before p ∧ ClosesBlank p) ∨ ∃ n, FirstCode after n ∧ OpensBlank n := by
  obtain ⟨cs, hm, hcs⟩ := exists_markContinued_of_ofText t
  rw [isContinued_of_markContinued hcs (hm ▸ h) hc]
  simp only [Bool.or_eq_true, opensIndented_iff, closesIndented_iff, closesAfter_iff,
    nextOpens_iff, or_assoc]

namespace Segmentation

theorem exists_cons_of_not_isEmpty {line : Text} (h : ¬line.isEmpty = true) :
    ∃ x rest, line = x :: rest :=
  List.exists_cons_of_ne_nil (by simpa using h)

/-- A piece without its empty edges begins and ends with a text, if anything of
it is left. -/
theorem edges_of_ne_nil {xs : List Text}
    (h : (xs.dropWhile List.isEmpty).rdropWhile List.isEmpty ≠ []) :
    (∃ x line rest, (xs.dropWhile List.isEmpty).rdropWhile List.isEmpty = (x :: line) :: rest) ∧
      ∃ rest x line,
        (xs.dropWhile List.isEmpty).rdropWhile List.isEmpty = rest ++ [x :: line] := by
  have hp := List.rdropWhile_prefix List.isEmpty (xs.dropWhile List.isEmpty)
  have hl := List.rdropWhile_last_not List.isEmpty (xs.dropWhile List.isEmpty) h
  have hd := List.head?_dropWhile_not List.isEmpty xs
  generalize (xs.dropWhile List.isEmpty).rdropWhile List.isEmpty = ys at h hp hl ⊢
  constructor
  · obtain ⟨first, rest, rfl⟩ := List.exists_cons_of_ne_nil h
    obtain ⟨back, hb⟩ := hp
    rw [← hb, List.cons_append, List.head?_cons] at hd
    obtain ⟨x, line, rfl⟩ := exists_cons_of_not_isEmpty (by simpa using hd)
    exact ⟨x, line, rest, rfl⟩
  · obtain ⟨x, line, hx⟩ := exists_cons_of_not_isEmpty hl
    refine ⟨ys.dropLast, x, line, ?_⟩
    rw [← hx, List.dropLast_append_getLast]

theorem edges_of_mem_tidied {ps : List (Kind × List Text)} {p : Kind × List Text}
    (h : p ∈ tidied ps) :
    (∃ x line rest, p.2 = (x :: line) :: rest) ∧ ∃ rest x line, p.2 = rest ++ [x :: line] := by
  obtain ⟨as, bs, hs⟩ := List.append_of_mem h
  obtain ⟨-, -, -, -, -, -, -, hn, -⟩ := exists_piece_of_tidied hs
  obtain ⟨q, -, rfl⟩ := List.mem_map.1 h
  exact edges_of_ne_nil hn

end Segmentation

open Segmentation

/-- A chunk has lines, and neither the first nor the last of them is empty. -/
theorem edges_of_mem_ofText {t : Text} {c : Chunk} (h : c ∈ ofText t) :
    (∃ x line rest, c.lines = (x :: line) :: rest) ∧
      ∃ rest x line, c.lines = rest ++ [x :: line] := by
  have ho : outline c ∈ segmentation t.lines := by
    rw [← outline_ofText]
    exact List.mem_map_of_mem h
  exact edges_of_mem_tidied ho

/-- Both sides of a broken statement are continued, whatever prose is between
them. -/
theorem isContinued_of_broken {t : Text} {before between after : List Chunk} {c d : Chunk}
    (h : ofText t = before ++ c :: (between ++ d :: after)) (hc : c.isCode = true)
    (hd : d.isCode = true) (hb : ∀ q ∈ between, q.isProse = true)
    (hi : ClosesBlank c ∨ OpensBlank d) : c.isContinued = true ∧ d.isContinued = true := by
  have hs : ofText t = (before ++ c :: between) ++ d :: after := by simpa using h
  have hn : FirstCode (between ++ d :: after) d := ⟨between, after, rfl, hd, hb⟩
  have hp : LastCode (before ++ c :: between) c := ⟨before, between, rfl, hc, hb⟩
  rcases hi with hi | hi
  · exact ⟨(isContinued_iff h hc).2 (.inr (.inl hi)),
      (isContinued_iff hs hd).2 (.inr (.inr (.inl ⟨c, hp, hi⟩)))⟩
  · exact ⟨(isContinued_iff h hc).2 (.inr (.inr (.inr ⟨d, hn, hi⟩))),
      (isContinued_iff hs hd).2 (.inl hi)⟩

/-- Code is continued exactly if it or the code next to it is indented where the
two meet or it is indented at an edge of its own. So a statement broken by
chunks is marked on both sides of the break. Prose is never marked, and every
chunk has edges to look at. -/
theorem ofText_continuation (t : Text) :
    (∀ c ∈ ofText t, (∃ x line rest, c.lines = (x :: line) :: rest) ∧
      ∃ rest x line, c.lines = rest ++ [x :: line]) ∧
    (∀ before c after, ofText t = before ++ c :: after → c.isCode = true →
      (c.isContinued = true ↔ OpensBlank c ∨ ClosesBlank c ∨
        (∃ p, LastCode before p ∧ ClosesBlank p) ∨ ∃ n, FirstCode after n ∧ OpensBlank n)) ∧
    (∀ before c between d after, ofText t = before ++ c :: (between ++ d :: after) →
      c.isCode = true → d.isCode = true → (∀ q ∈ between, q.isProse = true) →
      ClosesBlank c ∨ OpensBlank d → c.isContinued = true ∧ d.isContinued = true) ∧
    ∀ c ∈ ofText t, c.isProse = true → c.isContinued = false := by
  refine ⟨fun c hc => edges_of_mem_ofText hc, fun before c after h hc => isContinued_iff h hc,
    fun before c between d after h hc hd hb hi => isContinued_of_broken h hc hd hb hi, ?_⟩
  intro c _ hp
  cases c with
  | prose ls => rfl
  | code ls continued => simp [isProse, kind] at hp

/-- A call with prose in the middle of its arguments. -/
theorem ofText_continuation_call :
    ofText "f(\n#' x\n 1)\n".toList =
      [] ++ code ["f(".toList] true :: ([prose [['x']]] ++ code [" 1)".toList] true :: []) ∧
    (isContinued (code ["f(".toList] true) = true ↔
      OpensBlank (code ["f(".toList] true) ∨ ClosesBlank (code ["f(".toList] true) ∨
        (∃ p, LastCode [] p ∧ ClosesBlank p) ∨
        ∃ n, FirstCode ([prose [['x']]] ++ [code [" 1)".toList] true]) n ∧ OpensBlank n) ∧
    isContinued (code ["f(".toList] true) = true ∧
    isContinued (code [" 1)".toList] true) = true ∧
    isContinued (prose [['x']]) = false := by
  have h : ofText "f(\n#' x\n 1)\n".toList =
      [] ++ code ["f(".toList] true :: ([prose [['x']]] ++ code [" 1)".toList] true :: []) := by
    decide
  obtain ⟨-, hiff, hboth, hprose⟩ := ofText_continuation "f(\n#' x\n 1)\n".toList
  have hb := hboth [] _ [prose [['x']]] _ [] h rfl rfl (by simp [isProse, kind])
    (.inr ⟨' ', "1)".toList, [], rfl, by decide⟩)
  exact ⟨h, hiff [] _ _ h rfl, hb.1, hb.2, hprose _ (by rw [h]; simp) rfl⟩

end Weave.Chunk
