import Weave.Text.Bytes

/-!
# How lists of lines differ

One list of lines becomes another one by edits: a line is kept, dropped or added. Here as
many lines are kept as possible, and where lines could be dropped or added at more than one
place, it is done at the last one.
-/
namespace Weave.Difference

inductive Edit where
  /-- A line that is the same in both lists, as it stands in each. -/
  | keep (old new : Bytes)
  | drop (line : Bytes)
  | add (line : Bytes)
deriving Repr, DecidableEq

/-- The lines before all edits. -/
def old (es : List Edit) : List Bytes :=
  es.filterMap fun
    | .keep a _ => some a
    | .drop a => some a
    | .add _ => none

/-- The lines after all edits. -/
def new (es : List Edit) : List Bytes :=
  es.filterMap fun
    | .keep _ b => some b
    | .drop _ => none
    | .add b => some b

/-- For a line and the rest behind it, how many lines can be kept from each place of the
other list on; given the same for the rest alone. -/
def countsFor (same : Bytes → Bytes → Bool) (line : Bytes) : List Bytes → List Nat → List Nat
  | b :: bs, n :: ns =>
    let more := countsFor same line bs ns
    let kept := if same line b then ns.headD 0 + 1 else max n (more.headD 0)
    kept :: more
  | _, _ => [0]

/-- For each place of one list, how many lines can be kept from there on and from each
place of the other list on. -/
def counts (same : Bytes → Bytes → Bool) (b : List Bytes) : List Bytes → List (List Nat)
  | [] => [List.replicate (b.length + 1) 0]
  | line :: rest =>
    let below := counts same b rest
    countsFor same line b (below.headD []) :: below

/-- The edits that keep as many lines as the counts say. -/
def walk (same : Bytes → Bytes → Bool) :
    Nat → List Bytes → List Bytes → List (List Nat) → List Edit
  | fuel + 1, a :: as, b :: bs, row :: below :: rows =>
    if same a b then
      .keep a b :: walk same fuel as bs ((below.drop 1) :: rows.map (List.drop 1))
    else if (row.drop 1).headD 0 ≤ below.headD 0 then
      .drop a :: walk same fuel as (b :: bs) (below :: rows)
    else .add b :: walk same fuel (a :: as) bs ((row :: below :: rows).map (List.drop 1))
  | _, as, [], _ => as.map .drop
  | _, [], bs, _ => bs.map .add
  | _, as, bs, _ => as.map .drop ++ bs.map .add

/-- Moves lines that are only added, or only dropped, behind equal ones. -/
def slide (same : Bytes → Bytes → Bool) : Nat → List Edit → List Edit
  | 0, es => es
  | _ + 1, [] => []
  | fuel + 1, e :: es =>
    let isAdd : Edit → Bool
      | .add _ => true
      | _ => false
    let isDrop : Edit → Bool
      | .drop _ => true
      | _ => false
    match e with
    | .keep _ _ => e :: slide same fuel es
    | .add line =>
      let run := es.takeWhile isAdd
      match es.drop run.length with
      | .keep a b :: rest =>
        if same line b then .keep a line :: slide same fuel (run ++ .add b :: rest)
        else e :: (run ++ .keep a b :: slide same fuel rest)
      | rest => e :: (run ++ rest.takeWhile isDrop ++ slide same fuel (rest.dropWhile isDrop))
    | .drop line =>
      let run := es.takeWhile isDrop
      match es.drop run.length with
      | .keep a b :: rest =>
        if same line a then .keep line b :: slide same fuel (run ++ .drop a :: rest)
        else e :: (run ++ .keep a b :: slide same fuel rest)
      | rest => e :: (run ++ rest.takeWhile isAdd ++ slide same fuel (rest.dropWhile isAdd))

/-- How many lines two lists have in common at their front. -/
def common (same : Bytes → Bytes → Bool) (a b : List Bytes) : Nat :=
  ((a.zip b).takeWhile fun p => same p.1 p.2).length

/-- The edits from one list of lines to another one. -/
def edits (same : Bytes → Bytes → Bool) (a b : List Bytes) : List Edit :=
  let front := common same a b
  let (as, bs) := (a.drop front, b.drop front)
  let back := common same as.reverse bs.reverse
  let (as, bs) := (as.take (as.length - back), bs.take (bs.length - back))
  let kept := (a.take front).zip (b.take front)
  let behind := (a.drop (front + as.length)).zip (b.drop (front + bs.length))
  let inner := walk same (as.length + bs.length + 1) as bs (counts same bs as)
  let all := kept.map (fun p => Edit.keep p.1 p.2) ++ inner
    ++ behind.map fun p => Edit.keep p.1 p.2
  slide same ((all.length + 1) * (all.length + 1)) all

/-- Lines that are dropped and added at one place: where it is in each list, counted from
zero, and the lines. -/
structure Hunk where
  oldPlace : Nat
  dropped : List Bytes
  newPlace : Nat
  added : List Bytes
deriving Repr, DecidableEq

/-- The places where lists differ. The numbers are those of the places reached. -/
def hunks : List Edit → Nat → Nat → Option Hunk → List Hunk
  | [], _, _, current => current.toList
  | .keep _ _ :: es, i, j, current => current.toList ++ hunks es (i + 1) (j + 1) none
  | .drop a :: es, i, j, current =>
    let h := current.getD ⟨i, [], j, []⟩
    hunks es (i + 1) j (some { h with dropped := h.dropped ++ [a] })
  | .add b :: es, i, j, current =>
    let h := current.getD ⟨i, [], j, []⟩
    hunks es i (j + 1) (some { h with added := h.added ++ [b] })

example :
    hunks (edits (· = ·) [['a'], ['b'], ['c']] [['a'], ['x'], ['c'], ['d']]) 0 0 none =
      [⟨1, [['b']], 1, [['x']]⟩, ⟨3, [], 3, [['d']]⟩] := by decide +kernel

end Weave.Difference
