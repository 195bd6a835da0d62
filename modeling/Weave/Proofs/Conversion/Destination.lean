import Weave.Conversion
import Weave.Proofs.FileTree.Way
import Weave.Proofs.Path.Name

/-!
# Where an artifact goes

A document that is not named gets its name from the path of its source. Whatever that path
looks like, the name is one part of a path and stays one behind the extension, so that the
artifact stands in the output directory itself: the path has that directory for its parent,
and what is written there has no other, unless a link of the artifact's name leads on.
-/
namespace Weave

namespace Path

/-- Two spellings of one path: both begin at the root or neither does, and they have the same
steps. -/
structure SamePath (p q : Path) : Prop where
  rooted : p.isRooted = q.isRooted
  steps : p.steps = q.steps

section

variable {p dir name first : Path} {rest : List Text}

theorem steps_of_splitOn (h : Text.splitOn '/' p = first :: rest) :
    p.steps = (if first = [] then [] else [first]) ++ rest.filter fun x => !isVoid x := by
  rw [steps, h]
  dsimp only
  split <;> rfl

theorem isRooted_of_splitOn (h : Text.splitOn '/' p = first :: rest) :
    p.isRooted = decide (first = [] ∧ rest ≠ []) := by
  cases p with
  | nil =>
      obtain ⟨rfl, rfl⟩ := List.cons.inj h
      rfl
  | cons c p =>
      rw [Text.splitOn] at h
      have hne : Text.splitOn '/' p ≠ [] := Text.splitOn_ne_nil '/' p
      by_cases hc : c = '/'
      · rw [if_pos hc] at h
        obtain ⟨rfl, rfl⟩ := List.cons.inj h
        simp [isRooted, hc, hne]
      · rw [if_neg hc] at h
        obtain ⟨piece, more, hp⟩ := List.exists_cons_of_ne_nil hne
        rw [hp] at h
        obtain ⟨rfl, rfl⟩ := List.cons.inj h
        simp [isRooted, hc]

theorem samePath_of_splitOn {q : Path} {ps qs : List Text}
    (hp : Text.splitOn '/' p = first :: ps) (hq : Text.splitOn '/' q = first :: qs)
    (hsteps : ps.filter (fun x => !isVoid x) = qs.filter fun x => !isVoid x)
    (hrooted : first = [] → (ps ≠ [] ↔ qs ≠ [])) : SamePath p q := by
  refine ⟨?_, by rw [steps_of_splitOn hp, steps_of_splitOn hq, hsteps]⟩
  rw [isRooted_of_splitOn hp, isRooted_of_splitOn hq, decide_eq_decide]
  exact and_congr_right hrooted

theorem filter_dropVoidTail (parts : List Text) :
    (dropVoidTail parts).filter (fun x => !isVoid x) = parts.filter fun x => !isVoid x := by
  have h : ∀ parts : List Text,
      (parts.dropWhile isVoid).filter (fun x => !isVoid x) = parts.filter fun x => !isVoid x := by
    intro parts
    induction parts with
    | nil => rfl
    | cons x parts ih =>
        by_cases hx : isVoid x
        · rw [List.dropWhile_cons_of_pos hx, ih, List.filter_cons_of_neg (by simp [hx])]
        · rw [List.dropWhile_cons_of_neg hx]
  rw [dropVoidTail, List.filter_reverse, h, ← List.filter_reverse, List.reverse_reverse]

theorem mem_of_mem_dropVoidTail {parts : List Text} {x : Text} (h : x ∈ dropVoidTail parts) :
    x ∈ parts :=
  List.mem_reverse.1 ((List.dropWhile_sublist isVoid).mem (List.mem_reverse.1 h))

theorem parent?_of_splitOn {path : Path} (h : Text.splitOn '/' path = first :: (rest ++ [name]))
    (hv : isVoid name = false) :
    path.parent? = some (if dropVoidTail rest = [] then (if first = [] then ['/'] else first)
      else Text.joinWith ['/'] (first :: dropVoidTail rest)) := by
  obtain ⟨x, xs, hx⟩ := List.exists_cons_of_ne_nil (List.append_ne_nil_of_right_ne_nil rest
    (List.cons_ne_nil name []))
  have htail := dropVoidTail_concat hv rest
  have hfront : (rest ++ [name]).dropLast = rest := List.dropLast_concat
  rw [hx] at htail hfront
  rw [Path.parent?, h, hx]
  simp only [htail, hfront]
  cases dropVoidTail rest <;> rfl

/-- The parent of a name that is joined to a directory is that directory. -/
theorem exists_parent_join (hdir : dir ≠ []) (hs : '/' ∉ name) (hv : isVoid name = false) :
    ∃ p, (join dir name).parent? = some p ∧ SamePath p dir := by
  obtain ⟨first, rest, ending, hp, hempty, hj⟩ := exists_splitOn_join hdir hs
  have hvoid : ending.filter (fun x => !isVoid x) = [] := by
    rw [List.filter_eq_nil_iff]
    intro x hx
    simp [hempty x hx, isVoid]
  have hsteps : (dropVoidTail rest).filter (fun x => !isVoid x) =
      (rest ++ ending).filter fun x => !isVoid x := by
    rw [filter_dropVoidTail, List.filter_append, hvoid, List.append_nil]
  have hslash : ∀ part ∈ first :: rest, '/' ∉ part := fun part hpart =>
    Text.not_mem_of_mem_splitOn (t := dir)
      (hp ▸ List.mem_append_left ending hpart : part ∈ Text.splitOn '/' dir)
  refine ⟨_, parent?_of_splitOn hj hv, ?_⟩
  cases hparts : dropVoidTail rest with
  | nil =>
      rw [hparts] at hsteps
      by_cases hfirst : first = []
      · subst hfirst
        have hroot : Text.splitOn '/' ['/'] = [] :: [[]] := rfl
        refine samePath_of_splitOn hroot hp hsteps fun _ => ?_
        simp only [ne_eq, List.cons_ne_nil, not_false_eq_true, true_iff]
        intro hnil
        rw [hnil, Text.splitOn_eq_splitOn] at hp
        have hjoin : List.intercalate ['/'] (List.splitOn '/' dir) = dir :=
          List.intercalate_splitOn '/'
        rw [hp] at hjoin
        exact hdir hjoin.symm
      · have hline : Text.splitOn '/' first = first :: [] :=
          Text.splitOn_line (hslash first (by simp))
        simp only [if_neg hfirst]
        exact samePath_of_splitOn hline hp hsteps fun h => absurd h hfirst
  | cons part parts =>
      rw [hparts] at hsteps
      have hmem : ∀ x ∈ part :: parts, x ∈ rest := fun x hx =>
        mem_of_mem_dropVoidTail (hparts ▸ hx)
      have hline : Text.splitOn '/' (Text.joinWith ['/'] (first :: part :: parts)) =
          first :: (part :: parts) := by
        rw [Text.splitOn_eq_splitOn]
        refine List.splitOn_intercalate '/' (fun x hx => ?_) (List.cons_ne_nil _ _)
        rcases List.mem_cons.1 hx with rfl | hx
        · exact hslash x (by simp)
        · exact hslash x (List.mem_cons_of_mem _ (hmem x hx))
      refine samePath_of_splitOn hline hp hsteps fun _ => ?_
      have hrest : rest ≠ [] := List.ne_nil_of_mem (hmem part (by simp))
      simp [hrest]

theorem isRooted_join (hdir : dir ≠ []) (hs : '/' ∉ name) :
    (join dir name).isRooted = dir.isRooted := by
  obtain ⟨c, t, rfl⟩ := List.exists_cons_of_ne_nil hdir
  rw [join_name hdir hs]
  rfl

end

end Path

namespace FileTree

variable {t : FileTree} {dir name : Path} {place : Place}

/-- What begins a path that can be one is such a path, unless it is empty. -/
theorem checkPath_of_append (hdir : dir ≠ []) {more : Text} (hapart : Path.Apart dir more)
    (h : checkPath (dir ++ more) = .ok ()) : checkPath dir = .ok () := by
  have hcount : byteCount dir ≤ byteCount (dir ++ more) := by
    rw [byteCount, byteCount, Path.ofText_append hapart, List.length_append]
    exact Nat.le_add_right _ _
  unfold checkPath at h ⊢
  split at h
  · cases h
  · rename_i hnul
    split at h
    · cases h
    · split at h
      · cases h
      · rename_i hlong
        have hnul' : ¬dir.holdsNul = true := fun hc => hnul (Path.holdsNul_append_left hapart hc)
        rw [if_neg hnul', if_neg hdir, if_neg (by omega)]

/-- What is written under a name in a directory is there, unless a link of that name leads on. -/
theorem exists_find_of_placeToWrite_join (hdir : dir ≠ []) (hn : name ≠ []) (hs : '/' ∉ name)
    (hdot : name ≠ Path.dot) (hdots : name ≠ Path.dotDot)
    (h : t.placeToWrite (Path.join dir name) = .ok place) :
    ∃ d e, t.find dir = .ok (d, e) ∧ e.isDirectory ∧
      (place = d ++ [name] ∨ ∃ target, (t.at? (d ++ [name])).bind Entry.target? = some target) := by
  rw [placeToWrite] at h
  obtain ⟨_, hcheck, h⟩ := bind_eq_ok.1 h
  rw [stepsToWrite, if_neg (getLast?_join dir hn hs), partsOf_join dir hn hs, start, base,
    Path.isRooted_join hdir hs, ← base, ← start] at h
  obtain ⟨d, e, hw, he, hd, hplace⟩ :=
    walkToWrite_concat (by simp [staying, slashStep, hn, hdot]) hdots h
  rw [Path.join_name hdir hs, List.append_assoc] at hcheck
  have hway : t.walk true maxLinks (t.start dir) (waySteps dir) = .ok d := by
    rw [waySteps]
    split
    · exact walk_concat_slash hw he hd
    · exact hw
  have hdircheck : checkPath dir = .ok () :=
    checkPath_of_append hdir (Path.apart_slash dir name) hcheck
  exact ⟨d, e, find_eq_ok.2 ⟨placeOf_eq_ok.2 ⟨hdircheck, hway⟩, he⟩, hd, hplace⟩

end FileTree

namespace Conversion

open Weave.Path (Idle LastPart IsStem SamePath)

/-- A path names something directly in a directory. -/
structure Directly (dir : Path) (name : Text) (path : Path) : Prop where
  /-- One slash stands between the two, which may be the last of the directory's path. -/
  written : path = dir ++ (if dir.getLast? = some '/' then [] else ['/']) ++ name
  /-- The name is one part. -/
  single : '/' ∉ name
  fileName : path.fileName? = some name
  parent : ∃ p, path.parent? = some p ∧ SamePath p dir
  /-- In every file tree, what is written by the path is in the directory, under that name or where
  a link of that name leads. -/
  place {t : FileTree} {place : Place} : t.placeToWrite path = .ok place →
    ∃ d e, t.find dir = .ok (d, e) ∧ e.isDirectory ∧
      (place = d ++ [name] ∨ ∃ target, (t.at? (d ++ [name])).bind Entry.target? = some target)

theorem directly_join {dir : Path} {name : Text} (hdir : dir ≠ []) (hn : name ≠ [])
    (hs : '/' ∉ name) (hdot : name ≠ Path.dot) (hdots : name ≠ Path.dotDot) :
    Directly dir name (Path.join dir name) := by
  have hv : Path.isVoid name = false := by simp [Path.isVoid, hn, hdot]
  refine ⟨Path.join_name hdir hs, hs, ?_, Path.exists_parent_join hdir hs hv,
    FileTree.exists_find_of_placeToWrite_join hdir hn hs hdot hdots⟩
  obtain ⟨first, rest, -, -, -, hj⟩ := Path.exists_splitOn_join hdir hs
  refine Path.fileName?_eq_some_iff.2 ⟨⟨⟨hn, hdot⟩, first :: rest, [], ?_, by simp⟩, hdots⟩
  rw [← Text.splitOn_eq_splitOn, hj]
  rfl

/-- With an extension behind it, whatever has no slash is the name of a file. -/
theorem fileName_extension {name : Text} (hs : '/' ∉ name) (target : Target) :
    name ++ '.' :: target.extension ≠ [] ∧ '/' ∉ name ++ '.' :: target.extension ∧
      name ++ '.' :: target.extension ≠ Path.dot ∧
      name ++ '.' :: target.extension ≠ Path.dotDot := by
  have hext : 2 ≤ target.extension.length ∧ '/' ∉ target.extension := by
    cases target <;> decide
  have hlen : 3 ≤ (name ++ '.' :: target.extension).length := by
    simp only [List.length_append, List.length_cons]
    omega
  refine ⟨by simp, by simp [hs, hext.2], fun h => ?_, fun h => ?_⟩
  · rw [h] at hlen
    exact absurd hlen (by decide)
  · rw [h] at hlen
    exact absurd hlen (by decide)

/-- A document that is not named is named by the last part of its source's path, if that is a
text, cut at its last dot; there is no name exactly where no part says anything or the last one
is the way up. Under that name every artifact stands in the output directory itself. -/
theorem nameFor_derived {config : Config} (hname : config.name = none) {outdir : Path}
    (hdir : outdir ≠ []) {input : Path} (htext : input.isText = true) :
    ((∃ e, config.nameFor input = .error e) ↔ Idle input ∨ LastPart input Path.dotDot) ∧
    ∀ name, config.nameFor input = .ok name →
      (∃ part, LastPart input part ∧ part ≠ Path.dotDot ∧ IsStem part name) ∧
      name ≠ [] ∧ '/' ∉ name ∧
      ∀ target, Directly outdir (name ++ '.' :: target.extension)
        (outputPath target name outdir) := by
  have hstem : config.nameFor input =
      input.fileName?.elim (.error (.nameless input.shown)) fun part => .ok (Path.stemOf part) := by
    rw [Config.nameFor, hname, Path.stem?]
    cases hfile : input.fileName? with
    | none => rfl
    | some part =>
        have hinfix : Path.stemOf part <:+: input :=
          (Path.isStem_stemOf part).isPrefix.isInfix.trans
            (Path.fileName?_eq_some_iff.1 hfile).1.isInfix
        simp [Option.filter, Path.isText_of_isInfix hinfix htext]
  cases hfile : input.fileName? with
  | none =>
      rw [hstem, hfile]
      exact ⟨iff_of_true ⟨_, rfl⟩ (Path.fileName?_eq_none_iff.1 hfile), nofun⟩
  | some part =>
      obtain ⟨hlast, hdots⟩ := Path.fileName?_eq_some_iff.1 hfile
      have hidle : ¬(Idle input ∨ LastPart input Path.dotDot) := by
        rw [← Path.fileName?_eq_none_iff, hfile]
        simp
      rw [hstem, hfile]
      refine ⟨iff_of_false nofun hidle, ?_⟩
      rintro name hok
      obtain rfl := Except.ok.inj hok
      have his := Path.isStem_stemOf part
      have hs : '/' ∉ Path.stemOf part := fun hm => hlast.slash_not_mem (his.isPrefix.subset hm)
      refine ⟨⟨part, hlast, hdots, his⟩, his.ne_nil hlast.1.1, hs, fun target => ?_⟩
      obtain ⟨hn, hslash, hdot, hdots⟩ := fileName_extension hs target
      exact directly_join hdir hn hslash hdot hdots

/-- A source whose name is three dots, in a path that ends in a dot. -/
theorem nameFor_derived_dots :
    ({} : Config).name = none ∧ "out/".toList ≠ [] ∧ Path.isText "a/.../.".toList = true ∧
      Config.nameFor {} "a/.../.".toList = .ok "..".toList ∧
      Directly "out/".toList "...jl".toList (outputPath .script "..".toList "out/".toList) := by
  have hdir : "out/".toList ≠ [] := by decide
  have hok : Config.nameFor {} "a/.../.".toList = .ok "..".toList := by decide
  have htext : Path.isText "a/.../.".toList = true := by decide
  exact ⟨rfl, hdir, htext, hok, ((nameFor_derived rfl hdir htext).2 _ hok).2.2.2 .script⟩

end Conversion

end Weave
