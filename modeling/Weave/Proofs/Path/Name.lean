import Weave.Path
import Weave.Proofs.Path

/-!
# File names and their stems

What the name of a file in a path is and where it is cut, told by the parts between the
slashes and by the dots alone. Parts that say nothing may stand behind the name, and only
the way up is a last part that names nothing.
-/
namespace Weave.Path

/-- All parts are empty or single dots. -/
def Idle (p : Path) : Prop :=
  ∀ part ∈ List.splitOn '/' p, part = [] ∨ part = dot

/-- A part that is neither empty nor a single dot, where all behind it are. -/
def LastPart (p : Path) (part : Text) : Prop :=
  (part ≠ [] ∧ part ≠ dot) ∧ ∃ before after,
    List.splitOn '/' p = before ++ part :: after ∧ ∀ x ∈ after, x = [] ∨ x = dot

/-- What is left of a name when it is cut at its last dot, unless that is its first character. -/
inductive IsStem : Text → Text → Prop
  | cut {stem ext : Text} : stem ≠ [] → '.' ∉ ext → IsStem (stem ++ '.' :: ext) stem
  | whole {name : Text} : '.' ∉ name.tail → IsStem name name

section

variable {p : Path} {part : Text}

theorem isVoid_iff : isVoid part = true ↔ part = [] ∨ part = dot := by
  simp [isVoid]

theorem getLast?_parts_eq_some_iff :
    ((Text.splitOn '/' p).filter fun x => !isVoid x).getLast? = some part ↔ LastPart p part := by
  rw [List.getLast?_filter, List.find?_eq_some_iff_append, Text.splitOn_eq_splitOn]
  constructor
  · rintro ⟨hpart, after, before, hsplit, hafter⟩
    refine ⟨by simpa [isVoid] using hpart, before.reverse, after.reverse, ?_, fun x hx => ?_⟩
    · simpa using congrArg List.reverse hsplit
    · simpa [isVoid_iff] using hafter x (List.mem_reverse.1 hx)
  · rintro ⟨hpart, before, after, hsplit, hafter⟩
    refine ⟨by simpa [isVoid] using hpart, after.reverse, before.reverse, ?_, fun x hx => ?_⟩
    · simp [hsplit]
    · simpa [isVoid_iff] using hafter x (List.mem_reverse.1 hx)

theorem getLast?_parts_eq_none_iff :
    ((Text.splitOn '/' p).filter fun x => !isVoid x).getLast? = none ↔ Idle p := by
  rw [List.getLast?_eq_none_iff, List.filter_eq_nil_iff, Text.splitOn_eq_splitOn]
  simp only [Bool.not_eq_true', Bool.not_eq_false, isVoid_iff, Idle]

/-- Where no part is a single dot, only the way up is no name. -/
theorem filter_getLast? {parts : List Text} (h : ∀ x ∈ parts, x ≠ dot) :
    (parts.getLast?.filter fun part => !(part = dot || part = dotDot)) =
      parts.getLast?.filter fun part => part ≠ dotDot := by
  cases hlast : parts.getLast? with
  | none => rfl
  | some part => simp [Option.filter, h part (List.mem_of_getLast? hlast)]

/-- The name of a file is the last part that says something. A dot at the front of a path is
one of its steps, but no name. -/
theorem fileName?_eq (p : Path) :
    p.fileName? = ((Text.splitOn '/' p).filter fun x => !isVoid x).getLast?.filter
      fun part => part ≠ dotDot := by
  have hdot : ∀ parts : List Text, ∀ x ∈ parts.filter fun x => !isVoid x, x ≠ dot := by
    rintro parts x hx rfl
    simp [isVoid] at hx
  rw [fileName?, steps]
  cases Text.splitOn '/' p with
  | nil => rfl
  | cons first rest =>
      by_cases hempty : first = []
      · subst hempty
        exact filter_getLast? (hdot rest)
      by_cases hfirst : first = dot
      · subst hfirst
        have hrest := filter_getLast? (hdot rest)
        change Option.filter _ (dot :: rest.filter fun x => !isVoid x).getLast? = Option.filter _
          (rest.filter fun x => !isVoid x).getLast?
        cases hparts : rest.filter fun x => !isVoid x with
        | nil => rfl
        | cons x xs => rwa [hparts] at hrest
      · have hall : (first :: rest).filter (fun x => !isVoid x) =
            first :: rest.filter fun x => !isVoid x := by simp [isVoid, hempty, hfirst]
        dsimp only
        rw [if_neg hempty, hall]
        exact filter_getLast? (hall ▸ hdot (first :: rest))

theorem fileName?_eq_some_iff : p.fileName? = some part ↔ LastPart p part ∧ part ≠ dotDot := by
  rw [fileName?_eq, Option.filter_eq_some_iff, getLast?_parts_eq_some_iff, decide_eq_true_eq]

theorem fileName?_eq_none_iff : p.fileName? = none ↔ Idle p ∨ LastPart p dotDot := by
  rw [fileName?_eq, ← getLast?_parts_eq_none_iff, ← getLast?_parts_eq_some_iff]
  cases ((Text.splitOn '/' p).filter fun x => !isVoid x).getLast? <;> simp [Option.filter]

/-- A name is cut at its last dot, or it has none but a first one. -/
theorem isStem_stemOf (name : Text) : IsStem name (stemOf name) := by
  by_cases hdot : '.' ∈ name
  · obtain ⟨ext, stem, hr, hext⟩ := List.eq_append_cons_of_mem (List.mem_reverse.2 hdot)
    obtain rfl : name = stem.reverse ++ '.' :: ext.reverse := by
      simpa using congrArg List.reverse hr
    have hext' : '.' ∉ ext.reverse := by simpa using hext
    have hjoin : Text.joinWith ['.']
        (Text.splitOn '.' (stem.reverse ++ '.' :: ext.reverse)).dropLast = stem.reverse := by
      rw [Text.splitOn_append_cons, Text.splitOn_line hext', List.dropLast_concat,
        Text.splitOn_eq_splitOn]
      exact List.intercalate_splitOn '.'
    rw [stemOf, hjoin]
    split
    · rename_i hnil
      exact .whole (by rw [hnil]; exact hext')
    · rename_i hne
      exact .cut (fun h => hne h) hext'
  · have hjoin : Text.joinWith ['.'] (Text.splitOn '.' name).dropLast = [] := by
      rw [Text.splitOn_line hdot]
      rfl
    rw [stemOf, hjoin]
    exact .whole fun h => hdot (List.mem_of_mem_tail h)

theorem IsStem.ne_nil {name stem : Text} (h : IsStem name stem) (hn : name ≠ []) : stem ≠ [] := by
  cases h with
  | cut hs _ => exact hs
  | whole _ => exact hn

theorem IsStem.isPrefix {name stem : Text} (h : IsStem name stem) : stem <+: name := by
  cases h with
  | cut _ _ => exact List.prefix_append _ _
  | whole _ => exact List.prefix_rfl

theorem LastPart.mem_splitOn (h : LastPart p part) : part ∈ Text.splitOn '/' p := by
  obtain ⟨-, before, after, hsplit, -⟩ := h
  rw [Text.splitOn_eq_splitOn, hsplit]
  simp

theorem LastPart.isInfix (h : LastPart p part) : part <:+: p :=
  Text.isInfix_of_mem_splitOn h.mem_splitOn

/-- No slash stands in a part. -/
theorem LastPart.slash_not_mem (h : LastPart p part) : '/' ∉ part :=
  Text.not_mem_of_mem_splitOn h.mem_splitOn

end

end Weave.Path
