import Weave.Proofs.FileTree.Way
import Weave.Proofs.Path

/-!
# Removing a directory

Removing a directory first empties it and then looks for it by its path once more. What has
lost entries has no new ways, so the path leads there again or nowhere. It leads nowhere if
it goes through the directory itself, and then the directory stays, without anything in it.

The directory also stays if the program is kept from removing it, or from removing anything in
it. In the second case part of what is inside may be gone, but only what the program may
remove.
-/
namespace Weave.FileTree

/-- What is at some places is gone, and nothing else has changed. -/
structure Without (before after : FileTree) (gone : Place → Prop) : Prop where
  here : after.here = before.here
  mask : after.mask = before.mask
  now : after.now = before.now
  refusals : after.refusals = before.refusals
  cleared {q : Place} : gone q → after.at? q = none
  others {q : Place} : ¬gone q → after.at? q = before.at? q

def Inside (place q : Place) : Prop :=
  place <+: q ∧ q ≠ place

/-- Something keeps the program from emptying a directory. -/
inductive Hindered (t : FileTree) : Place → Prop
  /-- It may not list the directory. -/
  | unlisted {place : Place} {f : Failure} : t.refusal? place .read = some f → Hindered t place
  /-- It may not go on from the directory, and there is something in it. -/
  | unsearched {place : Place} {name : Text} {e : Entry} {f : Failure} :
      t.at? (place ++ [name]) = some e → t.refusal? place .search = some f → Hindered t place
  /-- It may not remove what is in it. -/
  | unremoved {place : Place} {name : Text} {e : Entry} {f : Failure} :
      t.at? (place ++ [name]) = some e → t.removalRefusal? (place ++ [name]) = some f →
      Hindered t place
  /-- It may not empty a directory that is in it. -/
  | deeper {place : Place} {name : Text} {e : Entry} :
      t.at? (place ++ [name]) = some e → e.isDirectory → Hindered t (place ++ [name]) →
      Hindered t place

/-- What removing the directory of a path comes to. -/
inductive Removal (before : FileTree) (p : Path) : FileTree → Prop
  /-- There is no directory and no link, or a link that stays. -/
  | kept : (∀ place e, before.findSelf p = .ok (place, e) → e.isDirectory = false ∧
        (e.isLink → ∃ f, before.removalRefusal? place = some f)) →
      Removal before p before
  /-- Of a link only itself is removed. -/
  | unlinked {place : Place} {e : Entry} {after : FileTree} :
      before.findSelf p = .ok (place, e) → e.isLink → before.removalRefusal? place = none →
      before.Without after (place <+: ·) → Removal before p after
  | removed {place : Place} {e : Entry} {after : FileTree} :
      before.findSelf p = .ok (place, e) → e.isDirectory → ¬before.Hindered place →
      before.removalRefusal? place = none → before.Without after (place <+: ·) →
      Removal before p after
  /-- The directory itself may not be removed, or its path leads nowhere once it is empty. -/
  | emptied {place : Place} {e : Entry} {after : FileTree} :
      before.findSelf p = .ok (place, e) → e.isDirectory → ¬before.Hindered place →
      ((∃ f, before.removalRefusal? place = some f) ∨ ∀ found, after.findSelf p ≠ .ok found) →
      before.Without after (Inside place) → Removal before p after
  /-- Removing stops part of the way. -/
  | stopped {place : Place} {e : Entry} {after : FileTree} {gone : Place → Prop} :
      before.findSelf p = .ok (place, e) → e.isDirectory → before.Hindered place →
      (∀ q, gone q → Inside place q ∧ before.removalRefusal? q = none) →
      before.Without after gone → Removal before p after

section

variable {t before after : FileTree} {gone : Place → Prop} {place q : Place} {steps : List Text}

theorem without_filter (t : FileTree) (lost : Place → Bool) (h : lost [] = false)
    (hl : ∀ q, lost q = true ↔ gone q) :
    t.Without { t with entries := t.entries.filter fun e => !lost e.1 } gone := by
  have hat : ∀ q, at? { t with entries := t.entries.filter fun e => !lost e.1 } q =
      if lost q then none else t.at? q := by
    intro q
    unfold at?
    by_cases hq : q = []
    · rw [if_pos hq, hq, h]
      rfl
    · rw [if_neg hq, if_neg hq, lookup_filter (fun q => !lost q)]
      cases lost q <;> rfl
  refine ⟨rfl, rfl, rfl, rfl, fun {q} hq => ?_, fun {q} hq => ?_⟩
  · rw [hat, if_pos ((hl q).2 hq)]
  · rw [hat, if_neg (mt (hl q).1 hq)]

theorem without_clearInside (t : FileTree) (place : Place) :
    t.Without (t.clearInside place) (Inside place) :=
  t.without_filter (fun q => place.isPrefixOf q && q != place) (by cases place <;> rfl)
    fun q => by simp [Inside]

theorem without_clear (t : FileTree) (h : place ≠ []) :
    t.Without (t.clear place) (place <+: ·) := by
  obtain ⟨x, xs, rfl⟩ := List.exists_cons_of_ne_nil h
  exact t.without_filter ((x :: xs).isPrefixOf ·) rfl fun q => List.isPrefixOf_iff_prefix

theorem without_erase (t : FileTree) (h : place ≠ []) : t.Without (t.erase place) (· = place) := by
  obtain ⟨x, xs, rfl⟩ := List.exists_cons_of_ne_nil h
  exact t.without_filter (· == x :: xs) rfl fun q => by simp

/-- A directory that is removed when it is empty is removed with all that was in it. -/
theorem clear_clearInside (t : FileTree) (place : Place) :
    (t.clearInside place).clear place = t.clear place := by
  simp only [clear, clearInside, List.filter_filter]
  congr 2
  funext e
  cases place.isPrefixOf e.1 <;> simp

theorem Without.refl (t : FileTree) : t.Without t fun _ => False :=
  ⟨rfl, rfl, rfl, rfl, nofun, fun _ => rfl⟩

theorem Without.trans {later : FileTree} {more : Place → Prop} (h : before.Without after gone)
    (hm : after.Without later more) : before.Without later fun q => gone q ∨ more q := by
  refine ⟨hm.here.trans h.here, hm.mask.trans h.mask, hm.now.trans h.now,
    hm.refusals.trans h.refusals, fun {q} hq => ?_, fun {q} hq => ?_⟩
  · by_cases hmore : more q
    · exact hm.cleared hmore
    · rw [hm.others hmore, h.cleared (hq.resolve_right hmore)]
  · rw [not_or] at hq
    rw [hm.others hq.2, h.others hq.1]

theorem Without.at?_of_some (h : before.Without after gone) {e : Entry}
    (he : after.at? q = some e) : before.at? q = some e := by
  by_cases hq : gone q
  · rw [h.cleared hq] at he
    cases he
  · rw [← h.others hq, he]

theorem Without.refusal?_eq (h : before.Without after gone) (q : Place) (access : Access) :
    after.refusal? q access = before.refusal? q access := by
  rw [refusal?, h.refusals]
  rfl

theorem target?_of_isDirectory {e : Entry} (h : e.isDirectory) : e.target? = none := by
  cases hc : e.content <;> simp_all [Entry.isDirectory, Entry.target?]

/-- Where entries are missing, no way leads elsewhere than before. A link that is missing
would only have mattered on the way. -/
theorem Without.advance (h : before.Without after gone) {halt : Halt}
    (ha : after.advance false place steps = .ok halt) :
    before.advance false place steps = .ok halt := by
  induction steps generalizing place with
  | nil => exact ha
  | cons step rest ih =>
      obtain ⟨hf, hs⟩ := advance_cons_eq_ok.1 ha
      obtain ⟨e, he, hd, hsearch⟩ := stepFault?_eq_none.1 hf
      rw [h.refusal?_eq] at hsearch
      refine advance_cons_eq_ok.2 ⟨stepFault?_eq_none.2 ⟨e, h.at?_of_some he, hd, hsearch⟩, ?_⟩
      cases hs with
      | stay hs hrest => exact .stay hs (ih hrest)
      | up hs hrest => exact .up hs (ih hrest)
      | link hstay hdots hlong ht hh =>
          obtain ⟨d, hat, htarget⟩ := Option.bind_eq_some_iff.1 ht
          exact .link hstay hdots hlong (by rwa [h.at?_of_some hat]) hh
      | name hstay hdots hlong ht hrest =>
          cases hb : (before.at? (place ++ [step])).bind Entry.target? with
          | none => exact .name hstay hdots hlong hb (ih hrest)
          | some target =>
              cases rest with
              | nil => exact .link hstay hdots hlong hb (Except.ok.inj hrest).symm
              | cons next rest =>
                  obtain ⟨hnext, -⟩ := advance_cons_eq_ok.1 hrest
                  obtain ⟨d, hat, hdir, -⟩ := stepFault?_eq_none.1 hnext
                  rw [h.at?_of_some hat, Option.bind_some, target?_of_isDirectory hdir] at hb
                  cases hb

theorem lookup_isSome_iff {entries : List (Place × Entry)} :
    (entries.lookup q).isSome ↔ q ∈ entries.map Prod.fst := by
  rw [List.lookup_isSome_iff]
  simp [Prod.exists]

/-- What is directly in a directory has a name in it. -/
theorem mem_placesIn : q ∈ t.placesIn place ↔ ∃ name e, q = place ++ [name] ∧ t.at? q = some e := by
  rw [placesIn, List.mem_filter, ← lookup_isSome_iff, Option.isSome_iff_exists]
  simp only [Bool.and_eq_true, bne_iff_ne, ne_eq, decide_eq_true_eq]
  constructor
  · rintro ⟨⟨e, he⟩, hne, rfl⟩
    exact ⟨q.getLast hne, e, (List.dropLast_concat_getLast hne).symm, by rwa [at?, if_neg hne]⟩
  · rintro ⟨name, e, rfl, he⟩
    have hne : place ++ [name] ≠ [] := by simp
    exact ⟨⟨e, by rwa [at?, if_neg hne] at he⟩, hne, List.dropLast_concat⟩

theorem length_le_depth {e : Entry} (hq : q ≠ []) (h : t.at? q = some e) : q.length ≤ t.depth := by
  have hmem : q ∈ t.entries.map Prod.fst := by
    rw [at?, if_neg hq] at h
    exact lookup_isSome_iff.1 (Option.isSome_iff_exists.2 ⟨e, h⟩)
  obtain ⟨entry, hentry, rfl⟩ := List.mem_map.1 hmem
  unfold depth
  generalize t.entries = entries at hentry
  induction entries with
  | nil => cases hentry
  | cons first rest ih =>
      rw [List.foldr_cons]
      obtain rfl | hrest := List.mem_cons.1 hentry
      · exact Nat.le_max_left _ _
      · exact (ih hrest).trans (Nat.le_max_right _ _)

theorem openRefusal?_eq_some {f : Failure} (h : t.openRefusal? place = some f) :
    t.Hindered place := by
  rw [openRefusal?, Option.or_eq_some_iff] at h
  obtain hr | ⟨-, hs⟩ := h
  · exact .unlisted hr
  · by_cases hnone : t.placesIn place = []
    · rw [if_pos hnone] at hs
      cases hs
    · rw [if_neg hnone] at hs
      obtain ⟨q, hq⟩ := List.exists_mem_of_ne_nil _ hnone
      obtain ⟨name, e, rfl, he⟩ := mem_placesIn.1 hq
      exact .unsearched he hs

/-- Emptying a directory goes on to what is in it if the program may list and search it. -/
theorem mem_emptying {depth : Nat} {step : Except Failure Place} :
    step ∈ t.emptying (depth + 1) place ↔
      (∃ f, t.openRefusal? place = some f ∧ step = .error f) ∨
      (t.openRefusal? place = none ∧ ∃ q ∈ t.placesIn place,
        ((t.at? q).any Entry.isDirectory ∧ step ∈ t.emptying depth q) ∨ step = t.removing q) := by
  rw [emptying]
  cases t.openRefusal? place with
  | some f => simp
  | none =>
      simp only [List.mem_flatMap, List.mem_append, List.mem_singleton]
      simp

/-- Only what the program may remove goes. -/
theorem removable_of_mem_emptying {depth : Nat} (h : .ok q ∈ t.emptying depth place) :
    Inside place q ∧ t.removalRefusal? q = none := by
  induction depth generalizing place with
  | zero => cases h
  | succ depth ih =>
      obtain ⟨f, -, hf⟩ | ⟨-, r, hr, hq⟩ := mem_emptying.1 h
      · cases hf
      · obtain ⟨name, e, rfl, -⟩ := mem_placesIn.1 hr
        obtain ⟨-, hin⟩ | hq := hq
        · obtain ⟨⟨hpre, hne⟩, hfree⟩ := ih hin
          refine ⟨⟨(List.prefix_append place [name]).trans hpre, ?_⟩, hfree⟩
          rintro rfl
          exact absurd hpre.length_le (by simp)
        · unfold removing at hq
          split at hq
          · cases hq
          · obtain rfl := Except.ok.inj hq
            exact ⟨⟨List.prefix_append place [name], by simp⟩, ‹_›⟩

theorem hindered_of_mem_emptying {depth : Nat} {f : Failure}
    (h : .error f ∈ t.emptying depth place) : t.Hindered place := by
  induction depth generalizing place with
  | zero => cases h
  | succ depth ih =>
      obtain ⟨g, hg, -⟩ | ⟨-, r, hr, hq⟩ := mem_emptying.1 h
      · exact openRefusal?_eq_some hg
      · obtain ⟨name, e, rfl, he⟩ := mem_placesIn.1 hr
        obtain ⟨hdir, hin⟩ | hq := hq
        · exact .deeper he (by simpa [he] using hdir) (ih hin)
        · unfold removing at hq
          split at hq
          · exact .unremoved he ‹_›
          · cases hq

/-- Emptying a directory comes to everything in it, however deep, so it meets what keeps the
program from it. -/
theorem Hindered.exists_mem_emptying (h : t.Hindered place) {depth : Nat} (hd : 0 < depth)
    (hdeep : t.depth < place.length + depth) : ∃ f, .error f ∈ t.emptying depth place := by
  induction h generalizing depth with
  | @unlisted place f hr =>
      obtain ⟨depth, rfl⟩ := Nat.exists_eq_add_one.2 hd
      exact ⟨f, mem_emptying.2 (.inl ⟨f, by simp [openRefusal?, hr], rfl⟩)⟩
  | @unsearched place name e f he hs =>
      obtain ⟨depth, rfl⟩ := Nat.exists_eq_add_one.2 hd
      have hin : t.placesIn place ≠ [] := List.ne_nil_of_mem (mem_placesIn.2 ⟨name, e, rfl, he⟩)
      cases hr : t.refusal? place .read with
      | some g => exact ⟨g, mem_emptying.2 (.inl ⟨g, by simp [openRefusal?, hr], rfl⟩)⟩
      | none => exact ⟨f, mem_emptying.2 (.inl ⟨f, by simp [openRefusal?, hr, hin, hs], rfl⟩)⟩
  | @unremoved place name e f he hr =>
      obtain ⟨depth, rfl⟩ := Nat.exists_eq_add_one.2 hd
      cases ho : t.openRefusal? place with
      | some g => exact ⟨g, mem_emptying.2 (.inl ⟨g, ho, rfl⟩)⟩
      | none =>
          refine ⟨f, mem_emptying.2 (.inr ⟨ho, _, mem_placesIn.2 ⟨name, e, rfl, he⟩, .inr ?_⟩)⟩
          simp only [removing, hr]
  | @deeper place name e he hdir _ ih =>
      obtain ⟨depth, rfl⟩ := Nat.exists_eq_add_one.2 hd
      have hlength : place.length + 1 ≤ t.depth := by
        simpa using length_le_depth (by simp) he
      cases ho : t.openRefusal? place with
      | some g => exact ⟨g, mem_emptying.2 (.inl ⟨g, ho, rfl⟩)⟩
      | none =>
          have hdeeper : t.depth < (place ++ [name]).length + depth := by
            rw [List.length_append, List.length_singleton]
            omega
          obtain ⟨f, hf⟩ := ih (by omega) hdeeper
          exact ⟨f, mem_emptying.2 (.inr ⟨ho, _, mem_placesIn.2 ⟨name, e, rfl, he⟩,
            .inl ⟨by simpa [he] using hdir, hf⟩⟩)⟩

/-- Removing goes on to the first step that is refused. -/
theorem exists_without_goRemoving {removals : List (Except Failure Place)}
    (h : ∀ q, .ok q ∈ removals → q ≠ []) :
    ∃ gone : Place → Prop, t.Without (t.goRemoving removals).1 gone ∧
      (∀ q, gone q → .ok q ∈ removals) ∧
      ((t.goRemoving removals).2.isSome ↔ ∃ f, .error f ∈ removals) := by
  induction removals generalizing t with
  | nil => exact ⟨_, .refl t, nofun, by simp [goRemoving]⟩
  | cons removal rest ih =>
      cases removal with
      | error f => exact ⟨_, .refl t, nofun, by simp [goRemoving]⟩
      | ok q =>
          obtain ⟨gone, hw, hgone, hsome⟩ := ih (t := t.erase q) fun r hr =>
            h r (List.mem_cons_of_mem _ hr)
          refine ⟨_, (t.without_erase (h q List.mem_cons_self)).trans hw, ?_, ?_⟩
          · rintro r (rfl | hr)
            · exact List.mem_cons_self
            · exact List.mem_cons_of_mem _ (hgone r hr)
          · simpa [goRemoving] using hsome

/-- What removing a directory comes to that is found. -/
theorem removal_removeDirectory {p : Path} {front : List Text} {name : Text} {e : Entry}
    (hparts : partsOf p = front ++ [name]) (hway : waySteps p = front ++ [name])
    (hdot : name ≠ Path.dot) (hdots : name ≠ Path.dotDot) (hne : place ≠ [])
    (hfind : t.findSelf p = .ok (place, e)) (hd : e.isDirectory) :
    t.Removal p (t.removeDirectory p place).1 := by
  have hnonempty : ∀ q, .ok q ∈ t.emptying (t.depth + 1) place → q ≠ [] := by
    rintro q hq rfl
    obtain ⟨⟨hpre, -⟩, -⟩ := removable_of_mem_emptying hq
    exact hne (List.prefix_nil.1 hpre)
  obtain ⟨gone, hw, hgone, hsome⟩ := exists_without_goRemoving hnonempty
  have hstops : (t.goRemoving (t.emptying (t.depth + 1) place)).2.isSome ↔ t.Hindered place :=
    hsome.trans ⟨fun ⟨f, hf⟩ => hindered_of_mem_emptying hf,
      fun h => h.exists_mem_emptying (by omega) (by omega)⟩
  unfold removeDirectory
  generalize t.goRemoving (t.emptying (t.depth + 1) place) = left at hw hstops
  obtain ⟨left, _ | f⟩ := left
  · have hfree : ¬t.Hindered place := fun h => by simpa using hstops.2 h
    have hempty := t.without_clearInside place
    simp only [removeEmptied, hparts, List.getLast?_concat, hdot, hdots, decide_false,
      Bool.or_self, Bool.false_eq_true, if_false]
    cases hagain : (t.clearInside place).walk false maxLinks
        ((t.clearInside place).start p) (front ++ [name]) with
    | error f =>
        refine .emptied hfind hd hfree (.inr fun found h => ?_) hempty
        obtain ⟨hfound, -⟩ := findSelf_eq_ok.1 h
        obtain ⟨-, hw⟩ := placeOf_eq_ok.1 hfound
        rw [hway, hagain] at hw
        cases hw
    | ok named =>
        obtain ⟨-, hwalk⟩ := placeOf_eq_ok.1 (findSelf_eq_ok.1 hfind).1
        rw [hway] at hwalk
        obtain rfl : named = place :=
          Except.ok.inj ((walk_of_advance hempty.advance hagain).symm.trans hwalk)
        have hrefusal : (t.clearInside named).removalRefusal? named = t.removalRefusal? named := rfl
        simp only [if_true, hrefusal]
        cases hr : t.removalRefusal? named with
        | some f => exact .emptied hfind hd hfree (.inl ⟨f, hr⟩) hempty
        | none =>
            rw [clear_clearInside]
            exact .removed hfind hd hfree hr (t.without_clear hne)
  · exact .stopped hfind hd (hstops.1 rfl) (fun q hq => removable_of_mem_emptying (hgone q hq)) hw

/-- The directory of a name in another one is removed as a whole, unless the program is kept from
that or its path goes through it. -/
theorem removal_removeTree (t : FileTree) (dir : Path) {name : Text} (hn : name ≠ [])
    (hs : '/' ∉ name) (hdot : name ≠ Path.dot) (hdots : name ≠ Path.dotDot) :
    t.Removal (Path.join dir name) (t.removeTree (Path.join dir name)).1 := by
  generalize hp : Path.join dir name = p
  have hparts : partsOf p = partsOf dir ++ [name] := hp ▸ partsOf_join dir hn hs
  have hway : waySteps p = partsOf dir ++ [name] := hp ▸ waySteps_join dir hn hs
  have hstay : staying name = false := by simp [staying, slashStep, hn, hdot]
  cases hfind : t.findSelf p with
  | error f =>
      simp only [removeTree, hfind]
      exact .kept fun place e h => (by cases hfind.symm.trans h)
  | ok found =>
      obtain ⟨place, e⟩ := found
      obtain ⟨hplace, he⟩ := findSelf_eq_ok.1 hfind
      obtain ⟨hcheck, hwalk⟩ := placeOf_eq_ok.1 hplace
      rw [hway] at hwalk
      have hne : place ≠ [] := by
        obtain ⟨d, -, -, -, -, rfl⟩ := walk_concat hstay hdots hwalk
        exact List.append_ne_nil_of_right_ne_nil d (List.cons_ne_nil name [])
      have kept : e.isDirectory = false →
          (e.isLink → ∃ f, t.removalRefusal? place = some f) → t.Removal p t := by
        refine fun hd hl => .kept fun q d h => ?_
        obtain ⟨rfl, rfl⟩ := Prod.mk.inj (Except.ok.inj (hfind.symm.trans h))
        exact ⟨hd, hl⟩
      cases hc : e.content with
      | file bytes =>
          simp only [removeTree, hfind, hc]
          exact kept (by simp [Entry.isDirectory, hc]) (by simp [Entry.isLink, hc])
      | device d =>
          simp only [removeTree, hfind, hc]
          exact kept (by simp [Entry.isDirectory, hc]) (by simp [Entry.isLink, hc])
      | link target =>
          simp only [removeTree, hfind, hc]
          cases hr : t.removalRefusal? place with
          | some f => exact kept (by simp [Entry.isDirectory, hc]) fun _ => ⟨f, hr⟩
          | none => exact .unlinked hfind (by simp [Entry.isLink, hc]) hr (t.without_clear hne)
      | directory =>
          have hd : e.isDirectory := by simp [Entry.isDirectory, hc]
          simp only [removeTree, hfind, hc]
          exact removal_removeDirectory hparts hway hdot hdots hne hfind hd

end

end Weave.FileTree
