import Weave.Proofs.FileTree.Writing

/-!
# Writing to several files

What writing to some files makes of a tree is told by the files and the bytes alone, if no
two of the files are one. Ways are kept, so a path leads in the one tree where it leads in
the other, and what is at any other place stays. So the files may be written in any order,
and writing one of them again changes nothing.

Here two places have one file if the files have one number, whatever they hold: two files
that happen to hold the same are not one.
-/
namespace Weave.FileTree

/-- The number that all names of the file at a place share. -/
def number? (t : FileTree) (q : Place) : Option Nat :=
  (t.at? q).bind Entry.sharing

/-- Whether two places are one, or have one file under two names. -/
def OneFile (t : FileTree) (p q : Place) : Prop :=
  p = q ∨ (t.number? p).isSome ∧ t.number? p = t.number? q

instance (t : FileTree) (p q : Place) : Decidable (t.OneFile p q) :=
  inferInstanceAs (Decidable (_ ∨ _))

/-- Trees that hold the same everywhere. -/
structure Alike (a b : FileTree) : Prop where
  here : a.here = b.here
  mask : a.mask = b.mask
  now : a.now = b.now
  refusals : a.refusals = b.refusals
  place (q : Place) : a.at? q = b.at? q

/-- Trees with the same ways and the same files, that differ at most in what is at the places
of a set. -/
structure Beside (a b : FileTree) (apart : Place → Prop) : Prop where
  ways : a.KeepsWays b
  back : b.KeepsWays a
  number (q : Place) : b.number? q = a.number? q
  others {q : Place} : ¬apart q → b.at? q = a.at? q

/-- Whether a place has one of the files that are written. -/
def Hit (t : FileTree) (writes : List (Place × ByteArray)) (q : Place) : Prop :=
  ∃ w ∈ writes, t.SameFile q w.1

/-- What writing bytes to files makes of a tree. -/
structure Filled (before after : FileTree) (writes : List (Place × ByteArray)) : Prop where
  here : after.here = before.here
  mask : after.mask = before.mask
  now : after.now = before.now
  refusals : after.refusals = before.refusals
  stored {w : Place × ByteArray} {q : Place} : w ∈ writes → before.SameFile q w.1 →
    after.at? q = before.refilled w.2 (before.at? q)
  others {q : Place} : ¬before.Hit writes q → after.at? q = before.at? q

section

variable {t a b c before after : FileTree} {p q r place : Place} {bytes : ByteArray}
  {path : Path} {apart : Place → Prop} {writes : List (Place × ByteArray)}

theorem OneFile.symm (h : t.OneFile p q) : t.OneFile q p := by
  rcases h with rfl | ⟨hs, hn⟩
  · exact .inl rfl
  · exact .inr ⟨hn ▸ hs, hn.symm⟩

theorem OneFile.trans (hpq : t.OneFile p q) (hqr : t.OneFile q r) : t.OneFile p r := by
  rcases hpq with rfl | ⟨hs, hn⟩
  · exact hqr
  · rcases hqr with rfl | ⟨-, hn'⟩
    · exact .inr ⟨hs, hn⟩
    · exact .inr ⟨hs, hn.trans hn'⟩

theorem SameFile.oneFile (h : t.SameFile p q) : t.OneFile p q := by
  rcases h with rfl | ⟨e, hs, hp, hq⟩
  · exact .inl rfl
  · refine .inr ⟨?_, ?_⟩ <;> simp [number?, hp, hq, hs]

theorem Beside.symm (h : a.Beside b apart) : b.Beside a apart :=
  ⟨h.back, h.ways, fun q => (h.number q).symm, fun hq => (h.others hq).symm⟩

theorem Beside.oneFile_iff (h : a.Beside b apart) : b.OneFile p q ↔ a.OneFile p q := by
  rw [OneFile, OneFile, h.number, h.number]

theorem Beside.isDirectory (h : a.Beside b apart) (hd : a.isDirectory path = true) :
    b.isDirectory path = true := by
  unfold FileTree.isDirectory at hd ⊢
  split at hd
  · rename_i q e hf
    obtain ⟨hp, he⟩ := find_eq_ok.1 hf
    obtain ⟨d, hd', hdir⟩ := h.ways.directory he hd
    rw [find_eq_ok.2 ⟨h.ways.placeOf hp, hd'⟩]
    exact hdir
  · cases hd

/-- A text is read as before where no file was written. -/
theorem Beside.readText {text : Text} (h : a.Beside b apart)
    (hn : ∀ q, a.placeOf path true = .ok q → ¬apart q) (hr : a.readText path = .ok text) :
    b.readText path = .ok text := by
  obtain ⟨bytes, hb, ht⟩ := bind_eq_ok.1 hr
  obtain ⟨q, e, hf, hread, he⟩ := readBytes_eq_ok.1 hb
  obtain ⟨hp, hq⟩ := find_eq_ok.1 hf
  have hf' : b.find path = .ok (q, e) :=
    find_eq_ok.2 ⟨h.ways.placeOf hp, (h.others (hn q hp)).trans hq⟩
  have hb' : b.readBytes path = .ok bytes :=
    readBytes_eq_ok.2 ⟨q, e, hf', (h.ways.refusal?_eq q _).trans hread, he⟩
  exact bind_eq_ok.2 ⟨bytes, hb', ht⟩

theorem refilled_target (o : Option Entry) :
    (t.refilled bytes o).bind Entry.target? = o.bind Entry.target? := by
  cases o with
  | none => rfl
  | some e => cases h : e.content <;> simp [refilled, Entry.target?, h]

theorem refilled_sharing (o : Option Entry) :
    (t.refilled bytes o).bind Entry.sharing = o.bind Entry.sharing := by
  cases o with
  | none => rfl
  | some e => cases h : e.content <;> simp [refilled, h]

theorem refilled_directory {e : Entry} (hd : e.isDirectory) (o : Option Entry) :
    t.refilled bytes o = some e ↔ o = some e := by
  cases o with
  | none =>
      simp only [refilled, Option.some.injEq, reduceCtorEq, iff_false]
      rintro rfl
      cases hd
  | some d =>
      cases h : d.content with
      | file held =>
          simp only [refilled, h, Option.some.injEq]
          constructor
          · rintro rfl
            cases hd
          · rintro rfl
            simp [Entry.isDirectory, h] at hd
      | _ => simp [refilled, h]

/-- Writing the same once more makes nothing else of it. -/
theorem refilled_refilled (o : Option Entry) :
    t.refilled bytes (t.refilled bytes o) = t.refilled bytes o := by
  cases o with
  | none => rfl
  | some e => cases h : e.content <;> simp [refilled, h]

theorem takes_refilled (o : Option Entry) : takes bytes (t.refilled bytes o) = takes bytes o := by
  cases o with
  | none => rfl
  | some e => cases h : e.content <;> simp [refilled, takes, h]

theorem refilled_congr (hm : b.mask = a.mask) (hn : b.now = a.now) (bytes : ByteArray) :
    b.refilled bytes = a.refilled bytes := by
  funext o
  cases o with
  | none => simp only [refilled, newFile, granted, hm, hn]
  | some e => simp only [refilled, hn]

theorem hit_singleton {w : Place × ByteArray} : t.Hit [w] q ↔ t.SameFile q w.1 := by
  simp [Hit]

theorem hit_cons {w : Place × ByteArray} :
    t.Hit (w :: writes) q ↔ t.SameFile q w.1 ∨ t.Hit writes q := by
  simp [Hit]

/-- Filling a place writes to its file. -/
theorem filled_of_fill (h : t.fill place false bytes = .ok after) :
    t.Filled after [(place, bytes)] := by
  obtain ⟨hhere, hmask, hnow, hrefusals⟩ := settings_of_fill h
  refine ⟨hhere, hmask, hnow, hrefusals, fun {w q} hw hq => ?_, fun {q} hq => ?_⟩
  · obtain rfl := List.mem_singleton.1 hw
    exact (at?_of_fill h q).1 hq
  · exact (at?_of_fill h q).2 fun hs => hq (hit_singleton.2 hs)

theorem Filled.nil (t : FileTree) : t.Filled t [] :=
  ⟨rfl, rfl, rfl, rfl, fun hw => absurd hw List.not_mem_nil, fun _ => rfl⟩

namespace Filled

theorem at?_eq_or (h : a.Filled b writes) (q : Place) :
    b.at? q = a.at? q ∨ ∃ bytes, b.at? q = a.refilled bytes (a.at? q) := by
  by_cases hq : a.Hit writes q
  · obtain ⟨w, hw, hs⟩ := hq
    exact .inr ⟨w.2, h.stored hw hs⟩
  · exact .inl (h.others hq)

/-- Writing keeps all ways and all numbers. -/
theorem beside (h : a.Filled b writes) : a.Beside b (a.Hit writes) := by
  have hdir : ∀ q {e : Entry}, e.isDirectory → (b.at? q = some e ↔ a.at? q = some e) := by
    intro q e hd
    obtain hq | ⟨bytes, hq⟩ := h.at?_eq_or q
    · rw [hq]
    · rw [hq, refilled_directory hd]
  have htarget : ∀ q, (b.at? q).bind Entry.target? = (a.at? q).bind Entry.target? := by
    intro q
    obtain hq | ⟨bytes, hq⟩ := h.at?_eq_or q
    · rw [hq]
    · rw [hq, refilled_target]
  have hnumber : ∀ q, b.number? q = a.number? q := by
    intro q
    obtain hq | ⟨bytes, hq⟩ := h.at?_eq_or q
    · rw [number?, number?, hq]
    · rw [number?, number?, hq, refilled_sharing]
  exact ⟨⟨h.here, h.refusals, fun he hd => ⟨_, (hdir _ hd).2 he, hd⟩, htarget⟩,
    ⟨h.here.symm, h.refusals.symm, fun he hd => ⟨_, (hdir _ hd).1 he, hd⟩,
      fun q => (htarget q).symm⟩,
    hnumber, h.others⟩

/-- What is one file with another that was not written was so before. -/
theorem sameFile_iff (h : a.Filled b writes) (hp : ∀ w ∈ writes, ¬a.OneFile w.1 p) :
    b.SameFile q p ↔ a.SameFile q p := by
  have hstay : b.at? p = a.at? p := h.others fun ⟨w, hw, hs⟩ => hp w hw hs.oneFile.symm
  by_cases hq : a.Hit writes q
  · obtain ⟨w, hw, hs⟩ := hq
    have hn : ¬a.OneFile q p := fun ho => hp w hw (hs.oneFile.symm.trans ho)
    exact iff_of_false (fun hb => hn (h.beside.oneFile_iff.1 hb.oneFile)) fun ha => hn ha.oneFile
  · rw [SameFile, SameFile, h.others hq, hstay]

/-- Writing to another file first. -/
theorem cons {w : Place × ByteArray} (hw : a.Filled b [w]) (h : b.Filled c writes)
    (hn : ∀ v ∈ writes, ¬a.OneFile w.1 v.1) : a.Filled c (w :: writes) := by
  have hsame : ∀ v ∈ writes, ∀ q, b.SameFile q v.1 ↔ a.SameFile q v.1 := by
    intro v hv q
    refine hw.sameFile_iff fun u hu => ?_
    rw [List.mem_singleton.1 hu]
    exact hn v hv
  have hhit : ∀ q, b.Hit writes q ↔ a.Hit writes q := fun q =>
    exists_congr fun v => and_congr_right fun hv => hsame v hv q
  refine ⟨h.here.trans hw.here, h.mask.trans hw.mask, h.now.trans hw.now,
    h.refusals.trans hw.refusals, ?_, ?_⟩
  · intro v q hv hq
    rcases List.mem_cons.1 hv with rfl | hv
    · have hlater : ¬b.Hit writes q := by
        rw [hhit]
        rintro ⟨u, hu, hs⟩
        exact hn u hu (hq.oneFile.symm.trans hs.oneFile)
      rw [h.others hlater, hw.stored (List.mem_singleton_self _) hq]
    · have hfirst : ¬a.Hit [w] q := fun hs =>
        hn v hv ((hit_singleton.1 hs).oneFile.symm.trans hq.oneFile)
      rw [h.stored hv ((hsame v hv q).2 hq), refilled_congr hw.mask hw.now, hw.others hfirst]
  · intro q hq
    rw [hit_cons, not_or] at hq
    rw [h.others fun hs => hq.2 ((hhit q).1 hs), hw.others fun hs => hq.1 (hit_singleton.1 hs)]

/-- The same writes make the same tree, in whatever order. -/
theorem alike {writes' : List (Place × ByteArray)} (ha : t.Filled a writes)
    (hb : t.Filled b writes') (h : ∀ w, w ∈ writes ↔ w ∈ writes') : a.Alike b := by
  refine ⟨ha.here.trans hb.here.symm, ha.mask.trans hb.mask.symm, ha.now.trans hb.now.symm,
    ha.refusals.trans hb.refusals.symm, ?_⟩
  intro q
  by_cases hq : t.Hit writes q
  · obtain ⟨w, hw, hs⟩ := hq
    rw [ha.stored hw hs, hb.stored ((h w).1 hw) hs]
  · rw [ha.others hq, hb.others fun ⟨w, hw, hs⟩ => hq ⟨w, (h w).2 hw, hs⟩]

/-- Where no file was written, the program is kept from writing as before. -/
theorem writeRefusal?_eq (h : a.Filled b writes) (hat : b.at? p = a.at? p) :
    b.writeRefusal? p = a.writeRefusal? p := by
  simp only [writeRefusal?, hat, h.beside.ways.refusal?_eq]

/-- Where nothing kept the program from writing, nothing does when files have been written. -/
theorem writeRefusal?_eq_none (h : a.Filled b writes) (hr : a.writeRefusal? p = none) :
    b.writeRefusal? p = none := by
  have hsome : (a.at? p).isSome → (b.at? p).isSome := fun ha => by
    obtain hq | ⟨bytes, hq⟩ := h.at?_eq_or p
    · rwa [hq]
    · obtain ⟨e, he⟩ := Option.isSome_iff_exists.1 ha
      rw [hq, he, refilled]
      split <;> rfl
  simp only [writeRefusal?, h.beside.ways.refusal?_eq] at hr ⊢
  by_cases ha : (a.at? p).isSome = true
  · rw [if_pos ha] at hr
    rwa [if_pos (hsome ha)]
  · rw [if_neg ha, Option.or_eq_none_iff] at hr
    split
    · exact hr.2
    · exact Option.or_eq_none_iff.2 hr

/-- What was written can be written once more, and then everything stays. -/
theorem again {w : Place × ByteArray} (h : a.Filled b writes) (hw : w ∈ writes)
    (ht : takes w.2 (a.at? w.1) = true) :
    takes w.2 (b.at? w.1) = true ∧ ∀ c, b.Filled c [w] → c.Alike b := by
  have hat : b.at? w.1 = a.refilled w.2 (a.at? w.1) := h.stored hw (.inl rfl)
  refine ⟨by rw [hat, takes_refilled, ht], fun c hc =>
    ⟨hc.here, hc.mask, hc.now, hc.refusals, fun q => ?_⟩⟩
  by_cases hq : b.SameFile q w.1
  · rw [hc.stored (List.mem_singleton_self w) hq, hq.at?_eq, hat,
      refilled_congr h.mask h.now, refilled_refilled]
  · exact hc.others fun hs => hq (hit_singleton.1 hs)

end Filled

/-- A text is written by filling the place that its path leads to. -/
theorem writeText_eq_fill (hp : t.placeToWrite path = .ok p) (text : Text) :
    t.writeText path text = t.fill p false (bytesOfText text) := by
  rw [writeText, writeBytes, hp, ok_bind]

end

end Weave.FileTree
